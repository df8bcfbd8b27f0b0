import PathTemplate.Check
import PathTemplate.Proofs.Building
import PathTemplate.Proofs.PlainMatch
import PathTemplate.Proofs.RoundTrip

/-!
# Taking a path apart and building it again

A path that matches a template with distinct names and ordinary literals is made of the literals and
the pieces that the names stand for, so building from those pieces gives the path back.

## Main statements

* `Value.ofNamed_of_nodup`: the dictionary of distinct names has an entry for each.
* `exists_splits`, `exists_pieces`: what the names stand for in a path that matches.
* `build_texts`: the path that texts for the names make.
* `extract_build`: what is extracted from a path builds it.
-/

namespace PathTemplate

open Regex (skeletonBody)

/-! ## Dictionaries of names -/

def Value.entry (pair : String × Value) : Value × Value :=
  (.text pair.1, pair.2)

theorem Value.ofNamed_of_nodup {pairs : List (String × Value)} (h : (pairs.map Prod.fst).Nodup) :
    Value.ofNamed pairs = .dict (pairs.map entry) := by
  have hsame : ∀ a b : String, (Value.text a == Value.text b) = (a == b) := by
    intro a b
    simp only [BEq.beq, Value.same]
  have hentries : Bindings.ofList (pairs.map entry) = (Bindings.ofList pairs).map entry :=
    Bindings.ofList_map (f := Value.text) fun a _ b _ => hsame a b
  rw [Bindings.ofList_of_nodup h] at hentries
  exact congrArg Value.dict hentries

/-! ## The pieces of a path -/

section

variable {text : String} {t : Template}

/-- A matching path is split by what its names stand for. -/
theorem exists_splits (ht : Template.compile? text = .ok t) (hstar : '*' ∉ text.toList)
    (hnodup : t.skeleton.names.Nodup)
    (hliterals : ∀ literal ∈ t.skeleton.segments, ∀ c ∈ literal, Literal.isSpecial c = false)
    {path : String} (haccepts : t.accepts path = true) :
    ∃ pieces : List String, t.skeleton.Splits path.toList (pieces.map String.toList) ∧
      t.extract path = .ok (((t.skeleton.names.map String.ofList).zip pieces).map
        fun (name, piece) => (name, some piece)) := by
  obtain ⟨htext, hskeleton, -⟩ := Template.compile?_eq_ok ht
  by_cases hholes : t.skeleton.holes = []
  · have hexpression := (Template.expression_eq_none_iff ht).2 hholes
    have hpath : path = t.text := by simpa [Template.accepts, hexpression] using haccepts
    refine ⟨[], ⟨by rw [hholes]; exact .nil, ?_⟩, ?_⟩
    · have hweave := Skeleton.weave_token_scan text.toList
      rw [← hskeleton, Skeleton.weave_eq_thread, hholes] at hweave
      rw [hpath, htext]
      exact hweave
    · simp [Template.extract, Template.extract?, hexpression, hpath]
  · obtain ⟨hstart, hcolon⟩ := Template.head?_of_compile? ht
    rw [hskeleton] at hholes hliterals hnodup
    have hdenotes := denotes_self fun literal hl c hc =>
      ⟨hliterals literal hl c hc, fun h => hcolon (Skeleton.colon_mem_iff.2 ⟨literal, hl, h ▸ hc⟩)⟩
    obtain rfl := Except.ok.inj (ht.symm.trans (compile?_of_denotes hstart hholes hdenotes))
    obtain ⟨splits, hs⟩ := (accepts_iff_splits rfl path).1 haccepts
    obtain ⟨pieces, hfirst⟩ := exists_splitsFirst hs
    have hnamed : ∀ hole ∈ (Skeleton.scan text.toList).holes, hole.1 = .param hole.1.name :=
      fun hole hm => (Skeleton.eq_param_of_mem_scan hstar hm).1
    refine ⟨pieces.map String.ofList, ?_, ?_⟩
    · simpa [Function.comp_def] using hfirst.1
    · rw [extract_of_splitsFirst rfl hfirst,
        bindCaptures_of_nodup hnamed hnodup hfirst.1.1.length_eq.symm, Skeleton.names, List.map_map]
      rfl

theorem exists_pieces (ht : Template.compile? text = .ok t) (hstar : '*' ∉ text.toList)
    (hnodup : t.skeleton.names.Nodup)
    (hliterals : ∀ literal ∈ t.skeleton.segments, ∀ c ∈ literal, Literal.isSpecial c = false)
    {path : String} (haccepts : t.accepts path = true) :
    ∃ pieces : List String, pieces.length = t.skeleton.holes.length ∧
      t.skeleton.thread (pieces.map String.toList) = path.toList ∧
      t.extract path = .ok (((t.skeleton.names.map String.ofList).zip pieces).map
        fun (name, piece) => (name, some piece)) := by
  obtain ⟨pieces, hsplits, hextract⟩ := exists_splits ht hstar hnodup hliterals haccepts
  exact ⟨pieces, by simpa using hsplits.1.length_eq.symm, hsplits.2, hextract⟩

end

/-! ## The path of pieces -/

theorem valueOf_texts {names texts : List String} (hnodup : names.Nodup)
    (hlength : names.length ≤ texts.length) :
    Template.valueOf ((names.zip texts).map fun (name, text) => (name, some text)) =
      .dict ((names.zip texts).map fun (name, text) => (.text name, .text text)) := by
  have hkeys : (((names.zip texts).map fun (name, text) => (name, Value.text text)).map
      Prod.fst).Nodup := by
    rw [List.map_map]
    exact (List.map_fst_zip hlength).symm ▸ hnodup
  calc
    _ = Value.ofNamed ((names.zip texts).map fun (name, text) => (name, .text text)) := by
      rw [Template.valueOf, List.map_map]
      rfl
    _ = _ := by
      rw [Value.ofNamed_of_nodup hkeys, List.map_map]
      rfl

/-- Texts for the distinct names of a template without wildcards make the path with those texts
between the literals. -/
theorem build_texts {text : String} {t : Template} (ht : Template.compile? text = .ok t)
    (hstar : '*' ∉ text.toList) (hnodup : t.skeleton.names.Nodup) {texts : List String}
    (hlength : texts.length = t.skeleton.holes.length) :
    (t.build ⟨[.dict (((t.skeleton.names.map String.ofList).zip texts).map
        fun (name, text) => (.text name, .text text))], []⟩).result =
      .ok (String.ofList (t.skeleton.thread (texts.map String.toList))) := by
  obtain ⟨htext, hskeleton, -⟩ := Template.compile?_eq_ok ht
  rw [hskeleton] at hnodup hlength ⊢
  let named := ((Skeleton.scan text.toList).names.map String.ofList).zip texts
  let pairs := named.map fun (name, text) => (name, Value.text text)
  have hentries : namedEntries (named.map fun (name, text) => (.text name, .text text)) = pairs := by
    rw [namedEntries, List.map_map]
    rfl
  have hkeys : pairs.map Prod.fst = (Skeleton.scan text.toList).names.map String.ofList := by
    rw [List.map_map]
    exact List.map_fst_zip (by simp [Skeleton.names, hlength])
  have htexts : (pairs.map fun pair => (pair.1, pair.2.toText)) = named := by
    rw [List.map_map]
    exact List.map_id _
  have hnames : ∀ entry ∈ named.map fun (name, text) => (Value.text name, Value.text text),
      entry.1.isWritable = true :=
    List.forall_mem_map.2 fun _ _ => Value.isWritable_text _
  have hvalues : ∀ pair ∈ pairs, pair.2.isWritable = true :=
    List.forall_mem_map.2 fun _ _ => Value.isWritable_text _
  rw [result_build_eq_ok_iff ⟨.dictionary _, hnames, by simp⟩, Supplied.pairsOf, hentries,
    List.append_nil]
  refine ⟨⟨?_, ?_⟩, hvalues, ?_⟩
  · simpa [Template.hasWildcard, htext] using hstar
  · rw [hkeys, Template.parameters, hskeleton, Skeleton.parameters_scan hstar hnodup]
  · rw [← String.toList_inj, String.toList_ofList, htext, toList_fillTexts hstar,
      Skeleton.weave_eq_thread, map_filled_of_perm hnodup hlength (.of_eq htexts)]

/-- What is extracted from a path that matches a template without wildcards, with distinct names and
with ordinary literals, builds that path again. -/
theorem extract_build {text : String} {t : Template} (ht : Template.compile? text = .ok t)
    (hstar : '*' ∉ text.toList) (hnodup : t.skeleton.names.Nodup)
    (hliterals : ∀ literal ∈ t.skeleton.segments, ∀ c ∈ literal, Literal.isSpecial c = false)
    {path : String} (haccepts : t.accepts path = true) :
    ∃ bindings, t.extract path = .ok bindings ∧
      (t.build ⟨[Template.valueOf bindings], []⟩).result = .ok path := by
  obtain ⟨pieces, hlength, hthread, hextract⟩ := exists_pieces ht hstar hnodup hliterals haccepts
  have hnames : (t.skeleton.names.map String.ofList).Nodup :=
    hnodup.map fun _ _ h => String.ofList_injective h
  refine ⟨_, hextract, ?_⟩
  rw [valueOf_texts hnames (by simp [Skeleton.names, hlength]), build_texts ht hstar hnodup hlength,
    hthread, String.ofList_toList]

/-- A value that looks like a hole, and one that holds the literal in front of it. -/
theorem extract_build_token :
    ∃ t, Template.compile? "/{a}-{b}" = .ok t ∧ t.accepts "/{b}--/" = true ∧
      ∃ bindings, t.extract "/{b}--/" = .ok bindings ∧
        (t.build ⟨[Template.valueOf bindings], []⟩).result = .ok "/{b}--/" := by
  have hfacts : (Template.compile? "/{a}-{b}").toOption.map (fun t =>
      (t.accepts "/{b}--/", t.skeleton.names, t.skeleton.segments)) =
        some (true, [['a'], ['b']], [['/'], ['-'], []]) := by
    decide +kernel
  obtain ⟨t, ht, hfacts⟩ := Regex.map_toOption_eq_some.1 hfacts
  obtain ⟨haccepts, hrest⟩ := Prod.mk.inj hfacts
  obtain ⟨hnames, hsegments⟩ := Prod.mk.inj hrest
  refine ⟨t, ht, haccepts, extract_build ht (by decide) (by rw [hnames]; decide) ?_ haccepts⟩
  rw [hsegments]
  simp [Literal.isSpecial]

end PathTemplate
