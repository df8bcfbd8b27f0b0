import PathTemplate.Proofs.Filling
import PathTemplate.Proofs.PlainMatch

/-!
# Building a path and taking it apart

A path that was built from values matches its template. Its names stand for the texts of those
values again, unless the literal behind a hole occurs early, so that the piece for the hole is cut
off in front of its end.

## Main definitions

* `OccursEarly`: a literal occurs behind a proper beginning of the piece in front of it.

## Main statements

* `holesSplitFirst_threadHoles_iff`: when pieces are the least split of the text they make.
* `build_extract`: when the names of a path that was built stand for the texts it was built from.
-/

namespace PathTemplate

open Regex (skeletonBody)

/-- A literal occurs behind a proper beginning of the piece in front of it. -/
def OccursEarly (piece literal : List Char) : Prop :=
  ∃ k, 1 ≤ k ∧ k < piece.length ∧ literal <+: (piece ++ literal).drop k

/-- Where the literal occurs early, the piece can be cut off in front of its end. -/
theorem OccursEarly.exists_shorter {piece literal : List Char} (h : OccursEarly piece literal) :
    ∃ shorter extra, shorter ≠ [] ∧ shorter.length < piece.length ∧
      shorter <+: piece ∧ piece ++ literal = shorter ++ literal ++ extra := by
  obtain ⟨k, hk, hlt, extra, he⟩ := h
  refine ⟨piece.take k, extra, ?_, ?_, List.take_prefix .., ?_⟩
  · intro hnil
    have hlength := congrArg List.length hnil
    rw [List.length_take, List.length_nil] at hlength
    omega
  · rw [List.length_take]
    omega
  · rw [List.append_assoc, he, List.drop_append_of_le_length (Nat.le_of_lt hlt),
      ← List.append_assoc, List.take_append_drop]

theorem occursEarly_of_shorter {piece literal rest shorter rest' : List Char}
    (h : piece ++ literal ++ rest = shorter ++ literal ++ rest') (hne : shorter ≠ [])
    (hlt : shorter.length < piece.length) : OccursEarly piece literal := by
  refine ⟨shorter.length, List.length_pos_iff.2 hne, hlt, ?_⟩
  have hdrop : (piece ++ literal).drop shorter.length ++ rest = literal ++ rest' := by
    rw [← List.drop_append_of_le_length (by rw [List.length_append]; omega), h, List.append_assoc,
      List.drop_left]
  refine List.prefix_of_prefix_length_le ⟨rest', hdrop.symm⟩ (List.prefix_append ..) ?_
  rw [List.length_drop, List.length_append]
  omega

namespace Skeleton

/-- The first of several pieces is as short as can be if its literal does not occur early. -/
theorem holesSplitFirst_cons_threadHoles_iff {hole next : Hole} {literal behind piece : List Char}
    {holes : List (Hole × List Char)} {pieces : List (List Char)}
    (hnamed : hole = .param hole.name) (hline : '\n' ∉ literal) (hp : hole.Admits piece)
    (hps : List.Forall₂ (fun hole piece => hole.1.Admits piece) ((next, behind) :: holes) pieces) :
    HolesSplitFirst ((hole, literal) :: (next, behind) :: holes)
        (threadHoles ((hole, literal) :: (next, behind) :: holes) (piece :: pieces))
        (piece :: pieces) ↔
      ¬OccursEarly piece literal ∧ HolesSplitFirst ((next, behind) :: holes)
        (threadHoles ((next, behind) :: holes) pieces) pieces := by
  rw [threadHoles, holesSplitFirst_cons_iff]
  constructor
  · rintro ⟨-, ⟨rest, hrest, hfirst⟩, hshort⟩
    obtain ⟨-, rfl⟩ := append_literal_inj hrest rfl
    refine ⟨fun hearly => ?_, hfirst⟩
    -- The next piece also takes what the shorter piece leaves over.
    obtain ⟨shorter, extra, hne, hlt, hpre, hcut⟩ := hearly.exists_shorter
    obtain ⟨other, others, ho, hos, rfl⟩ := List.forall₂_cons_left_iff.1 hps
    rw [hnamed] at hp
    have hextra : '\n' ∉ extra := by
      intro hm
      have hmem : '\n' ∈ piece ++ literal := hcut ▸ List.mem_append_right _ hm
      exact (List.mem_append.1 hmem).elim hp.1 hline
    have hadmits : next.Admits (extra ++ other) := by
      obtain ⟨hother, hleast⟩ := Hole.admits_iff.1 ho
      rw [Hole.admits_iff, List.mem_append, List.length_append]
      exact ⟨not_or.2 ⟨hextra, hother⟩, Nat.le_add_left_of_le hleast⟩
    refine hshort shorter (extra ++ threadHoles ((next, behind) :: holes) (other :: others))
      ((extra ++ other) :: others) hlt ?_ ?_ ⟨.cons hadmits hos, ?_⟩
    · rw [hnamed]
      exact ⟨fun hm => hp.1 (hpre.subset hm), hne⟩
    · rw [hcut, List.append_assoc]
    · simp [threadHoles]
  · rintro ⟨hlate, hfirst⟩
    refine ⟨hp, ⟨_, rfl, hfirst⟩, fun shorter rest others hlt ha hrest _ => ?_⟩
    rw [hnamed] at ha
    exact hlate (occursEarly_of_shorter hrest ha.2 hlt)

theorem holesSplitFirst_singleton {hole : Hole} {literal piece : List Char} (h : hole.Admits piece) :
    HolesSplitFirst [(hole, literal)] (threadHoles [(hole, literal)] [piece]) [piece] := by
  rw [holesSplitFirst_cons_iff]
  refine ⟨h, ⟨[], rfl, holesSplitFirst_nil_iff.2 ⟨rfl, rfl⟩⟩, ?_⟩
  intro shorter rest others hlt _ hrest hs
  obtain ⟨-, rfl⟩ := holesSplit_nil_iff.1 hs
  have hlength := congrArg List.length hrest
  simp only [threadHoles, List.append_nil, List.length_append] at hlength
  omega

/-- Pieces for named holes are the least split of the text they make if and only if no literal but
the last occurs early. -/
theorem holesSplitFirst_threadHoles_iff {holes : List (Hole × List Char)}
    {pieces : List (List Char)} (hnamed : ∀ hole ∈ holes, hole.1 = .param hole.1.name)
    (hline : ∀ hole ∈ holes, '\n' ∉ hole.2)
    (hadmits : List.Forall₂ (fun hole piece => hole.1.Admits piece) holes pieces) :
    HolesSplitFirst holes (threadHoles holes pieces) pieces ↔
      ∀ pair ∈ (pieces.zip (holes.map (·.2))).dropLast, ¬OccursEarly pair.1 pair.2 := by
  induction hadmits with
  | nil => simp [holesSplitFirst_nil_iff, threadHoles]
  | @cons hole piece holes pieces hp hps ih =>
    obtain ⟨hole, literal⟩ := hole
    cases hps with
    | nil => simpa using holesSplitFirst_singleton hp
    | @cons next other holes pieces ho hos =>
      obtain ⟨next, behind⟩ := next
      rw [holesSplitFirst_cons_threadHoles_iff (hnamed _ (List.mem_cons_self ..))
        (hline _ (List.mem_cons_self ..)) hp (.cons ho hos),
        ih (fun hole hm => hnamed hole (List.mem_cons_of_mem _ hm))
          fun hole hm => hline hole (List.mem_cons_of_mem _ hm)]
      simp only [List.map_cons, List.zip_cons_cons, List.dropLast_cons_cons, List.forall_mem_cons]

end Skeleton

/-- A text with named holes and ordinary literals is the template that its own skeleton denotes. -/
theorem denotes_self {text : List Char}
    (h : ∀ literal ∈ (Skeleton.scan text).segments, ∀ c ∈ literal,
      Literal.isSpecial c = false ∧ c ≠ ':') :
    (Skeleton.scan text).Denotes (Skeleton.scan text) := by
  have hself : ∀ literal ∈ (Skeleton.scan text).segments,
      Literal.denotes? literal = some literal := by
    intro literal hl
    refine Literal.denotes?_self fun c hc => ⟨(h literal hl c hc).1, ?_, (h literal hl c hc).2⟩
    rintro rfl
    exact Skeleton.star_not_mem_of_mem_scan hl hc
  refine ⟨hself _ (List.mem_cons_self ..), List.forall₂_same.2 fun hole hm => ⟨rfl, ?_⟩⟩
  exact hself _ (List.mem_cons_of_mem _ (List.mem_map_of_mem hm))

theorem forall_mem_dropLast_zip_iff {α β : Type} {as : List α} {bs : List β}
    (h : as.length = bs.length) {P : α → β → Prop} :
    (∀ pair ∈ (as.zip bs).dropLast, P pair.1 pair.2) ↔
      ∀ i a b, i + 1 < as.length → as[i]? = some a → bs[i]? = some b → P a b := by
  constructor
  · intro hall i a b hi ha hb
    refine hall (a, b) (List.mem_iff_getElem?.2 ⟨i, ?_⟩)
    rw [List.getElem?_dropLast, if_pos (by rw [List.length_zip]; omega),
      List.getElem?_zip_eq_some]
    exact ⟨ha, hb⟩
  · intro hall pair hm
    obtain ⟨i, hi⟩ := List.mem_iff_getElem?.1 hm
    rw [List.getElem?_dropLast] at hi
    split at hi
    · next hlt =>
      rw [List.length_zip] at hlt
      obtain ⟨ha, hb⟩ := List.getElem?_zip_eq_some.1 hi
      exact hall i _ _ (by omega) ha hb
    · simp at hi

/-- Names of one number are paired with different texts in different ways. -/
theorem zip_texts_inj {names values others : List String} (h : names.length = values.length)
    (h' : names.length = others.length)
    (heq : ((names.zip values).map fun (name, text) => (name, some text)) =
      (names.zip others).map fun (name, text) => (name, some text)) : values = others := by
  have hvalues : ∀ xs : List String, names.length = xs.length →
      ((names.zip xs).map fun (name, text) => (name, some text)).map Prod.snd = xs.map some := by
    intro xs hx
    calc
      _ = ((names.zip xs).map Prod.snd).map some := by
        rw [List.map_map, List.map_map]
        rfl
      _ = xs.map some := by
        rw [List.map_snd_zip (Nat.le_of_eq hx.symm)]
  have hsome := congrArg (List.map Prod.snd) heq
  rw [hvalues values h, hvalues others h'] at hsome
  exact List.map_injective_iff.2 (fun _ _ => Option.some.inj) hsome

section

variable {t : Template} {source : List Char}

theorem extract_eq_iff_splitsFirst
    (hexpression : t.expression = some ⟨source, t.skeleton.holes.length, skeletonBody t.skeleton⟩)
    (hnamed : ∀ hole ∈ t.skeleton.holes, hole.1 = .param hole.1.name)
    (hnodup : t.skeleton.names.Nodup) (hparameters : t.skeleton.parameters = t.skeleton.names)
    {path : String} {texts : List String}
    (hsplits : t.skeleton.Splits path.toList (texts.map String.toList)) :
    t.extract path = .ok ((t.parameters.zip texts).map fun (name, text) => (name, some text)) ↔
      t.skeleton.SplitsFirst path.toList (texts.map String.toList) := by
  have hnames : t.parameters = t.skeleton.holes.map fun hole => String.ofList hole.1.name := by
    rw [Template.parameters, hparameters, Skeleton.names, List.map_map]
    rfl
  have htexts : t.skeleton.holes.length = texts.length := by
    simpa using hsplits.1.length_eq
  obtain ⟨least, hfirst⟩ := exists_splitsFirst hsplits
  have hleast := hfirst.1.1.length_eq
  rw [extract_of_splitsFirst hexpression hfirst, hnames,
    bindCaptures_of_nodup hnamed hnodup hleast.symm, Except.ok.injEq]
  constructor
  · intro heq
    have hsame := zip_texts_inj (by simp [hleast]) (by simp [htexts]) heq
    have hback : texts.map String.toList = least := by
      rw [← hsame, List.map_map]
      simp [Function.comp_def]
    rwa [hback]
  · intro h
    rw [hfirst.unique h, List.map_map]
    simp [Function.comp_def]

theorem forall₂_admits {holes : List (Hole × List Char)}
    (hnamed : ∀ hole ∈ holes, hole.1 = .param hole.1.name) {texts : List String}
    (hlength : texts.length = holes.length)
    (htexts : ∀ piece ∈ texts, piece.toList ≠ [] ∧ '\n' ∉ piece.toList) :
    List.Forall₂ (fun hole piece => hole.1.Admits piece) holes (texts.map String.toList) := by
  rw [List.forall₂_iff_zip]
  refine ⟨by simp [hlength], fun {hole piece} hm => ?_⟩
  obtain ⟨hhole, hpiece⟩ := List.of_mem_zip hm
  obtain ⟨text, htext, rfl⟩ := List.mem_map.1 hpiece
  rw [hnamed _ hhole]
  exact ⟨(htexts _ htext).2, (htexts _ htext).1⟩

theorem result_build {args : Supplied} {pairs : List (String × Value)}
    (hargs : args.pairs? = .ok pairs) (hw : t.hasWildcard = false)
    (hwritable : ∀ pair ∈ pairs, pair.2.isWritable = true)
    (hpairs : (pairs.map Prod.fst).Perm t.parameters) :
    (t.build args).result = .ok (fillTexts t.text "\x7b" "\x7d" pairs) := by
  rw [Template.build, hargs]
  dsimp only
  rw [Template.buildFrom, if_pos (fits_of_perm hw hpairs), fill_eq_some_iff.2 ⟨hwritable, rfl⟩]
  rfl

theorem forall_isWritable_of_perm {pairs : List (String × Value)} {named : List (String × String)}
    (h : (pairs.map fun (name, value) => (name, value.toText?)).Perm
      (named.map fun (name, text) => (name, some text))) :
    ∀ pair ∈ pairs, pair.2.isWritable = true := by
  intro pair hm
  obtain ⟨written, -, hpair⟩ := List.mem_map.1 (h.subset (List.mem_map_of_mem hm))
  exact (Value.toText?_eq_some_iff.1 (congrArg Prod.snd hpair).symm).1

/-- Values that are written as texts are these texts in words. -/
theorem map_toText_perm {pairs : List (String × Value)} {named : List (String × String)}
    (h : (pairs.map fun (name, value) => (name, value.toText?)).Perm
      (named.map fun (name, text) => (name, some text))) :
    (pairs.map fun (name, value) => (name, value.toText)).Perm named := by
  have hperm := h.map (Prod.map id (Option.getD · ""))
  have htexts :
      (pairs.map fun pair => (pair.1, pair.2.toText?)).map (Prod.map id (Option.getD · "")) =
        pairs.map fun pair => (pair.1, pair.2.toText) := by
    rw [List.map_map]
    refine List.map_congr_left fun pair hm => ?_
    have hwritable := forall_isWritable_of_perm h pair hm
    simp [Value.toText?, hwritable]
  rwa [htexts, List.map_map, show Prod.map id (Option.getD · "") ∘
    (fun pair : String × String => (pair.1, some pair.2)) = id from rfl, List.map_id] at hperm

end

/-- Values with texts that are not empty and hold no newline, one for each of the distinct names of
a template without wildcards whose literals are ordinary: they make a path, the path matches, and
its names stand for the texts again if and only if no literal but the last occurs early. -/
theorem build_extract (text : String) (args : Supplied) (pairs : List (String × Value))
    (texts : List String) (hstart : text.toList.head? = some '/') (hstar : '*' ∉ text.toList)
    (hholes : (Skeleton.scan text.toList).holes ≠ [])
    (hnodup : (Skeleton.scan text.toList).names.Nodup)
    (hliterals : ∀ literal ∈ (Skeleton.scan text.toList).segments, ∀ c ∈ literal,
      Literal.isSpecial c = false ∧ c ≠ ':' ∧ c ≠ '\n')
    (hargs : args.pairs? = .ok pairs)
    (hlength : texts.length = (Skeleton.scan text.toList).holes.length)
    (hpairs : (pairs.map fun (name, value) => (name, value.toText?)).Perm
      ((((Skeleton.scan text.toList).names.map String.ofList).zip texts).map
        fun (name, piece) => (name, some piece)))
    (htexts : ∀ piece ∈ texts, piece.toList ≠ [] ∧ '\n' ∉ piece.toList) :
    ∃ t path, Template.compile? text = .ok t ∧ (t.build args).result = .ok path ∧
      t.accepts path = true ∧
      (t.extract path =
          .ok ((t.parameters.zip texts).map fun (name, piece) => (name, some piece)) ↔
        ∀ i piece literal, i + 1 < texts.length → texts[i]? = some piece →
          (Skeleton.scan text.toList).segments[i + 1]? = some literal →
          ¬OccursEarly piece.toList literal) := by
  have hdenotes := denotes_self fun literal hl c hc =>
    ⟨(hliterals literal hl c hc).1, (hliterals literal hl c hc).2.1⟩
  have hnamed : ∀ hole ∈ (Skeleton.scan text.toList).holes, hole.1 = .param hole.1.name :=
    fun hole hm => (Skeleton.eq_param_of_mem_scan hstar hm).1
  have hparameters := Skeleton.parameters_scan hstar hnodup
  have hcompile := compile?_of_denotes (.inl hstart) hholes hdenotes
  have hwritable := forall_isWritable_of_perm hpairs
  replace hpairs := map_toText_perm hpairs
  have hfill := toList_fillTexts hstar pairs
  rw [Skeleton.weave_eq_thread, map_filled_of_perm hnodup hlength hpairs] at hfill
  have hkeys : (pairs.map Prod.fst).Perm ((Skeleton.scan text.toList).parameters.map
      String.ofList) := by
    have hperm := hpairs.map Prod.fst
    rwa [List.map_map, List.map_fst_zip (by simp [Skeleton.names, hlength]), ← hparameters]
      at hperm
  generalize Skeleton.scan text.toList = s at *
  have hwildcard (e : Option Regex) : (Template.mk text s e).hasWildcard = false := by
    simpa [Template.hasWildcard] using hstar
  have hadmits := forall₂_admits hnamed hlength htexts
  have hsplits : s.Splits (fillTexts text "\x7b" "\x7d" pairs).toList (texts.map String.toList) :=
    ⟨hadmits, hfill.symm⟩
  refine ⟨_, _, hcompile, result_build hargs (hwildcard _) hwritable hkeys,
    (accepts_iff_splits rfl _).2 ⟨_, hsplits⟩, ?_⟩
  have hline : ∀ hole ∈ s.holes, '\n' ∉ hole.2 := by
    intro hole hm hc
    exact (hliterals _ (List.mem_cons_of_mem _ (List.mem_map_of_mem hm)) _ hc).2.2 rfl
  rw [extract_eq_iff_splitsFirst rfl hnamed hnodup hparameters hsplits, hfill, Skeleton.thread,
    Skeleton.splitsFirst_lead_append_iff,
    Skeleton.holesSplitFirst_threadHoles_iff hnamed hline hadmits,
    forall_mem_dropLast_zip_iff (P := fun piece literal => ¬OccursEarly piece literal)
      (by simp [hlength])]
  constructor
  · intro hlate i piece literal hi hp hl
    exact hlate i piece.toList literal (by simpa using hi) (by simp [hp]) hl
  · intro hlate i piece literal hi hp hl
    rw [List.getElem?_map] at hp
    obtain ⟨text, ht, rfl⟩ := Option.map_eq_some_iff.1 hp
    exact hlate i text literal (by simpa using hi) ht hl

/-- A value that looks like a hole comes back as it is. -/
theorem build_extract_braces :
    ∃ t path, Template.compile? "/{a}-{b}" = .ok t ∧
      (t.build ⟨[.dict [(.text "b", .int 5), (.text "a", .text "{b}")]], []⟩).result = .ok path ∧
      t.accepts path = true ∧
      t.extract path = .ok ((t.parameters.zip ["{b}", "5"]).map
        fun (name, piece) => (name, some piece)) := by
  have hall : ((Skeleton.scan "/{a}-{b}".toList).segments.all fun literal => literal.all fun c =>
      !Literal.isSpecial c && c != ':' && c != '\n') = true := by
    decide
  have hliterals : ∀ literal ∈ (Skeleton.scan "/{a}-{b}".toList).segments, ∀ c ∈ literal,
      Literal.isSpecial c = false ∧ c ≠ ':' ∧ c ≠ '\n' := by
    intro literal hl c hc
    have hplain := List.all_eq_true.1 (List.all_eq_true.1 hall literal hl) c hc
    simpa [and_assoc] using hplain
  obtain ⟨t, path, hcompile, hbuild, haccepts, hextract⟩ := build_extract "/{a}-{b}"
    ⟨[.dict [(.text "b", .int 5), (.text "a", .text "{b}")]], []⟩
    [("b", .int 5), ("a", .text "{b}")] ["{b}", "5"] (by decide) (by decide) (by decide)
    (by decide) hliterals rfl rfl (by decide) (by decide)
  refine ⟨t, path, hcompile, hbuild, haccepts, hextract.2 ?_⟩
  intro i piece literal hi hp hl ⟨k, _, hk, hearly⟩
  obtain rfl : i = 0 := Nat.lt_one_iff.1 (Nat.lt_of_succ_lt_succ hi)
  obtain rfl := Option.some.inj hp
  have hliteral : ['-'] = literal := Option.some.inj hl
  subst hliteral
  have hlength : k < 3 := hk
  have hk : k = 1 ∨ k = 2 := by omega
  rcases hk with rfl | rfl <;> exact absurd hearly (by decide)

end PathTemplate
