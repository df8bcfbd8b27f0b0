import Mathlib.Data.List.Perm.Subperm
import PathTemplate.Proofs.Acceptance
import PathTemplate.Proofs.Filling

/-!
# When a path can be built

Names and values come as pairs or as the entries of a lone dictionary, and as named values besides.
They make a path if and only if they are a value for each of the names of a template without
wildcards, and none is supplied twice. The path then has the literals of the template with the texts
of the values in between.

## Main definitions

* `Supplied.Gives`: the entries that well-formed arguments give.
* `Supplied.pairsOf`: the names and values of well-formed arguments.

## Main statements

* `Supplied.pairs?_eq_ok_iff`: the arguments that are not refused are the well-formed ones.
* `Template.fits_iff`: the names that fit are the names of the template in some order.
* `result_build_eq_ok_iff`: when a path is built.
* `toList_of_build`: the path that is built.
* `build_ok_iff`: both, and how a build fails otherwise.
* `fitting_names_without_path`: two failures that are not for the names.
-/

namespace PathTemplate

open Regex (bind_eq_ok map_eq_ok)

/-! ## Well-formed arguments -/

/-- Values in order that give entries: pairs, or a lone dictionary. -/
inductive GivesEntries : List Value → List (Value × Value) → Prop where
  | pairs (entries : List (Value × Value)) :
    GivesEntries (entries.map fun (name, value) => .tuple [name, value]) entries
  | dictionary (entries : List (Value × Value)) : GivesEntries [.dict entries] entries

def namedEntries (entries : List (Value × Value)) : List (String × Value) :=
  entries.map fun (name, value) => (name.toText, value)

namespace Supplied

/-- Well-formed arguments: values in order that give entries under names that can be written, and
values with names that are not taken. -/
structure Gives (args : Supplied) (entries : List (Value × Value)) : Prop where
  positional : GivesEntries args.positional entries
  keys : ∀ entry ∈ entries, entry.1.isWritable = true
  named : ∀ pair ∈ args.named, pair.1 ≠ receiver

/-- The names and values of arguments that give entries, the named ones last. -/
def pairsOf (args : Supplied) (entries : List (Value × Value)) : List (String × Value) :=
  namedEntries entries ++ args.named

end Supplied

theorem namedEntry_eq_ok_iff {entry : Value × Value} {pair : String × Value} :
    namedEntry entry = .ok pair ↔
      entry.1.isWritable = true ∧ pair = (entry.1.toText, entry.2) := by
  rw [namedEntry]
  split
  · next h => simp [h, eq_comm]
  · next h => simp [h]

theorem Value.pair?_eq_some_iff {v : Value} {entry : Value × Value} :
    v.pair? = some entry ↔ v = .tuple [entry.1, entry.2] := by
  constructor
  · intro h
    unfold Value.pair? at h
    split at h
    · obtain rfl := Option.some.inj h
      rfl
    · simp at h
  · rintro rfl
    rfl

theorem namedPair_eq_ok_iff {value : Value} {pair : String × Value} :
    namedPair value = .ok pair ↔
      ∃ entry : Value × Value, value = .tuple [entry.1, entry.2] ∧ namedEntry entry = .ok pair := by
  simp only [← Value.pair?_eq_some_iff]
  rw [namedPair]
  cases value.pair? <;> simp

theorem mapM_namedEntry_eq_ok_iff {entries : List (Value × Value)}
    {pairs : List (String × Value)} :
    entries.mapM namedEntry = .ok pairs ↔
      (∀ entry ∈ entries, entry.1.isWritable = true) ∧ pairs = namedEntries entries := by
  induction entries generalizing pairs with
  | nil =>
    constructor
    · intro h
      exact ⟨fun _ hm => absurd hm List.not_mem_nil, (Except.ok.inj h).symm⟩
    · rintro ⟨-, rfl⟩
      rfl
  | cons entry entries ih =>
    rw [List.mapM_cons, List.forall_mem_cons]
    constructor
    · intro h
      obtain ⟨pair, hpair, hrest⟩ := bind_eq_ok.1 h
      obtain ⟨rest, hentries, hpairs⟩ := bind_eq_ok.1 hrest
      obtain ⟨hkey, rfl⟩ := namedEntry_eq_ok_iff.1 hpair
      obtain ⟨hkeys, rfl⟩ := ih.1 hentries
      exact ⟨⟨hkey, hkeys⟩, (Except.ok.inj hpairs).symm⟩
    · rintro ⟨⟨hkey, hkeys⟩, rfl⟩
      rw [namedEntry_eq_ok_iff.2 ⟨hkey, rfl⟩, ih.2 ⟨hkeys, rfl⟩]
      rfl

theorem mapM_namedPair_eq_ok_iff {values : List Value} {pairs : List (String × Value)} :
    values.mapM namedPair = .ok pairs ↔ ∃ entries : List (Value × Value),
      values = (entries.map fun (name, value) => .tuple [name, value]) ∧
        entries.mapM namedEntry = .ok pairs := by
  induction values generalizing pairs with
  | nil =>
    constructor
    · intro h
      exact ⟨[], rfl, h⟩
    · rintro ⟨entries, hvalues, hpairs⟩
      obtain rfl := List.map_eq_nil_iff.1 hvalues.symm
      exact hpairs
  | cons value values ih =>
    rw [List.mapM_cons]
    constructor
    · intro h
      obtain ⟨pair, hpair, hrest⟩ := bind_eq_ok.1 h
      obtain ⟨rest, hvalues, hpairs⟩ := bind_eq_ok.1 hrest
      obtain ⟨entry, rfl, hentry⟩ := namedPair_eq_ok_iff.1 hpair
      obtain ⟨entries, rfl, hentries⟩ := ih.1 hvalues
      refine ⟨entry :: entries, rfl, ?_⟩
      rw [List.mapM_cons, hentry, hentries]
      exact hpairs
    · rintro ⟨entries, hvalues, hpairs⟩
      obtain ⟨entry, entries, rfl, rfl, rfl⟩ := List.map_eq_cons_iff.1 hvalues.symm
      rw [List.mapM_cons] at hpairs
      obtain ⟨pair, hentry, hrest⟩ := bind_eq_ok.1 hpairs
      obtain ⟨rest, hentries, hpairs⟩ := bind_eq_ok.1 hrest
      rw [namedPair_eq_ok_iff.2 ⟨entry, rfl, hentry⟩, ih.2 ⟨entries, rfl, hentries⟩]
      exact hpairs

/-- The values in order that are not refused are the pairs and the lone dictionaries with names that
can be written. -/
theorem positionalPairs_eq_ok_iff {values : List Value} {pairs : List (String × Value)} :
    positionalPairs values = .ok pairs ↔ ∃ entries, GivesEntries values entries ∧
      (∀ entry ∈ entries, entry.1.isWritable = true) ∧ pairs = namedEntries entries := by
  simp only [← mapM_namedEntry_eq_ok_iff]
  rw [positionalPairs.eq_def]
  split
  · next entries =>
    constructor
    · intro h
      exact ⟨entries, .dictionary entries, h⟩
    · rintro ⟨others, hgives, hpairs⟩
      generalize hvalues : [Value.dict entries] = values at hgives
      cases hgives with
      | pairs others =>
        obtain ⟨entry, _, _, hentry, -⟩ := List.map_eq_cons_iff.1 hvalues.symm
        simp at hentry
      | dictionary others =>
        obtain rfl := Value.dict.inj (List.cons.inj hvalues).1
        exact hpairs
  · next hlone =>
    rw [mapM_namedPair_eq_ok_iff]
    refine exists_congr fun entries => and_congr_left fun _ => ⟨?_, fun hgives => ?_⟩
    · rintro rfl
      exact .pairs entries
    · cases hgives with
      | pairs => rfl
      | dictionary => exact absurd rfl (hlone entries)

/-- The arguments that are not refused are the well-formed ones. -/
theorem Supplied.pairs?_eq_ok_iff {args : Supplied} {pairs : List (String × Value)} :
    args.pairs? = .ok pairs ↔ ∃ entries, args.Gives entries ∧ pairs = args.pairsOf entries := by
  have htaken : args.named.any (·.1 == receiver) = true ↔
      ¬∀ pair ∈ args.named, pair.1 ≠ receiver := by
    simp
  rw [Supplied.pairs?]
  split
  · next h =>
    constructor
    · simp
    · rintro ⟨entries, hgives, -⟩
      exact absurd hgives.named (htaken.1 h)
  · next h =>
    have hnamed := not_not.1 (mt htaken.2 h)
    rw [map_eq_ok]
    constructor
    · rintro ⟨positional, hpositional, rfl⟩
      obtain ⟨entries, hgives, hkeys, rfl⟩ := positionalPairs_eq_ok_iff.1 hpositional
      exact ⟨entries, ⟨hgives, hkeys, hnamed⟩, rfl⟩
    · rintro ⟨entries, hgives, rfl⟩
      exact ⟨_, positionalPairs_eq_ok_iff.2 ⟨entries, hgives.positional, hgives.keys, rfl⟩, rfl⟩

/-! ## Names that fit -/

namespace Template

theorem nodup_parameters (t : Template) : t.parameters.Nodup :=
  (nodup_eraseDups _).map fun _ _ h => String.ofList_injective h

theorem missing_eq_nil_iff {t : Template} {pairs : List (String × Value)} :
    t.missing pairs = [] ↔ t.parameters ⊆ pairs.map Prod.fst := by
  rw [missing, List.filter_eq_nil_iff]
  refine forall₂_congr fun name _ => ?_
  simp [List.mem_map]

/-- The names that fit are the names of the template in some order. -/
theorem fits_iff {t : Template} {pairs : List (String × Value)} :
    t.fits pairs = true ↔ t.hasWildcard = false ∧ (pairs.map Prod.fst).Perm t.parameters := by
  constructor
  · intro h
    simp only [fits, Bool.and_eq_true, Bool.not_eq_true', beq_iff_eq, List.isEmpty_iff] at h
    obtain ⟨⟨⟨hw, hlength⟩, -⟩, hmissing⟩ := h
    -- As many names as are expected, and all of those: none is left for another name or a second
    -- value.
    have hsub := t.nodup_parameters.subperm (missing_eq_nil_iff.1 hmissing)
    exact ⟨hw, (hsub.perm_of_length_le (by simp [hlength])).symm⟩
  · rintro ⟨hw, hperm⟩
    exact fits_of_perm hw hperm

end Template

/-! ## The path -/

section

variable {t : Template} {args : Supplied} {entries : List (Value × Value)}

theorem build_of_gives (hargs : args.Gives entries) :
    t.build args =
      match t.buildFrom (args.pairsOf entries) with
      | .ok path => .silent (.ok path)
      | .error e => ⟨e.records, .error e⟩ := by
  have hpairs : args.pairs? = .ok (args.pairsOf entries) :=
    Supplied.pairs?_eq_ok_iff.2 ⟨entries, hargs, rfl⟩
  cases h : t.buildFrom (args.pairsOf entries) <;> simp only [Template.build, hpairs, h]

theorem buildFrom_eq_ok_iff {pairs : List (String × Value)} {path : String} :
    t.buildFrom pairs = .ok path ↔
      t.fits pairs = true ∧ fill t.text "\x7b" "\x7d" pairs = some path := by
  rw [Template.buildFrom]
  split
  · next h => cases fill t.text "\x7b" "\x7d" pairs <;> simp [h]
  · next h => simp [h]

theorem buildFrom_eq_names_iff {pairs : List (String × Value)} {e : BuildError} :
    t.buildFrom pairs = .error (.names e) ↔ t.fits pairs = false ∧
      e = ⟨t.text, t.expectedCount, pairs.length, t.missing pairs⟩ := by
  rw [Template.buildFrom]
  split
  · next h => cases fill t.text "\x7b" "\x7d" pairs <;> simp [h]
  · next h => simp [h, eq_comm]

theorem buildFrom_eq_unwritable_iff {pairs : List (String × Value)} :
    t.buildFrom pairs = .error .unwritable ↔
      t.fits pairs = true ∧ fill t.text "\x7b" "\x7d" pairs = none := by
  rw [Template.buildFrom]
  split
  · next h => cases fill t.text "\x7b" "\x7d" pairs <;> simp [h]
  · next h => simp [h]

theorem buildFrom_ne_arguments {pairs : List (String × Value)} {e : ArgumentError} :
    t.buildFrom pairs ≠ .error (.arguments e) := by
  rw [Template.buildFrom]
  split
  · cases fill t.text "\x7b" "\x7d" pairs <;> simp
  · simp

theorem result_build_of_gives (hargs : args.Gives entries) :
    (t.build args).result = t.buildFrom (args.pairsOf entries) := by
  rw [build_of_gives hargs]
  cases t.buildFrom (args.pairsOf entries) <;> rfl

/-- A path is built if and only if the names are those of a template without wildcards and the
values can be written. -/
theorem result_build_eq_ok_iff (hargs : args.Gives entries) {path : String} :
    (t.build args).result = .ok path ↔
      (t.hasWildcard = false ∧ ((args.pairsOf entries).map Prod.fst).Perm t.parameters) ∧
        (∀ pair ∈ args.pairsOf entries, pair.2.isWritable = true) ∧
          fillTexts t.text "\x7b" "\x7d" (args.pairsOf entries) = path := by
  rw [result_build_of_gives hargs, buildFrom_eq_ok_iff, Template.fits_iff, fill_eq_some_iff]

end

theorem mem_parameters_of_mem_holes {t : Template} {hole : Hole × List Char}
    (hm : hole ∈ t.skeleton.holes) {name : List Char} (hname : hole.1 = .param name) :
    String.ofList name ∈ t.parameters := by
  refine List.mem_map_of_mem ?_
  rw [Skeleton.parameters, List.mem_eraseDups, List.mem_filterMap]
  exact ⟨hole, hm, by rw [hname]; rfl⟩

/-- Names that fit have a value for each hole. -/
theorem exists_supplied {text : String} {t : Template} (ht : Template.compile? text = .ok t)
    (hstar : '*' ∉ text.toList) {pairs : List (String × Value)}
    (hperm : (pairs.map Prod.fst).Perm t.parameters) {hole : Hole × List Char}
    (hm : hole ∈ t.skeleton.holes) :
    hole.1 = .param hole.1.name ∧ ∃ pair ∈ pairs, pair.1 = String.ofList hole.1.name := by
  obtain ⟨-, hskeleton, -⟩ := Template.compile?_eq_ok ht
  have hnamed := (Skeleton.eq_param_of_mem_scan hstar (hskeleton ▸ hm)).1
  obtain ⟨pair, hp, hname⟩ :=
    List.mem_map.1 (hperm.symm.subset (mem_parameters_of_mem_holes hm hnamed))
  exact ⟨hnamed, pair, hp, hname⟩

theorem exists_assignment {pairs : List (String × Value)} (h : (pairs.map Prod.fst).Nodup) :
    ∃ v : String → Value, ∀ pair ∈ pairs, v pair.1 = pair.2 := by
  refine ⟨fun name => (List.lookup name pairs).getD .none, fun pair hm => ?_⟩
  simp only [Bindings.lookup_eq_some_of_mem h hm, Option.getD_some]

/-- Filling an accepted text with a value for each name writes the values between its literals. -/
theorem toList_fillTexts_of_perm {text : String} {t : Template} (ht : Template.compile? text = .ok t)
    (hstar : '*' ∉ text.toList) {pairs : List (String × Value)}
    (hperm : (pairs.map Prod.fst).Perm t.parameters) {v : String → Value}
    (hv : ∀ pair ∈ pairs, v pair.1 = pair.2) :
    (fillTexts text "\x7b" "\x7d" pairs).toList =
      t.skeleton.thread (t.parameterNames.map fun name => (v name).toText.toList) := by
  obtain ⟨-, hskeleton, -⟩ := Template.compile?_eq_ok ht
  have hdistinct : (pairs.map Prod.fst).Nodup := hperm.nodup_iff.2 t.nodup_parameters
  rw [toList_fillTexts hstar, Skeleton.weave_eq_thread, Template.parameterNames, Skeleton.names,
    hskeleton, List.map_map, List.map_map]
  congr 1
  refine List.map_congr_left fun hole hm => ?_
  obtain ⟨-, pair, hp, hname⟩ := exists_supplied ht hstar hperm (hskeleton ▸ hm)
  rw [Hole.filled, ← hname, lookup_texts hdistinct hp]
  simp only [Function.comp_apply]
  rw [← hname, hv pair hp]

theorem toList_of_build {text : String} {t : Template} (ht : Template.compile? text = .ok t)
    {args : Supplied} {entries : List (Value × Value)} (hargs : args.Gives entries) {path : String}
    (hpath : (t.build args).result = .ok path) :
    ∃ v : String → Value, (∀ pair ∈ args.pairsOf entries, v pair.1 = pair.2) ∧
      path.toList = t.skeleton.thread (t.parameterNames.map fun name => (v name).toText.toList) := by
  obtain ⟨htext, -, -⟩ := Template.compile?_eq_ok ht
  obtain ⟨⟨hw, hperm⟩, -, rfl⟩ := (result_build_eq_ok_iff hargs).1 hpath
  have hstar : '*' ∉ text.toList := by simpa [Template.hasWildcard, htext] using hw
  obtain ⟨v, hv⟩ := exists_assignment (hperm.nodup_iff.2 t.nodup_parameters)
  refine ⟨v, hv, ?_⟩
  rw [htext, toList_fillTexts_of_perm ht hstar hperm hv]

theorem exists_template_of_names (text : String) (names : List String)
    (h : (Template.compile? text).toOption.map (fun t => (t.hasWildcard, t.parameters)) =
      some (false, names)) :
    ∃ t, Template.compile? text = .ok t ∧ t.hasWildcard = false ∧ t.parameters = names := by
  obtain ⟨t, ht, hnames⟩ := Regex.map_toOption_eq_some.1 h
  obtain ⟨hw, hparameters⟩ := Prod.mk.inj hnames
  exact ⟨t, ht, hw, hparameters⟩

/-- With well-formed arguments whose values can be written, an accepted template makes a path if and
only if it has no star and the names that are supplied are its names, each once, in some order. In
every other case the build fails for the names, whatever the values are. A path has the texts of the
values between the literals. A value that cannot be written is a failure of its own, which only
names that fit come to. -/
theorem build_ok_iff {text : String} {t : Template} (ht : Template.compile? text = .ok t)
    {args : Supplied} {entries : List (Value × Value)} (hargs : args.Gives entries) :
    ((∀ pair ∈ args.pairsOf entries, pair.2.isWritable = true) →
      ((∃ path, (t.build args).result = .ok path) ↔
        '*' ∉ text.toList ∧ ((args.pairsOf entries).map Prod.fst).Perm t.parameters)) ∧
    ((∃ e, (t.build args).result = .error (.names e)) ↔
      ¬('*' ∉ text.toList ∧ ((args.pairsOf entries).map Prod.fst).Perm t.parameters)) ∧
    (∀ path, (t.build args).result = .ok path →
      ∃ v : String → Value, (∀ pair ∈ args.pairsOf entries, v pair.1 = pair.2) ∧
        path.toList =
          t.skeleton.thread (t.parameterNames.map fun name => (v name).toText.toList)) ∧
    (∀ e, (t.build args).result ≠ .error (.arguments e)) ∧
    ((t.build args).result = .error .unwritable ↔
      ('*' ∉ text.toList ∧ ((args.pairsOf entries).map Prod.fst).Perm t.parameters) ∧
        ∃ pair ∈ args.pairsOf entries, pair.2.isWritable = false) := by
  obtain ⟨htext, -, -⟩ := Template.compile?_eq_ok ht
  have hwildcard : t.hasWildcard = false ↔ '*' ∉ text.toList := by
    simp [Template.hasWildcard, htext]
  have hresult := result_build_of_gives (t := t) hargs
  rw [← hwildcard, ← Template.fits_iff]
  refine ⟨fun hwritable => ?_, ?_, fun path hpath => toList_of_build ht hargs hpath, fun e => ?_, ?_⟩
  · rw [hresult]
    simp only [buildFrom_eq_ok_iff, fill_eq_some_iff, exists_and_left, exists_eq', and_true]
    exact and_iff_left hwritable
  · rw [hresult]
    simp only [buildFrom_eq_names_iff, exists_and_left, exists_eq, and_true, Bool.not_eq_true]
  · rw [hresult]
    exact buildFrom_ne_arguments
  · rw [hresult, buildFrom_eq_unwritable_iff, fill_eq_none_iff]

/-- A dictionary and a named value, for a template in which braces stand beside a hole. -/
theorem build_ok_iff_stray_braces :
    ∃ t, Template.compile? "/\x7b{x}\x7d-{y}-{x}" = .ok t ∧
      ∃ path, (t.build ⟨[.dict [(.text "x", .text "{y}")]], [("y", .int 5)]⟩).result = .ok path := by
  obtain ⟨t, ht, -, hparameters⟩ :=
    exists_template_of_names "/\x7b{x}\x7d-{y}-{x}" ["x", "y"] (by decide +kernel)
  have hargs : Supplied.Gives ⟨[.dict [(.text "x", .text "{y}")]], [("y", .int 5)]⟩
      [(.text "x", .text "{y}")] :=
    ⟨.dictionary _, by simp, by simp [receiver]⟩
  refine ⟨t, ht, ((build_ok_iff ht hargs).1 ?_).2 ⟨by decide, ?_⟩⟩
  · decide
  rw [hparameters]
  exact .refl _

/-- Names that fit are not enough: a number can have too many digits to be written, and one name is
taken when values are named. Neither failure is one of names that do not fit. -/
theorem fitting_names_without_path :
    (∃ t, Template.compile? "/{x}" = .ok t ∧ t.hasWildcard = false ∧ t.parameters = ["x"] ∧
      (t.build ⟨[], [("x", .int (Int.ofNat (Nat.pow 10 Text.digitLimit)))]⟩).result =
        .error .unwritable) ∧
    ∃ t, Template.compile? "/{self}" = .ok t ∧ t.hasWildcard = false ∧ t.parameters = ["self"] ∧
      (t.build ⟨[], [("self", .text "1")]⟩).result = .error (.arguments (.nameTaken "self")) := by
  constructor
  · obtain ⟨t, ht, hw, hparameters⟩ :=
      exists_template_of_names "/{x}" ["x"] (by decide +kernel)
    have hargs (value : Value) : Supplied.Gives ⟨[], [("x", value)]⟩ [] :=
      ⟨.pairs [], by simp, by simp [receiver]⟩
    refine ⟨t, ht, hw, hparameters, ?_⟩
    rw [result_build_of_gives (hargs _), buildFrom_eq_unwritable_iff, Template.fits_iff,
      fill_eq_none_iff]
    refine ⟨⟨hw, ?_⟩, _, List.mem_singleton_self _, Value.isWritable_pow⟩
    rw [hparameters]
    exact .refl _
  · obtain ⟨t, ht, hw, hparameters⟩ :=
      exists_template_of_names "/{self}" ["self"] (by decide +kernel)
    exact ⟨t, ht, hw, hparameters, rfl⟩

end PathTemplate
