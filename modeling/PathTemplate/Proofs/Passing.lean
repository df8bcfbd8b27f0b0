import PathTemplate.Proofs.Rebuilding

/-!
# How arguments are passed

Values with distinct names can be passed in any order, in order or by name. The path that they make
does not depend on it, nor do the error of a build that fails and its record.

## Main definitions

* `Supplied.ofPairs`: names and values passed as pairs.
* `Supplied.Passes`: arguments that pass certain names and values.

## Main statements

* `fill_perm`: the order of values with distinct names does not matter for filling a text.
* `Template.buildFrom_perm`: nor does it for building from them.
* `build_eq_of_passes`: nor does it matter how they are passed.
-/

namespace PathTemplate

variable {pairs others : List (String × Value)}

/-! ## The order of names and values -/

theorem fillPiece_congr {values values' : Bindings String String}
    (h : ∀ name, List.lookup name values = List.lookup name values') :
    fillPiece values = fillPiece values' := by
  funext piece
  cases piece with
  | plain c => rfl
  | token name text => simp only [fillPiece, h]

theorem fill_perm (hperm : pairs.Perm others) (hnodup : (pairs.map Prod.fst).Nodup)
    (text opening closing : String) :
    fill text opening closing pairs = fill text opening closing others := by
  have hnodup' := (hperm.map Prod.fst).nodup_iff.1 hnodup
  rw [← map_fst_texts] at hnodup hnodup'
  have hlookup := Bindings.lookup_perm (hperm.map _) hnodup
  simp only [fill, fillTexts, hperm.all_eq, Bindings.ofList_of_nodup hnodup,
    Bindings.ofList_of_nodup hnodup', fillPiece_congr hlookup]

namespace Template

theorem missing_perm (t : Template) (hperm : pairs.Perm others) :
    t.missing pairs = t.missing others := by
  simp only [missing, hperm.any_eq]

theorem fits_perm (t : Template) (hperm : pairs.Perm others) : t.fits pairs = t.fits others := by
  simp only [fits, hperm.length_eq, hperm.all_eq, t.missing_perm hperm]

theorem buildFrom_perm (t : Template) (hperm : pairs.Perm others)
    (hnodup : (pairs.map Prod.fst).Nodup) : t.buildFrom pairs = t.buildFrom others := by
  simp only [buildFrom, t.fits_perm hperm, fill_perm hperm hnodup, hperm.length_eq,
    t.missing_perm hperm]

end Template

/-! ## Ways to pass them -/

namespace Supplied

/-- Arguments pass names and values if some of these stand in order, as pairs or as the entries of a
lone dictionary, and the others by name. -/
def Passes (args : Supplied) (pairs : List (String × Value)) : Prop :=
  ∃ front, args.Gives (front.map Value.entry) ∧ (front ++ args.named).Perm pairs

def ofPairs (pairs : List (String × Value)) : Supplied :=
  ⟨pairs.map fun (name, value) => .tuple [.text name, value], []⟩

theorem gives_ofPairs (pairs : List (String × Value)) :
    (ofPairs pairs).Gives (pairs.map Value.entry) := by
  refine ⟨?_, List.forall_mem_map.2 fun _ _ => Value.isWritable_text _, by simp [ofPairs]⟩
  have hpositional : (ofPairs pairs).positional =
      (pairs.map Value.entry).map fun entry => .tuple [entry.1, entry.2] := by
    rw [List.map_map]
    rfl
  exact hpositional ▸ .pairs _

theorem pairsOf_map_entry (args : Supplied) (front : List (String × Value)) :
    args.pairsOf (front.map Value.entry) = front ++ args.named := by
  simp [pairsOf, namedEntries, Value.entry, Function.comp_def]

theorem Passes.pairs? {args : Supplied} (h : args.Passes pairs) :
    ∃ others, args.pairs? = .ok others ∧ others.Perm pairs := by
  obtain ⟨front, hgives, hperm⟩ := h
  exact ⟨_, pairs?_eq_ok_iff.2 ⟨_, hgives, (args.pairsOf_map_entry front).symm⟩, hperm⟩

end Supplied

theorem build_eq_of_pairs? (t : Template) {args args' : Supplied} (h : args.pairs? = .ok pairs)
    (h' : args'.pairs? = .ok others) (hperm : pairs.Perm others)
    (hnodup : (pairs.map Prod.fst).Nodup) : t.build args = t.build args' := by
  rw [Template.build, Template.build, h, h']
  dsimp only
  rw [t.buildFrom_perm hperm hnodup]

/-- Two calls that pass the same values with distinct names, in whatever order and in whatever way,
make the same path, or fail for the names with the same error, and leave the same records. They fail
otherwise only if the names fit and a value cannot be written. -/
theorem build_eq_of_passes (t : Template) (hnodup : (pairs.map Prod.fst).Nodup)
    {args args' : Supplied} (h : args.Passes pairs) (h' : args'.Passes pairs) :
    t.build args = t.build args' ∧ (∀ e, (t.build args).result ≠ .error (.arguments e)) ∧
      ((t.build args).result = .error .unwritable ↔
        t.fits pairs = true ∧ ∃ pair ∈ pairs, pair.2.isWritable = false) := by
  obtain ⟨first, hfirst, hperm⟩ := h.pairs?
  obtain ⟨second, hsecond, hperm'⟩ := h'.pairs?
  refine ⟨build_eq_of_pairs? t hfirst hsecond (hperm.trans hperm'.symm) ?_, fun e => ?_, ?_⟩
  · exact (hperm.map Prod.fst).nodup_iff.2 hnodup
  · obtain ⟨entries, hgives, rfl⟩ := Supplied.pairs?_eq_ok_iff.1 hfirst
    rw [result_build_of_gives hgives]
    exact buildFrom_ne_arguments
  · obtain ⟨entries, hgives, rfl⟩ := Supplied.pairs?_eq_ok_iff.1 hfirst
    rw [result_build_of_gives hgives, buildFrom_eq_unwritable_iff, t.fits_perm hperm,
      fill_eq_none_iff]
    simp only [hperm.mem_iff]

/-- A dictionary with a named value, and pairs in the other order, both without one of the names. -/
theorem build_eq_of_passes_missing :
    ∃ t, Template.compile? "/{x}/{y}" = .ok t ∧
      t.build ⟨[.dict [(.text "z", .none)]], [("y", .int 5)]⟩ =
        t.build ⟨[.tuple [.text "y", .int 5], .tuple [.text "z", .none]], []⟩ ∧
      t.buildFrom [("z", .none), ("y", .int 5)] = .error (.names ⟨"/{x}/{y}", 2, 2, ["x"]⟩) := by
  have hfacts : (Template.compile? "/{x}/{y}").toOption.map (fun t =>
      (t.text, t.expectedCount, t.fits [("z", .none), ("y", .int 5)],
        t.missing [("z", .none), ("y", .int 5)])) = some ("/{x}/{y}", 2, false, ["x"]) := by
    decide +kernel
  obtain ⟨t, ht, hfacts⟩ := Regex.map_toOption_eq_some.1 hfacts
  simp only [Prod.mk.injEq] at hfacts
  obtain ⟨htext, hcount, hfits, hmissing⟩ := hfacts
  have hbuild : t.buildFrom [("z", .none), ("y", .int 5)] =
      .error (.names ⟨"/{x}/{y}", 2, 2, ["x"]⟩) := by
    rw [buildFrom_eq_names_iff, htext, hcount, hmissing]
    exact ⟨hfits, rfl⟩
  have hdictionary : Supplied.Passes ⟨[.dict [(.text "z", .none)]], [("y", .int 5)]⟩
      [("y", .int 5), ("z", .none)] :=
    ⟨[("z", .none)], ⟨.dictionary _, by simp [Value.entry], by simp [receiver]⟩, .swap ..⟩
  have hpairs : Supplied.Passes ⟨[.tuple [.text "y", .int 5], .tuple [.text "z", .none]], []⟩
      [("y", .int 5), ("z", .none)] :=
    ⟨[("y", .int 5), ("z", .none)], ⟨.pairs [(.text "y", .int 5), (.text "z", .none)],
      by simp [Value.entry], by simp⟩, .refl _⟩
  exact ⟨t, ht, (build_eq_of_passes t (by decide) hdictionary hpairs).1, hbuild⟩

end PathTemplate
