import PathTemplate.Proofs.Acceptance
import PathTemplate.Proofs.Literal
import PathTemplate.Proofs.Names

/-!
# Templates with plain literals

A template of which every literal stands for a text is accepted, and a path matches it if it can be
split at those texts. The names stand for the pieces of the split with the least lengths.

## Main statements

* `compile?_of_denotes`: such a template is accepted.
* `extract_of_splitsFirst`: the names stand for the pieces of the least split.
* `plain_match`: the paths that match, and what the names stand for.
-/

namespace PathTemplate

open Regex (skeletonBody)

/-! ## Acceptance -/

theorem compileSkeleton_of_denotes {s d : Skeleton} (h : s.Denotes d) :
    Template.compileSkeleton s = .ok ⟨s.source, d.holes.length, skeletonBody d⟩ := by
  rw [Template.compileSkeleton, compile_source h]
  simp [h.length_holes, h.optionalHole?]

/-- A text with a hole of which the literals stand for texts is a template. -/
theorem compile?_of_denotes {text : String} {d : Skeleton}
    (hstart : text.toList.head? = some '/' ∨ text.toList.head? = some '*')
    (hholes : (Skeleton.scan text.toList).holes ≠ [])
    (hd : (Skeleton.scan text.toList).Denotes d) :
    Template.compile? text = .ok ⟨text, Skeleton.scan text.toList,
      some ⟨(Skeleton.scan text.toList).source, d.holes.length, skeletonBody d⟩⟩ := by
  have hcolon : ':' ∉ text.toList := by
    intro h
    obtain ⟨literal, hl, hc⟩ := Skeleton.colon_mem_iff.1 h
    obtain ⟨_, ht⟩ := hd.segments hl
    exact Literal.colon_not_mem ht hc
  rw [Template.compile?_eq, Template.checkText_eq_ok_iff.2 ⟨hstart, hcolon⟩, Except.bind,
    if_neg hholes, compileSkeleton_of_denotes hd]
  rfl

/-! ## Matches -/

section

variable {t : Template} {d : Skeleton} {source : List Char}

theorem accepts_iff_splits (h : t.expression = some ⟨source, d.holes.length, skeletonBody d⟩)
    (path : String) : t.accepts path = true ↔ ∃ pieces, d.Splits path.toList pieces := by
  rw [Template.accepts, h]
  constructor
  · intro hsome
    obtain ⟨captures, hc⟩ := Option.isSome_iff_exists.1 hsome
    obtain ⟨pieces, hfirst, -⟩ := Regex.fullMatch?_eq_some hc
    exact ⟨pieces, hfirst.1⟩
  · rintro ⟨pieces, hs⟩
    exact Regex.fullMatch?_isSome hs

theorem exists_splitsFirst {path : List Char} {pieces : List (List Char)}
    (h : d.Splits path pieces) : ∃ least, d.SplitsFirst path least := by
  have hsome : (Regex.fullMatch? ⟨[], _, skeletonBody d⟩ path).isSome :=
    Regex.fullMatch?_isSome h
  obtain ⟨captures, hc⟩ := Option.isSome_iff_exists.1 hsome
  obtain ⟨least, hfirst, -⟩ := Regex.fullMatch?_eq_some hc
  exact ⟨least, hfirst⟩

theorem extract_of_splitsFirst (h : t.expression = some ⟨source, d.holes.length, skeletonBody d⟩)
    {path : String} {pieces : List (List Char)} (hfirst : d.SplitsFirst path.toList pieces) :
    t.extract path =
      .ok (Template.bindCaptures (t.skeleton.holes.map (·.1)) (pieces.map some)) := by
  have hsome : (Regex.fullMatch? ⟨source, _, skeletonBody d⟩ path.toList).isSome :=
    Regex.fullMatch?_isSome hfirst.1
  obtain ⟨captures, hc⟩ := Option.isSome_iff_exists.1 hsome
  obtain ⟨others, ho, rfl⟩ := Regex.fullMatch?_eq_some hc
  obtain rfl := ho.unique hfirst
  exact (Template.extract_eq_ok_iff h).2 ⟨_, hc, rfl⟩

end

/-- A template whose literals stand for texts is accepted. A path matches it if and only if it can
be split at those texts, and then each name stands for the piece of its last hole in the one split
with the least lengths. -/
theorem plain_match (text : String) (d : Skeleton)
    (hstart : text.toList.head? = some '/' ∨ text.toList.head? = some '*')
    (hholes : (Skeleton.scan text.toList).holes ≠ [])
    (hd : (Skeleton.scan text.toList).Denotes d) :
    ∃ t, Template.compile? text = .ok t ∧ ∀ path : String,
      (t.accepts path = true ↔ ∃ pieces, d.Splits path.toList pieces) ∧
      (t.accepts path = true → ∃ pieces bindings,
        d.SplitsFirst path.toList pieces ∧
        (∀ others, d.SplitsFirst path.toList others → others = pieces) ∧
        t.extract path = .ok bindings ∧
        Bindings.keys bindings = t.parameters ∧
        ∀ name : String, List.lookup name bindings =
          (lastOf? (t.skeleton.holes.map (·.1)) pieces name.toList).map
            fun piece => some (String.ofList piece)) := by
  refine ⟨_, compile?_of_denotes hstart hholes hd, fun path => ?_⟩
  refine ⟨accepts_iff_splits rfl path, fun haccepts => ?_⟩
  obtain ⟨splits, hs⟩ := (accepts_iff_splits rfl path).1 haccepts
  obtain ⟨pieces, hfirst⟩ := exists_splitsFirst hs
  have hlength : pieces.length = (Skeleton.scan text.toList).holes.length :=
    hfirst.1.1.length_eq.symm.trans hd.length_holes.symm
  refine ⟨pieces, _, hfirst, fun others ho => ho.unique hfirst, extract_of_splitsFirst rfl hfirst,
    keys_bindCaptures (by simpa using hlength), fun name => ?_⟩
  rw [lookup_bindCaptures, lastOf?_map, Option.map_map]
  rfl

/-- An escaped dot, a wildcard next to a name, and a name that occurs twice. -/
theorem plain_match_escaped_dot :
    ∃ t, Template.compile? "/a\\.{x}*-{x}" = .ok t ∧ t.accepts "/a.bcd-e" = true ∧
      ∃ bindings, t.extract "/a.bcd-e" = .ok bindings ∧ Bindings.keys bindings = t.parameters := by
  obtain ⟨t, ht, hmatch⟩ := plain_match "/a\\.{x}*-{x}"
    ⟨['/', 'a', '.'], [(.param ['x'], []), (.wildcard, ['-']), (.param ['x'], [])]⟩
    (.inl (by decide)) (by decide)
    ⟨by decide, .cons (by decide) (.cons (by decide) (.cons (by decide) .nil))⟩
  have haccepts : t.accepts "/a.bcd-e" = true := by
    refine (hmatch _).1.2 ⟨[['b'], ['c', 'd'], ['e']], ?_, by decide⟩
    refine .cons ?_ (.cons ?_ (.cons ?_ .nil)) <;> simp [Hole.Admits]
  obtain ⟨_, bindings, _, _, hextract, hkeys, _⟩ := (hmatch _).2 haccepts
  exact ⟨t, ht, haccepts, bindings, hextract, hkeys⟩

end PathTemplate
