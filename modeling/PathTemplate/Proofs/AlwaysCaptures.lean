import PathTemplate.Proofs.Acceptance
import PathTemplate.Proofs.Names
import PathTemplate.Proofs.Shortest

/-!
# Holes that always capture

The literals of a template are checked for a quantifier directly behind a hole and for alternatives,
which would let a path match without the hole. The check knows few of the ways to write a quantifier,
and none of the other constructs that can leave out a group. What is decisive is whether the
expression can leave out the last group of a name.

## Main definitions

* `Template.AlwaysCaptures`: every name stands for a text in every path that matches.
* `Template.CanSkip`: the expression can leave out the last hole of a name.

## Main statements

* `always_captures`: when every name stands for a text.
* `bounded_hole_captures_nothing`: a template for which one does not.
-/

namespace PathTemplate

open Regex (Expr State exists_run_of_plainItems captures_perm_range)

namespace Regex

theorem State.captured?_eq_none_iff {s : State} {n : Nat} :
    s.captured? n = none ↔ ¬s.Captured n := by
  rw [State.captured?, State.sliceOf?, Option.map_eq_none_iff, State.Captured,
    Option.not_isSome_iff_eq_none]

theorem distinct_of_compile {source : List Char} {regex : Regex}
    (h : compile source = .ok regex) : regex.body.Distinct := by
  have hperm := captures_perm_range h
  refine ⟨hperm.nodup_iff.2 List.nodup_range', fun p hp => ?_⟩
  have hmem := hperm.subset (List.mem_map_of_mem hp)
  exact (List.mem_range'_1.1 hmem).1

/-- A group that can be left out and needs a character holds nothing in any match of some text, if
the expression has plain items only. -/
theorem exists_fullMatch?_eq_none {regex : Regex} (hd : regex.body.Distinct)
    (hplain : regex.body.PlainItems) {n : Nat} (hn : 1 ≤ n) (hle : n ≤ regex.groupCount)
    (hbody : ∀ body, (n, body) ∈ regex.body.captures → 1 ≤ body.least)
    (hskip : regex.body.canSkip n = true) :
    ∃ path, (regex.fullMatch? path).isSome ∧
      ∀ t : State, regex.body.Leads (.start path regex.groupCount) t → t.after = [] →
        t.captured? n = none := by
  obtain ⟨path, hlength, hrun⟩ := exists_run_of_plainItems hplain regex.groupCount
  refine ⟨path, ?_, fun t ht hafter => ?_⟩
  · rw [fullMatch?, Option.isSome_map]
    exact Option.isSome_iff_ne_none.2 hrun
  · have hposition : t.position = 0 + regex.body.least := by
      have hspan := ht.span
      rw [hafter] at hspan
      simpa [State.start, hlength] using hspan
    have hmark := ht.mark_eq_of_least hplain.flat hd hbody hskip hposition
    rw [State.captured?_eq_none_iff, State.Captured, hmark]
    simp [State.mark, State.start, Marks.none, Mark.span?, show n - 1 < regex.groupCount by omega]

end Regex

namespace Template

/-- Every name stands for a text in every path that matches. -/
def AlwaysCaptures (t : Template) : Prop :=
  ∀ path bindings, t.extract path = .ok bindings →
    ∀ name value, (name, value) ∈ bindings → value ≠ none

/-- The expression can leave out the last hole of a name. -/
def CanSkip (t : Template) (regex : Regex) : Prop :=
  ∃ i name, LastNamed (t.skeleton.holes.map (·.1)) i name ∧ regex.body.canSkip (i + 1) = true

variable {t : Template} {regex : Regex}

theorem lt_groupCount_of_lastNamed (hcount : regex.groupCount = t.skeleton.holes.length) {i : Nat}
    {name : List Char} (h : LastNamed (t.skeleton.holes.map (·.1)) i name) :
    i < regex.groupCount := by
  have hlt := (List.getElem?_eq_some_iff.1 h.1).1
  rwa [List.length_map, ← hcount] at hlt

/-- What an expression cannot leave out captures. -/
theorem alwaysCaptures_of_not_canSkip (hexpression : t.expression = some regex)
    (hcount : regex.groupCount = t.skeleton.holes.length) (hd : regex.body.Distinct)
    (h : ¬t.CanSkip regex) : t.AlwaysCaptures := by
  intro path bindings hextract name value hmem
  obtain ⟨s, hs, -, hbindings⟩ := mem_bindings_iff hexpression hcount hextract
  obtain ⟨i, hlast, rfl⟩ := (hbindings name value).1 hmem
  have hskip : regex.body.canSkip (i + 1) = false :=
    Bool.eq_false_iff.2 fun hskip => h ⟨i, _, hlast, hskip⟩
  have hi := lt_groupCount_of_lastNamed hcount hlast
  have hstart := State.length_marks_start path.toList regex.groupCount
  have hcaptured := hs.captured (n := i + 1) hd (Nat.succ_pos i) (by omega) hskip
  rw [Ne, Option.map_eq_none_iff, State.captured?_eq_none_iff]
  exact not_not.2 hcaptured

/-- What an expression with plain items can leave out does not always capture. -/
theorem not_alwaysCaptures_of_canSkip (hexpression : t.expression = some regex)
    (hcount : regex.groupCount = t.skeleton.holes.length) (hd : regex.body.Distinct)
    (hplain : regex.body.PlainItems)
    (hbody : ∀ i name, LastNamed (t.skeleton.holes.map (·.1)) i name →
      ∀ body, (i + 1, body) ∈ regex.body.captures → 1 ≤ body.least)
    (h : t.CanSkip regex) : ¬t.AlwaysCaptures := by
  obtain ⟨i, name, hlast, hskip⟩ := h
  have hi := lt_groupCount_of_lastNamed hcount hlast
  obtain ⟨path, hsome, hnone⟩ := Regex.exists_fullMatch?_eq_none hd hplain (Nat.succ_pos i) hi
    (hbody i name hlast) hskip
  obtain ⟨captures, hmatch⟩ := Option.isSome_iff_exists.1 hsome
  have hextract : t.extract (String.ofList path) =
      .ok (bindCaptures (t.skeleton.holes.map (·.1)) captures) :=
    (extract_eq_ok_iff hexpression).2 ⟨captures, by rw [String.toList_ofList, hmatch], rfl⟩
  obtain ⟨s, hs, hend, hbindings⟩ := mem_bindings_iff hexpression hcount hextract
  rw [String.toList_ofList] at hs
  intro halways
  refine halways _ _ hextract (String.ofList name) none ((hbindings _ _).2 ⟨i, ?_, ?_⟩) rfl
  · rwa [String.toList_ofList]
  · rw [hnone s hs hend, Option.map_none]

end Template

/-- If the expression cannot leave out the last hole of any name, every name stands for a text in
every path that matches. The converse holds if the expression has plain items only and the groups of
those holes need a character. -/
theorem always_captures {text : String} {t : Template} (ht : Template.compile? text = .ok t) :
    ((∀ regex, t.expression = some regex → ¬t.CanSkip regex) → t.AlwaysCaptures) ∧
    ∀ regex, t.expression = some regex → regex.body.PlainItems →
      (∀ i name, LastNamed (t.skeleton.holes.map (·.1)) i name →
        ∀ body, (i + 1, body) ∈ regex.body.captures → 1 ≤ body.least) →
      (t.AlwaysCaptures ↔ ¬t.CanSkip regex) := by
  obtain ⟨-, -, hexpression⟩ := Template.compile?_eq_ok ht
  refine ⟨fun h => ?_, fun regex hregex hplain hbody => ?_⟩
  · cases hregex : t.expression with
    | none =>
      intro path bindings hextract name value hmem
      unfold Template.extract Template.extract? at hextract
      rw [hregex] at hextract
      by_cases hpath : path = t.text
      · simp only [hpath, if_true] at hextract
        simp [← Except.ok.inj hextract] at hmem
      · simp [hpath] at hextract
    | some regex =>
      obtain ⟨hcompile, hcount, -⟩ := Template.compileSkeleton_eq_ok (hexpression regex hregex)
      exact Template.alwaysCaptures_of_not_canSkip hregex hcount
        (Regex.distinct_of_compile hcompile) (h regex hregex)
  · obtain ⟨hcompile, hcount, -⟩ := Template.compileSkeleton_eq_ok (hexpression regex hregex)
    have hd := Regex.distinct_of_compile hcompile
    exact ⟨fun halways hskip => Template.not_alwaysCaptures_of_canSkip hregex hcount hd hplain
      hbody hskip halways, Template.alwaysCaptures_of_not_canSkip hregex hcount hd⟩

/-- Bounds without a lower one are not taken for a quantifier. -/
theorem bounded_hole_captures_nothing :
    (Template.compile? "/a{x}{,2}").toOption.map (fun t => (t.accepts "/a", t.extract "/a")) =
      some (true, .ok [("x", none)]) := by
  decide +kernel

/-- Two rounds of a hole capture, at most two do not. -/
theorem always_captures_rounds :
    (∃ t, Template.compile? "/{x}(?#again){2,2}" = .ok t ∧ t.AlwaysCaptures) ∧
      ∃ t, Template.compile? "/{x}(?#again){,2}" = .ok t ∧ ¬t.AlwaysCaptures := by
  have hone : ∀ {t : Template} {i name}, t.skeleton.holes.map (·.1) = [.param ['x']] →
      LastNamed (t.skeleton.holes.map (·.1)) i name → i = 0 ∧ name = ['x'] := by
    intro t i name hholes hlast
    rw [hholes] at hlast
    obtain rfl : i = 0 := Nat.lt_one_iff.1 (List.getElem?_eq_some_iff.1 hlast.1).1
    exact ⟨rfl, (Hole.param.inj (Option.some.inj hlast.1)).symm⟩
  constructor
  · have hfacts : (Template.compile? "/{x}(?#again){2,2}").toOption.map (fun t =>
        (t.expression.map fun regex => regex.body.canSkip 1, t.skeleton.holes.map (·.1))) =
          some (some false, [.param ['x']]) := by
      decide +kernel
    obtain ⟨t, ht, hfacts⟩ := Regex.map_toOption_eq_some.1 hfacts
    obtain ⟨hskip, hholes⟩ := Prod.mk.inj hfacts
    refine ⟨t, ht, (always_captures ht).1 fun regex hregex => ?_⟩
    rintro ⟨i, name, hlast, hi⟩
    obtain ⟨rfl, -⟩ := hone hholes hlast
    rw [hregex, Option.map_some, Option.some.injEq] at hskip
    exact Bool.false_ne_true (hskip.symm.trans hi)
  · have hfacts : (Template.compile? "/{x}(?#again){,2}").toOption.map (fun t =>
        (t.expression.map (·.body), t.skeleton.holes.map (·.1))) =
          some (some (.ofItems ([.literal 47, .iterate .greedy 0 (some 2)
            (.group 1 (.ofItems [.iterate .lazy 1 none (.char .any)]))] ++
              [.anchor .lastLineEnd])), [.param ['x']]) := by
      decide +kernel
    obtain ⟨t, ht, hfacts⟩ := Regex.map_toOption_eq_some.1 hfacts
    obtain ⟨hexpression, hholes⟩ := Prod.mk.inj hfacts
    obtain ⟨regex, hregex, hbody⟩ := Option.map_eq_some_iff.1 hexpression
    have hlast : LastNamed (t.skeleton.holes.map (·.1)) 0 ['x'] := by
      rw [hholes]
      refine ⟨rfl, fun j hj => ?_⟩
      rw [List.getElem?_eq_none hj]
      simp
    have hplain : regex.body.PlainItems := by
      refine ⟨_, hbody, fun item hm => ?_⟩
      rcases List.mem_cons.1 hm with rfl | hm
      · exact ⟨⟨'/', by decide⟩, trivial⟩
      · rw [List.mem_singleton.1 hm]
        exact ⟨⟨by decide, .inl rfl⟩, trivial, trivial⟩
    refine ⟨t, ht, fun halways => ?_⟩
    refine ((always_captures ht).2 regex hregex hplain fun i name hlast body hm => ?_).1 halways
      ⟨0, _, hlast, by rw [hbody]; rfl⟩
    obtain ⟨rfl, -⟩ := hone hholes hlast
    rw [hbody] at hm
    rw [(Prod.mk.inj (List.mem_singleton.1 hm)).2]
    decide

end PathTemplate
