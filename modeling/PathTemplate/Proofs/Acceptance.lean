import PathTemplate.Proofs.Numbering
import PathTemplate.Proofs.Scanning

/-!
# Accepted templates

What a text has to satisfy to be a template, and what its expression is then known to be.

## Main statements

* `hasWildcard_or_hasParameters_iff`: a text with a hole has a wildcard or a parameter.
* `compile?_eq`: how a text is compiled, in terms of its skeleton.
* `compile?_eq_ok`: the parts of an accepted template.
* `compileSkeleton_eq_ok`: the expression of an accepted skeleton.
* `expression_eq_none_iff`: a template has an expression if it has a hole.
* `expressionSource?_of_compile?`: the source that is compiled for an accepted text.
-/

namespace PathTemplate

open Regex (bind_eq_ok map_eq_ok)

namespace Template

/-- The expression of an accepted skeleton has a group for each hole, and no literal is flawed. -/
theorem compileSkeleton_eq_ok {s : Skeleton} {regex : Regex}
    (h : compileSkeleton s = .ok regex) :
    Regex.compile s.source = .ok regex ∧ regex.groupCount = s.holes.length ∧
      s.optionalHole? = none := by
  unfold compileSkeleton at h
  split at h
  · simp at h
  · next r hr =>
    split at h
    · simp at h
    · next hcount =>
      split at h
      · simp at h
      · next hnone =>
        obtain rfl := Except.ok.inj h
        exact ⟨hr, not_not.1 hcount, hnone⟩

theorem hasWildcard_or_hasParameters_iff {text : String} {expression : Option Regex} :
    ((Template.mk text (Skeleton.scan text.toList) expression).hasWildcard ||
        (Template.mk text (Skeleton.scan text.toList) expression).hasParameters) = true ↔
      (Skeleton.scan text.toList).holes ≠ [] := by
  rw [Bool.or_eq_true]
  constructor
  · rintro (hw | hp) hnil
    · have hstar : '*' ∈ text.toList := by simpa [hasWildcard] using hw
      obtain ⟨hole, hm, -⟩ := Skeleton.star_mem_iff.1 hstar
      exact List.not_mem_nil (hnil ▸ hm)
    · simp [hasParameters, Skeleton.names, hnil] at hp
  · intro h
    obtain ⟨⟨hole, literal⟩, hmem⟩ := List.exists_mem_of_ne_nil _ h
    rcases Skeleton.cases_of_mem_scan hmem with rfl | ⟨name, rfl, hne, -⟩
    · left
      have hstar : '*' ∈ text.toList := Skeleton.star_mem_iff.2 ⟨_, hmem, rfl⟩
      simpa [hasWildcard] using hstar
    · right
      simp only [hasParameters, Skeleton.names, List.any_map, List.any_eq_true]
      exact ⟨_, hmem, by simpa [Hole.name] using hne⟩

/-- A text that passes the first check is a template if it has no hole, and otherwise if its
skeleton has an expression. -/
theorem compile?_eq (text : String) :
    compile? text = (checkText text.toList).bind fun _ =>
      if (Skeleton.scan text.toList).holes = [] then .ok ⟨text, Skeleton.scan text.toList, none⟩
      else (compileSkeleton (Skeleton.scan text.toList)).map fun regex =>
        ⟨text, Skeleton.scan text.toList, some regex⟩ := by
  rw [compile?]
  cases checkText text.toList with
  | error e => rfl
  | ok _ =>
    dsimp only [Except.bind]
    by_cases h : (Skeleton.scan text.toList).holes = []
    · rw [if_neg fun hplain => hasWildcard_or_hasParameters_iff.1 hplain h, if_pos h]
    · rw [if_pos (hasWildcard_or_hasParameters_iff.2 h), if_neg h]

theorem checkText_eq_ok_iff {text : List Char} :
    checkText text = .ok () ↔
      (text.head? = some '/' ∨ text.head? = some '*') ∧ ':' ∉ text := by
  unfold checkText
  split
  · next h => simp [h]
  · next h =>
    split
    · next hc => simpa using fun _ => hc
    · next hc =>
      rw [← or_iff_not_and_not] at h
      simpa [h] using hc

theorem head?_of_compile? {text : String} {t : Template} (h : compile? text = .ok t) :
    (text.toList.head? = some '/' ∨ text.toList.head? = some '*') ∧ ':' ∉ text.toList := by
  rw [compile?_eq] at h
  obtain ⟨_, hcheck, -⟩ := bind_eq_ok.1 h
  exact checkText_eq_ok_iff.1 hcheck

/-- An accepted template has the skeleton of its text, and that skeleton's expression, if any. -/
theorem compile?_eq_ok {text : String} {t : Template} (h : compile? text = .ok t) :
    t.text = text ∧ t.skeleton = Skeleton.scan text.toList ∧
      ∀ regex, t.expression = some regex → compileSkeleton t.skeleton = .ok regex := by
  rw [compile?_eq] at h
  obtain ⟨_, -, h⟩ := bind_eq_ok.1 h
  split at h
  · obtain rfl := Except.ok.inj h
    exact ⟨rfl, rfl, fun r hregex => by simp at hregex⟩
  · obtain ⟨regex, hr, rfl⟩ := map_eq_ok.1 h
    refine ⟨rfl, rfl, fun r hregex => ?_⟩
    rw [hr, Option.some.inj hregex]

theorem expression_eq_none_iff {text : String} {t : Template} (h : compile? text = .ok t) :
    t.expression = none ↔ t.skeleton.holes = [] := by
  rw [compile?_eq] at h
  obtain ⟨_, -, h⟩ := bind_eq_ok.1 h
  split at h
  · next hnil =>
    obtain rfl := Except.ok.inj h
    simpa using hnil
  · next hne =>
    obtain ⟨regex, -, rfl⟩ := map_eq_ok.1 h
    simpa using hne

/-- What is compiled for an accepted text is the source of its expression. -/
theorem expressionSource?_of_compile? {text : String} {t : Template} (h : compile? text = .ok t) :
    expressionSource? text = t.expression.map (·.source) := by
  rw [compile?_eq] at h
  obtain ⟨_, hcheck, h⟩ := bind_eq_ok.1 h
  rw [expressionSource?, hcheck]
  dsimp only
  split at h
  · next hnil =>
    obtain rfl := Except.ok.inj h
    rw [if_neg fun hholes => hasWildcard_or_hasParameters_iff.1 hholes hnil]
    rfl
  · next hne =>
    obtain ⟨regex, hr, rfl⟩ := map_eq_ok.1 h
    obtain ⟨_, _, _, hsource, -⟩ := Regex.compile_eq_ok (compileSkeleton_eq_ok hr).1
    rw [if_pos (hasWildcard_or_hasParameters_iff.2 hne), Option.map_some, hsource]

end Template

end PathTemplate
