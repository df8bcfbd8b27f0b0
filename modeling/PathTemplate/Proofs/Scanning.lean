import PathTemplate.Template

/-!
# The skeleton of a text

## Main statements

* `Skeleton.scan_induction`: what holds of the skeleton of a text, one character or hole at a time.
* `Skeleton.cases_of_mem_scan`: a hole is a star or has a name of word characters.
* `Skeleton.star_mem_iff`, `Skeleton.colon_mem_iff`: where stars and colons of a text stand.
-/

namespace PathTemplate

open Text (isWord)

theorem all_isWord_take {text : List Char} {n : Nat} (h : n ≤ (text.takeWhile isWord).length) :
    (text.take n).all isWord = true := by
  have hbegins := List.prefix_of_prefix_length_le (List.take_prefix n text)
    (List.takeWhile_prefix isWord) (Nat.le_trans (List.length_take_le _ _) h)
  rw [List.all_eq_true]
  intro c hc
  exact List.all_eq_true.1 List.all_takeWhile c (hbegins.subset hc)

theorem not_mem_of_all_isWord {name : List Char} (h : name.all isWord = true) {c : Char}
    (hc : isWord c = false) : c ∉ name := by
  intro hm
  have hword := List.all_eq_true.1 h c hm
  simp [hc] at hword

theorem holeRule_eq_some_cases {text : List Char} {hole : Hole} {more : Nat}
    (h : holeRule text = some (hole, more)) :
    hole = .wildcard ∨ ∃ name, hole = .param name ∧ name ≠ [] ∧ name.all isWord = true := by
  unfold holeRule at h
  split at h
  · exact .inl (Prod.ext_iff.1 (Option.some.inj h)).1.symm
  · obtain ⟨⟨name, m⟩, hname, hh⟩ := Option.map_eq_some_iff.1 h
    obtain ⟨rfl, rfl⟩ := Prod.mk.inj hh
    refine .inr ⟨name, rfl, (delimitedRule_eq_some hname).2, ?_⟩
    simp only [paramRule, delimitedRule] at hname
    split at hname
    · obtain ⟨n, hn, hh⟩ := Option.map_eq_some_iff.1 hname
      obtain ⟨rfl, rfl⟩ := Prod.mk.inj hh
      exact all_isWord_take (nameLength?_eq_some hn).2.1
    · simp at hname

theorem wildcardRule_eq_none {c : Char} (h : c ≠ '*') (rest : List Char) :
    wildcardRule (c :: rest) = none := by
  unfold wildcardRule
  split <;> simp_all

theorem holeRule_of_ne_star {c : Char} (h : c ≠ '*') (rest : List Char) :
    holeRule (c :: rest) =
      (paramRule (c :: rest)).map fun (name, more) => (.param name, more) := by
  rw [holeRule, wildcardRule_eq_none h]

theorem ne_star_of_holeRule_eq_none {c : Char} {rest : List Char}
    (h : holeRule (c :: rest) = none) : c ≠ '*' := by
  rintro rfl
  simp [holeRule, wildcardRule] at h

namespace Skeleton

theorem scan_of_none {c : Char} {rest : List Char} (h : holeRule (c :: rest) = none) :
    scan (c :: rest) = (scan rest).addChar c := by
  rw [scan, Text.pieces_of_none h, ofPieces, ← scan]

theorem scan_of_some {c : Char} {rest : List Char} {hole : Hole} {more : Nat}
    (h : holeRule (c :: rest) = some (hole, more)) :
    scan (c :: rest) = (scan (rest.drop more)).addHole hole := by
  rw [scan, Text.pieces_of_some h, ofPieces, ← scan]

/-- What holds of the empty skeleton, and is kept by each character that begins no hole and by each
hole, holds of the skeleton of every text. -/
theorem scan_induction {P : List Char → Skeleton → Prop} (nil : P [] ⟨[], []⟩)
    (char : ∀ c rest, holeRule (c :: rest) = none → P rest (scan rest) →
      P (c :: rest) ((scan rest).addChar c))
    (hole : ∀ c rest hole more, holeRule (c :: rest) = some (hole, more) →
      P (rest.drop more) (scan (rest.drop more)) →
      P (c :: rest) ((scan (rest.drop more)).addHole hole)) (text : List Char) :
    P text (scan text) :=
  Text.pieces_induction (P := fun text pieces => P text (ofPieces pieces)) nil char hole text

theorem cases_of_mem_scan {text : List Char} {hole : Hole} {literal : List Char}
    (h : (hole, literal) ∈ (scan text).holes) :
    hole = .wildcard ∨ ∃ name, hole = .param name ∧ name ≠ [] ∧ name.all isWord = true := by
  revert h
  refine scan_induction (P := fun _ s => (hole, literal) ∈ s.holes → _) (by simp) ?_ ?_ text
  · exact fun c rest _ ih h => ih h
  · intro c rest found more hr ih h
    rcases List.mem_cons.1 h with heq | hmem
    · obtain ⟨rfl, -⟩ := Prod.mk.inj heq
      exact holeRule_eq_some_cases hr
    · exact ih hmem

theorem star_not_mem_of_mem_scan {text literal : List Char} (h : literal ∈ (scan text).segments) :
    '*' ∉ literal := by
  revert h
  refine scan_induction (P := fun _ s => ∀ literal ∈ s.segments, '*' ∉ literal) ?_ ?_ ?_ text
    literal
  · intro literal h
    obtain rfl := List.mem_singleton.1 h
    exact List.not_mem_nil
  · intro c rest hr ih literal h
    rcases List.mem_cons.1 h with rfl | h
    · have := ih (scan rest).lead (List.mem_cons_self ..)
      exact List.not_mem_cons_of_ne_of_not_mem (Ne.symm (ne_star_of_holeRule_eq_none hr)) this
    · exact ih literal (List.mem_cons_of_mem _ h)
  · intro c rest found more _ ih literal h
    rcases List.mem_cons.1 h with rfl | h
    · exact List.not_mem_nil
    · exact ih literal (by simpa [segments, addHole] using h)

/-- A character of a text that fills holes comes from a literal or from a hole. -/
theorem mem_weave_iff {fill : Hole → List Char} {s : Skeleton} {c : Char} :
    c ∈ s.weave fill ↔
      (∃ literal ∈ s.segments, c ∈ literal) ∨ ∃ hole ∈ s.holes, c ∈ fill hole.1 := by
  simp only [weave, segments, List.mem_append, List.mem_flatMap, List.mem_cons, List.mem_map]
  grind

theorem star_mem_iff {text : List Char} :
    '*' ∈ text ↔ ∃ hole ∈ (scan text).holes, hole.1 = .wildcard := by
  rw [← weave_token_scan text, mem_weave_iff, weave_token_scan]
  constructor
  · rintro (⟨literal, hl, hc⟩ | ⟨hole, hh, hc⟩)
    · exact absurd hc (star_not_mem_of_mem_scan hl)
    · refine ⟨hole, hh, ?_⟩
      rcases cases_of_mem_scan hh with hw | ⟨name, hp, -, hname⟩
      · exact hw
      · have hstar : '*' ∈ name := by simpa [hp, Hole.token] using hc
        exact absurd hstar (not_mem_of_all_isWord hname (by decide))
  · rintro ⟨hole, hh, hw⟩
    exact .inr ⟨hole, hh, by simp [hw, Hole.token]⟩

theorem colon_mem_iff {text : List Char} :
    ':' ∈ text ↔ ∃ literal ∈ (scan text).segments, ':' ∈ literal := by
  rw [← weave_token_scan text, mem_weave_iff, weave_token_scan]
  constructor
  · rintro (hl | ⟨hole, hh, hc⟩)
    · exact hl
    · rcases cases_of_mem_scan hh with hw | ⟨name, hp, -, hname⟩
      · simp [hw, Hole.token] at hc
      · have hcolon : ':' ∈ name := by simpa [hp, Hole.token] using hc
        exact absurd hcolon (not_mem_of_all_isWord hname (by decide))
  · exact .inl

end Skeleton

end PathTemplate
