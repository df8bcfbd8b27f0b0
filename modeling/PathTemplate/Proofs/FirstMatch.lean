import PathTemplate.Proofs.Split
import PathTemplate.Template

/-!
# The first match of a sequence of literals and groups

The expression of a template whose literals are plain text tests the characters of the literals,
and in between has a group for each hole that takes as few characters as it can. Going back from a
later failure makes an earlier group longer, one character at a time, so the first match is the
split of the text with the least lengths.

## Main definitions

* `Hole.body`: what the group of a hole repeats.
* `holeItems`: the items of the expression behind the first literal.
* `State.past`, `State.passHoles`: the state behind a stretch of text, and behind all holes.
* `skeletonBody`: the expression of a skeleton of which the literals are plain text.

## Main statements

* `fewest_any_eq_some`, `fewest_any_eq_none`: a lazy repetition of a dot takes the shortest text behind
  which the rest matches.
* `run_holeItems_eq_some`, `run_holeItems_eq_none`: the first match is the least split.
* `State.captures_passHoles`: the groups of that match hold the pieces.
* `fullMatch?_eq_some`, `fullMatch?_isSome`: both, for the expression of a whole skeleton.
-/

namespace PathTemplate

open Regex (Expr Rest State CharTest Mark)

/-- The least number of characters that a hole stands for. -/
def Hole.least : Hole → Nat
  | wildcard => 0
  | param _ => 1

/-- What the group of a hole holds: any characters but newlines, as few as possible. -/
def Hole.body (hole : Hole) : Expr :=
  .ofItems [.iterate .lazy hole.least none (.char .any)]

theorem Hole.admits_iff {hole : Hole} {piece : List Char} :
    hole.Admits piece ↔ '\n' ∉ piece ∧ hole.least ≤ piece.length := by
  cases hole with
  | wildcard => simp [Admits, least]
  | param _ => simp [Admits, least, Nat.one_le_iff_ne_zero]

namespace Regex

def literalItems (text : List Char) : List Expr :=
  text.map fun c => .literal c.toNat

/-- The items of an expression behind its first literal: a group for each hole, numbered from
`count + 1`, the literal behind it, and the anchor for the end. -/
def holeItems (count : Nat) : List (Hole × List Char) → List Expr
  | [] => [.anchor .lastLineEnd]
  | (hole, literal) :: holes =>
    .group (count + 1) hole.body :: (literalItems literal ++ holeItems (count + 1) holes)

namespace State

def past (s : State) (text : List Char) : State :=
  { s with
    position := s.position + text.length
    before := text.reverse ++ s.before
    after := s.after.drop text.length }

/-- The state behind a group that has taken the next characters. -/
def take (s : State) (number : Nat) (piece : List Char) : State :=
  ((s.openGroup number).past piece).closeGroup number

/-- The state behind holes that have taken pieces, and the literals that follow them. -/
def passHoles (count : Nat) : List (Hole × List Char) → List (List Char) → State → State
  | (_, literal) :: holes, piece :: pieces, s =>
    passHoles (count + 1) holes pieces ((s.take (count + 1) piece).past literal)
  | _, _, s => s

@[simp] theorem past_nil (s : State) : s.past [] = s := rfl

@[simp] theorem past_after (s : State) (text : List Char) :
    (s.past text).after = s.after.drop text.length := rfl

@[simp] theorem past_position (s : State) (text : List Char) :
    (s.past text).position = s.position + text.length := rfl

@[simp] theorem openGroup_after (s : State) (number : Nat) :
    (s.openGroup number).after = s.after := rfl

@[simp] theorem closeGroup_after (s : State) (number : Nat) :
    (s.closeGroup number).after = s.after := rfl

@[simp] theorem take_after (s : State) (number : Nat) (piece : List Char) :
    (s.take number piece).after = s.after.drop piece.length := rfl

theorem past_past (s : State) (text more : List Char) :
    (s.past text).past more = s.past (text ++ more) := by
  simp [past, Nat.add_assoc]

theorem advance?_nil {s : State} (h : s.after = []) (test : CharTest) : s.advance? test = none := by
  simp [advance?, h]

theorem advance?_cons {s : State} {c : Char} {rest : List Char} (h : s.after = c :: rest)
    (test : CharTest) : s.advance? test = if test.accepts c then some (s.past [c]) else none := by
  simp [advance?, h, past]

end State

/-! ## Literals -/

theorem accepts_code_iff {c d : Char} : (CharTest.code c.toNat).accepts d = true ↔ d = c := by
  simp [CharTest.accepts, ← Char.toNat_inj]

/-- The tests of a literal go past it if it is there. -/
theorem run_literalItems (text : List Char) (items : List Expr) (k : Rest) (s : State) :
    (Expr.ofItems (literalItems text ++ items)).run k s =
      if text <+: s.after then (Expr.ofItems items).run k (s.past text) else none := by
  induction text generalizing s with
  | nil => simp [literalItems]
  | cons c text ih =>
    simp only [literalItems, List.map_cons, List.cons_append, Expr.ofItems_cons, Expr.run_seq]
    rw [Expr.literal, Expr.run_char]
    cases ha : s.after with
    | nil => simp [State.advance?_nil ha]
    | cons d rest =>
      rw [State.advance?_cons ha]
      by_cases hd : d = c
      · subst hd
        have hpast : (s.past [d]).after = rest := by simp [ha]
        rw [if_pos (accepts_code_iff.2 rfl), Option.bind_some]
        rw [← literalItems, ih, hpast, State.past_past]
        simp
      · have : ¬(c :: text <+: d :: rest) := by
          simp [Ne.symm hd]
        rw [if_neg (by simpa [accepts_code_iff] using hd), if_neg this]
        rfl

/-! ## Lazy groups -/

theorem accepts_any_iff {c : Char} : CharTest.any.accepts c = true ↔ c ≠ '\n' := by
  simp [CharTest.accepts]

theorem run_any_eq_some {k : Rest} {s r : State} (h : (Expr.char .any).run k s = some r) :
    ∃ c rest, s.after = c :: rest ∧ c ≠ '\n' ∧ k (s.past [c]) = some r := by
  rw [Expr.run_char] at h
  cases ha : s.after with
  | nil => simp [State.advance?_nil ha] at h
  | cons c rest =>
    rw [State.advance?_cons ha] at h
    split at h
    · next hc => exact ⟨c, rest, rfl, accepts_any_iff.1 hc, h⟩
    · simp at h

theorem run_any_cons {s : State} {c : Char} {rest : List Char} (ha : s.after = c :: rest)
    (hc : c ≠ '\n') (k : Rest) : (Expr.char .any).run k s = k (s.past [c]) := by
  rw [Expr.run_char, State.advance?_cons ha, if_pos (accepts_any_iff.2 hc)]
  rfl

theorem rounds_succ (round : Rest → Rest) (n : Nat) (k : Rest) (s : State) :
    rounds round (n + 1) k s = round (rounds round n k) s := rfl

theorem rounds_any_eq_some {k : Rest} {n : Nat} {s r : State}
    (h : rounds (Expr.char .any).run n k s = some r) :
    ∃ text, text <+: s.after ∧ '\n' ∉ text ∧ text.length = n ∧ k (s.past text) = some r := by
  induction n generalizing s with
  | zero => exact ⟨[], by simp, by simp, rfl, h⟩
  | succ n ih =>
    obtain ⟨c, rest, ha, hc, hk⟩ := run_any_eq_some h
    obtain ⟨text, hp, hn, hl, hr⟩ := ih hk
    rw [State.past_past] at hr
    refine ⟨c :: text, ?_, by simp [Ne.symm hc, hn], by simp [hl], hr⟩
    simpa [ha] using hp

theorem rounds_any_prefix {k : Rest} {text : List Char} {s : State} (hp : text <+: s.after)
    (hn : '\n' ∉ text) :
    rounds (Expr.char .any).run text.length k s = k (s.past text) := by
  induction text generalizing s with
  | nil => rfl
  | cons c text ih =>
    obtain ⟨rest, hr⟩ := hp
    simp only [List.mem_cons, not_or] at hn
    have ha : s.after = c :: (text ++ rest) := by simpa using hr.symm
    rw [List.length_cons, rounds_succ, run_any_cons ha (Ne.symm hn.1), ih (by simp [ha]) hn.2,
      State.past_past, List.singleton_append]

/-- A lazy repetition of a dot takes the shortest text behind which the rest matches. -/
theorem fewest_any_eq_some {k : Rest} {limit : Nat} {s r : State}
    (h : fewest (Expr.char .any).run k limit s = some r) :
    ∃ text, text <+: s.after ∧ '\n' ∉ text ∧ k (s.past text) = some r ∧
      ∀ shorter, shorter <+: s.after → shorter.length < text.length → k (s.past shorter) = none := by
  induction limit generalizing s with
  | zero => exact ⟨[], by simp, by simp, h, by simp⟩
  | succ limit ih =>
    rw [fewest] at h
    split at h
    · next result hk =>
      obtain rfl := Option.some.inj h
      exact ⟨[], by simp, by simp, hk, by simp⟩
    · next hk =>
      obtain ⟨c, rest, ha, hc, h⟩ := run_any_eq_some h
      rw [if_neg (by simp)] at h
      obtain ⟨text, hp, hn, hr, hshort⟩ := ih h
      rw [State.past_past] at hr
      refine ⟨c :: text, by simpa [ha] using hp, by simp [Ne.symm hc, hn], hr, ?_⟩
      intro shorter hs hl
      cases shorter with
      | nil => exact hk
      | cons d shorter =>
        rw [ha, List.cons_prefix_cons] at hs
        obtain ⟨rfl, hs⟩ := hs
        have := hshort shorter (by simpa [ha] using hs) (by simpa using hl)
        rwa [State.past_past] at this

/-- If a lazy repetition of a dot fails, the rest matches behind no text that it could take. -/
theorem fewest_any_eq_none {k : Rest} {limit : Nat} {s : State}
    (h : fewest (Expr.char .any).run k limit s = none) {text : List Char} (hp : text <+: s.after)
    (hn : '\n' ∉ text) (hl : text.length ≤ limit) : k (s.past text) = none := by
  induction text generalizing s limit with
  | nil =>
    cases limit with
    | zero => exact h
    | succ limit =>
      rw [fewest] at h
      split at h
      · simp at h
      · next hk => exact hk
  | cons c text ih =>
    obtain ⟨rest, hr⟩ := hp
    have ha : s.after = c :: (text ++ rest) := by simpa using hr.symm
    simp only [List.mem_cons, not_or] at hn
    cases limit with
    | zero => simp at hl
    | succ limit =>
      rw [fewest] at h
      split at h
      · simp at h
      · rw [run_any_cons ha (Ne.symm hn.1), if_neg (by simp)] at h
        have := ih h (by simp [ha]) hn.2 (by simpa using hl)
        rwa [State.past_past] at this

theorem run_group_body (number : Nat) (hole : Hole) (k : Rest) (s : State) :
    (Expr.group number hole.body).run k s =
      rounds (Expr.char .any).run hole.least
        (fun t => fewest (Expr.char .any).run (fun u => k (u.closeGroup number))
          (t.after.length + 1) t)
        (s.openGroup number) := rfl

theorem run_group_eq_some {number : Nat} {hole : Hole} {k : Rest} {s r : State}
    (h : (Expr.group number hole.body).run k s = some r) :
    ∃ piece, piece <+: s.after ∧ hole.Admits piece ∧ k (s.take number piece) = some r ∧
      ∀ shorter, shorter <+: s.after → shorter.length < piece.length → hole.Admits shorter →
        k (s.take number shorter) = none := by
  rw [run_group_body] at h
  obtain ⟨first, ⟨rest, hr⟩, hn, hl, h⟩ := rounds_any_eq_some h
  obtain ⟨second, hp, hn', hk, hshort⟩ := fewest_any_eq_some h
  have ha : s.after = first ++ rest := hr.symm
  have hpast : ((s.openGroup number).past first).after = rest := by simp [ha]
  rw [hpast] at hp hshort
  rw [State.past_past] at hk
  refine ⟨first ++ second, ?_, ?_, hk, fun shorter hs hlt had => ?_⟩
  · simpa [ha] using hp
  · simp [Hole.admits_iff, hn, hn', hl]
  · have hle : first.length ≤ shorter.length := by
      rw [hl]; exact (Hole.admits_iff.1 had).2
    obtain ⟨tail, rfl⟩ : first <+: shorter :=
      List.prefix_of_prefix_length_le ⟨rest, ha.symm⟩ hs hle
    have := hshort tail (by simpa [ha] using hs) (by simpa using hlt)
    rwa [State.past_past] at this

theorem run_group_eq_none {number : Nat} {hole : Hole} {k : Rest} {s : State}
    (h : (Expr.group number hole.body).run k s = none) {piece : List Char}
    (hp : piece <+: s.after) (had : hole.Admits piece) : k (s.take number piece) = none := by
  obtain ⟨hn, hl⟩ := Hole.admits_iff.1 had
  obtain ⟨first, second, rfl, hf⟩ : ∃ first second, piece = first ++ second ∧
      first.length = hole.least :=
    ⟨piece.take hole.least, piece.drop hole.least, by simp, by simp [hl]⟩
  simp only [List.mem_append, not_or] at hn
  obtain ⟨rest, hr⟩ := hp
  have ha : s.after = first ++ (second ++ rest) := by simp [← hr]
  rw [run_group_body, ← hf, rounds_any_prefix (by simp [ha]) hn.1] at h
  have := fewest_any_eq_none h (show second <+: _ by simp [ha]) hn.2 (by simp [ha]; omega)
  rwa [State.past_past] at this

/-! ## All holes -/

theorem run_lastLineEnd_atEnd (s : State) :
    (Expr.ofItems [.anchor .lastLineEnd]).run atEnd s =
      if s.after = [] then some s else none := by
  cases ha : s.after <;> simp [Expr.run_seq, Expr.run_anchor, Expr.run_empty, Anchor.holds, atEnd, ha]

theorem run_holeItems_cons (count : Nat) (hole : Hole) (literal : List Char)
    (holes : List (Hole × List Char)) (k : Rest) :
    (Expr.ofItems (holeItems count ((hole, literal) :: holes))).run k =
      (Expr.group (count + 1) hole.body).run
        ((Expr.ofItems (literalItems literal ++ holeItems (count + 1) holes)).run k) := rfl

/-- If the rest can be split at all, the items of all holes match. -/
theorem run_holeItems_eq_none {holes : List (Hole × List Char)} {count : Nat} {s : State}
    (h : (Expr.ofItems (holeItems count holes)).run atEnd s = none) (pieces : List (List Char)) :
    ¬Skeleton.HolesSplit holes s.after pieces := by
  induction holes generalizing count s pieces with
  | nil =>
    intro hs
    rw [holeItems, run_lastLineEnd_atEnd, if_pos (Skeleton.holesSplit_nil_iff.1 hs).2] at h
    simp at h
  | cons hole holes ih =>
    intro hs
    obtain ⟨piece, rest, others, rfl, ha, had, hs⟩ := Skeleton.holesSplit_cons_iff.1 hs
    rw [run_holeItems_cons] at h
    have hk := run_group_eq_none h (show piece <+: s.after by simp [ha]) had
    rw [run_literalItems, if_pos (by simp [ha])] at hk
    exact ih hk others (by simpa [ha] using hs)

/-- The first match of the items of all holes is the least split of the rest of the text. -/
theorem run_holeItems_eq_some {holes : List (Hole × List Char)} {count : Nat} {s r : State}
    (h : (Expr.ofItems (holeItems count holes)).run atEnd s = some r) :
    ∃ pieces, Skeleton.HolesSplitFirst holes s.after pieces ∧
      r = s.passHoles count holes pieces := by
  induction holes generalizing count s with
  | nil =>
    rw [holeItems, run_lastLineEnd_atEnd] at h
    split at h
    · next ha => exact ⟨[], Skeleton.holesSplitFirst_nil_iff.2 ⟨rfl, ha⟩, (Option.some.inj h).symm⟩
    · simp at h
  | cons hole holes ih =>
    obtain ⟨hole, literal⟩ := hole
    rw [run_holeItems_cons] at h
    obtain ⟨piece, ⟨text, ht⟩, had, hk, hshort⟩ := run_group_eq_some h
    rw [run_literalItems] at hk
    split at hk
    · next hlit =>
      obtain ⟨rest, hrest⟩ := hlit
      obtain ⟨pieces, hfirst, rfl⟩ := ih hk
      have htext : text = literal ++ rest := by simpa [← ht] using hrest.symm
      have hafter : (((s.take (count + 1) piece).past literal).after) = rest := by
        simp [← ht, htext]
      rw [hafter] at hfirst
      refine ⟨piece :: pieces, Skeleton.holesSplitFirst_cons_iff.2
        ⟨had, ⟨rest, by simp [← ht, htext], hfirst⟩, ?_⟩, rfl⟩
      intro shorter rest' others hlt hadm ha hs
      have hk := hshort shorter (by simp [ha]) hlt hadm
      rw [run_literalItems, if_pos (by simp [ha])] at hk
      exact run_holeItems_eq_none hk others (by simpa [ha] using hs)
    · simp at hk

/-! ## The groups of the first match -/

namespace State

def text (s : State) : List Char :=
  s.before.reverse ++ s.after

/-- The position counts the characters in front of the place. -/
def Placed (s : State) : Prop :=
  s.position = s.before.length

theorem text_past {s : State} {text : List Char} (h : text <+: s.after) :
    (s.past text).text = s.text := by
  obtain ⟨rest, hr⟩ := h
  simp [State.text, past, ← hr]

theorem text_take {s : State} {piece : List Char} (h : piece <+: s.after) (number : Nat) :
    (s.take number piece).text = s.text :=
  text_past (s := s.openGroup number) h

theorem Placed.past {s : State} (h : s.Placed) (text : List Char) : (s.past text).Placed := by
  simp only [Placed, State.past, List.length_append, List.length_reverse] at *
  omega

theorem Placed.take {s : State} (h : s.Placed) (number : Nat) (piece : List Char) :
    (s.take number piece).Placed :=
  Placed.past (s := s.openGroup number) h piece

theorem sliceOf?_congr {s t : State} (h : s.text = t.text) : s.sliceOf? = t.sliceOf? := by
  funext m
  simp only [text] at h
  simp only [sliceOf?, slice, h]

theorem sliceOf?_piece {s : State} (h : s.Placed) {piece : List Char} (hp : piece <+: s.after) :
    s.sliceOf? ⟨some s.position, some (s.position + piece.length)⟩ = some piece := by
  obtain ⟨rest, hr⟩ := hp
  have hpos : s.position = s.before.reverse.length := h.trans List.length_reverse.symm
  simp [sliceOf?, Mark.span?, slice, ← hr, hpos]

theorem modify_length_append {α : Type} (f : α → α) (xs ys : List α) (y : α) :
    (xs ++ y :: ys).modify xs.length f = xs ++ f y :: ys := by
  induction xs with
  | nil => rfl
  | cons x xs ih => simp [ih]

theorem marks_take (s : State) {marks : List Mark} {mark : Mark} {rest : List Mark}
    (h : s.marks = marks ++ mark :: rest) (piece : List Char) :
    (s.take (marks.length + 1) piece).marks =
      marks ++ ⟨some s.position, some (s.position + piece.length)⟩ :: rest := by
  simp [take, openGroup, closeGroup, h, past, modify_length_append]

theorem captures_passHoles (marks : List Mark) {holes : List (Hole × List Char)}
    {pieces : List (List Char)} {s : State} (hsplit : Skeleton.HolesSplit holes s.after pieces)
    (hplaced : s.Placed) (hmarks : s.marks = marks ++ Marks.none holes.length) :
    (s.passHoles marks.length holes pieces).captures =
      marks.map s.sliceOf? ++ pieces.map some := by
  induction holes generalizing s marks pieces with
  | nil =>
    obtain ⟨rfl, -⟩ := Skeleton.holesSplit_nil_iff.1 hsplit
    simp [passHoles, captures, hmarks, Marks.none]
  | cons hole holes ih =>
    obtain ⟨hole, literal⟩ := hole
    obtain ⟨piece, rest, others, rfl, ha, -, hsplit⟩ := Skeleton.holesSplit_cons_iff.1 hsplit
    have hpiece : piece <+: s.after := by simp [ha]
    have hliteral : literal <+: (s.take (marks.length + 1) piece).after := by simp [ha]
    let t := (s.take (marks.length + 1) piece).past literal
    let mark : Mark := ⟨some s.position, some (s.position + piece.length)⟩
    have htext : t.text = s.text := (text_past hliteral).trans (text_take hpiece _)
    have htmarks : t.marks = (marks ++ [mark]) ++ Marks.none holes.length := by
      rw [List.append_assoc]
      exact marks_take s hmarks piece
    have htafter : t.after = rest := by simp [t, ha]
    have := ih (marks ++ [mark]) (s := t) (by rwa [htafter]) ((hplaced.take _ piece).past literal)
      htmarks
    rw [List.length_append, List.length_singleton, sliceOf?_congr htext] at this
    rw [passHoles, this, List.map_append, List.map_singleton, sliceOf?_piece hplaced hpiece]
    simp

end State

def skeletonBody (s : Skeleton) : Expr :=
  .ofItems (literalItems s.lead ++ holeItems 0 s.holes)

theorem fullMatch?_eq_some {s : Skeleton} {source path : List Char}
    {captures : List (Option (List Char))}
    (h : Regex.fullMatch? ⟨source, s.holes.length, skeletonBody s⟩ path = some captures) :
    ∃ pieces, s.SplitsFirst path pieces ∧ captures = pieces.map some := by
  obtain ⟨r, hr, rfl⟩ := Option.map_eq_some_iff.1 h
  rw [skeletonBody, run_literalItems] at hr
  split at hr
  · next hlead =>
    obtain ⟨text, htext⟩ := hlead
    have hpath : path = s.lead ++ text := htext.symm
    obtain ⟨pieces, hfirst, rfl⟩ := run_holeItems_eq_some hr
    have hafter : ((State.start path s.holes.length).past s.lead).after = text := by
      simp [State.start, hpath]
    rw [hafter] at hfirst
    refine ⟨pieces, hpath ▸ Skeleton.splitsFirst_lead_append_iff.2 hfirst, ?_⟩
    exact State.captures_passHoles [] (by rw [hafter]; exact hfirst.1)
      (State.Placed.past (s := State.start path s.holes.length) rfl s.lead) rfl
  · simp at hr

theorem fullMatch?_isSome {s : Skeleton} {source path : List Char} {pieces : List (List Char)}
    (h : s.Splits path pieces) :
    (Regex.fullMatch? ⟨source, s.holes.length, skeletonBody s⟩ path).isSome := by
  obtain ⟨text, rfl, hs⟩ := Skeleton.splits_iff.1 h
  rw [Regex.fullMatch?, Option.isSome_map, Option.isSome_iff_ne_none]
  intro hnone
  rw [skeletonBody, run_literalItems, if_pos (by simp [State.start])] at hnone
  exact run_holeItems_eq_none hnone pieces (by simpa [State.start] using hs)

end Regex

end PathTemplate
