import Mathlib.Data.List.Forall2
import PathTemplate.Skeleton

/-!
# Splitting a path at the literals of a skeleton

A path fits a skeleton whose literals are plain text if it is made of the literals with some piece
of text for each hole in between. A path may be split in several ways; the one whose pieces are the
shortest, earlier pieces first, is the one that counts.

## Main definitions

* `Skeleton.thread`: the text in which the holes are filled with pieces, in order.
* `Skeleton.Splits`: a path is split into the literals and admissible pieces.
* `Skeleton.SplitsFirst`: the lengths of the pieces are the least ones, in lexicographic order.

## Main statements

* `Skeleton.SplitsFirst.unique`: there is at most one such split.
* `Skeleton.holesSplitFirst_cons_iff`: the least split, hole by hole.
-/

namespace PathTemplate

/-- What a hole may stand for: no newline, and some text at all if it has a name. -/
def Hole.Admits : Hole → List Char → Prop
  | wildcard, piece => '\n' ∉ piece
  | param _, piece => '\n' ∉ piece ∧ piece ≠ []

namespace Skeleton

/-- The pieces, each followed by the literal behind its hole. -/
def threadHoles : List (Hole × List Char) → List (List Char) → List Char
  | (_, literal) :: holes, piece :: pieces => piece ++ literal ++ threadHoles holes pieces
  | _, _ => []

/-- The text in which the holes are filled with pieces, in order. -/
def thread (s : Skeleton) (pieces : List (List Char)) : List Char :=
  s.lead ++ threadHoles s.holes pieces

/-- A text is made of a piece for each hole and the literals behind the holes. -/
def HolesSplit (holes : List (Hole × List Char)) (text : List Char) (pieces : List (List Char)) :
    Prop :=
  List.Forall₂ (fun hole piece => hole.1.Admits piece) holes pieces ∧
    threadHoles holes pieces = text

/-- A path is made of the literals with a piece for each hole in between. -/
def Splits (s : Skeleton) (path : List Char) (pieces : List (List Char)) : Prop :=
  List.Forall₂ (fun hole piece => hole.1.Admits piece) s.holes pieces ∧ s.thread pieces = path

/-- A split of which the lengths are the least in lexicographic order. -/
def HolesSplitFirst (holes : List (Hole × List Char)) (text : List Char)
    (pieces : List (List Char)) : Prop :=
  HolesSplit holes text pieces ∧ ∀ others, HolesSplit holes text others →
    ¬List.Lex (· < ·) (others.map List.length) (pieces.map List.length)

def SplitsFirst (s : Skeleton) (path : List Char) (pieces : List (List Char)) : Prop :=
  s.Splits path pieces ∧ ∀ others, s.Splits path others →
    ¬List.Lex (· < ·) (others.map List.length) (pieces.map List.length)

/-! ## Hole by hole -/

theorem holesSplit_nil_iff {text : List Char} {pieces : List (List Char)} :
    HolesSplit [] text pieces ↔ pieces = [] ∧ text = [] := by
  constructor
  · rintro ⟨hf, ht⟩
    obtain rfl := List.forall₂_nil_left_iff.1 hf
    exact ⟨rfl, ht.symm⟩
  · rintro ⟨rfl, rfl⟩
    exact ⟨.nil, rfl⟩

theorem holesSplit_cons_iff {hole : Hole} {literal : List Char} {holes : List (Hole × List Char)}
    {text : List Char} {pieces : List (List Char)} :
    HolesSplit ((hole, literal) :: holes) text pieces ↔
      ∃ piece rest others, pieces = piece :: others ∧ text = piece ++ literal ++ rest ∧
        hole.Admits piece ∧ HolesSplit holes rest others := by
  constructor
  · rintro ⟨hf, ht⟩
    obtain ⟨piece, others, hp, ho, rfl⟩ := List.forall₂_cons_left_iff.1 hf
    exact ⟨piece, threadHoles holes others, others, rfl, ht.symm, hp, ho, rfl⟩
  · rintro ⟨piece, rest, others, rfl, rfl, hp, hf, rfl⟩
    exact ⟨.cons hp hf, rfl⟩

theorem append_literal_inj {piece other literal rest rest' : List Char}
    (h : piece ++ literal ++ rest = other ++ literal ++ rest')
    (hl : piece.length = other.length) : piece = other ∧ rest = rest' := by
  obtain ⟨hp, rfl⟩ := List.append_inj h (by simp [hl])
  exact ⟨List.append_cancel_right hp, rfl⟩

theorem HolesSplit.eq_of_lengths {holes : List (Hole × List Char)} {text : List Char}
    {pieces others : List (List Char)} (h : HolesSplit holes text pieces)
    (h' : HolesSplit holes text others)
    (hl : pieces.map List.length = others.map List.length) : pieces = others := by
  induction holes generalizing text pieces others with
  | nil => rw [(holesSplit_nil_iff.1 h).1, (holesSplit_nil_iff.1 h').1]
  | cons hole holes ih =>
    obtain ⟨p, rest, ps, rfl, rfl, -, hs⟩ := holesSplit_cons_iff.1 h
    obtain ⟨q, rest', qs, rfl, ht, -, hs'⟩ := holesSplit_cons_iff.1 h'
    obtain ⟨hpq, hls⟩ := List.cons.inj hl
    obtain ⟨rfl, rfl⟩ := append_literal_inj ht hpq
    rw [ih hs hs' hls]

theorem HolesSplitFirst.unique {holes : List (Hole × List Char)} {text : List Char}
    {pieces others : List (List Char)} (h : HolesSplitFirst holes text pieces)
    (h' : HolesSplitFirst holes text others) : pieces = others :=
  h.1.eq_of_lengths h'.1 (List.le_antisymm (h.2 _ h'.1) (h'.2 _ h.1))

theorem holesSplitFirst_nil_iff {text : List Char} {pieces : List (List Char)} :
    HolesSplitFirst [] text pieces ↔ pieces = [] ∧ text = [] := by
  constructor
  · exact fun h => holesSplit_nil_iff.1 h.1
  · rintro ⟨rfl, rfl⟩
    refine ⟨holesSplit_nil_iff.2 ⟨rfl, rfl⟩, fun others h => ?_⟩
    rw [(holesSplit_nil_iff.1 h).1]
    exact List.not_lex_nil

/-- The first piece of the least split is the shortest behind which the rest can be split at all,
and the other pieces are the least split of the rest. -/
theorem holesSplitFirst_cons_iff {hole : Hole} {literal : List Char}
    {holes : List (Hole × List Char)} {text piece : List Char} {pieces : List (List Char)} :
    HolesSplitFirst ((hole, literal) :: holes) text (piece :: pieces) ↔
      hole.Admits piece ∧ (∃ rest, text = piece ++ literal ++ rest ∧
        HolesSplitFirst holes rest pieces) ∧
      ∀ shorter rest others, shorter.length < piece.length → hole.Admits shorter →
        text = shorter ++ literal ++ rest → ¬HolesSplit holes rest others := by
  constructor
  · rintro ⟨hs, hleast⟩
    obtain ⟨_, rest, _, hcons, rfl, hp, hs⟩ := holesSplit_cons_iff.1 hs
    obtain ⟨rfl, rfl⟩ := List.cons.inj hcons
    refine ⟨hp, ⟨rest, rfl, hs, fun others ho => ?_⟩, fun shorter rest' others hlt ha ht ho => ?_⟩
    · have hle := hleast (piece :: others) (holesSplit_cons_iff.2 ⟨_, _, _, rfl, rfl, hp, ho⟩)
      exact fun hlex => hle (.cons hlex)
    · have hle := hleast (shorter :: others) (holesSplit_cons_iff.2 ⟨_, _, _, rfl, ht, ha, ho⟩)
      exact hle (.rel hlt)
  · rintro ⟨hp, ⟨rest, rfl, hs⟩, hshort⟩
    refine ⟨holesSplit_cons_iff.2 ⟨_, _, _, rfl, rfl, hp, hs.1⟩, fun others ho => ?_⟩
    obtain ⟨other, rest', others, rfl, ht, ha, ho⟩ := holesSplit_cons_iff.1 ho
    intro hlex
    rcases List.cons_lex_cons_iff.1 hlex with hlt | ⟨heq, hrest⟩
    · exact hshort _ _ _ hlt ha ht ho
    · obtain ⟨rfl, rfl⟩ := append_literal_inj ht heq.symm
      exact hs.2 _ ho hrest

/-! ## Whole paths -/

theorem splits_iff {s : Skeleton} {path : List Char} {pieces : List (List Char)} :
    s.Splits path pieces ↔ ∃ text, path = s.lead ++ text ∧ HolesSplit s.holes text pieces := by
  constructor
  · rintro ⟨hf, rfl⟩
    exact ⟨_, rfl, hf, rfl⟩
  · rintro ⟨_, rfl, hf, rfl⟩
    exact ⟨hf, rfl⟩

theorem splits_lead_append_iff {s : Skeleton} {text : List Char} {pieces : List (List Char)} :
    s.Splits (s.lead ++ text) pieces ↔ HolesSplit s.holes text pieces := by
  rw [splits_iff]
  constructor
  · rintro ⟨_, ht, hs⟩
    rwa [List.append_cancel_left ht]
  · exact fun hs => ⟨_, rfl, hs⟩

theorem splitsFirst_lead_append_iff {s : Skeleton} {text : List Char}
    {pieces : List (List Char)} :
    s.SplitsFirst (s.lead ++ text) pieces ↔ HolesSplitFirst s.holes text pieces := by
  simp only [SplitsFirst, HolesSplitFirst, splits_lead_append_iff]

theorem SplitsFirst.unique {s : Skeleton} {path : List Char} {pieces others : List (List Char)}
    (h : s.SplitsFirst path pieces) (h' : s.SplitsFirst path others) : pieces = others := by
  obtain ⟨text, rfl, -⟩ := splits_iff.1 h.1
  exact (splitsFirst_lead_append_iff.1 h).unique (splitsFirst_lead_append_iff.1 h')

end Skeleton

end PathTemplate
