import PathTemplate.Text.Scan
import PathTemplate.Text.Word

/-!
# Holes and skeletons

A template is literal text with holes. A star is a hole without a name, and word characters in
braces are one with a name; all other text is literal, braces included.

## Main definitions

* `Hole`: the holes, with `Hole.token`, how one is written.
* `delimitedRule`: a name between two delimiters, as a rule for scanning.
* `holeRule`: the rule for holes.
* `Skeleton`: literal text and holes in turn.
* `Skeleton.scan`: the skeleton of a template's text.
* `Skeleton.weave`: the text that arises when each hole is filled.

## Main statements

* `Skeleton.length_segments`: there is one literal more than there are holes.
* `Skeleton.weave_token_scan`: writing each hole as it was written gives the text back.
-/

namespace PathTemplate

open Text (Rule Piece isWord)

/-- A place in a template that stands for a piece of a path. -/
inductive Hole where
  | wildcard
  | param (name : List Char)
deriving DecidableEq, Repr

namespace Hole

def token : Hole → List Char
  | wildcard => ['*']
  | param name => '{' :: name ++ ['}']

/-- The name of a hole, which is empty for a wildcard. -/
def name : Hole → List Char
  | wildcard => []
  | param name => name

def name? : Hole → Option (List Char)
  | wildcard => none
  | param name => some name

end Hole

def wildcardRule : Rule Unit
  | '*' :: _ => some ((), 0)
  | _ => none

/-- The length of the longest name at the beginning of a text that the delimiter follows, if it has
at most `limit` characters. -/
def nameLength? (after text : List Char) : (limit : Nat) → Option Nat
  | 0 => none
  | n + 1 => if after.isPrefixOf (text.drop (n + 1)) then some (n + 1) else nameLength? after text n

/-- A name between two delimiters. It is as long as the closing delimiter allows, since that may be
made of word characters itself. -/
def delimitedRule (opening closing : List Char) : Rule (List Char) := fun text =>
  if opening.isPrefixOf text then
    let rest := text.drop opening.length
    (nameLength? closing rest (rest.takeWhile isWord).length).map fun n =>
      (rest.take n, opening.length + n + closing.length - 1)
  else none

def paramRule : Rule (List Char) :=
  delimitedRule ['{'] ['}']

def holeRule : Rule Hole := fun text =>
  match wildcardRule text with
  | some (_, more) => some (.wildcard, more)
  | none => (paramRule text).map fun (name, more) => (.param name, more)

theorem nameLength?_eq_some {after text : List Char} {limit n : Nat}
    (h : nameLength? after text limit = some n) : 1 ≤ n ∧ n ≤ limit ∧ after <+: text.drop n := by
  induction limit with
  | zero => simp [nameLength?] at h
  | succ k ih =>
    simp only [nameLength?] at h
    split at h
    · next hp =>
      obtain rfl := Option.some.inj h
      exact ⟨by omega, by omega, by simpa using hp⟩
    · have := ih h
      exact ⟨this.1, by omega, this.2.2⟩

theorem delimitedRule_eq_some {opening closing text name : List Char} {more : Nat}
    (h : delimitedRule opening closing text = some (name, more)) :
    text.take (more + 1) = opening ++ name ++ closing ∧ name ≠ [] := by
  simp only [delimitedRule] at h
  split at h
  · next hp =>
    obtain ⟨rest, rfl⟩ := List.isPrefixOf_iff_prefix.1 hp
    simp only [List.drop_left, Option.map_eq_some_iff, Prod.mk.injEq] at h
    obtain ⟨n, hn, rfl, rfl⟩ := h
    obtain ⟨h1, h2, tail, ht⟩ := nameLength?_eq_some hn
    have hlen : n ≤ rest.length := Nat.le_trans h2 (List.takeWhile_prefix _).length_le
    have hr : rest.take n ++ (closing ++ tail) = rest := by rw [ht]; simp
    have hl : (rest.take n).length = n := by simp [hlen]
    constructor
    · have e : opening.length + n + closing.length - 1 + 1 =
          (opening ++ rest.take n ++ closing).length := by
        simp [hlen]
        omega
      have hw : opening ++ rest = (opening ++ rest.take n ++ closing) ++ tail := by
        rw [List.append_assoc, List.append_assoc, hr]
      rw [e, hw, List.take_left]
    · intro h0
      rw [h0] at hl
      simp at hl
      omega
  · simp at h

theorem holeRule_eq_some {c : Char} {rest : List Char} {hole : Hole} {more : Nat}
    (h : holeRule (c :: rest) = some (hole, more)) : c :: rest.take more = hole.token := by
  unfold holeRule at h
  split at h
  · next _ m hw =>
    simp only [Option.some.injEq, Prod.mk.injEq] at h
    obtain ⟨rfl, rfl⟩ := h
    unfold wildcardRule at hw
    split at hw
    · simp_all [Hole.token]
    · simp at hw
  · simp only [Option.map_eq_some_iff, Prod.mk.injEq, Prod.exists] at h
    obtain ⟨name, m, hp, rfl, rfl⟩ := h
    have := (delimitedRule_eq_some hp).1
    simpa [Hole.token] using this

/-- Literal text and holes in turn: the text in front of the first hole, and each hole with the
text behind it. -/
structure Skeleton where
  lead : List Char
  holes : List (Hole × List Char)
deriving DecidableEq, Repr

namespace Skeleton

def addChar (c : Char) (s : Skeleton) : Skeleton :=
  ⟨c :: s.lead, s.holes⟩

def addHole (hole : Hole) (s : Skeleton) : Skeleton :=
  ⟨[], (hole, s.lead) :: s.holes⟩

def ofPieces : List (Piece Hole) → Skeleton
  | [] => ⟨[], []⟩
  | .plain c :: rest => (ofPieces rest).addChar c
  | .token hole _ :: rest => (ofPieces rest).addHole hole

def scan (text : List Char) : Skeleton :=
  ofPieces (Text.pieces holeRule text)

def names (s : Skeleton) : List (List Char) :=
  s.holes.map (·.1.name)

/-- The literals in order, empty ones included. -/
def segments (s : Skeleton) : List (List Char) :=
  s.lead :: s.holes.map (·.2)

/-- The text in which each hole is filled with what it stands for. -/
def weave (fill : Hole → List Char) (s : Skeleton) : List Char :=
  s.lead ++ s.holes.flatMap fun (hole, literal) => fill hole ++ literal

theorem length_segments (s : Skeleton) : s.segments.length = s.names.length + 1 := by
  simp [segments, names]

@[simp] theorem weave_nil (fill : Hole → List Char) (lead : List Char) :
    weave fill ⟨lead, []⟩ = lead := by
  simp [weave]

theorem weave_cons (fill : Hole → List Char) (lead : List Char) (hole : Hole)
    (literal : List Char) (holes : List (Hole × List Char)) :
    weave fill ⟨lead, (hole, literal) :: holes⟩ = lead ++ fill hole ++ weave fill ⟨literal, holes⟩ := by
  simp [weave]

@[simp] theorem weave_addChar (fill : Hole → List Char) (c : Char) (s : Skeleton) :
    (s.addChar c).weave fill = c :: s.weave fill := rfl

@[simp] theorem weave_addHole (fill : Hole → List Char) (hole : Hole) (s : Skeleton) :
    (s.addHole hole).weave fill = fill hole ++ s.weave fill := by
  simp [weave, addHole]

/-- Writing each hole as it was written gives the text back. -/
theorem weave_token_scan (text : List Char) : (scan text).weave Hole.token = text := by
  suffices h : ∀ skip, (ofPieces (Text.piecesFrom holeRule skip text)).weave Hole.token =
      text.drop skip from h 0
  induction text with
  | nil => intro skip; simp [Text.piecesFrom, ofPieces]
  | cons c rest ih =>
    intro skip
    cases skip with
    | succ skip => simpa [Text.piecesFrom] using ih skip
    | zero =>
      simp only [Text.piecesFrom]
      split
      · next hole more hr =>
        have := holeRule_eq_some hr
        simp [ofPieces, ih, ← this]
      · simp [ofPieces, ih]

end Skeleton

end PathTemplate
