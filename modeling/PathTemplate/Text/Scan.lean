/-!
# Single-pass scanning

A text is cut into tokens and plain characters in one pass from left to right: at each place a rule
either recognises a token, after which the pass goes on behind it, or lets one character go by.

## Main definitions

* `Rule`: what begins at a place, with the number of characters it takes after the first.
* `Piece`: a plain character, or a token with its text.
* `pieces`: the pass.
* `finds`: the tokens alone, with the places where they start and end.

## Main statements

* `pieces_skip`: leaving out the rest of a token is dropping it.
* `pieces_induction`: what holds of the pieces of a text, one character or token at a time.
* `flatten_pieces`: the pieces together are the text.
-/

namespace PathTemplate.Text

/-- A token rule looks at the text from some place on, and tells what token begins there and how
many characters follow its first. -/
abbrev Rule (α : Type) := List Char → Option (α × Nat)

inductive Piece (α : Type) where
  /-- A character that belongs to no token. -/
  | plain (c : Char)
  /-- A token and the characters it takes. -/
  | token (value : α) (text : List Char)
deriving Repr

def Piece.text {α : Type} : Piece α → List Char
  | plain c => [c]
  | token _ text => text

variable {α : Type}

/-- The pass over a text, the first characters of which may still belong to the last token. -/
def piecesFrom (rule : Rule α) : (skip : Nat) → List Char → List (Piece α)
  | _, [] => []
  | skip + 1, _ :: rest => piecesFrom rule skip rest
  | 0, c :: rest =>
    match rule (c :: rest) with
    | some (value, more) => .token value (c :: rest.take more) :: piecesFrom rule more rest
    | none => .plain c :: piecesFrom rule 0 rest

/-- The tokens of a text, leftmost first and without overlap, and the characters between them. -/
def pieces (rule : Rule α) (text : List Char) : List (Piece α) :=
  piecesFrom rule 0 text

theorem pieces_skip (rule : Rule α) (skip : Nat) (text : List Char) :
    piecesFrom rule skip text = pieces rule (text.drop skip) := by
  induction text generalizing skip with
  | nil => simp [pieces, piecesFrom]
  | cons c rest ih =>
    cases skip with
    | zero => rfl
    | succ skip => simpa [piecesFrom] using ih skip

@[simp] theorem pieces_nil (rule : Rule α) : pieces rule [] = [] := rfl

theorem pieces_of_none {rule : Rule α} {c : Char} {rest : List Char} (h : rule (c :: rest) = none) :
    pieces rule (c :: rest) = .plain c :: pieces rule rest := by
  simp [pieces, piecesFrom, h]

theorem pieces_of_some {rule : Rule α} {c : Char} {rest : List Char} {value : α} {more : Nat}
    (h : rule (c :: rest) = some (value, more)) :
    pieces rule (c :: rest) = .token value (c :: rest.take more) :: pieces rule (rest.drop more) := by
  rw [← pieces_skip]
  simp [pieces, piecesFrom, h]

/-- What holds of the empty text, and is kept by each character that begins no token and by each
token, holds of the pieces of every text. -/
theorem pieces_induction {rule : Rule α} {P : List Char → List (Piece α) → Prop} (nil : P [] [])
    (plain : ∀ c rest, rule (c :: rest) = none → P rest (pieces rule rest) →
      P (c :: rest) (.plain c :: pieces rule rest))
    (token : ∀ c rest value more, rule (c :: rest) = some (value, more) →
      P (rest.drop more) (pieces rule (rest.drop more)) →
      P (c :: rest) (.token value (c :: rest.take more) :: pieces rule (rest.drop more)))
    (text : List Char) : P text (pieces rule text) := by
  induction hn : text.length using Nat.strongRecOn generalizing text with
  | ind n ih =>
    cases text with
    | nil => exact nil
    | cons c rest =>
      have hlen : rest.length < n := by simp [← hn]
      cases hr : rule (c :: rest) with
      | none => exact pieces_of_none hr ▸ plain c rest hr (ih _ hlen rest rfl)
      | some found =>
        obtain ⟨value, more⟩ := found
        have hdrop : (rest.drop more).length < n := by
          rw [List.length_drop]
          omega
        exact pieces_of_some hr ▸ token c rest value more hr (ih _ hdrop _ rfl)

/-- Nothing is lost and nothing is added by cutting a text into pieces. -/
theorem flatten_pieces (rule : Rule α) (text : List Char) :
    (pieces rule text).flatMap Piece.text = text := by
  suffices h : ∀ skip, (piecesFrom rule skip text).flatMap Piece.text = text.drop skip by
    simpa [pieces] using h 0
  induction text with
  | nil => simp [piecesFrom]
  | cons c rest ih =>
    intro skip
    cases skip with
    | succ skip => simpa [piecesFrom] using ih skip
    | zero =>
      simp only [piecesFrom]
      split <;> simp [Piece.text, ih]

/-- A token with the places of its first character and of the character behind it. -/
structure Find (α : Type) where
  start : Nat
  stop : Nat
  value : α

/-- The tokens among pieces that begin at some place. -/
def findsFrom : (start : Nat) → List (Piece α) → List (Find α)
  | _, [] => []
  | start, .plain _ :: rest => findsFrom (start + 1) rest
  | start, .token value text :: rest =>
    ⟨start, start + text.length, value⟩ :: findsFrom (start + text.length) rest

def finds (rule : Rule α) (text : List Char) : List (Find α) :=
  findsFrom 0 (pieces rule text)

theorem findsFrom_pieces_of_none {rule : Rule α} {start : Nat} {c : Char} {rest : List Char}
    (h : rule (c :: rest) = none) :
    findsFrom start (pieces rule (c :: rest)) = findsFrom (start + 1) (pieces rule rest) := by
  rw [pieces_of_none h, findsFrom]

theorem findsFrom_pieces_of_some {rule : Rule α} {start : Nat} {c : Char}
    {rest : List Char} {value : α} {more : Nat} (h : rule (c :: rest) = some (value, more)) :
    findsFrom start (pieces rule (c :: rest)) =
      ⟨start, start + (c :: rest.take more).length, value⟩ ::
        findsFrom (start + (c :: rest.take more).length) (pieces rule (rest.drop more)) := by
  rw [pieces_of_some h, findsFrom]

end PathTemplate.Text
