import PathTemplate.Regex.Failure

/-!
# Tokens

The source of an expression is read in units of one character, or of a backslash with the character
behind it.

## Main definitions

* `Token`: the units.
* `Token.ofSource?`: the units of a source; none if it ends in the middle of one.

## Main statements

* `Token.flatten_ofSource?`: the texts of the tokens together are the source.
* `Token.ofSource?_append`: the tokens of one source after another.
-/

namespace PathTemplate.Regex

inductive Token where
  | plain (c : Char)
  | escaped (c : Char)
deriving DecidableEq, Repr

namespace Token

def text : Token → List Char
  | plain c => [c]
  | escaped c => ['\\', c]

def width : Token → Nat
  | plain _ => 1
  | escaped _ => 2

@[simp] theorem length_text (t : Token) : t.text.length = t.width := by
  cases t <;> rfl

/-- The character of a token that is not escaped. -/
def plain? : Token → Option Char
  | plain c => some c
  | escaped _ => none

/-- The tokens of a source, none if a backslash ends it. -/
def ofSource? : List Char → Option (List Token)
  | [] => some []
  | '\\' :: c :: rest => (ofSource? rest).map (escaped c :: ·)
  | c :: rest => if c = '\\' then none else (ofSource? rest).map (plain c :: ·)

@[simp] theorem ofSource?_nil : ofSource? [] = some [] := rfl

theorem ofSource?_escaped (c : Char) (rest : List Char) :
    ofSource? ('\\' :: c :: rest) = (ofSource? rest).map (escaped c :: ·) := by
  simp [ofSource?]

theorem ofSource?_plain {c : Char} (h : c ≠ '\\') (rest : List Char) :
    ofSource? (c :: rest) = (ofSource? rest).map (plain c :: ·) := by
  rw [ofSource?.eq_def]
  split <;> simp_all

theorem flatten_ofSource? {source : List Char} {tokens : List Token}
    (h : ofSource? source = some tokens) : tokens.flatMap text = source := by
  fun_induction ofSource? source generalizing tokens with
  | case1 => simp_all
  | case2 c rest ih =>
    obtain ⟨ts, hts, rfl⟩ := Option.map_eq_some_iff.1 h
    simp [text, ih hts]
  | case3 => simp at h
  | case4 c rest _ _ ih =>
    obtain ⟨ts, hts, rfl⟩ := Option.map_eq_some_iff.1 h
    simp [text, ih hts]

/-- A source that does not end in the middle of a token is read before what follows it. -/
theorem ofSource?_append {source : List Char} {tokens : List Token}
    (h : ofSource? source = some tokens) (more : List Char) :
    ofSource? (source ++ more) = (ofSource? more).map (tokens ++ ·) := by
  fun_induction ofSource? source generalizing tokens with
  | case1 =>
    obtain rfl := Option.some.inj h
    simp
  | case2 c rest ih =>
    obtain ⟨ts, hts, rfl⟩ := Option.map_eq_some_iff.1 h
    rw [List.cons_append, List.cons_append, ofSource?_escaped, ih hts, Option.map_map]
    rfl
  | case3 => simp at h
  | case4 c rest _ hc ih =>
    obtain ⟨ts, hts, rfl⟩ := Option.map_eq_some_iff.1 h
    rw [List.cons_append, ofSource?_plain hc, ih hts, Option.map_map]
    rfl

end Token

/-- A state of reading that goes on until it has a result. -/
inductive Progress (σ α : Type) where
  /-- The token belongs to it, and more may follow. -/
  | more (state : σ)
  | done (result : α)
  /-- It was complete without the token. -/
  | before (result : α)

end PathTemplate.Regex
