import PathTemplate.Text.Digit
import PathTemplate.Text.Space
import PathTemplate.Text.Word

/-!
# Expressions

The syntax trees of regular expressions, and the tests that they make on one character.

## Main definitions

* `CharTest`: what one character has to be, with `CharTest.accepts`.
* `Anchor`: what has to hold at a place.
* `Manner`: how a repetition chooses its count.
* `Expr`: the expressions.
* `Expr.ofItems`, `Expr.ofBranches`: sequences and alternatives of any number.
-/

namespace PathTemplate.Regex

inductive CharClass where
  | digit
  | space
  | word
deriving DecidableEq, Repr

def CharClass.contains : CharClass → Char → Bool
  | digit, c => Text.isDigit c
  | space, c => Text.isSpace c
  | word, c => Text.isWord c

/-- A member of a character set. Code points are numbers, since an escape may also give the code of
half a surrogate pair, which no text holds. -/
inductive SetItem where
  | code (n : Nat)
  | range (first last : Nat)
  | cls (c : CharClass) (negated : Bool)
deriving DecidableEq, Repr

def SetItem.contains : SetItem → Char → Bool
  | code n, c => c.toNat == n
  | range first last, c => first ≤ c.toNat && c.toNat ≤ last
  | cls k negated, c => k.contains c != negated

inductive CharTest where
  /-- Any character but a newline. -/
  | any
  | code (n : Nat)
  | set (negated : Bool) (items : List SetItem)
deriving DecidableEq, Repr

def CharTest.accepts : CharTest → Char → Bool
  | any, c => c != '\n'
  | code n, c => c.toNat == n
  | set negated items, c => items.any (·.contains c) != negated

/-- A condition on a place in the text. -/
inductive Anchor where
  | textStart
  | textEnd
  /-- The end of the text, or the place before a newline that ends it. -/
  | lastLineEnd
  /-- A word character on exactly one side. -/
  | wordEdge
  /-- Word characters on both sides or on neither. -/
  | noWordEdge
deriving DecidableEq, Repr

inductive Manner where
  /-- As many as possible, fewer if the rest fails. -/
  | greedy
  /-- As few as possible, more if the rest fails. -/
  | lazy
  /-- As many as possible, whatever becomes of the rest. -/
  | possessive
deriving DecidableEq, Repr

/-- The numbers of characters that an expression can take; without `most` there is no limit. -/
structure Width where
  least : Nat
  most : Option Nat
deriving DecidableEq, Repr

/-- A regular expression. Groups are numbered from one. -/
inductive Expr where
  | empty
  | char (test : CharTest)
  | anchor (a : Anchor)
  | seq (first second : Expr)
  | alt (first second : Expr)
  /-- At least `least` and at most `most` times, without `most` any number. -/
  | iterate (manner : Manner) (least : Nat) (most : Option Nat) (body : Expr)
  /-- Remembers the text of its body. -/
  | group (number : Nat) (body : Expr)
  /-- Takes the first way in which its body matches and no other. -/
  | atomic (body : Expr)
  /-- The body matches here, or does not, without taking anything. -/
  | lookahead (negated : Bool) (body : Expr)
  /-- The body matches before this place, or does not. -/
  | lookbehind (negated : Bool) (width : Width) (body : Expr)
  /-- The text of a group once more. -/
  | backref (number : Nat)
  /-- One of two, by whether a group has taken part. -/
  | ifGroup (number : Nat) (yes no : Expr)
deriving DecidableEq, Repr

namespace Expr

def literal (code : Nat) : Expr :=
  char (.code code)

/-- One expression after another. -/
def ofItems : List Expr → Expr
  | [] => empty
  | item :: items => seq item (ofItems items)

/-- A choice between expressions, earlier ones first. -/
def ofBranches : List Expr → Expr
  | [] => empty
  | [branch] => branch
  | branch :: branches => alt branch (ofBranches branches)

@[simp] theorem ofItems_nil : ofItems [] = empty := rfl

@[simp] theorem ofItems_cons (item : Expr) (items : List Expr) :
    ofItems (item :: items) = seq item (ofItems items) := rfl

@[simp] theorem ofBranches_singleton (branch : Expr) : ofBranches [branch] = branch := rfl

end Expr

end PathTemplate.Regex
