import PathTemplate.Regex.Expr

/-!
# Widths of expressions

How many characters an expression can take. A look-behind needs an expression of one width, since
it is matched from a fixed number of characters back.

## Main definitions

* `Expr.width`: the least and the greatest number of characters.
* `Expr.lookbehinds`: the widths that the look-behinds of an expression have.
-/

namespace PathTemplate.Regex

namespace Width

def exactly (n : Nat) : Width :=
  ⟨n, some n⟩

def add (a b : Width) : Width :=
  ⟨a.least + b.least, a.most.bind fun m => b.most.map (m + ·)⟩

def union (a b : Width) : Width :=
  ⟨min a.least b.least, a.most.bind fun m => b.most.map (max m ·)⟩

/-- A number of times between two bounds. What takes no characters takes none however often, and
what is not done at all takes none. -/
def times (least : Nat) (most : Option Nat) (w : Width) : Width :=
  { least := least * w.least
    most :=
      match w.most, most with
      | some 0, _ => some 0
      | _, some 0 => some 0
      | some m, some n => some (m * n)
      | _, _ => none }

def fixed? (w : Width) : Option Nat :=
  if w.most = some w.least then some w.least else none

@[simp] theorem exactly_least (n : Nat) : (exactly n).least = n := rfl

@[simp] theorem exactly_most (n : Nat) : (exactly n).most = some n := rfl

@[simp] theorem fixed?_exactly (n : Nat) : (exactly n).fixed? = some n := by
  simp [exactly, fixed?]

end Width

namespace Expr

/-- The width of an expression, given the widths of the groups it refers to. -/
def width (groupWidth : Nat → Width) : Expr → Width
  | empty => .exactly 0
  | char _ => .exactly 1
  | anchor _ => .exactly 0
  | seq a b => (a.width groupWidth).add (b.width groupWidth)
  | alt a b => (a.width groupWidth).union (b.width groupWidth)
  | iterate _ least most body => (body.width groupWidth).times least most
  | group _ body => body.width groupWidth
  | atomic body => body.width groupWidth
  | lookahead _ _ => .exactly 0
  | lookbehind _ _ _ => .exactly 0
  | backref n => groupWidth n
  | ifGroup _ yes no => (yes.width groupWidth).union (no.width groupWidth)

/-- The widths found for the look-behinds of an expression, in the order in which they begin. -/
def lookbehinds : Expr → List Width
  | seq a b => a.lookbehinds ++ b.lookbehinds
  | alt a b => a.lookbehinds ++ b.lookbehinds
  | iterate _ _ _ body => body.lookbehinds
  | group _ body => body.lookbehinds
  | atomic body => body.lookbehinds
  | lookahead _ body => body.lookbehinds
  | lookbehind _ w body => w :: body.lookbehinds
  | ifGroup _ yes no => yes.lookbehinds ++ no.lookbehinds
  | _ => []

end Expr

end PathTemplate.Regex
