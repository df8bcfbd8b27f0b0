/-!
# Sets of code points

A set of code points is written as the increasing list of places where membership changes, so that
a Unicode property with thousands of members takes a few hundred numbers.

## Main definitions

* `CodeSet`: the list of changes.
* `CodeSet.contains`: membership of one code point.
-/

namespace PathTemplate.Text

/-- A set of code points: the codes, in increasing order, at which membership flips.
Before the first of them nothing is a member. -/
structure CodeSet where
  flips : List Nat

/-- A code is a member when an odd number of flips lies at or below it. -/
def CodeSet.contains (s : CodeSet) (code : Nat) : Bool :=
  (s.flips.takeWhile (· ≤ code)).length % 2 == 1

@[simp] theorem CodeSet.contains_nil (code : Nat) : CodeSet.contains ⟨[]⟩ code = false := rfl

end PathTemplate.Text
