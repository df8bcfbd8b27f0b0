/-!
# Hexadecimal numerals

## Main definitions

* `hexValue?`: the value of one digit, in either case.
* `ofHex`: the number that a list of digits writes.
* `toHex`: the small digits of a number, padded with zeros to a width.
-/

namespace PathTemplate.Text

def hexValue? (c : Char) : Option Nat :=
  if '0' ≤ c ∧ c ≤ '9' then some (c.toNat - '0'.toNat)
  else if 'a' ≤ c ∧ c ≤ 'f' then some (c.toNat - 'a'.toNat + 10)
  else if 'A' ≤ c ∧ c ≤ 'F' then some (c.toNat - 'A'.toNat + 10)
  else none

/-- The number that the digits write; a character that is no digit counts as zero. -/
def ofHex (digits : List Char) : Nat :=
  digits.foldl (fun n c => 16 * n + (hexValue? c).getD 0) 0

/-- The digits of a number, at least as many as the width says. -/
def toHex (width n : Nat) : List Char :=
  let digits := Nat.toDigits 16 n
  List.replicate (width - digits.length) '0' ++ digits

end PathTemplate.Text
