/-!
# Decimal digits

Every script that writes numbers in base ten has ten digits with consecutive codes, so the set of
all decimal digits is given by its zeros.

## Main definitions

* `digitValue?`: the number that a decimal digit stands for.
* `isDigit`: whether a character is one.
* `digitLimit`: how long a number may be when it is read or written.
-/

namespace PathTemplate.Text

def zeroCodes : List Nat := [
  48, 1632, 1776, 1984, 2406, 2534, 2662, 2790, 2918, 3046, 3174, 3302, 3430, 3558, 3664, 3792,
  3872, 4160, 4240, 6112, 6160, 6470, 6608, 6784, 6800, 6992, 7088, 7232, 7248, 42528, 43216,
  43264, 43472, 43504, 43600, 44016, 65296, 66720, 68912, 69734, 69872, 69942, 70096, 70384,
  70736, 70864, 71248, 71360, 71472, 71904, 72016, 72784, 73040, 73120, 92768, 92864, 93008,
  120782, 120792, 120802, 120812, 120822, 123200, 123632, 125264, 130032
]

/-- The number that a decimal digit of any script stands for. -/
def digitValue? (c : Char) : Option Nat :=
  zeroCodes.findSome? fun z =>
    if z ≤ c.toNat ∧ c.toNat < z + 10 then some (c.toNat - z) else none

def isDigit (c : Char) : Bool :=
  (digitValue? c).isSome

def ofDigits (values : List Nat) : Nat :=
  values.foldl (fun n d => 10 * n + d) 0

/-- A number that is read or written has at most this many digits. -/
def digitLimit : Nat := 4300

def digitLimitMessage (detail : String) : String :=
  "Exceeds the limit (" ++ toString digitLimit ++ " digits) for integer string conversion" ++
    detail ++ "; use sys.set_int_max_str_digits() to increase the limit"

end PathTemplate.Text
