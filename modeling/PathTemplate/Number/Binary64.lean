/-!
# Binary floating point

Numbers in the 64-bit binary format, as exact data: a mantissa of at most 53 bits times a power of
two. Decimal numerals are read in exact arithmetic and rounded once.

## Main definitions

* `Binary64`: the numbers of the format.
* `roundDiv`: the whole number nearest to a quotient, a half going to the even neighbour.
* `Binary64.ofRatio`: the number of the format nearest to a quotient.
* `Binary64.read?`: the number that a decimal numeral denotes.
-/

namespace PathTemplate

/-- A number of the 64-bit binary format. -/
inductive Binary64 where
  | nan
  | infinite (negative : Bool)
  /-- The number `mantissa * 2 ^ exponent`, or its opposite. -/
  | finite (negative : Bool) (mantissa : Nat) (exponent : Int)
deriving DecidableEq, Repr

/-- The whole number nearest to `num / den`; of two that are equally near, the even one. -/
def roundDiv (num den : Nat) : Nat :=
  let quotient := num / den
  let twice := 2 * (num % den)
  if den < twice ∨ (twice = den ∧ quotient % 2 = 1) then quotient + 1 else quotient

/-- The quotient `num / den`, divided by a power of the base. -/
def divPow (base num den : Nat) (exponent : Int) : Nat × Nat :=
  if 0 ≤ exponent then (num, den * Nat.pow base exponent.toNat)
  else (num * Nat.pow base (-exponent).toNat, den)

namespace Binary64

def minExponent : Int := -1074

def maxExponent : Int := 971

/-- The exponent at which `num / den` has a mantissa of 53 bits, or the least one. -/
def exponentFor (num den : Nat) : Int :=
  let guess : Int := (Nat.log2 num : Int) - Nat.log2 den - 53
  let scaled := divPow 2 num den guess
  max minExponent (if scaled.1 < scaled.2 * Nat.pow 2 53 then guess else guess + 1)

/-- The number nearest to a quotient, of two that are equally near the one with an even mantissa;
beyond the largest number it is infinite. -/
def ofRatio (negative : Bool) (num den : Nat) : Binary64 :=
  if num = 0 ∨ den = 0 then finite negative 0 minExponent
  else
    let exponent := exponentFor num den
    let scaled := divPow 2 num den exponent
    let mantissa := roundDiv scaled.1 scaled.2
    let (mantissa, exponent) :=
      if mantissa = Nat.pow 2 53 then (Nat.pow 2 52, exponent + 1) else (mantissa, exponent)
    if maxExponent < exponent then infinite negative else finite negative mantissa exponent

/-- The number nearest to `digits * 10 ^ exponent`. Exponents far outside the format are cut off
before any power is taken. -/
def ofDecimal (negative : Bool) (digits : Nat) (exponent : Int) : Binary64 :=
  let size : Int := (Nat.toDigits 10 digits).length + exponent
  if digits = 0 ∨ size < -400 then finite negative 0 minExponent
  else if 400 < size then infinite negative
  else if 0 ≤ exponent then ofRatio negative (digits * Nat.pow 10 exponent.toNat) 1
  else ofRatio negative digits (Nat.pow 10 (-exponent).toNat)

def readSign : List Char → Bool × List Char
  | '-' :: rest => (true, rest)
  | '+' :: rest => (false, rest)
  | text => (false, text)

def readDigits (digits : List Char) : Nat :=
  digits.foldl (fun n c => 10 * n + (c.toNat - '0'.toNat)) 0

/-- What stands behind the fraction: nothing, or an exponent. -/
def readExponent? : List Char → Option Int
  | [] => some 0
  | mark :: rest =>
    let (negative, digits) := readSign rest
    if (mark = 'e' ∨ mark = 'E') ∧ !digits.isEmpty ∧ digits.all Char.isDigit then
      some (if negative then -(readDigits digits : Int) else readDigits digits)
    else none

/-- The number that a decimal numeral, or one of the words `nan` and `inf`, denotes. -/
def read? (text : List Char) : Option Binary64 :=
  let (negative, rest) := readSign text
  if rest = ['n', 'a', 'n'] then some nan
  else if rest = ['i', 'n', 'f'] then some (infinite negative)
  else
    let whole := rest.takeWhile Char.isDigit
    let rest := rest.dropWhile Char.isDigit
    let (fraction, rest) :=
      match rest with
      | '.' :: rest => (rest.takeWhile Char.isDigit, rest.dropWhile Char.isDigit)
      | _ => ([], rest)
    if whole.isEmpty && fraction.isEmpty then none
    else
      (readExponent? rest).map fun exponent =>
        ofDecimal negative (readDigits (whole ++ fraction)) (exponent - fraction.length)

/-- Equality as numbers: not-a-number differs from itself, and the two zeros are equal. -/
def same : Binary64 → Binary64 → Bool
  | finite s m e, finite s' m' e' => m == m' && ((m == 0) || (e == e' && s == s'))
  | infinite s, infinite s' => s == s'
  | _, _ => false

/-- Equality with a whole number, which is never rounded. -/
def sameInt : Binary64 → Int → Bool
  | finite s m e, n =>
    let signed : Int := if s then -m else m
    if 0 ≤ e then signed * Int.pow 2 e.toNat == n else signed == n * Int.pow 2 (-e).toNat
  | _, _ => false

end Binary64

end PathTemplate
