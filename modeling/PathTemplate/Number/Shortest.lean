import PathTemplate.Number.Binary64

/-!
# Shortest decimal numerals

A number of the binary format is written with the fewest decimal digits that read back as the same
number, and among those with the digits nearest to it.

## Main definitions

* `Rounding`: a positive number with the interval of reals that round to it.
* `shortest`: its shortest digits, with the power of ten they are multiplied by.
* `Layout`: the choice between positional and scientific notation.
* `Binary64.render`: the numeral.
-/

namespace PathTemplate

/-- A positive number and the interval around it, over one denominator. -/
structure Rounding where
  low : Nat
  value : Nat
  high : Nat
  den : Nat
  /-- The ends of the interval belong to it. -/
  closed : Bool

/-- The reals that round to `mantissa * 2 ^ exponent`. The interval reaches half way to both
neighbours; below a power of two the neighbour is nearer. -/
def Rounding.ofBinary (mantissa : Nat) (exponent : Int) : Rounding :=
  let narrow := mantissa = Nat.pow 2 52 ∧ Binary64.minExponent < exponent
  let scale := if 2 ≤ exponent then Nat.pow 2 (exponent - 2).toNat else 1
  { low := (4 * mantissa - if narrow then 1 else 2) * scale
    value := 4 * mantissa * scale
    high := (4 * mantissa + 2) * scale
    den := if 2 ≤ exponent then 1 else Nat.pow 2 (2 - exponent).toNat
    closed := mantissa % 2 = 0 }

/-- Whether `digits * 10 ^ power` rounds to the number. -/
def Rounding.covers (r : Rounding) (digits : Nat) (power : Int) : Bool :=
  let (low, below) := divPow 10 r.low r.den power
  let (high, above) := divPow 10 r.high r.den power
  if r.closed then low ≤ digits * below && digits * above ≤ high
  else low < digits * below && digits * above < high

/-- The neighbour of the number on the grid of multiples of `10 ^ power` that rounds to it: the
nearer one if both do. -/
def Rounding.onGrid? (r : Rounding) (power : Int) : Option Nat :=
  let (num, den) := divPow 10 r.value r.den power
  let below := num / den
  match r.covers below power, r.covers (below + 1) power with
  | true, true => some (roundDiv num den)
  | true, false => some below
  | false, true => some (below + 1)
  | false, false => none

/-- The power of ten of the first digit of `num / den`. -/
def decimalExponent (num den : Nat) : Int :=
  let guess : Int := (Nat.toDigits 10 num).length - (Nat.toDigits 10 den).length
  let (scaled, unit) := divPow 10 num den guess
  if unit ≤ scaled then guess else guess - 1

/-- The first grid with a hit, from one digit on. -/
def Rounding.search (r : Rounding) (leading : Int) : (fuel : Nat) → (places : Nat) → Nat × Int
  | 0, places => (((r.onGrid? (leading - places)).getD 0), leading - places)
  | fuel + 1, places =>
    match r.onGrid? (leading - places) with
    | some digits => (digits, leading - places)
    | none => r.search leading fuel (places + 1)

/-- The fewest digits that read back as the number, and the power of ten they are multiplied by.
Seventeen digits always do. -/
def shortest (mantissa : Nat) (exponent : Int) : Nat × Int :=
  let r := Rounding.ofBinary mantissa exponent
  r.search (decimalExponent r.value r.den) 16 0

structure Layout where
  /-- The least power of ten of the first digit that is written positionally. -/
  firstPositional : Int
  /-- The greatest such power. -/
  lastPositional : Int
  /-- The least number of digits in an exponent. -/
  exponentDigits : Nat

/-- Numbers from 0.0001 up to 10^16 are written positionally, and exponents have two digits. -/
def Layout.standard : Layout := ⟨-4, 15, 2⟩

/-- The digits without zeros at the end. -/
def significant (digits : List Char) : List Char :=
  (digits.reverse.dropWhile (· == '0')).reverse

def Layout.exponent (l : Layout) (power : Int) : List Char :=
  let digits := Nat.toDigits 10 power.natAbs
  (if power < 0 then '-' else '+') ::
    (List.replicate (l.exponentDigits - digits.length) '0' ++ digits)

/-- The numeral with these digits, the first of which counts `10 ^ power`. -/
def Layout.write (l : Layout) (digits : List Char) (power : Int) : List Char :=
  if power < l.firstPositional ∨ l.lastPositional < power then
    match digits with
    | first :: [] => first :: 'e' :: l.exponent power
    | first :: rest => first :: '.' :: rest ++ 'e' :: l.exponent power
    | [] => []
  else if power < 0 then
    '0' :: '.' :: List.replicate (-power - 1).toNat '0' ++ digits
  else
    let whole := power.toNat + 1
    if digits.length ≤ whole then
      digits ++ List.replicate (whole - digits.length) '0' ++ ['.', '0']
    else digits.take whole ++ '.' :: digits.drop whole

def Binary64.render : Binary64 → String
  | nan => "nan"
  | infinite negative => if negative then "-inf" else "inf"
  | finite negative mantissa exponent =>
    let sign := if negative then "-" else ""
    if mantissa = 0 then sign ++ "0.0"
    else
      let (digits, power) := shortest mantissa exponent
      let digits := Nat.toDigits 10 digits
      sign ++ String.ofList
        (Layout.standard.write (significant digits) (power + digits.length - 1))

end PathTemplate
