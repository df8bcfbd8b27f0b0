import PathTemplate.Text.CaseTable

/-!
# Lower and upper case

Case mapping of one character at a time, without regard to its neighbours: a capital sigma at the
end of a word becomes an ordinary small sigma. Some characters have several in the other case.

## Main definitions

* `lower`, `upper`: the two mappings on texts.
-/

namespace PathTemplate.Text

def CaseRun.target? (r : CaseRun) (code : Nat) : Option Nat :=
  if r.first ≤ code ∧ code ≤ r.last ∧ (code - r.first) % r.step = 0 then
    some ((code : Int) + r.shift).toNat
  else none

/-- The case mapping with these tables, on a character outside ASCII. -/
def mapCase (runs : List CaseRun) (expansions : List (Nat × List Nat)) (c : Char) : List Char :=
  match expansions.lookup c.toNat with
  | some codes => codes.map Char.ofNat
  | none =>
    match runs.findSome? (·.target? c.toNat) with
    | some code => [Char.ofNat code]
    | none => [c]

def lowerChar (c : Char) : List Char :=
  if c.toNat < 128 then [c.toLower] else mapCase lowerRuns lowerExpansions c

def upperChar (c : Char) : List Char :=
  if c.toNat < 128 then [c.toUpper] else mapCase upperRuns upperExpansions c

/-- Each character in lower case, whatever stands beside it. -/
def lower (text : List Char) : List Char :=
  text.flatMap lowerChar

/-- Each character in upper case, whatever stands beside it. -/
def upper (text : List Char) : List Char :=
  text.flatMap upperChar

@[simp] theorem lower_nil : lower [] = [] := rfl

@[simp] theorem lower_cons (c : Char) (text : List Char) :
    lower (c :: text) = lowerChar c ++ lower text := rfl

@[simp] theorem upper_nil : upper [] = [] := rfl

@[simp] theorem upper_cons (c : Char) (text : List Char) :
    upper (c :: text) = upperChar c ++ upper text := rfl

end PathTemplate.Text
