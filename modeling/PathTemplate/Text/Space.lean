/-!
# Blank characters

## Main definitions

* `isSpace`: the white space of Unicode, together with the four ASCII separators.
* `trim`: a text without the blanks at its two ends.
-/

namespace PathTemplate.Text

def spaceRanges : List (Nat × Nat) := [
  (9, 13), (28, 32), (133, 133), (160, 160), (5760, 5760), (8192, 8202), (8232, 8233),
  (8239, 8239), (8287, 8287), (12288, 12288)
]

def isSpace (c : Char) : Bool :=
  spaceRanges.any fun (first, last) => first ≤ c.toNat && c.toNat ≤ last

/-- The text without the blanks at its two ends. -/
def trim (text : List Char) : List Char :=
  ((text.dropWhile isSpace).reverse.dropWhile isSpace).reverse

end PathTemplate.Text
