import PathTemplate.Text.WordTable

/-!
# Word characters

The characters that may stand in the name of a placeholder.
-/

namespace PathTemplate.Text

/-- Letters, numerals of every kind, and the underscore. -/
def isWord (c : Char) : Bool :=
  c.isAlphanum || c == '_' || (128 ≤ c.toNat && wordCodes.contains c.toNat)

end PathTemplate.Text
