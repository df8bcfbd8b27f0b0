import PathTemplate.Text.IdentifierPartTable
import PathTemplate.Text.IdentifierStartTable

/-!
# Identifiers

A name of letters, marks and digits of any script that does not begin with a digit.
-/

namespace PathTemplate.Text

/-- An identifier is not empty, and each of its characters may stand where it stands. -/
def isIdentifier : List Char → Bool
  | [] => false
  | c :: rest =>
    identifierStartCodes.contains c.toNat &&
      rest.all fun d => identifierPartCodes.contains d.toNat

end PathTemplate.Text
