import PathTemplate.Text.Hex

/-!
# JSON text

Writing JSON with ASCII characters only, on one line or with one member a line.

## Main definitions

* `Json`: the data that is written.
* `Json.compact`: on one line, with a blank behind each comma and colon.
* `Json.indented`: each member on a line of its own, two blanks further in than its container.
-/

namespace PathTemplate.Text

/-- JSON data without numbers; the members of an object keep their order. -/
inductive Json where
  | null
  | bool (b : Bool)
  | text (s : String)
  | list (items : List Json)
  | object (members : List (String × Json))

def jsonUnit (code : Nat) : List Char :=
  '\\' :: 'u' :: toHex 4 code

/-- One character inside a string: those beyond 16 bits become a surrogate pair. -/
def jsonChar (c : Char) : List Char :=
  if c = '"' ∨ c = '\\' then ['\\', c]
  else if c = '\n' then ['\\', 'n']
  else if c = '\r' then ['\\', 'r']
  else if c = '\t' then ['\\', 't']
  else if c = '\x08' then ['\\', 'b']
  else if c = '\x0c' then ['\\', 'f']
  else if ' ' ≤ c ∧ c ≤ '~' then [c]
  else if c.toNat < 0x10000 then jsonUnit c.toNat
  else
    let offset := c.toNat - 0x10000
    jsonUnit (0xD800 + offset / 0x400) ++ jsonUnit (0xDC00 + offset % 0x400)

def jsonString (s : String) : String :=
  String.ofList ('"' :: s.toList.flatMap jsonChar ++ ['"'])

namespace Json

mutual

def compact : Json → String
  | null => "null"
  | bool b => if b then "true" else "false"
  | text s => jsonString s
  | list items => "[" ++ ", ".intercalate (compactItems items) ++ "]"
  | object members => "\x7b" ++ ", ".intercalate (compactMembers members) ++ "\x7d"

def compactItems : List Json → List String
  | [] => []
  | item :: items => compact item :: compactItems items

def compactMembers : List (String × Json) → List String
  | [] => []
  | (name, value) :: members => (jsonString name ++ ": " ++ compact value) :: compactMembers members

end

/-- A bracketed list of lines, set in by the given number of blanks; without lines only the
brackets. -/
def block (opening closing : String) (lines : List String) (indent : Nat) : String :=
  if lines.isEmpty then opening ++ closing
  else
    let newline (n : Nat) := "\n" ++ String.ofList (List.replicate n ' ')
    opening ++ newline (indent + 2) ++ ("," ++ newline (indent + 2)).intercalate lines ++
      newline indent ++ closing

mutual

/-- The data over several lines, inside a container that is set in by `indent`. -/
def indented (indent : Nat) : Json → String
  | null => "null"
  | bool b => if b then "true" else "false"
  | text s => jsonString s
  | list items => block "[" "]" (indentedItems (indent + 2) items) indent
  | object members => block "\x7b" "\x7d" (indentedMembers (indent + 2) members) indent

def indentedItems (indent : Nat) : List Json → List String
  | [] => []
  | item :: items => indented indent item :: indentedItems indent items

def indentedMembers (indent : Nat) : List (String × Json) → List String
  | [] => []
  | (name, value) :: members =>
    (jsonString name ++ ": " ++ indented indent value) :: indentedMembers indent members

end

end Json

end PathTemplate.Text
