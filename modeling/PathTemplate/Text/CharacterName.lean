import PathTemplate.Text.CharacterNameTable
import PathTemplate.Text.Hex

/-!
# Names of characters

The character that a name of Unicode 14 belongs to. Syllables of Hangul and unified ideographs are
named by rule, some other characters after their codes, and all others are listed. Small letters
count as capital ones, except in names that are given by rule.

## Main definitions

* `syllable?`, `ideograph?`: the names that are given by rule.
* `namedAfterCode?`: the names that hold the code.
* `listedName?`: the names of the table.
* `characterNamed?`: all of them.
-/

namespace PathTemplate.Text

/-! ## Names by rule -/

/-- What a syllable begins with, in the order of codes. -/
def initialSounds : List String :=
  ["G", "GG", "N", "D", "DD", "R", "M", "B", "BB", "S", "SS", "", "J", "JJ", "C", "K", "T", "P",
    "H"]

def medialSounds : List String :=
  ["A", "AE", "YA", "YAE", "EO", "E", "YEO", "YE", "O", "WA", "WAE", "OE", "YO", "U", "WEO", "WE",
    "WI", "YU", "EU", "YI", "I"]

def finalSounds : List String :=
  ["", "G", "GG", "GS", "N", "NJ", "NH", "D", "L", "LG", "LM", "LB", "LS", "LT", "LP", "LH", "M",
    "B", "BS", "S", "SS", "NG", "J", "C", "K", "T", "P", "H"]

/-- The longest sound that a text begins with, by its number, and the text behind it. -/
def takeSound? (sounds : List String) (text : List Char) : Option (Nat × List Char) :=
  let fitting := sounds.zipIdx.filter fun sound => sound.1.toList.isPrefixOf text
  let longest := fitting.foldl
    (fun best sound =>
      if best.any fun other => sound.1.length ≤ other.1.length then best else some sound)
    none
  longest.map fun sound => (sound.2, text.drop sound.1.length)

def syllable? (sounds : List Char) : Option Nat := do
  let (first, rest) ← takeSound? initialSounds sounds
  let (second, rest) ← takeSound? medialSounds rest
  let (third, rest) ← takeSound? finalSounds rest
  if rest.isEmpty then
    some (0xAC00 + (first * medialSounds.length + second) * finalSounds.length + third)
  else none

def isCapitalHex (c : Char) : Bool :=
  (hexValue? c).isSome && !c.isLower

def ideographBlocks : List (Nat × Nat) :=
  [(0x3400, 0x4DBF), (0x4E00, 0x9FFF), (0x20000, 0x2A6DF), (0x2A700, 0x2B738), (0x2B740, 0x2B81D),
    (0x2B820, 0x2CEA1), (0x2CEB0, 0x2EBE0), (0x30000, 0x3134A)]

/-- The ideograph with a code of four or five digits. -/
def ideograph? (digits : List Char) : Option Nat :=
  let code := ofHex digits
  if (digits.length = 4 ∨ digits.length = 5) ∧ digits.all isCapitalHex ∧
      ideographBlocks.any fun block => block.1 ≤ code && code ≤ block.2
  then some code else none

/-! ## Names that hold the code -/

/-- What stands in front of the code, and the first and the last code of each block. -/
def codeNames : List (String × Nat × Nat) :=
  [("CJK COMPATIBILITY IDEOGRAPH-", 0xF900, 0xFA6D),
    ("CJK COMPATIBILITY IDEOGRAPH-", 0xFA70, 0xFAD9),
    ("CJK COMPATIBILITY IDEOGRAPH-", 0x2F800, 0x2FA1D),
    ("KHITAN SMALL SCRIPT CHARACTER-", 0x18B00, 0x18CD5),
    ("NUSHU CHARACTER-", 0x1B170, 0x1B2FB)]

/-- The character that is named after its code. The digits are capital, and there is no zero too
many. -/
def namedAfterCode? (name : List Char) : Option Nat :=
  codeNames.findSome? fun (start, first, last) =>
    if start.toList.isPrefixOf name then
      let digits := name.drop start.length
      let code := ofHex digits
      if first ≤ code ∧ code ≤ last ∧ digits = (toHex 4 code).map Char.toUpper then some code
      else none
    else none

/-! ## Listed names -/

/-- The signs with which the numbers of phrases begin. -/
def phraseLeads : List Char := "nopqrstuvwxyz!$%&(),.;=?[]^_|~".toList

/-- The signs with which they end. -/
def phraseEnds : List Char :=
  "ABCDEFGHIJKLMNOPQRSTUVWXYZ0123456789abcdefghijklmnopqrstuvwxyz!$%&(),.;=?[]^_|~".toList

/-- The phrases by their numbers. -/
def phraseTable : Array (List Char) :=
  (namePhrases.flatMap fun line => line.toList.splitOn ',').toArray

/-- The text that is meant, with the phrases written out. -/
def writeOut (phrases : Array (List Char)) : List Char → List Char
  | c :: d :: rest =>
    if phraseLeads.contains c then
      let number := phraseLeads.idxOf c * phraseEnds.length + phraseEnds.idxOf d
      phrases.getD number [] ++ writeOut phrases rest
    else c :: writeOut phrases (d :: rest)
  | rest => rest

/-- The number of codes that a sign leaves out. -/
def skippedCodes? : Char → Option Nat
  | '>' => some 1
  | '<' => some 16
  | '+' => some 256
  | '*' => some 4096
  | _ => none

/-- A place in the list of names. -/
structure NameCursor where
  code : Nat
  /-- The characters of the name, the last one first. -/
  name : List Char
  /-- Whether something was put to the name, so that it is the next one of the list. -/
  edited : Bool
  /-- The character with the name that is looked for, if it was come across. -/
  found : Option Nat

namespace NameCursor

def complete (sought : List Char) (cursor : NameCursor) : NameCursor :=
  if cursor.edited then
    { cursor with
      code := cursor.code + 1
      edited := false
      found := if cursor.name == sought then some cursor.code else cursor.found }
  else cursor

/-- One step of an edit. A name is complete when the next one takes something off. -/
def step (sought : List Char) (cursor : NameCursor) (c : Char) : NameCursor :=
  if c.isLower then
    let cursor := cursor.complete sought
    { cursor with name := cursor.name.drop (c.toNat - 'a'.toNat) }
  else
    match skippedCodes? c with
    | some count => { cursor with code := cursor.code + count }
    | none => { cursor with name := c :: cursor.name, edited := true }

end NameCursor

def listedName? (name : List Char) : Option Nat :=
  let phrases := phraseTable
  let edits := nameEdits.flatMap fun line => writeOut phrases line.toList
  let cursor := edits.foldl (NameCursor.step name.reverse) ⟨0, [], false, none⟩
  (cursor.complete name.reverse).found

/-! ## All names -/

/-- The second name of a character. There are 256 variation selectors, in two blocks. -/
def aliasedName? (name : List Char) : Option Nat :=
  nameAliases.lookup (String.ofList name) <|>
    ((List.range 256).find? fun n => name == "VS".toList ++ Nat.toDigits 10 (n + 1)).map fun n =>
      if n < 16 then 0xFE00 + n else 0xE0100 + (n - 16)

/-- The code of the character with a name. -/
def characterNamed? (name : List Char) : Option Nat :=
  let syllable := "HANGUL SYLLABLE ".toList
  let ideograph := "CJK UNIFIED IDEOGRAPH-".toList
  if syllable.isPrefixOf name then syllable? (name.drop syllable.length)
  else if ideograph.isPrefixOf name then ideograph? (name.drop ideograph.length)
  else
    let capitals := name.map Char.toUpper
    namedAfterCode? capitals <|> aliasedName? capitals <|> listedName? capitals

end PathTemplate.Text
