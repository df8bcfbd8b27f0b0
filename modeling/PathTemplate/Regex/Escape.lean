import PathTemplate.Regex.Expr
import PathTemplate.Regex.Token
import PathTemplate.Text.CharacterName

/-!
# Escapes

What a backslash and the characters behind it stand for. The same escapes are read outside and
inside a character set, with a few differences: a set has no places and no groups to refer to.

## Main definitions

* `Escaped`: what an escape stands for.
* `Escape`: an escape that needs more than the character behind the backslash.
* `Escape.begin`: what follows from that character alone.
* `Escape.feed`, `Escape.finish`: the next token, and the end of the source.
-/

namespace PathTemplate.Regex

inductive Escaped where
  | code (n : Nat)
  | cls (c : CharClass) (negated : Bool)
  | anchor (a : Anchor)
  /-- The text of a group, written with so many characters. -/
  | reference (number length : Nat)

/-- An escape of which the beginning has been read. Digits are kept in the order of reading. -/
inductive Escape where
  /-- Hexadecimal digits behind a mark, of which some are still missing. -/
  | hex (mark : Char) (digits : List Char) (missing : Nat)
  /-- Octal digits, at most three. -/
  | octal (digits : List Char)
  /-- A group number, unless three octal digits follow each other. -/
  | number (digits : List Char)
  /-- The braces of a character name have to open. -/
  | nameOpen
  | name (read : List Char)

/-- What an escape that begins at some place may turn out to be. -/
abbrev Escape.Step := Except Failure (Progress Escape Escaped)

namespace Escape

def ofOctal (digits : List Char) : Nat :=
  digits.foldl (fun n c => 8 * n + (c.toNat - '0'.toNat)) 0

def ofDecimal (digits : List Char) : Nat :=
  digits.foldl (fun n c => 10 * n + (c.toNat - '0'.toNat)) 0

/-- An ASCII octal digit. -/
def isOctal (c : Char) : Bool :=
  '0' ≤ c && c ≤ '7'

/-- The classes with a letter of their own. -/
def class? : Char → Option Escaped
  | 'd' => some (.cls .digit false)
  | 'D' => some (.cls .digit true)
  | 's' => some (.cls .space false)
  | 'S' => some (.cls .space true)
  | 'w' => some (.cls .word false)
  | 'W' => some (.cls .word true)
  | _ => none

/-- The places with a letter of their own. -/
def anchor? : Char → Option Escaped
  | 'A' => some (.anchor .textStart)
  | 'Z' => some (.anchor .textEnd)
  | 'b' => some (.anchor .wordEdge)
  | 'B' => some (.anchor .noWordEdge)
  | _ => none

/-- The control characters with a letter of their own, and the backslash itself. -/
def control? : Char → Option Escaped
  | 'a' => some (.code 7)
  | 'b' => some (.code 8)
  | 't' => some (.code 9)
  | 'n' => some (.code 10)
  | 'v' => some (.code 11)
  | 'f' => some (.code 12)
  | 'r' => some (.code 13)
  | '\\' => some (.code 92)
  | _ => none

/-- The escapes that are complete with one character. -/
def single? (inSet : Bool) (c : Char) : Option Escaped :=
  if inSet then control? c <|> class? c else anchor? c <|> class? c <|> control? c

/-- The number of hexadecimal digits that a mark asks for. -/
def hexDigits? : Char → Option Nat
  | 'x' => some 2
  | 'u' => some 4
  | 'U' => some 8
  | _ => none

/-- What follows from the character behind the backslash. Letters without a meaning are refused,
all other characters stand for themselves. -/
def begin (inSet : Bool) (start : Nat) (c : Char) : Step :=
  match single? inSet c with
  | some e => .ok (.done e)
  | none =>
    match hexDigits? c with
    | some n => .ok (.more (hex c [] n))
    | none =>
      if c = 'N' then .ok (.more nameOpen)
      else if c = '0' ∨ (inSet ∧ isOctal c) then .ok (.more (octal [c]))
      else if c.isDigit ∧ ¬inSet then .ok (.more (number [c]))
      else if c.isAlphanum then .error (.at (.badEscape ['\\', c]) start)
      else .ok (.done (.code c.toNat))

def octalCode (start : Nat) (digits : List Char) : Except Failure Escaped :=
  if 0o377 < ofOctal digits then .error (.at (.octalOutOfRange ('\\' :: digits)) start)
  else .ok (.code (ofOctal digits))

def groupReference (digits : List Char) : Escaped :=
  .reference (ofDecimal digits) (digits.length + 1)

/-- The value of a complete hexadecimal escape, which has to be a code point. -/
def hexCode (start : Nat) (mark : Char) (digits : List Char) : Except Failure Escaped :=
  if codeLimit ≤ Text.ofHex digits then .error .codeTooLarge
  else if Text.ofHex digits ≤ 0x10FFFF then .ok (.code (Text.ofHex digits))
  else .error (.at (.badEscape ('\\' :: mark :: digits)) start)

/-- The character with a name, or what is wrong with the name. The closing brace stands at
`position`. -/
def namedCode (start position : Nat) (name : List Char) : Except Failure Escaped :=
  if name.isEmpty then .error (.at (.missingName "character name") position)
  else
    match Text.characterNamed? name with
    | some code => .ok (.code code)
    | none => .error (.at (.unknownCharacterName name) start)

/-- The next token of an escape that began at `start`; it stands at `position`. -/
def feed (start position : Nat) (e : Escape) (t : Token) : Step :=
  match e with
  | hex mark digits missing =>
    match t.plain? with
    | some c =>
      if (Text.hexValue? c).isSome then
        if missing ≤ 1 then (hexCode start mark (digits ++ [c])).map .done
        else .ok (.more (hex mark (digits ++ [c]) (missing - 1)))
      else .error (.at (.incompleteEscape ('\\' :: mark :: digits)) start)
    | none => .error (.at (.incompleteEscape ('\\' :: mark :: digits)) start)
  | octal digits =>
    match t.plain? with
    | some c =>
      if isOctal c then
        if digits.length = 2 then (octalCode start (digits ++ [c])).map .done
        else .ok (.more (octal (digits ++ [c])))
      else (octalCode start digits).map .before
    | none => (octalCode start digits).map .before
  | number digits =>
    match t.plain? with
    | some c =>
      if digits.length = 2 then
        if isOctal c then (octalCode start (digits ++ [c])).map .done
        else .ok (.before (groupReference digits))
      else if c.isDigit then
        if digits.all isOctal && isOctal c then .ok (.more (number (digits ++ [c])))
        else .ok (.done (groupReference (digits ++ [c])))
      else .ok (.before (groupReference digits))
    | none => .ok (.before (groupReference digits))
  | nameOpen =>
    if t = .plain '\x7b' then .ok (.more (name [])) else .error (.at .noCharacterName position)
  | name read =>
    if t = .plain '\x7d' then (namedCode start position read).map .done
    else .ok (.more (name (read ++ t.text)))

def finish (start position : Nat) : Escape → Except Failure Escaped
  | hex mark digits _ => .error (.at (.incompleteEscape ('\\' :: mark :: digits)) start)
  | octal digits => octalCode start digits
  | number digits => .ok (groupReference digits)
  | nameOpen => .error (.at .noCharacterName position)
  | name read =>
    if read.isEmpty then .error (.at (.missingName "character name") position)
    else .error (.at (.unterminatedName '\x7d') (position - read.length))

end Escape

end PathTemplate.Regex
