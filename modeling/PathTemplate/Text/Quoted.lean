import PathTemplate.Text.Hex
import PathTemplate.Text.PrintableTable

/-!
# Quoted literals

A text in quotes on one line, with all that cannot be seen escaped. Single quotes are used unless
the text holds one and no double quote.

## Main definitions

* `quoteFor`: the quote that a text is put in.
* `quoted`: the literal of a text.
* `quotedBytes`: the literal of a byte string, marked by a leading `b`.
-/

namespace PathTemplate.Text

def isPrintable (c : Char) : Bool :=
  printableCodes.contains c.toNat

/-- Double quotes for a text with a single quote and no double quote, else single ones. -/
def quoteFor (text : List Char) : Char :=
  if text.contains '\'' && !text.contains '"' then '"' else '\''

/-- The numeric escape of a code point: two, four or eight digits, the fewest that do. -/
def escapeCode (code : Nat) : List Char :=
  if code < 0x100 then '\\' :: 'x' :: toHex 2 code
  else if code < 0x10000 then '\\' :: 'u' :: toHex 4 code
  else '\\' :: 'U' :: toHex 8 code

def escapeChar (quote c : Char) : List Char :=
  if c = quote ∨ c = '\\' then ['\\', c]
  else if c = '\n' then ['\\', 'n']
  else if c = '\r' then ['\\', 'r']
  else if c = '\t' then ['\\', 't']
  else if isPrintable c then [c]
  else escapeCode c.toNat

def quoted (text : List Char) : List Char :=
  let quote := quoteFor text
  quote :: text.flatMap (escapeChar quote) ++ [quote]

def quote (s : String) : String :=
  String.ofList (quoted s.toList)

/-- One byte inside a literal: those above 126 are always escaped. -/
def escapeByte (quote : Char) (b : UInt8) : List Char :=
  if 127 ≤ b then escapeCode b.toNat else escapeChar quote (Char.ofNat b.toNat)

def quotedBytes (bytes : List UInt8) : List Char :=
  let quote := quoteFor (bytes.map fun b => Char.ofNat b.toNat)
  'b' :: quote :: bytes.flatMap (escapeByte quote) ++ [quote]

end PathTemplate.Text
