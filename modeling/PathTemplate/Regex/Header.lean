import PathTemplate.Regex.Token
import PathTemplate.Text.Identifier
import PathTemplate.Text.LetterTable

/-!
# Heads of groups

A parenthesis opens a capturing group unless a question mark follows; then the characters behind it
say what kind of group it is. There is no group without capture, since no source has a colon, and
flags are recognised only to be refused.

## Main definitions

* `Opening`: what a head opens or stands for.
* `Header`: a head of which the beginning has been read.
* `Header.feed`, `Header.finish`: the next token, and the end of the source.
-/

namespace PathTemplate.Regex

/-- What a complete head opens, or stands for. Names come with the place where they begin. -/
inductive Opening where
  | capture
  | named (name : List Char) (position : Nat)
  | atomic
  | lookahead (negated : Bool)
  | lookbehind (negated : Bool)
  | conditional (name : List Char) (position : Nat)
  | backref (name : List Char) (position : Nat)
  | comment

/-- A head of which the beginning has been read. -/
inductive Header where
  /-- Behind the parenthesis. -/
  | opened
  /-- Behind its question mark. -/
  | extension
  /-- Behind the letter that introduces names. -/
  | names
  | groupName (read : List Char)
  | backrefName (read : List Char)
  | behind
  | comment
  | condition (read : List Char)
  /-- Inside flags that are turned on, of which so many have been read. -/
  | flagsOn (read : List Char)
  /-- Behind the hyphen that turns flags off, or inside them. -/
  | flagsOff (read : List Char)

namespace Header

def flagLetters : List Char :=
  ['i', 'L', 'm', 's', 'x', 'a', 't', 'u']

/-- The flags of which only one can be chosen. -/
def characterFlags : List Char :=
  ['a', 'L', 'u']

def isLetter : Token → Bool
  | .plain c => Text.letterCodes.contains c.toNat
  | .escaped _ => false

def flag? (t : Token) : Option Char :=
  t.plain?.filter flagLetters.contains

/-- One more flag that is turned on, in front of `position`. -/
def turnOn (read : List Char) (flag : Char) (position : Nat) : Except Failure Header :=
  if flag = 'L' then .error (.at .byteFlag position)
  else if characterFlags.contains flag ∧
      read.any (fun f => characterFlags.contains f && f != flag) then
    .error (.at .incompatibleFlags position)
  else .ok (flagsOn (read ++ [flag]))

def turnOff (read : List Char) (flag : Char) (position : Nat) : Except Failure Header :=
  if characterFlags.contains flag then .error (.at .characterFlagOff position)
  else .ok (flagsOff (read ++ [flag]))

/-- A token that is no flag where a flag or the end of the flags is expected. -/
def notAFlag (t : Token) (position : Nat) (otherwise : Flaw) : Failure :=
  .at (if isLetter t then .unknownFlag else otherwise) position

/-- A head that ends in the name that has been read; its terminator stands at `position`. -/
def endName (read : List Char) (position : Nat) (make : List Char → Nat → Opening) :
    Except Failure (Progress Header Opening) :=
  if read.isEmpty then .error (.at (.missingName "group name") position)
  else .ok (.done (make read (position - read.length)))

def feedExtension (position : Nat) (t : Token) : Except Failure (Progress Header Opening) :=
  match t with
  | .plain 'P' => .ok (.more names)
  | .plain '#' => .ok (.more comment)
  | .plain '=' => .ok (.done (.lookahead false))
  | .plain '!' => .ok (.done (.lookahead true))
  | .plain '<' => .ok (.more behind)
  | .plain '(' => .ok (.more (condition []))
  | .plain '>' => .ok (.done .atomic)
  | .plain '-' => .ok (.more (flagsOff []))
  | t =>
    match flag? t with
    | some flag => (turnOn [] flag (position + 1)).map .more
    | none => .error (.at (.unknownExtension ('?' :: t.text)) (position - 1))

def feedFlagsOn (start position : Nat) (t : Token) (read : List Char) :
    Except Failure (Progress Header Opening) :=
  if t = .plain ')' then .error (.at .flagsNotAtStart start)
  else if t = .plain '-' then
    if read.contains 't' then .error (.at .globalFlagOn position) else .ok (.more (flagsOff []))
  else
    match flag? t with
    | some flag => (turnOn read flag (position + 1)).map .more
    | none => .error (notAFlag t position .missingFlagEnd)

def feedFlagsOff (position : Nat) (t : Token) (read : List Char) :
    Except Failure (Progress Header Opening) :=
  match flag? t with
  | some flag => (turnOff read flag (position + 1)).map .more
  | none => .error (notAFlag t position (if read.isEmpty then .missingFlag else .missingColon))

/-- The next token of a head that began at `start`; the token stands at `position`. -/
def feed (start position : Nat) (h : Header) (t : Token) :
    Except Failure (Progress Header Opening) :=
  match h with
  | opened => if t = .plain '?' then .ok (.more extension) else .ok (.before .capture)
  | extension => feedExtension position t
  | names =>
    if t = .plain '<' then .ok (.more (groupName []))
    else if t = .plain '=' then .ok (.more (backrefName []))
    else .error (.at (.unknownExtension ('?' :: 'P' :: t.text)) (position - 2))
  | groupName read =>
    if t = .plain '>' then endName read position .named
    else .ok (.more (groupName (read ++ t.text)))
  | backrefName read =>
    if t = .plain ')' then endName read position .backref
    else .ok (.more (backrefName (read ++ t.text)))
  | behind =>
    if t = .plain '=' then .ok (.done (.lookbehind false))
    else if t = .plain '!' then .ok (.done (.lookbehind true))
    else .error (.at (.unknownExtension ('?' :: '<' :: t.text)) (position - 2))
  | comment => if t = .plain ')' then .ok (.done .comment) else .ok (.more comment)
  | condition read =>
    if t = .plain ')' then endName read position .conditional
    else .ok (.more (condition (read ++ t.text)))
  | flagsOn read => feedFlagsOn start position t read
  | flagsOff read => feedFlagsOff position t read

def unfinishedName (read : List Char) (terminator : Char) (position : Nat) : Failure :=
  if read.isEmpty then .at (.missingName "group name") position
  else .at (.unterminatedName terminator) (position - read.length)

def finish (start position : Nat) : Header → Failure
  | opened => .at .unterminatedGroup start
  | extension | names | behind => .at .sourceEnds position
  | groupName read => unfinishedName read '>' position
  | backrefName read => unfinishedName read ')' position
  | condition read => unfinishedName read ')' position
  | comment => .at .unterminatedComment start
  | flagsOn _ => .at .missingFlagEnd position
  | flagsOff read => .at (if read.isEmpty then .missingFlag else .missingColon) position

end Header

end PathTemplate.Regex
