import PathTemplate.Text.Quoted

/-!
# Why an expression is refused

## Main definitions

* `Flaw`: what is wrong with the source of an expression, with `Flaw.text`.
* `SyntaxError`: a flaw and the place where it shows, with `SyntaxError.message`.
* `Failure`: a syntax error, or a number in the source that is beyond the limits.
-/

namespace PathTemplate.Regex

inductive Flaw where
  /-- A backslash ends the source. -/
  | escapeAtEnd
  | badEscape (text : List Char)
  | incompleteEscape (text : List Char)
  | octalOutOfRange (text : List Char)
  | noCharacterName
  | unknownCharacterName (name : List Char)
  | unterminatedSet
  | badRange (first last : List Char)
  | nothingToRepeat
  | multipleRepeat
  | boundsReversed
  | unterminatedGroup
  | unterminatedComment
  | unbalancedGroup
  | sourceEnds
  | unknownExtension (text : List Char)
  /-- A name is missing where one of this kind is needed. -/
  | missingName (what : String)
  | unterminatedName (terminator : Char)
  | badGroupName (name : List Char)
  | unknownGroupName (name : List Char)
  | groupNameTaken (name : List Char) (number earlier : Nat)
  | groupZero
  | invalidReference (number : Nat)
  | openGroup
  /-- A look-behind refers to a group that is defined inside it. -/
  | groupInSameLookbehind
  | thirdBranch
  | flagsNotAtStart
  | byteFlag
  | incompatibleFlags
  | unknownFlag
  | missingFlagEnd
  | globalFlagOn
  | missingFlag
  | characterFlagOff
  | missingColon
  | lookbehindTooFar
  | lookbehindNotFixed
deriving DecidableEq, Repr

def Flaw.text : Flaw → String
  | escapeAtEnd => "bad escape (end of pattern)"
  | badEscape text => "bad escape " ++ String.ofList text
  | incompleteEscape text => "incomplete escape " ++ String.ofList text
  | octalOutOfRange text =>
    "octal escape value " ++ String.ofList text ++ " outside of range 0-0o377"
  | noCharacterName => "missing \x7b"
  | unknownCharacterName name =>
    "undefined character name " ++ String.ofList (Text.quoted name)
  | unterminatedSet => "unterminated character set"
  | badRange first last =>
    "bad character range " ++ String.ofList first ++ "-" ++ String.ofList last
  | nothingToRepeat => "nothing to repeat"
  | multipleRepeat => "multiple repeat"
  | boundsReversed => "min repeat greater than max repeat"
  | unterminatedGroup => "missing ), unterminated subpattern"
  | unterminatedComment => "missing ), unterminated comment"
  | unbalancedGroup => "unbalanced parenthesis"
  | sourceEnds => "unexpected end of pattern"
  | unknownExtension text => "unknown extension " ++ String.ofList text
  | missingName what => "missing " ++ what
  | unterminatedName terminator => "missing " ++ terminator.toString ++ ", unterminated name"
  | badGroupName name => "bad character in group name " ++ String.ofList (Text.quoted name)
  | unknownGroupName name => "unknown group name " ++ String.ofList (Text.quoted name)
  | groupNameTaken name number earlier =>
    "redefinition of group name " ++ String.ofList (Text.quoted name) ++ " as group " ++
      toString number ++ "; was group " ++ toString earlier
  | groupZero => "bad group number"
  | invalidReference number => "invalid group reference " ++ toString number
  | openGroup => "cannot refer to an open group"
  | groupInSameLookbehind => "cannot refer to group defined in the same lookbehind subpattern"
  | thirdBranch => "conditional backref with more than two branches"
  | flagsNotAtStart => "global flags not at the start of the expression"
  | byteFlag => "bad inline flags: cannot use 'L' flag with a str pattern"
  | incompatibleFlags => "bad inline flags: flags 'a', 'u' and 'L' are incompatible"
  | unknownFlag => "unknown flag"
  | missingFlagEnd => "missing -, : or )"
  | globalFlagOn => "bad inline flags: cannot turn on global flag"
  | missingFlag => "missing flag"
  | characterFlagOff => "bad inline flags: cannot turn off flags 'a', 'u' and 'L'"
  | missingColon => "missing :"
  | lookbehindTooFar => "looks too much behind"
  | lookbehindNotFixed => "look-behind requires fixed-width pattern"

/-- A flaw, and the number of characters in front of the place where it shows, if it has one. -/
structure SyntaxError where
  flaw : Flaw
  position : Option Nat
deriving DecidableEq, Repr

/-- The error as it is reported: a place is also given by line and column if the source has several
lines. -/
def SyntaxError.message (e : SyntaxError) (source : List Char) : String :=
  match e.position with
  | none => e.flaw.text
  | some position =>
    let before := source.take position
    let line := before.count '\n' + 1
    let column := (before.reverse.takeWhile (· != '\n')).length + 1
    e.flaw.text ++ " at position " ++ toString position ++
      (if source.contains '\n' then
        " (line " ++ toString line ++ ", column " ++ toString column ++ ")"
      else "")

inductive Failure where
  | syntaxError (e : SyntaxError)
  | tooManyTimes
  /-- A bound of a repetition is too long to be read as a number. -/
  | tooManyDigits (count : Nat)
  /-- A code is too large for a machine number. -/
  | codeTooLarge
deriving DecidableEq, Repr

def Failure.at (flaw : Flaw) (position : Nat) : Failure :=
  syntaxError ⟨flaw, some position⟩

/-- A bound of a repetition is less than this. -/
def repeatLimit : Nat := 4294967295

/-- A code in an escape is less than this, or it is not even tried as a character. -/
def codeLimit : Nat := 0x80000000

end PathTemplate.Regex
