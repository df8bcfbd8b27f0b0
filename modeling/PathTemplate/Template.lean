import PathTemplate.Bindings
import PathTemplate.Log
import PathTemplate.Regex.Match
import PathTemplate.Skeleton

/-!
# Templates

A template is checked and compiled once, and then matched against paths. Its literal text is source
of a regular expression, in which each hole becomes a capturing group. A template without holes
matches its own text and nothing else.

## Main definitions

* `TemplateFlaw`: why a text is no template, with `TemplateFlaw.detail`.
* `Template`: a checked template.
* `Template.compile`: the template that a text denotes.
* `Template.accepts`: whether a path matches.
* `Template.extract`: what the named holes stand for in a path.
-/

namespace PathTemplate

inductive TemplateFlaw where
  /-- It begins neither with a slash nor with a star. -/
  | start
  | colon
  | syntaxError (e : Regex.SyntaxError)
  /-- Its literals open groups, or hide holes from the expression. -/
  | groupCount (groups holes : Nat)
  | quantifiedHole
  | alternation
deriving DecidableEq, Repr

inductive CompileError where
  | flaw (f : TemplateFlaw)
  | tooManyTimes
  /-- A bound of a repetition is too long to be read as a number. -/
  | tooManyDigits (count : Nat)
  /-- A code in an escape is too large for a machine number. -/
  | codeTooLarge
deriving DecidableEq, Repr

def TemplateFlaw.rule : TemplateFlaw → String
  | start => "prefix"
  | colon => "colon"
  | _ => "regex"

namespace Hole

/-- The group that a hole becomes: a wildcard may stand for nothing, a named hole may not, and
neither stands for a newline. Both take as little as possible. -/
def groupSource : Hole → List Char
  | wildcard => ['(', '.', '*', '?', ')']
  | param _ => ['(', '.', '+', '?', ')']

end Hole

namespace Skeleton

/-- The source of the expression: the literals as they are, a group for each hole, and the anchor
for the end. -/
def source (s : Skeleton) : List Char :=
  s.weave Hole.groupSource ++ ['$']

def parameters (s : Skeleton) : List (List Char) :=
  (s.holes.filterMap (·.1.name?)).eraseDups

end Skeleton

/-- A literal that would make the hole in front of it optional or repeated. -/
def beginsWithQuantifier : List Char → Bool
  | '?' :: _ => true
  | '+' :: _ => true
  | '{' :: c :: _ => Text.isDigit c
  | _ => false

/-- A bar that no backslash escapes. -/
def hasAlternation : List Char → Bool
  | [] => false
  | '|' :: _ => true
  | '\\' :: _ :: rest => hasAlternation rest
  | _ :: rest => hasAlternation rest

def literalFlaw? (literal : List Char) : Option TemplateFlaw :=
  if beginsWithQuantifier literal then some .quantifiedHole
  else if hasAlternation literal then some .alternation
  else none

/-- A hole that might capture nothing, as far as the literals show. -/
def Skeleton.optionalHole? (s : Skeleton) : Option TemplateFlaw :=
  if hasAlternation s.lead then some .alternation else s.holes.findSome? (literalFlaw? ·.2)

/-- A checked template: its text, its literals and holes, and its expression if it has holes. -/
structure Template where
  text : String
  skeleton : Skeleton
  expression : Option Regex

namespace Template

def hasWildcard (t : Template) : Bool :=
  t.text.toList.contains '*'

/-- The names of the holes in order; a wildcard has an empty one. -/
def parameterNames (t : Template) : List String :=
  t.skeleton.names.map String.ofList

def hasParameters (t : Template) : Bool :=
  t.skeleton.names.any (!·.isEmpty)

def segments (t : Template) : List String :=
  t.skeleton.segments.map String.ofList

/-- The names that have to be supplied, each once, in order of first mention. -/
def parameters (t : Template) : List String :=
  t.skeleton.parameters.map String.ofList

def logger : String := "perch.routing"

def display (t : Template) : String :=
  "PathPattern(pattern=" ++ Text.quote t.text ++ ")"

/-- A template begins with a slash or a star and holds no colon. -/
def checkText (text : List Char) : Except CompileError Unit :=
  if text.head? ≠ some '/' ∧ text.head? ≠ some '*' then .error (.flaw .start)
  else if text.contains ':' then .error (.flaw .colon)
  else .ok ()

/-- Why the source of an expression was refused, as seen from the template. -/
def ofFailure : Regex.Failure → CompileError
  | .syntaxError e => .flaw (.syntaxError e)
  | .tooManyTimes => .tooManyTimes
  | .tooManyDigits count => .tooManyDigits count
  | .codeTooLarge => .codeTooLarge

/-- The expression of a skeleton. It has one group for each hole, and none is optional. -/
def compileSkeleton (s : Skeleton) : Except CompileError Regex :=
  match Regex.compile s.source with
  | .error failure => .error (ofFailure failure)
  | .ok regex =>
    if regex.groupCount ≠ s.holes.length then
      .error (.flaw (.groupCount regex.groupCount s.holes.length))
    else
      match s.optionalHole? with
      | some flaw => .error (.flaw flaw)
      | none => .ok regex

/-- The template that a text denotes. -/
def compile? (text : String) : Except CompileError Template :=
  match checkText text.toList with
  | .error e => .error e
  | .ok () =>
    let skeleton := Skeleton.scan text.toList
    let plain : Template := ⟨text, skeleton, none⟩
    if plain.hasWildcard || plain.hasParameters then
      (compileSkeleton skeleton).map fun regex => { plain with expression := some regex }
    else .ok plain

/-- The source that is compiled for a text, if the text is not refused before and has a hole. -/
def expressionSource? (text : String) : Option (List Char) :=
  match checkText text.toList with
  | .error _ => none
  | .ok () =>
    let skeleton := Skeleton.scan text.toList
    let plain : Template := ⟨text, skeleton, none⟩
    if plain.hasWildcard || plain.hasParameters then some skeleton.source else none

def compiledRecord (t : Template) (regex : Regex) : Record :=
  ⟨.debug, logger,
    "Compiled " ++ Text.quote t.text ++ " -> " ++ String.ofList (Text.quoted regex.source)⟩

/-- The template that a text denotes. An expression that was compiled is reported. -/
def compile (text : String) : Traced (Except CompileError Template) :=
  match compile? text with
  | .error e => .silent (.error e)
  | .ok t => ⟨(t.expression.map t.compiledRecord).toList, .ok t⟩

/-- Whether the whole of a path matches. -/
def accepts (t : Template) (path : String) : Bool :=
  match t.expression with
  | none => path == t.text
  | some regex => (regex.fullMatch? path.toList).isSome

/-- What the named holes stand for, given the texts of all holes. A name that occurs several times
stands for what its last hole stands for. -/
def bindCaptures (holes : List Hole) (captures : List (Option (List Char))) :
    Bindings String (Option String) :=
  .ofList <| (holes.zip captures).filterMap fun (hole, capture) =>
    hole.name?.map fun name => (String.ofList name, capture.map String.ofList)

/-- What the named holes stand for in a path, if it matches. A hole that took no part in the match
stands for nothing. -/
def extract? (t : Template) (path : String) : Option (Bindings String (Option String)) :=
  match t.expression with
  | none => if path = t.text then some [] else none
  | some regex =>
    (regex.fullMatch? path.toList).map (bindCaptures (t.skeleton.holes.map (·.1)))

end Template

/-- Parameters were asked for of a path that the template does not match. -/
structure Mismatch where
  pattern : String
  path : String
deriving DecidableEq, Repr

def Mismatch.message (m : Mismatch) : String :=
  "URL " ++ Text.quote m.path ++ " does not match path " ++ Text.quote m.pattern

def Template.extract (t : Template) (path : String) :
    Except Mismatch (Bindings String (Option String)) :=
  match t.extract? path with
  | some bindings => .ok bindings
  | none => .error ⟨t.text, path⟩

/-- A text that is no template, with the constraint it violates and an account of it. -/
structure InvalidTemplate where
  pattern : String
  rule : String
  detail : String
deriving DecidableEq, Repr

def TemplateFlaw.detail (text : String) : TemplateFlaw → String
  | start => "'" ++ text ++ "' must start with '/' or '*'"
  | colon => "Variables have \x7bvar\x7d format. Path cannot have ':' " ++ text
  | syntaxError e =>
    "'" ++ text ++ "' does not compile to a valid expression: " ++
      e.message (Skeleton.scan text.toList).source
  | groupCount groups holes =>
    "'" ++ text ++ "' has " ++ toString groups ++ " capture groups for " ++ toString holes ++
      " placeholders; literal groups are not allowed"
  | quantifiedHole =>
    "'" ++ text ++ "' applies a quantifier to a placeholder; every placeholder must always capture"
  | alternation =>
    "'" ++ text ++ "' contains an alternation; every placeholder must always capture"

def TemplateFlaw.report (text : String) (flaw : TemplateFlaw) : InvalidTemplate :=
  ⟨text, flaw.rule, flaw.detail text⟩

def CompileError.message (text : String) : CompileError → String
  | flaw f => f.detail text
  | tooManyTimes => "the repetition number is too large"
  | tooManyDigits count =>
    Text.digitLimitMessage (": value has " ++ toString count ++ " digits")
  | codeTooLarge => "Python int too large to convert to C int"

end PathTemplate
