import PathTemplate.Template
import PathTemplate.Value

/-!
# Building paths

A path is built from a template without wildcards by supplying a value for each of its names and
none besides. Values are written once and never scanned again, so one that looks like a hole stays
as it is.

## Main definitions

* `fill`: replacing delimited names in a text, by `fillTexts` if the values can be written.
* `Supplied`: the arguments of a call, with `Supplied.pairs?`, the names and values they give.
* `BuildError`: why the names do not fit.
* `Template.build`: the path that a template and arguments make.
-/

namespace PathTemplate

open Text (Piece)

/-- One piece of a text that is filled: a name without a value stays as it was written. -/
def fillPiece (values : Bindings String String) : Piece (List Char) → List Char
  | .plain c => [c]
  | .token name text =>
    match List.lookup (String.ofList name) values with
    | some value => value.toList
    | none => text

/-- The text with each delimited name replaced by the text of its value. A name that is supplied
several times has its last value. -/
def fillTexts (text opening closing : String) (supplied : List (String × Value)) : String :=
  let values := Bindings.ofList (supplied.map fun (name, value) => (name, value.toText))
  String.ofList <|
    (Text.pieces (delimitedRule opening.toList closing.toList) text.toList).flatMap
      (fillPiece values)

/-- The text with each delimited name replaced by its value. The values are written before the text
is looked at, so each of them has to be one that can be written. -/
def fill (text opening closing : String) (supplied : List (String × Value)) : Option String :=
  if supplied.all (·.2.isWritable) then some (fillTexts text opening closing supplied) else none

theorem fill_eq_some_iff {text opening closing path : String} {supplied : List (String × Value)} :
    fill text opening closing supplied = some path ↔
      (∀ pair ∈ supplied, pair.2.isWritable = true) ∧
        fillTexts text opening closing supplied = path := by
  simp [fill]

theorem fill_eq_none_iff {text opening closing : String} {supplied : List (String × Value)} :
    fill text opening closing supplied = none ↔ ∃ pair ∈ supplied, pair.2.isWritable = false := by
  simp [fill]

structure Supplied where
  positional : List Value
  named : List (String × Value)

/-- Why arguments give no names and values. -/
inductive ArgumentError where
  /-- A name is already taken by the template itself. -/
  | nameTaken (name : String)
  | notPair (value : Value)
  /-- A name, or what stands in place of a pair, cannot be written. -/
  | unwritable

def ArgumentError.message : ArgumentError → String
  | nameTaken name =>
    "PathPattern.create() got multiple values for argument " ++ Text.quote name
  | notPair value => "Expected (name, value) pairs, got " ++ value.literal
  | unwritable => Value.unwritableMessage

def Value.pair? : Value → Option (Value × Value)
  | tuple [name, value] => some (name, value)
  | _ => Option.none

def namedEntry (entry : Value × Value) : Except ArgumentError (String × Value) :=
  if entry.1.isWritable then .ok (entry.1.toText, entry.2) else .error .unwritable

def namedPair (value : Value) : Except ArgumentError (String × Value) :=
  match value.pair? with
  | some entry => namedEntry entry
  | none => .error (if value.isWritable then .notPair value else .unwritable)

/-- The pairs that values in order give: the entries of a lone dictionary, or the values
themselves. -/
def positionalPairs : List Value → Except ArgumentError (List (String × Value))
  | [.dict entries] => entries.mapM namedEntry
  | values => values.mapM namedPair

/-- The name that no value can be given. -/
def receiver : String := "self"

/-- The names and values that the arguments give, the named ones last. -/
def Supplied.pairs? (s : Supplied) : Except ArgumentError (List (String × Value)) :=
  if s.named.any (·.1 == receiver) then .error (.nameTaken receiver)
  else (positionalPairs s.positional).map (· ++ s.named)

/-- A path cannot be built: how many values were expected and supplied, and which names are
missing. -/
structure BuildError where
  pattern : String
  expected : Int
  actual : Int
  missing : List String
deriving DecidableEq, Repr

namespace BuildError

def counts (e : BuildError) : String :=
  "Path has wildcards or different parameters: " ++ toString e.expected ++ "/" ++ toString e.actual

def message (e : BuildError) : String :=
  if e.missing.isEmpty then e.counts
  else e.counts ++ " (missing: " ++ ", ".intercalate e.missing ++ ")"

def record (e : BuildError) : Record :=
  ⟨.error, Template.logger, e.counts ++ " (" ++ e.pattern ++ ")"⟩

end BuildError

inductive BuildFailure where
  | arguments (e : ArgumentError)
  | names (e : BuildError)
  /-- The names fit, but a value cannot be written. -/
  | unwritable

namespace BuildFailure

def message : BuildFailure → String
  | arguments e => e.message
  | names e => e.message
  | unwritable => Value.unwritableMessage

def records : BuildFailure → List Record
  | names e => [e.record]
  | _ => []

end BuildFailure

namespace Template

/-- How many values a template asks for: one for each of its names. A template with wildcards counts
all its holes, or none if no hole has a name. -/
def expectedCount (t : Template) : Nat :=
  if t.hasWildcard then (if t.hasParameters then t.parameterNames.length else 0)
  else t.parameters.length

/-- The names that were not supplied, in order of first mention. -/
def missing (t : Template) (pairs : List (String × Value)) : List String :=
  t.parameters.filter fun name => !pairs.any (·.1 == name)

/-- Whether the names fit: there is no wildcard, each name is supplied, and no other. -/
def fits (t : Template) (pairs : List (String × Value)) : Bool :=
  !t.hasWildcard && pairs.length == t.parameters.length &&
    pairs.all (fun pair => t.parameters.contains pair.1) && (t.missing pairs).isEmpty

/-- The path that names and values make. The names are looked at first. -/
def buildFrom (t : Template) (pairs : List (String × Value)) : Except BuildFailure String :=
  if t.fits pairs then
    match fill t.text "\x7b" "\x7d" pairs with
    | some path => .ok path
    | none => .error .unwritable
  else .error (.names ⟨t.text, t.expectedCount, pairs.length, t.missing pairs⟩)

def build (t : Template) (args : Supplied) : Traced (Except BuildFailure String) :=
  match args.pairs? with
  | .error e => .silent (.error (.arguments e))
  | .ok pairs =>
    match t.buildFrom pairs with
    | .ok path => .silent (.ok path)
    | .error e => ⟨e.records, .error e⟩

end Template

end PathTemplate
