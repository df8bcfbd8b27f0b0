import PathTemplate.Assignment
import PathTemplate.Build
import PathTemplate.Command.Invocation
import PathTemplate.Settings
import PathTemplate.Text.Json

/-!
# Running commands

A run of the program is a list of events, in the order in which they happen, and an ending. Records
are events like any other; whether one is shown is decided by its level when the error stream is
written out. What the compiler of expressions says about a source on the error stream is not up to
the program, so it is a parameter.

## Main definitions

* `Notices`: what is said about sources that are compiled.
* `Event`: something that is printed, or a record.
* `Run`: the events, the ending, and the level from which on records are shown.
* `run`: the run for some arguments in an environment.
* `Run.stdout`, `Run.stderr`: what is printed on the two streams.
-/

namespace PathTemplate.Command

/-- What is said on the error stream about the source of an expression when it is compiled. -/
def Notices := List Char → List String

namespace Notices

def silent : Notices := fun _ => []

/-- What is said when the template of a text is compiled. -/
def about (notices : Notices) (pattern : String) : List String :=
  (Template.expressionSource? pattern).elim [] notices

end Notices

inductive Event where
  | out (text : String)
  | err (text : String)
  | record (r : Record)
deriving DecidableEq, Repr

inductive Ending where
  | exit (code : Nat)
  /-- A template was beyond the limits of expressions. -/
  | notCompiled (pattern : String) (e : CompileError)
  /-- A path was needed and there was none. -/
  | noPath
deriving DecidableEq, Repr

def noPathMessage : String :=
  "expected string or bytes-like object, got 'list'"

structure Run where
  level : Level
  events : List Event
  ending : Ending
deriving DecidableEq, Repr

/-- What happens when a command is run, apart from the level. -/
structure Effects where
  events : List Event
  ending : Ending
deriving DecidableEq, Repr

namespace Effects

def failed (records : List Record) (message : String) : Effects :=
  ⟨records.map .record ++ [.err ("Error: " ++ message ++ "\n")], .exit 1⟩

def after (records : List Record) (e : Effects) : Effects :=
  { e with events := records.map .record ++ e.events }

def noting (notes : List String) (e : Effects) : Effects :=
  { e with events := notes.map .err ++ e.events }

def printed (text : String) (code : Nat) : Effects :=
  ⟨if text.isEmpty then [] else [.out text], .exit code⟩

end Effects

def logger : String := "perch.cli"

def rejectedRecord (report : InvalidTemplate) : Record :=
  ⟨.debug, logger,
    "Rejected pattern " ++ Text.quote report.pattern ++ " (rule=" ++ report.rule ++ ")"⟩

/-- What follows when the template of a text has been compiled: it is gone on with, or the program
fails. -/
def afterCompiling (pattern : String) (go : Template → Effects) : Effects :=
  let compiled := Template.compile pattern
  match compiled.result with
  | .ok t => (go t).after compiled.records
  | .error (.flaw flaw) =>
    let report := flaw.report pattern
    .failed [rejectedRecord report] report.detail
  | .error e => ⟨[], .notCompiled pattern e⟩

def withTemplate (notices : Notices) (pattern : String) (go : Template → Effects) : Effects :=
  (afterCompiling pattern go).noting (notices.about pattern)

/-- Whether a path matches: it is said in a word, and by the ending. -/
def runCheck (path : Option String) (t : Template) : Effects :=
  match path, t.expression with
  | none, some _ => ⟨[], .noPath⟩
  | none, none => .printed "false\n" 1
  | some path, _ => if t.accepts path then .printed "true\n" 0 else .printed "false\n" 1

def bindingLine (binding : String × Option String) : String :=
  binding.1 ++ "=" ++ binding.2.getD "None" ++ "\n"

def bindingsJson (bindings : Bindings String (Option String)) : Text.Json :=
  .object (bindings.map fun (name, value) => (name, (value.map .text).getD .null))

def runExtract (json : Bool) (path : Option String) (t : Template) : Effects :=
  match path, t.expression with
  | none, some _ => ⟨[], .noPath⟩
  | none, none =>
    .failed [] ("URL [] does not match path " ++ Text.quote t.text)
  | some path, _ =>
    match t.extract path with
    | .error e => .failed [] e.message
    | .ok bindings =>
      if json then .printed ((bindingsJson bindings).compact ++ "\n") 0
      else .printed ("".intercalate (bindings.map bindingLine)) 0

def runBuild (assignments : List String) (t : Template) : Effects :=
  match Assignment.parseAll assignments with
  | .error item => .failed [] (Assignment.message item)
  | .ok pairs =>
    let built := t.build ⟨pairs.map fun (name, value) => .tuple [.text name, .text value], []⟩
    match built.result with
    | .error e => .failed built.records e.message
    | .ok path => (Effects.printed (path ++ "\n") 0).after built.records

inductive Shown where
  | flag (b : Bool)
  | text (s : Option String)
  | texts (items : List String)

def Shown.literal : Shown → String
  | flag b => (Value.bool b).literal
  | text s => ((s.map Value.text).getD .none).literal
  | texts items => (Value.list (items.map .text)).literal

def Shown.json : Shown → Text.Json
  | flag b => .bool b
  | text s => (s.map .text).getD .null
  | texts items => .list (items.map .text)

def describe (t : Template) : List (String × Shown) :=
  [("pattern", .text (some t.text)),
   ("has_wildcard", .flag t.hasWildcard),
   ("has_parameters", .flag t.hasParameters),
   ("parameter_names", .texts t.parameterNames),
   ("segments", .texts t.segments),
   ("regex", .text (t.expression.map fun regex => String.ofList regex.source))]

/-- A name, padded with blanks to a width, and a property. -/
def describeLine (width : Nat) (property : String × Shown) : String :=
  property.1 ++ String.ofList (List.replicate (width - property.1.length) ' ') ++ "  " ++
    property.2.literal ++ "\n"

def runInspect (json : Bool) (t : Template) : Effects :=
  let properties := describe t
  if json then
    .printed ((Text.Json.object (properties.map fun (n, p) => (n, p.json))).indented 0 ++ "\n") 0
  else
    let width := (properties.map (·.1.length)).foldl max 0
    .printed ("".intercalate (properties.map (describeLine width))) 0

def runTask (notices : Notices) (json : Bool) : Task → Effects
  | .check pattern path => withTemplate notices pattern (runCheck path)
  | .extract pattern path => withTemplate notices pattern (runExtract json path)
  | .build pattern assignments => withTemplate notices pattern (runBuild assignments)
  | .inspect pattern => withTemplate notices pattern (runInspect json)

/-- The settings that an invocation chooses explicitly. Verbosity wins over a level. -/
def Invocation.explicit (i : Invocation) : List (String × Value) :=
  let level :=
    if i.verbose then some Level.debug.name else i.level
  (level.map fun name => (Settings.levelField, Value.text name)).toList ++
    (if i.json then [(Settings.jsonField, Value.bool true)] else [])

/-- The run of an invocation. Wrong settings are found before any template is compiled. -/
def Invocation.run (notices : Notices) (i : Invocation) (environment : List (String × String)) :
    Run :=
  match Settings.ofEnvironment environment i.explicit with
  | .error e =>
    let effects := Effects.failed [] e.message
    ⟨Settings.defaultLevel, effects.events, effects.ending⟩
  | .ok settings =>
    let effects := runTask notices settings.wantsJson i.task
    ⟨settings.level, effects.events, effects.ending⟩

def run (notices : Notices) (arguments : List String) (environment : List (String × String)) : Run :=
  match Invocation.read arguments with
  | .error (.help text) => ⟨Settings.defaultLevel, [.out text], .exit 0⟩
  | .error (.complaint text) => ⟨Settings.defaultLevel, [.err text], .exit 2⟩
  | .ok invocation => invocation.run notices environment

def Event.stdout : Event → String
  | .out text => text
  | _ => ""

/-- What an event prints on the error stream, if records are shown from some level on. -/
def Event.stderr (level : Level) : Event → String
  | .err text => text
  | .record r => if level.number ≤ r.level.number then r.line else ""
  | .out _ => ""

namespace Run

def stdout (r : Run) : String :=
  "".intercalate (r.events.map Event.stdout)

def stderr (r : Run) : String :=
  "".intercalate (r.events.map (Event.stderr r.level))

end Run

end PathTemplate.Command
