import PathTemplate.Command.Usage

/-!
# Invocations

What the arguments of the program ask for.

## Main definitions

* `Invocation`: a command with its arguments and the settings that were chosen explicitly.
* `Refusal`: what is printed instead if there is no command to run.
* `Invocation.read`: the invocation that arguments make.
-/

namespace PathTemplate.Command

/-- A command with its arguments. A path can be missing: a double hyphen may stand in its place and
be dropped. -/
inductive Task where
  | check (pattern : String) (path : Option String)
  | extract (pattern : String) (path : Option String)
  | build (pattern : String) (assignments : List String)
  | inspect (pattern : String)
deriving DecidableEq, Repr

structure Invocation where
  level : Option String
  verbose : Bool
  json : Bool
  task : Task
deriving DecidableEq, Repr

/-- What is printed if there is no command to run: help, or a complaint. -/
inductive Refusal where
  | help (text : String)
  | complaint (text : String)
deriving DecidableEq, Repr

namespace Parsed

def lastValue? (p : Parsed) (o : OptionSpec) : Option String :=
  (p.options.reverse.lookup o).join

def has (p : Parsed) (o : OptionSpec) : Bool :=
  p.options.any (·.1 == o)

def arguments (p : Parsed) (position : Position) : List String :=
  (p.filled.lookup position).getD []

end Parsed

def Grammar.read (g : Grammar) (arguments : List String) : Except Refusal Parsed :=
  match g.parse arguments with
  | .ok parsed => .ok parsed
  | .error .help => .error (.help g.help)
  | .error (.wrong message) => .error (.complaint (g.complaint message))

def CommandKind.task (c : CommandKind) (parsed : Parsed) : Task :=
  let pattern := (parsed.arguments patternPosition).headD ""
  let path := (parsed.arguments pathPosition).head?
  match c with
  | .check => .check pattern path
  | .extract => .extract pattern path
  | .build => .build pattern (parsed.arguments valuesPosition)
  | .inspect => .inspect pattern

/-- What is left over is complained about by the program itself, whichever command it was left over
by. -/
def checkExtras (extras : List String) : Except Refusal Unit :=
  if extras.isEmpty then .ok ()
  else
    .error <| .complaint <|
      mainGrammar.complaint ("unrecognized arguments: " ++ " ".intercalate extras)

def Parsed.command? (p : Parsed) : Option (CommandKind × List String) :=
  match p.filled with
  | (_, word :: rest) :: _ => (CommandKind.ofWord? word).map (·, rest)
  | _ => none

/-- The invocation that arguments make. Without a command, help is printed. -/
def Invocation.read (arguments : List String) : Except Refusal Invocation := do
  let main ← mainGrammar.read arguments
  match main.command? with
  | none =>
    checkExtras main.extras
    .error (.help mainHelp)
  | some (command, rest) =>
    let parsed ← command.grammar.read rest
    checkExtras (main.extras ++ parsed.extras)
    return {
      level := main.lastValue? levelOption
      verbose := main.has verboseOption
      json := parsed.has jsonOption
      task := command.task parsed }

end PathTemplate.Command
