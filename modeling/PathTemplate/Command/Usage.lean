import PathTemplate.Command.Grammar
import PathTemplate.Log

/-!
# The commands and their help

## Main definitions

* `mainGrammar`: the options in front of a command.
* `CommandKind`: the commands, with `CommandKind.grammar`, the arguments of each.
-/

namespace PathTemplate.Command

inductive CommandKind where
  | check
  | extract
  | build
  | inspect
deriving DecidableEq, Repr

namespace CommandKind

/-- All commands, in the order in which they are listed. -/
def all : List CommandKind :=
  [check, extract, build, inspect]

def word : CommandKind → String
  | check => "match"
  | extract => "extract"
  | build => "build"
  | inspect => "inspect"

def ofWord? (word : String) : Option CommandKind :=
  all.find? (·.word == word)

end CommandKind

def program : String := "perch"

def helpOption : OptionSpec := ⟨["-h", "--help"], .help⟩

def levelOption : OptionSpec := ⟨["--log-level"], .choice (Level.all.map Level.name)⟩

def verboseOption : OptionSpec := ⟨["-v", "--verbose"], .flag⟩

def jsonOption : OptionSpec := ⟨["--json"], .flag⟩

def mainUsage : String :=
  "usage: perch [-h] [--log-level \x7bdebug,info,warning,error,critical\x7d] [-v]\n" ++
  "             \x7bmatch,extract,build,inspect\x7d ...\n"

def mainHelp : String :=
  mainUsage ++ "\n" ++
  "Perch: compile, match, and build URL path templates.\n\n" ++
  "positional arguments:\n" ++
  "  \x7bmatch,extract,build,inspect\x7d\n" ++
  "    match               Check a path against a pattern\n" ++
  "    extract             Extract parameters from a path\n" ++
  "    build               Build a path from parameters\n" ++
  "    inspect             Show how a pattern compiles\n\n" ++
  "options:\n" ++
  "  -h, --help            show this help message and exit\n" ++
  "  --log-level \x7bdebug,info,warning,error,critical\x7d\n" ++
  "                        Logging level (default: $PERCH_LOG_LEVEL or warning)\n" ++
  "  -v, --verbose         Shortcut for --log-level debug\n"

/-- The options in front of a command, and the command. -/
def mainGrammar : Grammar where
  program := program
  usage := mainUsage
  help := mainHelp
  options := [helpOption, levelOption, verboseOption]
  positions := [⟨"command", .command (CommandKind.all.map CommandKind.word)⟩]

def patternPosition : Position := ⟨"pattern", .one⟩

def pathPosition : Position := ⟨"path", .one⟩

def valuesPosition : Position := ⟨"name=value", .many⟩

namespace CommandKind

def usage : CommandKind → String
  | check => "usage: perch match [-h] pattern path\n"
  | extract => "usage: perch extract [-h] [--json] pattern path\n"
  | build => "usage: perch build [-h] pattern [name=value ...]\n"
  | inspect => "usage: perch inspect [-h] [--json] pattern\n"

def positionHelp : CommandKind → String
  | check =>
    "  pattern     Path pattern (e.g. /users/\x7bid\x7d)\n" ++
    "  path        Concrete request path\n"
  | extract =>
    "  pattern     Path pattern (e.g. /users/\x7bid\x7d)\n" ++
    "  path        Concrete request path\n"
  | build =>
    "  pattern     Path pattern (e.g. /users/\x7bid\x7d)\n" ++
    "  name=value  Placeholder values\n"
  | inspect => "  pattern     Path pattern (e.g. /files/*)\n"

def hasJson : CommandKind → Bool
  | extract | inspect => true
  | check | build => false

def help (c : CommandKind) : String :=
  c.usage ++ "\npositional arguments:\n" ++ c.positionHelp ++ "\noptions:\n" ++
  "  -h, --help  show this help message and exit\n" ++
  (if c.hasJson then "  --json      Print machine-readable JSON\n" else "")

def positions : CommandKind → List Position
  | check | extract => [patternPosition, pathPosition]
  | build => [patternPosition, valuesPosition]
  | inspect => [patternPosition]

def grammar (c : CommandKind) : Grammar where
  program := program ++ " " ++ c.word
  usage := c.usage
  help := c.help
  options := if c.hasJson then [helpOption, jsonOption] else [helpOption]
  positions := c.positions

end CommandKind

end PathTemplate.Command
