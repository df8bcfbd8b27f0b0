import PathTemplate.Command.Run

/-!
# The program

Reads the arguments and the environment, and prints what the run says.
-/

open PathTemplate PathTemplate.Command

/-- The environment variables that are looked at. -/
def readEnvironment : IO (List (String × String)) := do
  let names := [Settings.levelVariable, Settings.jsonVariable]
  names.filterMapM fun name => do
    return (← IO.getEnv name).map (name, ·)

def main (arguments : List String) : IO UInt32 := do
  let result := run .silent arguments (← readEnvironment)
  IO.print result.stdout
  IO.eprint result.stderr
  match result.ending with
  | .exit code => return code.toUInt32
  | .notCompiled pattern e =>
    IO.eprintln (e.message pattern)
    return 1
  | .noPath =>
    IO.eprintln noPathMessage
    return 1
