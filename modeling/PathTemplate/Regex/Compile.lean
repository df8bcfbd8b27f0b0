import PathTemplate.Regex.Reader

/-!
# Compiling expressions

## Main definitions

* `Regex`: an expression with its source and the number of its groups.
* `Regex.compile`: the expression that a source denotes, or why it denotes none.
-/

namespace PathTemplate

structure Regex where
  source : List Char
  groupCount : Nat
  body : Regex.Expr

namespace Regex

/-- The width of a look-behind has to fit in so many bits' worth of numbers. -/
def lookbehindLimit : Nat := Nat.pow 2 32

/-- A look-behind reaches back by one number of characters. -/
def checkLookbehind (w : Width) : Except Failure Unit :=
  if lookbehindLimit ≤ w.least then .error (.syntaxError ⟨.lookbehindTooFar, none⟩)
  else if w.fixed?.isNone then .error (.syntaxError ⟨.lookbehindNotFixed, none⟩)
  else .ok ()

def checkLookbehinds (e : Expr) : Except Failure Unit :=
  e.lookbehinds.forM checkLookbehind

def readSource (source : List Char) : Except Failure Reader :=
  match Token.ofSource? source with
  | none => .error (.at .escapeAtEnd (source.length - 1))
  | some tokens => Reader.empty.readAll tokens

def compile (source : List Char) : Except Failure Regex := do
  let reader ← readSource source
  let settled ← reader.settle
  let body ← settled.result
  checkLookbehinds body
  return ⟨source, settled.groupCount, body⟩

end Regex

end PathTemplate
