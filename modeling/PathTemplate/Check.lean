import PathTemplate.Build

/-!
# Checks

Assertions about how a template treats paths, for tests of the templates of an application. A check
that fails says what was expected and what came out.

## Main definitions

* `CheckFailure`: why a check fails.
* `checkAccepts`, `checkRefuses`, `checkExtracts`, `checkBuilds`: the checks.
-/

namespace PathTemplate

/-- Why a check fails: what it asserts is false, or something went wrong on the way. -/
inductive CheckFailure where
  | refuted (account : String)
  /-- What is expected cannot be written into the account. -/
  | unwritable
  | notCompiled (e : CompileError)
  | mismatch (e : Mismatch)
  | notBuilt (e : BuildFailure)

/-- The expression of a template, or a remark that it has none. -/
def Template.shownExpression (t : Template) : String :=
  match t.expression with
  | none => "<exact match>"
  | some regex => String.ofList regex.source

def checkTemplate (text : String) (check : Template → Except CheckFailure Unit) :
    Except CheckFailure Unit :=
  match Template.compile? text with
  | .error e => .error (.notCompiled e)
  | .ok t => check t

namespace Template

def checkAccepts (t : Template) (path : String) : Except CheckFailure Unit :=
  if t.accepts path then .ok ()
  else
    .error <| .refuted <|
      "Expected " ++ Text.quote path ++ " to match " ++ Text.quote t.text ++ ".\nExpression: " ++
        t.shownExpression

def checkRefuses (t : Template) (path : String) : Except CheckFailure Unit :=
  if !t.accepts path then .ok ()
  else
    .error <| .refuted <|
      "Expected " ++ Text.quote path ++ " not to match " ++ Text.quote t.text ++
        ".\nExpression: " ++ t.shownExpression

def valueOf (bindings : Bindings String (Option String)) : Value :=
  .ofNamed (bindings.map fun (name, text) => (name, (text.map Value.text).getD .none))

/-- The path matches, and the named holes stand for just this. -/
def checkExtracts (t : Template) (path : String) (expected : List (String × Value)) :
    Except CheckFailure Unit :=
  match t.checkAccepts path with
  | .error e => .error e
  | .ok () =>
    match t.extract path with
    | .error e => .error (.mismatch e)
    | .ok bindings =>
      let actual := valueOf bindings
      let expected := Value.ofNamed expected
      if actual == expected then .ok ()
      else if !expected.isWritable then .error .unwritable
      else
        .error <| .refuted <|
          "Parameters from " ++ Text.quote path ++ " with " ++ Text.quote t.text ++
            " differ.\nExpected: " ++ expected.literal ++ "\nActual:   " ++ actual.literal

/-- The values make just this path, and it matches the template again. -/
def checkBuilds (t : Template) (values : List (String × Value)) (expected : String) :
    Except CheckFailure Unit :=
  let values := Value.ofNamed values
  match (t.build ⟨[values], []⟩).result with
  | .error e => .error (.notBuilt e)
  | .ok path =>
    if path ≠ expected then
      .error <| .refuted <|
        "Building " ++ Text.quote t.text ++ " from " ++ values.literal ++ " gave " ++
          Text.quote path ++ ", expected " ++ Text.quote expected
    else if !t.accepts path then
      .error <| .refuted <|
        "Built path " ++ Text.quote path ++ " does not match its own pattern " ++ Text.quote t.text
    else .ok ()

end Template

end PathTemplate
