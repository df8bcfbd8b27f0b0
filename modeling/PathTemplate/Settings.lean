import PathTemplate.Bindings
import PathTemplate.Log
import PathTemplate.Text.Case
import PathTemplate.Text.Space
import PathTemplate.Value

/-!
# Settings

The level from which on records are shown, their layout, and whether output is machine-readable.
Settings come from the environment, and explicit ones take precedence.

## Main definitions

* `Settings`: the settings as they were given.
* `Settings.ofFields`: settings with some fields replaced.
* `Settings.ofEnvironment`: the settings of an environment.
* `Settings.levelNumber?`: the number of the level.
-/

namespace PathTemplate

/-- The settings. The level is kept as it was written. -/
structure Settings where
  levelName : String
  format : Value
  json : Value

inductive SettingsError where
  | unknownLevel (given : Value)
  /-- A value that has no lower-case form. -/
  | notText (given : Value)
  | unknownField (name : String)
  | fieldTaken (name : String)
  | argumentTaken (name : String)

def SettingsError.message : SettingsError → String
  | unknownLevel given =>
    "Unknown log level " ++ given.literal ++ "; expected one of " ++
      ", ".intercalate (Level.all.map Level.name)
  | notText given => "'" ++ given.kind ++ "' object has no attribute 'lower'"
  | unknownField name =>
    "PerchConfig.__init__() got an unexpected keyword argument " ++ "'" ++ name ++ "'"
  | fieldTaken name =>
    "PerchConfig.__init__() got multiple values for argument " ++ "'" ++ name ++ "'"
  | argumentTaken name =>
    "PerchConfig.from_env() got multiple values for argument " ++ "'" ++ name ++ "'"

namespace Settings

def defaultLevel : Level := .warning

def defaultFormat : String := "%(levelname)s %(name)s: %(message)s"

def levelField : String := "log_level"

def formatField : String := "log_format"

def jsonField : String := "json_output"

/-- The name that stands for the settings themselves. -/
def receiver : String := "self"

/-- The names of arguments that no field can have when settings are read from an environment. -/
def environmentArguments : List String :=
  ["cls", "environ"]

/-- Whether a name chooses a level. Case is of no account. -/
def knownLevel (name : String) : Bool :=
  Level.all.any fun level => Text.lower name.toList == level.name.toList

/-- The names of levels in capital letters, with their numbers. Some levels have two names. -/
def levelNumbers : List (String × Nat) :=
  Level.all.map (fun level => (level.label, level.number)) ++
    [("FATAL", 50), ("WARN", 30), ("NOTSET", 0)]

def numberOf? (name : String) : Option Nat :=
  levelNumbers.lookup (String.ofList (Text.upper name.toList))

def levelNumber? (s : Settings) : Option Nat :=
  numberOf? s.levelName

def level (s : Settings) : Level :=
  (Level.all.find? fun level => Text.lower s.levelName.toList == level.name.toList).getD
    defaultLevel

/-- A level is a text that chooses one. Byte strings have a lower-case form too, but it is none of
the names. -/
def checkLevel : Value → Except SettingsError String
  | .text name => if knownLevel name then .ok name else .error (.unknownLevel (.text name))
  | .bytes b => .error (.unknownLevel (.bytes b))
  | value => .error (.notText value)

def refusedField? (fields : List (String × Value)) : Option SettingsError :=
  fields.findSome? fun (name, _) =>
    if [levelField, formatField, jsonField].contains name then none
    else if name == receiver then some (.fieldTaken name)
    else some (.unknownField name)

/-- The settings with these fields, and the usual ones for the others. -/
def ofFields (fields : Bindings String Value) : Except SettingsError Settings :=
  match refusedField? fields with
  | some e => .error e
  | none =>
    let field (name : String) (usual : Value) := (List.lookup name fields).getD usual
    (checkLevel (field levelField (.text defaultLevel.name))).map fun name =>
      ⟨name, field formatField (.text defaultFormat), field jsonField (.bool false)⟩

def levelVariable : String := "PERCH_LOG_LEVEL"

def jsonVariable : String := "PERCH_JSON"

def truthyWords : List String :=
  ["1", "true", "yes", "on"]

/-- Whether the text of a variable turns a setting on. Blanks around it and case are of no
account. -/
def isTruthy (text : String) : Bool :=
  truthyWords.contains (String.ofList (Text.lower (Text.trim text.toList)))

def environmentFields (environment : List (String × String)) : Bindings String Value :=
  [(levelField, .text ((environment.lookup levelVariable).getD defaultLevel.name)),
   (jsonField, .bool (isTruthy ((environment.lookup jsonVariable).getD "")))]

/-- The settings of an environment, in which some fields are set explicitly. A level that is
replaced is not looked at. -/
def ofEnvironment (environment : List (String × String)) (explicit : List (String × Value)) :
    Except SettingsError Settings :=
  match explicit.find? fun (name, _) => environmentArguments.contains name with
  | some (name, _) => .error (.argumentTaken name)
  | none =>
    ofFields (explicit.foldl (fun fields (name, value) => fields.insert name value)
      (environmentFields environment))

def usual : Settings :=
  ⟨defaultLevel.name, .text defaultFormat, .bool false⟩

def isUsual (s : Settings) : Bool :=
  s.levelName == usual.levelName && s.format == usual.format && s.json == usual.json

/-- The settings shown as the call that makes them, if they can be written. -/
def display? (s : Settings) : Option String := do
  let format ← s.format.literal?
  let json ← s.json.literal?
  return "PerchConfig(log_level=" ++ Text.quote s.levelName ++ ", log_format=" ++ format ++
    ", json_output=" ++ json ++ ")"

def wantsJson (s : Settings) : Bool :=
  s.json == .bool true

end Settings

end PathTemplate
