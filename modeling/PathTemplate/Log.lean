/-!
# Log records

Functions that report what they do return their records beside the result, in the order in which
they arise. Which of them are shown is decided later, by their level.

## Main definitions

* `Level`: how grave a record is.
* `Record`: one line of a log.
* `Traced`: a result with the records that arose on the way.
-/

namespace PathTemplate

/-- How grave a record is. -/
inductive Level where
  | debug
  | info
  | warning
  | error
  | critical
deriving DecidableEq, Repr

namespace Level

def all : List Level :=
  [debug, info, warning, error, critical]

/-- The name by which a level is chosen. -/
def name : Level → String
  | debug => "debug"
  | info => "info"
  | warning => "warning"
  | error => "error"
  | critical => "critical"

/-- The name that a record shows. -/
def label : Level → String
  | debug => "DEBUG"
  | info => "INFO"
  | warning => "WARNING"
  | error => "ERROR"
  | critical => "CRITICAL"

/-- The number of a level; a graver one has a greater number. -/
def number : Level → Nat
  | debug => 10
  | info => 20
  | warning => 30
  | error => 40
  | critical => 50

end Level

/-- One line of a log, with the part of the program that wrote it. -/
structure Record where
  level : Level
  logger : String
  message : String
deriving DecidableEq, Repr

def Record.line (r : Record) : String :=
  r.level.label ++ " " ++ r.logger ++ ": " ++ r.message ++ "\n"

/-- A result with the records that arose on the way, first to last. -/
structure Traced (α : Type) where
  records : List Record
  result : α

def Traced.silent {α : Type} (result : α) : Traced α :=
  ⟨[], result⟩

end PathTemplate
