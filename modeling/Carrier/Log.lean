/-!
# Log records

A record has a level, a message and named fields. Records are values: an operation that
reports something returns its records beside its result.
-/

namespace Carrier

/-- How serious a record is. -/
inductive Level where
  | info
  | warn
  | error
  deriving DecidableEq, Repr

/-- The name of a level. -/
def Level.name : Level → String
  | .info => "INFO"
  | .warn => "WARN"
  | .error => "ERROR"

/-- The number of a level; the more serious, the lower. -/
def Level.rank : Level → Nat
  | .error => 1
  | .warn => 2
  | .info => 3

/-- One line of the log. -/
structure LogRecord where
  /-- How serious it is. -/
  level : Level
  /-- What happened. -/
  message : String
  /-- What it happened with, by name. -/
  fields : List (String × String)
  deriving DecidableEq, Repr

/-- The text of a record. -/
def LogRecord.line (r : LogRecord) : String :=
  r.level.name ++ " " ++ r.message ++
    String.join (r.fields.map fun (name, value) => " " ++ name ++ "=" ++ value)

end Carrier
