/-!
# Log entries

An entry that operators search for carries a level and a stable code.
-/

namespace SignIn

/-- How grave an entry is. -/
inductive LogLevel where
  | debug
  | warn
  | error
  deriving DecidableEq

/-- The level as text. -/
def LogLevel.text : LogLevel → String
  | .debug => "DEBUG"
  | .warn => "WARN"
  | .error => "ERROR"

/-- A level and a code. -/
structure LogEntry where
  level : LogLevel
  code : String
  deriving DecidableEq

/-- The entry as text. -/
def LogEntry.text (e : LogEntry) : String := e.level.text ++ " " ++ e.code

end SignIn
