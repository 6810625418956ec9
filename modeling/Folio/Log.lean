/-!
# Log entries
-/

namespace Folio

/-- How much a log entry matters. -/
inductive LogLevel where
  | info
  | warn
  deriving DecidableEq, Repr

/-- The name of a level. -/
def LogLevel.name : LogLevel → String
  | info => "INFO"
  | warn => "WARN"

/-- A line of the log, with named values. -/
structure LogEntry where
  level : LogLevel
  message : String
  fields : List (String × String)
  deriving DecidableEq, Repr

end Folio
