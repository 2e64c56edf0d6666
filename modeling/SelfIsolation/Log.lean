/-! # Log records

What the stages report as they go.
-/

namespace SelfIsolation

/-- How much a record matters. -/
inductive LogLevel where
  | error
  | warn
  | info
  | debug
  deriving DecidableEq

namespace LogLevel

/-- The name of a level. -/
def name : LogLevel → String
  | .error => "ERROR"
  | .warn => "WARN"
  | .info => "INFO"
  | .debug => "DEBUG"

end LogLevel

/-- A record of the log. -/
structure LogRecord where
  level : LogLevel
  text : String
  deriving DecidableEq

namespace LogRecord

/-- The record as one line. -/
def line (entry : LogRecord) : String := s!"{entry.level.name} {entry.text}"

end LogRecord

end SelfIsolation
