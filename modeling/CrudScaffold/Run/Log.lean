/-!
# Log lines
-/

namespace CrudScaffold

/-- How much a log line matters. -/
inductive LogLevel where
  | error
  | warn
  | info
  deriving DecidableEq, Repr

/-- The name of a level. -/
def LogLevel.text : LogLevel → String
  | error => "ERROR"
  | warn => "WARN"
  | info => "INFO"

/-- One line of a log. -/
structure LogLine where
  level : LogLevel
  text : String
  deriving DecidableEq, Repr

/-- Lines in the order in which they were logged. -/
abbrev Log := List LogLine

/-- Lines that warn. -/
def Log.warnings (texts : List String) : Log := texts.map (LogLine.mk .warn)

end CrudScaffold
