/-! # Log records

What a part of the library reports about its work: how grave the report is, which part it comes from,
and a text.

* `LogLevel`, `LogLevel.covers` — how grave a report is, and which ones a listener asks for.
* `LogRecord`, `LogRecord.line` — a report and the line that tells of it.
-/

namespace Pseudoword

/-- How grave a report is. -/
inductive LogLevel where
  /-- Of interest to those who look for a mistake. -/
  | debug
  /-- Of general interest. -/
  | info
  /-- Something may be amiss. -/
  | warning
  deriving DecidableEq, Repr

namespace LogLevel

/-- The name of a level. -/
def name : LogLevel → String
  | .debug => "DEBUG"
  | .info => "INFO"
  | .warning => "WARNING"

/-- The place of a level among the others. -/
def weight : LogLevel → Nat
  | .debug => 0
  | .info => 1
  | .warning => 2

/-- Whether a listener to one level is told of reports of another. -/
def covers (asked told : LogLevel) : Bool :=
  decide (asked.weight ≤ told.weight)

end LogLevel

/-- A report. -/
structure LogRecord where
  /-- How grave it is. -/
  level : LogLevel
  /-- The part of the library that it comes from. -/
  part : String
  /-- What it says. -/
  text : String
  deriving DecidableEq, Repr

/-- The line that tells of a report. -/
def LogRecord.line (r : LogRecord) : String :=
  r.level.name ++ " makewords." ++ r.part ++ ": " ++ r.text

end Pseudoword
