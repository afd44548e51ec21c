/-!
# Log records

A record names its source, its level and its message. Records below the level that is asked for
are not shown.
-/

namespace ModuleScript.CommandLine

/-- How important a record is. -/
inductive Level where
  | debug
  | info
  | warning
  | error
  deriving DecidableEq, Repr

namespace Level

/-- The name of a level. -/
def name : Level → String
  | debug => "DEBUG"
  | info => "INFO"
  | warning => "WARNING"
  | error => "ERROR"

/-- The levels from the least important one. -/
def all : List Level := [debug, info, warning, error]

/-- The level with a name. -/
def ofName? (name : String) : Option Level := all.find? (·.name == name)

/-- The place of a level among all. -/
def rank (l : Level) : Nat := all.idxOf l

end Level

/-- A record. -/
structure Record where
  source : String
  level : Level
  message : String
  deriving DecidableEq, Repr

/-- A record as a line. -/
def Record.line (r : Record) : String := s!"{r.source} - {r.level.name} - {r.message}\n"

/-- The lines of the records from a level on. -/
def logText (threshold : Level) (records : List Record) : String :=
  String.join ((records.filter fun r ↦ threshold.rank ≤ r.level.rank).map Record.line)

end ModuleScript.CommandLine
