/-!
# Log records

The library tells what it does in records of two levels. A reader who asks for one level gets the
records of that level and of the coarser ones.
-/

namespace ScanSchema

/-- How fine a record is. -/
inductive LogLevel where
  /-- Decisions. -/
  | debug
  /-- Single steps on the way to a decision. -/
  | trace
  deriving DecidableEq, Repr, Inhabited

/-- The name of a level. -/
def LogLevel.name : LogLevel → String
  | .debug => "DEBUG"
  | .trace => "TRACE"

/-- Whether a reader who asked for `asked` gets records of `level`. -/
def LogLevel.shows (asked level : LogLevel) : Bool := asked == .trace || level == .debug

/-- One record. -/
structure LogRecord where
  /-- How fine the record is. -/
  level : LogLevel
  /-- What it says. -/
  message : String
  deriving DecidableEq, Repr, Inhabited

/-- A record on one line. -/
def LogRecord.toLine (record : LogRecord) : String := record.level.name ++ " " ++ record.message

/-- The lines that a reader of some level gets. -/
def logLines (asked : LogLevel) (records : List LogRecord) : List String :=
  (records.filter fun record => asked.shows record.level).map LogRecord.toLine

end ScanSchema
