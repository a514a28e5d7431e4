import ProofOfExistence.Run
import ProofOfExistence.Value.Compact

/-! # Structured logging

A logger belongs to a module and may have a threshold of its own; without one, the threshold of all
such loggers holds, which may change at any time.  An entry is written unless its level is below the
threshold.  A child logger names a submodule and keeps the threshold of its parent.

Thresholds are numbers, of which each level has one, so a threshold may also lie between two levels,
below or above all of them.  `LogLevel.isBelow_threshold` says that the thresholds of levels are
ordered as the levels are.

A written line is one JSON object; warnings and errors have a stream of their own. -/

namespace ProofOfExistence

/-- How much an entry matters; `silent` is a threshold above all entries. -/
inductive LogLevel where
  | debug
  | info
  | warn
  | error
  | silent
deriving DecidableEq

namespace LogLevel

/-- The place of a level among all, counted from the lowest. -/
def rank : LogLevel → Nat
  | debug => 0
  | info => 1
  | warn => 2
  | error => 3
  | silent => 4

/-- The threshold that a level stands for. -/
def threshold (l : LogLevel) : Number := .ofNat l.rank

/-- Whether entries of a level are kept back by a threshold. -/
def isBelow (l : LogLevel) (threshold : Number) : Bool := l.threshold.lt threshold

/-- The threshold of a level keeps back exactly the levels below it. -/
theorem isBelow_threshold (l m : LogLevel) : l.isBelow m.threshold = decide (l.rank < m.rank) := by
  have rank_le (k : LogLevel) : k.rank ≤ maxSafeInteger + 1 := by cases k <;> decide
  exact Number.lt_ofNat (rank_le l) (rank_le m)

/-- All levels, lowest first. -/
def all : List LogLevel := [debug, info, warn, error, silent]

/-- The name of a level in a configuration. -/
def name : LogLevel → String
  | debug => "debug"
  | info => "info"
  | warn => "warn"
  | error => "error"
  | silent => "silent"

/-- The name of a level in an entry. -/
def label : LogLevel → String
  | debug => "DEBUG"
  | info => "INFO"
  | warn => "WARN"
  | error => "ERROR"
  | silent => "SILENT"

/-- A character in lower case.  Only the ASCII letters matter here, because no name of a level holds
another letter or one that another letter is the capital of. -/
def lowerChar (c : Char) : Char := c.toLower

/-- The level of a name, in any case. -/
def ofName? (text : String) : Option LogLevel :=
  all.find? fun l => l.name.toList = text.toList.map lowerChar

end LogLevel

/-- The members that an entry carries beside its message. -/
abbrev LogContext := List (String × Value)

/-- One log entry. -/
structure LogEntry where
  level : LogLevel
  /-- The module it comes from. -/
  source : String
  message : String
  /-- What it carries; an empty context is left out. -/
  context : LogContext

/-- The two streams that lines go to. -/
inductive LogStream where
  | output
  | errors
deriving DecidableEq

namespace LogEntry

/-- An entry as an object, with the time of writing. -/
def toValue (e : LogEntry) (timestamp : String) : Value :=
  .object
    [("timestamp", .ofString timestamp), ("level", .ofString e.level.label),
      ("module", .ofString e.source), ("message", .ofString e.message),
      ("context", if e.context.isEmpty then .absent else .object e.context)]

/-- The line that an entry is written as. -/
def line (e : LogEntry) (timestamp : String) : String := (e.toValue timestamp).compact ++ "\n"

/-- The stream that an entry goes to: warnings and errors have their own. -/
def stream (e : LogEntry) : LogStream :=
  if e.level = .warn ∨ e.level = .error then .errors else .output

end LogEntry

/-- Where loggers write, and the threshold of those without one of their own. -/
structure LogOutput (σ : Type) where
  threshold : Run σ Number
  write : LogEntry → Run σ Unit

/-- A logger of a module. -/
structure Logger where
  /-- The module it belongs to. -/
  source : String
  /-- Its own threshold, if it has one. -/
  threshold : Option Number

namespace Logger

/-- The logger of a submodule. -/
def child (l : Logger) (submodule : String) : Logger :=
  ⟨l.source ++ ":" ++ submodule, l.threshold⟩

/-- Write an entry unless its level is below the threshold. -/
def log {σ : Type} (l : Logger) (out : LogOutput σ) (level : LogLevel) (message : String)
    (context : LogContext) : Run σ Unit := do
  let threshold ← match l.threshold with
    | some t => pure t
    | none => out.threshold
  if level.isBelow threshold then return ()
  else out.write ⟨level, l.source, message, context⟩

end Logger

end ProofOfExistence
