import ProofOfExistence.Claim.Basic
import ProofOfExistence.Run

/-! # The event log

An event log keeps every deposited event, in order, for replay. -/

namespace ProofOfExistence

/-- The events deposited so far, oldest first. -/
abbrev EventLog := List ClaimEvent

namespace EventLog

/-- The log with one more event. -/
def push (log : EventLog) (e : ClaimEvent) : EventLog := log ++ [e]

/-- The events of one kind. -/
def ofKind (log : EventLog) (kind : EventKind) : List ClaimEvent :=
  log.filter fun e => e.kind = kind

/-- Deposit an event in the log in a cell. -/
def deposit {σ : Type} (cell : Cell σ EventLog) (e : ClaimEvent) : Run σ Unit :=
  cell.modify fun log => log.push e

end EventLog

end ProofOfExistence
