import ProofOfExistence.Claim.Basic

/-! # The audit log

Every dispatched call leaves one entry in the audit log: whether it was accepted or rejected, and as
much of its method, signer and fingerprint as is known and trustworthy. -/

namespace ProofOfExistence

/-- What became of a dispatched call. -/
inductive Decision where
  | accepted
  | rejected
deriving DecidableEq

/-- The name of a decision. -/
def Decision.name : Decision → String
  | accepted => "accepted"
  | rejected => "rejected"

/-- One entry of the audit log. -/
structure AuditEntry where
  decision : Decision
  method : Option ClaimCall
  signer : Option String
  /-- The fingerprint as it was written in the call. -/
  proof : Option String
  /-- The kind of the error of a rejected call. -/
  errorKind : Option String
deriving DecidableEq

/-- The entries of dispatched calls, oldest first. -/
abbrev AuditLog := List AuditEntry

namespace AuditLog

/-- The entries with one decision. -/
def ofDecision (log : AuditLog) (d : Decision) : List AuditEntry :=
  log.filter fun e => e.decision = d

/-- The entries of one signer. -/
def ofSigner (log : AuditLog) (signer : String) : List AuditEntry :=
  log.filter fun e => e.signer = some signer

end AuditLog

end ProofOfExistence
