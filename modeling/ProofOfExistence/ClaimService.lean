import ProofOfExistence.Log
import ProofOfExistence.Metrics
import ProofOfExistence.Store.Basic

/-! # The claim service

The life of a fingerprint: unclaimed, then claimed by whoever creates the claim, handed on by any
number of transfers, and unclaimed again once it is revoked.  Creating is the only way out of the
unclaimed state, revoking the only way back, and transferring the only way the owner changes.

Each call is one store transaction: its conditions are read, the claim is written and the event is
deposited together.  A refused call writes nothing.  A collaborator that raises a fault ends the
call, the transaction takes its writes back, and the fault goes on to the caller.

A call that ends with an answer is counted and logged after the transaction.  The log of a refused
call tells only the length of its fingerprint, which may be arbitrarily long. -/

namespace ProofOfExistence

/-- The collaborators of a claim service on a state. -/
structure ClaimService (σ : Type) where
  /-- Where claims are kept. -/
  store : ClaimStore σ
  /-- The clock. -/
  now : Run σ Number
  /-- Where events go. -/
  deposit : ClaimEvent → Run σ Unit
  /-- The greatest length of a fingerprint, in bytes. -/
  proofLimit : Nat
  /-- Count one call under a name and tags. -/
  count : Utf16 → Tags → Run σ Unit
  /-- Write a log entry. -/
  log : LogLevel → String → LogContext → Run σ Unit

namespace ClaimService

/-- The limit on the length of fingerprints that a number gives: it must be a non-negative safe
integer. -/
def checkLimit (limit : Number) : Except Fault Nat :=
  match limit.toSafeNat? with
  | some n => .ok n
  | none => .error (.invalidProofLimit limit)

variable {σ : Type} (s : ClaimService σ)

/-- Whether the caller owns the claim on a fingerprint, or why not. -/
def checkOwner (proof : Fingerprint) (caller : Identity) : Run σ (Except ClaimError Unit) := do
  match ← s.store.get proof with
  | none => return .error .claimNotExist
  | some r => return if r.owner = caller then .ok () else .error .notProofOwner

/-- Set the claim on a fingerprint, stamped with the time of the clock. -/
def stamp (proof : Fingerprint) (owner : Identity) : Run σ Unit := do
  let time ← s.now
  s.store.insert proof ⟨owner, time⟩

/-- What creating a claim does inside its transaction. -/
def createBody (origin : Origin) (proof : Fingerprint) : Run σ (Except ClaimError Unit) := do
  match origin.caller with
  | .error e => return .error e
  | .ok who =>
    -- The length is checked before the store is read.
    if proof.length > s.proofLimit then
      return .error (.proofTooLong (.ofNat proof.length) (.ofNat s.proofLimit))
    else if ← s.store.contains proof then return .error .proofAlreadyExists
    else
      s.stamp proof who
      s.deposit (.created who proof)
      return .ok ()

/-- What revoking a claim does inside its transaction. -/
def revokeBody (origin : Origin) (proof : Fingerprint) : Run σ (Except ClaimError Unit) := do
  match origin.caller with
  | .error e => return .error e
  | .ok who =>
    match ← s.checkOwner proof who with
    | .error e => return .error e
    | .ok () =>
      s.store.remove proof
      s.deposit (.revoked who proof)
      return .ok ()

/-- What transferring a claim does inside its transaction. -/
def transferBody (origin : Origin) (proof : Fingerprint) (dest : Identity) :
    Run σ (Except ClaimError Unit) := do
  match origin.caller with
  | .error e => return .error e
  | .ok who =>
    match ← s.checkOwner proof who with
    | .error e => return .error e
    | .ok () =>
      s.stamp proof dest
      s.deposit (.transferred who proof dest)
      return .ok ()

/-- The name of the counter of calls. -/
def callCounter : Utf16 := "claims.calls"

/-- Count and log the answer to a call. -/
def report (call : ClaimCall) (proof : Fingerprint) : Except ClaimError Unit → Run σ Unit
  | .ok () => do
    s.count callCounter [("call", call.name), ("outcome", "ok")]
    s.log .info "Call applied"
      [("call", .ofString call.name), ("proof", .ofString (Hex.encode proof))]
  | .error e => do
    s.count callCounter [("call", call.name), ("outcome", e.kind)]
    s.log .debug "Call rejected"
      [("call", .ofString call.name), ("proofLength", .num (.ofNat proof.length)),
        ("error", .ofString e.kind)]

/-- Run a call in a transaction, then report its answer. -/
def perform (call : ClaimCall) (proof : Fingerprint) (body : Run σ (Except ClaimError Unit)) :
    Run σ (Except ClaimError Unit) := do
  let answer ← s.store.transaction body
  s.report call proof answer
  return answer

/-- Claim an unclaimed fingerprint for the caller. -/
def create (origin : Origin) (proof : Fingerprint) : Run σ (Except ClaimError Unit) :=
  s.perform .create proof (s.createBody origin proof)

/-- Remove the caller's claim on a fingerprint. -/
def revoke (origin : Origin) (proof : Fingerprint) : Run σ (Except ClaimError Unit) :=
  s.perform .revoke proof (s.revokeBody origin proof)

/-- Hand the caller's claim to `dest`, stamped anew. -/
def transfer (origin : Origin) (proof : Fingerprint) (dest : Identity) :
    Run σ (Except ClaimError Unit) :=
  s.perform .transfer proof (s.transferBody origin proof dest)

/-- The claim on a fingerprint. -/
def claim (proof : Fingerprint) : Run σ (Option ClaimRecord) := s.store.get proof

end ClaimService

end ProofOfExistence
