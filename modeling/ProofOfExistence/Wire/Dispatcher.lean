import ProofOfExistence.ClaimService
import ProofOfExistence.Value.Parser
import ProofOfExistence.Wire.Audit
import ProofOfExistence.Wire.Envelope

/-! # The dispatcher of signed calls

The dispatcher reads an envelope, authenticates its signer and hands the call over, usually to a
claim service (`ClaimService.carryOut`).  Its checks come in this order: the schema, the spelling of
the signer's key id, that of the receiver of a transfer, the signature, the nonce.

A signer's nonces must rise from call to call.  A nonce is spent as soon as the signature checks
out, before the call is handed over, so it stays spent when the call is then refused or ends with a
fault, and no envelope is handed over twice.  An unsigned envelope is handed over with no caller.

Whatever the answer, the audit log gets one entry. -/

namespace ProofOfExistence

/-- Why an envelope is malformed. -/
inductive Malformation where
  /-- The text is not JSON. -/
  | notJson
  /-- The data breaks rules of the schema. -/
  | schema (violations : List Violation)
  /-- The signer is no canonical key id. -/
  | signerId
  /-- The receiver is no canonical key id. -/
  | destId
deriving DecidableEq

/-- The malformation in words. -/
def Malformation.detail : Malformation → String
  | notJson => "Invalid JSON: the text is not well formed"
  | schema violations => Violation.listText violations
  | signerId => "signer is not a canonical base64url public key"
  | destId => "dest is not a canonical base64url public key"

/-- Why a dispatched call was rejected. -/
inductive DispatchError where
  /-- It was handed over and refused. -/
  | claim (cause : ClaimError)
  /-- It could not be read. -/
  | malformedCall (cause : Malformation)
  /-- The signature does not verify. -/
  | badSignature
  /-- The nonce is not above the last one that the signer spent. -/
  | staleNonce (nonce lastAccepted : Nat)
deriving DecidableEq

/-- The name of the kind of an error. -/
def DispatchError.kind : DispatchError → String
  | claim cause => cause.kind
  | malformedCall _ => "MalformedCall"
  | badSignature => "BadSignature"
  | staleNonce .. => "StaleNonce"

/-- The last nonce that each signer spent. -/
abbrev Nonces := Table String Nat

/-- The least nonce that a signer can use: one above the last, or zero for a new signer. -/
def Nonces.next (n : Nonces) (signer : String) : Nat :=
  match n.get? signer with
  | some last => last + 1
  | none => 0

/-- Spending a nonce changes the next one of its signer only. -/
theorem Nonces.next_insert (n : Nonces) (signer other : String) (nonce : Nat) :
    Nonces.next (n.insert signer nonce) other =
      if other = signer then nonce + 1 else n.next other := by
  unfold Nonces.next
  rw [Table.get?_insert]
  by_cases h : other = signer
  · rw [if_pos h, if_pos h]
  · rw [if_neg h, if_neg h]

/-- Carry out a call as it travels, for an origin. -/
def ClaimService.carryOut {σ : Type} (s : ClaimService σ) (origin : Origin) (call : Call) :
    Run σ (Except ClaimError Unit) :=
  match Hex.decode? call.proof with
  | none => throw (.invalidHex call.proof)
  | some proof =>
    match call.action with
    | .create => s.create origin proof
    | .revoke => s.revoke origin proof
    | .transfer dest => s.transfer origin proof dest

/-- The collaborators and the state of a dispatcher. -/
structure Dispatcher (σ : Type) where
  /-- What authenticated calls are handed to. -/
  handOver : Origin → Call → Run σ (Except ClaimError Unit)
  /-- Whether a signature of a call verifies under a key id. -/
  verify : (signer : String) → Call → (signature : String) → Except Fault Bool
  /-- The spent nonces. -/
  nonces : Cell σ Nonces
  /-- The audit log. -/
  audit : Cell σ AuditLog
  /-- Count one call under a name and tags. -/
  count : Utf16 → Tags → Run σ Unit
  /-- Write a log entry. -/
  log : LogLevel → String → LogContext → Run σ Unit

namespace Dispatcher

variable {σ : Type} (d : Dispatcher σ)

/-- The name of the counter of dispatched calls. -/
def callCounter : Utf16 := "dispatch.calls"

/-- Record that a call is rejected.  The call and the signer are recorded as far as they are
known. -/
def reject (error : DispatchError) (call : Option Call) (signer : Option String) :
    Run σ (Except DispatchError Unit) := do
  d.audit.modify fun log => log ++
    [⟨.rejected, call.map Call.method, signer, call.map Call.proof, some error.kind⟩]
  d.count callCounter [("outcome", "rejected")]
  d.log .warn "Call rejected"
    [("method", .ofString? (call.map fun c => c.method.name)), ("signer", .ofString? signer),
      ("error", .ofString error.kind)]
  return .error error

/-- Record that a call is accepted. -/
def accept (call : Call) (signer : Option String) : Run σ (Except DispatchError Unit) := do
  d.audit.modify fun log => log ++ [⟨.accepted, some call.method, signer, some call.proof, none⟩]
  d.count callCounter [("outcome", "accepted")]
  return .ok ()

/-- Spend the nonce of a call, unless it is stale. -/
def spendNonce (signer : String) (nonce : Nat) : Run σ (Except DispatchError Unit) := do
  let nonces ← d.nonces.read
  match nonces.get? signer with
  | some last =>
    if nonce ≤ last then return .error (.staleNonce nonce last)
    else
      d.nonces.write (nonces.insert signer nonce)
      return .ok ()
  | none =>
    d.nonces.write (nonces.insert signer nonce)
    return .ok ()

/-- The origin of a call: its signer once the signature verifies and the nonce is spent, nobody for
an unsigned call. -/
def authenticate (e : Envelope) : Run σ (Except DispatchError Origin) := do
  match e.credentials with
  | none => return .ok .none
  | some c =>
    if ← Run.ofExcept (d.verify c.signer e.call c.signature) then
      match ← d.spendNonce c.signer e.call.nonce with
      | .ok () => return .ok (.signed c.signer)
      | .error error => return .error error
    else return .error .badSignature

/-- Whether the signer and the receiver that an envelope names are canonical key ids. -/
def checkIds (e : Envelope) : Except (Malformation × Option String) Unit :=
  if e.signer.any fun id => !KeyId.isCanonical id then .error (.signerId, none)
  else if e.call.action.dest?.any fun id => !KeyId.isCanonical id then .error (.destId, e.signer)
  else .ok ()

/-- Dispatch an envelope that follows the schema. -/
def dispatchEnvelope (e : Envelope) : Run σ (Except DispatchError Unit) := do
  match checkIds e with
  | .error (cause, signer) => d.reject (.malformedCall cause) (some e.call) signer
  | .ok () =>
    match ← d.authenticate e with
    | .error error => d.reject error (some e.call) e.signer
    | .ok origin =>
      match ← d.handOver origin e.call with
      | .error cause => d.reject (.claim cause) (some e.call) e.signer
      | .ok () => d.accept e.call e.signer

/-- Dispatch loosely typed data. -/
def dispatch (v : Value) : Run σ (Except DispatchError Unit) :=
  match Envelope.ofValue v with
  | .error violations => d.reject (.malformedCall (.schema violations)) none none
  | .ok e => d.dispatchEnvelope e

/-- Dispatch a JSON text. -/
def dispatchText (text : String) : Run σ (Except DispatchError Unit) :=
  match Value.parse text with
  | none => d.reject (.malformedCall .notJson) none none
  | some v => d.dispatch v

/-- The least nonce that a signer can use. -/
def nextNonce (signer : String) : Run σ Nat := do return (← d.nonces.read).next signer

end Dispatcher

end ProofOfExistence
