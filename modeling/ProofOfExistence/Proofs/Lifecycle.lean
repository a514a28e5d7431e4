import ProofOfExistence.Proofs.UndoStoreCorrect

/-!
# The lifecycle of claims as an abstract machine

The state of `Lifecycle` is a finite map from fingerprints to claims, the state of the clock and the
events so far.  A call has a list of preconditions in the order in which they count.  The first one
that fails decides the error and nothing changes; if all hold the call takes effect.

## Key results

- `step_of_firstFailure`, `step_of_fulfilled`: a request is refused or takes effect
- `firstFailure_create`, `firstFailure_revoke`, `firstFailure_transfer`: the first failing
  precondition of each call of a signed origin
-/

namespace ProofOfExistence

/-- A request to the claim service. -/
inductive ClaimRequest where
  | create (origin : Origin) (proof : Fingerprint)
  | revoke (origin : Origin) (proof : Fingerprint)
  | transfer (origin : Origin) (proof : Fingerprint) (dest : Identity)
  | claim (proof : Fingerprint)

/-- What a request is answered. -/
inductive ClaimReply where
  /-- A call was carried out or refused. -/
  | ended (answer : Except ClaimError Unit)
  /-- The claim on a fingerprint. -/
  | found (claim : Option ClaimRecord)

/-- The fingerprint that a request is about. -/
def ClaimRequest.proof : ClaimRequest → Fingerprint
  | create _ proof | revoke _ proof | transfer _ proof _ | claim proof => proof

/-! ## The machine -/

/-- The abstract state: the claims, the state of the clock and the events so far. -/
structure Lifecycle (η : Type) where
  claims : Claims
  clock : η
  events : List ClaimEvent

/-- A condition on a call, and the error of a call that fails it. -/
structure Precondition where
  holds : Bool
  error : ClaimError

namespace Lifecycle

/-- The party that signed an origin, if any. -/
def signer? : Origin → Option Identity
  | .signed who => some who
  | .root | .none => none

/-- The owner of a fingerprint, if it is claimed. -/
def owner? (claims : Claims) (proof : Fingerprint) : Option Identity :=
  (claims.get? proof).map ClaimRecord.owner

/-- What a call on a claim of the caller must fulfil, in order. -/
def ownerConditions (claims : Claims) (origin : Origin) (proof : Fingerprint) :
    List Precondition :=
  [⟨(signer? origin).isSome, .badOrigin⟩,
    ⟨claims.contains proof, .claimNotExist⟩,
    ⟨owner? claims proof = signer? origin, .notProofOwner⟩]

/-- What a request must fulfil, in the order in which the conditions count. -/
def preconditions (limit : Nat) (claims : Claims) : ClaimRequest → List Precondition
  | .create origin proof =>
    [⟨(signer? origin).isSome, .badOrigin⟩,
      ⟨proof.length ≤ limit, .proofTooLong (.ofNat proof.length) (.ofNat limit)⟩,
      ⟨!claims.contains proof, .proofAlreadyExists⟩]
  | .revoke origin proof => ownerConditions claims origin proof
  | .transfer origin proof _ => ownerConditions claims origin proof
  | .claim _ => []

/-- The error of the first precondition that fails. -/
def firstFailure (limit : Nat) (claims : Claims) (r : ClaimRequest) : Option ClaimError :=
  ((preconditions limit claims r).find? fun c => !c.holds).map Precondition.error

variable {η : Type} (tick : η → Number × η)

/-- Set the claim on a fingerprint, stamped with one reading of the clock. -/
def stamp (m : Lifecycle η) (proof : Fingerprint) (owner : Identity) : Lifecycle η :=
  { m with
    claims := m.claims.insert proof ⟨owner, (tick m.clock).1⟩
    clock := (tick m.clock).2 }

/-- Announce an event. -/
def announce (m : Lifecycle η) (event : ClaimEvent) : Lifecycle η :=
  { m with events := m.events ++ [event] }

/-- What a request does whose preconditions hold. -/
def effect (m : Lifecycle η) : ClaimRequest → Lifecycle η
  | .create (.signed who) proof => (m.stamp tick proof who).announce (.created who proof)
  | .revoke (.signed who) proof =>
    { m with claims := m.claims.erase proof }.announce (.revoked who proof)
  | .transfer (.signed who) proof dest =>
    (m.stamp tick proof dest).announce (.transferred who proof dest)
  | _ => m

/-- What a request is answered whose preconditions hold. -/
def reply (m : Lifecycle η) : ClaimRequest → ClaimReply
  | .claim proof => .found (m.claims.get? proof)
  | _ => .ended (.ok ())

/-- One request. -/
def step (limit : Nat) (m : Lifecycle η) (r : ClaimRequest) : ClaimReply × Lifecycle η :=
  match firstFailure limit m.claims r with
  | some e => (.ended (.error e), m)
  | none => (m.reply r, m.effect tick r)

/-- A run of requests, with their answers in order. -/
def run (limit : Nat) (m : Lifecycle η) : List ClaimRequest → List ClaimReply × Lifecycle η
  | [] => ([], m)
  | r :: rest =>
    let (answer, m') := m.step tick limit r
    let (answers, m'') := m'.run limit rest
    (answer :: answers, m'')

variable {tick} {limit : Nat} {m : Lifecycle η} {r : ClaimRequest}

theorem step_of_firstFailure {e : ClaimError} (h : firstFailure limit m.claims r = some e) :
    m.step tick limit r = (.ended (.error e), m) := by
  simp only [step, h]

theorem step_of_fulfilled (h : firstFailure limit m.claims r = none) :
    m.step tick limit r = (m.reply r, m.effect tick r) := by
  simp only [step, h]

/-! What the preconditions say of the calls of a signed origin, case by case. -/

/-- Why `who` cannot dispose of the claim on a fingerprint, if so. -/
def ownerFailure (claims : Claims) (who : Identity) (proof : Fingerprint) : Option ClaimError :=
  match claims.get? proof with
  | none => some .claimNotExist
  | some r => if r.owner = who then none else some .notProofOwner

section Signed

variable (limit : Nat) (claims : Claims) (who : Identity) (proof : Fingerprint)

theorem firstFailure_create :
    firstFailure limit claims (.create (.signed who) proof) =
      if proof.length ≤ limit then
        if claims.contains proof then some .proofAlreadyExists else none
      else some (.proofTooLong (.ofNat proof.length) (.ofNat limit)) := by
  by_cases hlength : proof.length ≤ limit
  · -- The list is read from its front; the length is in order, so the claims decide.
    cases hclaimed : claims.contains proof <;>
      simp [firstFailure, preconditions, signer?, hlength, hclaimed]
  · simp [firstFailure, preconditions, signer?, hlength]

private theorem find?_ownerConditions :
    ((ownerConditions claims (.signed who) proof).find? fun c => !c.holds).map
      Precondition.error = ownerFailure claims who proof := by
  unfold ownerConditions ownerFailure
  cases hget : claims.get? proof with
  | none => simp [signer?, Table.contains_eq, hget]
  | some r =>
    by_cases howner : r.owner = who <;>
      simp [signer?, owner?, Table.contains_eq, hget, howner]

theorem firstFailure_revoke :
    firstFailure limit claims (.revoke (.signed who) proof) = ownerFailure claims who proof :=
  find?_ownerConditions claims who proof

theorem firstFailure_transfer (dest : Identity) :
    firstFailure limit claims (.transfer (.signed who) proof dest) =
      ownerFailure claims who proof :=
  find?_ownerConditions claims who proof

end Signed

end Lifecycle

end ProofOfExistence
