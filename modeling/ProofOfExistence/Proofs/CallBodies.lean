import ProofOfExistence.Proofs.EventReplay
import ProofOfExistence.Proofs.SettledCalls

/-!
# What a call does inside its transaction

Every call of the service that is no lookup is a `CallAction` of an origin on a fingerprint.  Its
preconditions are read from the store.  If one fails the call answers with its error and does
nothing else; if all hold, the call changes the claim on its fingerprint and deposits its event, in
this order (`ClaimService.change`).

This holds of a service on any state, whatever the clock and the sink do there, as long as the
store answers what some claims say (`ClaimService.ReadsAs`).

## Key results

- `exec_body_of_firstFailure`, `exec_body_of_fulfilled`: the body of a call
- `announces_event`: the event of a call announces its change
-/

namespace ProofOfExistence

/-! ## Actions -/

namespace CallAction

/-- The request for an action. -/
def request (origin : Origin) (proof : Fingerprint) : CallAction → ClaimRequest
  | create => .create origin proof
  | revoke => .revoke origin proof
  | transfer dest => .transfer origin proof dest

/-- The event of an action. -/
def event (who : Identity) (proof : Fingerprint) : CallAction → ClaimEvent
  | create => .created who proof
  | revoke => .revoked who proof
  | transfer dest => .transferred who proof dest

/-- Who owns the fingerprint after an action, if anyone. -/
def ownerAfter (who : Identity) : CallAction → Option Identity
  | create => some who
  | revoke => none
  | transfer dest => some dest

/-- A request tells its origin, its fingerprint and its action. -/
theorem request_inj {origin origin' : Origin} {proof proof' : Fingerprint}
    {action action' : CallAction}
    (h : action.request origin proof = action'.request origin' proof') :
    origin = origin' ∧ proof = proof' ∧ action = action' := by
  cases action <;> cases action' <;> cases h <;> exact ⟨rfl, rfl, rfl⟩

/-- The claim that an action leaves on its fingerprint, if any. -/
def claimAfter (who : Identity) (time : Number) (action : CallAction) : Option ClaimRecord :=
  (action.ownerAfter who).map fun owner => ⟨owner, time⟩

end CallAction

/-- A request is a lookup or asks for an action. -/
theorem ClaimRequest.lookup_or_action (r : ClaimRequest) :
    (∃ proof, r = .claim proof) ∨
      ∃ origin proof action, r = CallAction.request origin proof action := by
  cases r with
  | claim proof => exact .inl ⟨proof, rfl⟩
  | create origin proof => exact .inr ⟨origin, proof, .create, rfl⟩
  | revoke origin proof => exact .inr ⟨origin, proof, .revoke, rfl⟩
  | transfer origin proof dest => exact .inr ⟨origin, proof, .transfer dest, rfl⟩

namespace ClaimService

variable {σ : Type} (s : ClaimService σ)

/-- A request for an action performs its body and answers with the outcome. -/
theorem serve_request (origin : Origin) (proof : Fingerprint) (action : CallAction) :
    s.serve (action.request origin proof) =
      ClaimReply.ended <$> s.perform action.method proof (s.body origin proof action) := by
  cases action <;> rfl

/-- Set the claim on a fingerprint for its new owner, or remove it if there is none. -/
def alter (proof : Fingerprint) : Option Identity → Run σ Unit
  | some owner => s.stamp proof owner
  | none => s.store.remove proof

/-- What an action does once its preconditions hold. -/
def change (who : Identity) (proof : Fingerprint) (action : CallAction) :
    Run σ (Except ClaimError Unit) := do
  s.alter proof (action.ownerAfter who)
  s.deposit (action.event who proof)
  return .ok ()

/-- The store answers what some claims say, and is not changed by that. -/
structure ReadsAs (claims : Claims) (w : σ) : Prop where
  get : ∀ f, (s.store.get f).exec w = (.ok (claims.get? f), w)
  contains : ∀ f, (s.store.contains f).exec w = (.ok (claims.contains f), w)

variable {s} {claims : Claims} {w : σ} {origin : Origin} {proof : Fingerprint}
  {action : CallAction}

/-- A faithful store answers what the claims say that it keeps. -/
theorem readsAs_of_keeps {τ : Type} {S : FaithfulStore τ} {cell : Cell σ τ}
    (hget : s.store.get = (S.store cell).get)
    (hcontains : s.store.contains = (S.store cell).contains)
    (hkeeps : S.Keeps (cell.get w) claims) : s.ReadsAs claims w where
  get f := by
    rw [hget]
    exact congrArg (·, w) (S.get_eq hkeeps f)
  contains f := by
    rw [hcontains]
    exact congrArg (·, w) (S.contains_eq hkeeps f)

/-- Only a signed origin fulfils the preconditions of an action. -/
private theorem exists_signer
    (h : Lifecycle.firstFailure s.proofLimit claims (action.request origin proof) = none) :
    ∃ who, origin = .signed who := by
  cases origin with
  | signed who => exact ⟨who, rfl⟩
  | root | none => cases action <;> cases h

private theorem exec_checkOwner (hreads : s.ReadsAs claims w) (who : Identity) :
    (s.checkOwner proof who).exec w =
      (.ok (match Lifecycle.ownerFailure claims who proof with
        | none => .ok ()
        | some e => .error e), w) := by
  unfold checkOwner Lifecycle.ownerFailure
  rw [Run.exec_bind, hreads.get]
  cases claims.get? proof with
  | none => rfl
  | some r => by_cases howner : r.owner = who <;> simp [howner]

private theorem exec_createBody (hreads : s.ReadsAs claims w) (who : Identity) :
    (s.createBody (.signed who) proof).exec w =
      match Lifecycle.firstFailure s.proofLimit claims (.create (.signed who) proof) with
      | none => (s.change who proof .create).exec w
      | some e => (.ok (.error e), w) := by
  rw [Lifecycle.firstFailure_create]
  unfold createBody
  by_cases hlength : proof.length ≤ s.proofLimit
  · -- The fingerprint is not too long, so it depends on the claim.
    rw [if_pos hlength]
    simp only [Origin.caller, gt_iff_lt, Nat.not_lt.2 hlength, if_false]
    rw [Run.exec_bind, hreads.contains]
    cases claims.contains proof <;> rfl
  · -- The fingerprint is too long, and the claim is not looked up.
    rw [if_neg hlength]
    simp only [Origin.caller, gt_iff_lt, Nat.not_le.1 hlength, if_true]
    rfl

private theorem exec_revokeBody (hreads : s.ReadsAs claims w) (who : Identity) :
    (s.revokeBody (.signed who) proof).exec w =
      match Lifecycle.ownerFailure claims who proof with
      | none => (s.change who proof .revoke).exec w
      | some e => (.ok (.error e), w) := by
  show (s.checkOwner proof who >>= _).exec w = _
  rw [Run.exec_bind, exec_checkOwner hreads]
  cases Lifecycle.ownerFailure claims who proof <;> rfl

private theorem exec_transferBody (hreads : s.ReadsAs claims w) (who dest : Identity) :
    (s.transferBody (.signed who) proof dest).exec w =
      match Lifecycle.ownerFailure claims who proof with
      | none => (s.change who proof (.transfer dest)).exec w
      | some e => (.ok (.error e), w) := by
  show (s.checkOwner proof who >>= _).exec w = _
  rw [Run.exec_bind, exec_checkOwner hreads]
  cases Lifecycle.ownerFailure claims who proof <;> rfl

/-- The body of a call of a signed origin, by the first precondition that fails. -/
private theorem exec_body_signed (hreads : s.ReadsAs claims w) (who : Identity) :
    (s.body (.signed who) proof action).exec w =
      match Lifecycle.firstFailure s.proofLimit claims (action.request (.signed who) proof) with
      | none => (s.change who proof action).exec w
      | some e => (.ok (.error e), w) := by
  cases action with
  | create => exact exec_createBody hreads who
  | revoke =>
    rw [CallAction.request, Lifecycle.firstFailure_revoke]
    exact exec_revokeBody hreads who
  | transfer dest =>
    rw [CallAction.request, Lifecycle.firstFailure_transfer]
    exact exec_transferBody hreads who dest

/-- A call of which a precondition fails answers with the error of the first one that does. -/
theorem exec_body_of_firstFailure (hreads : s.ReadsAs claims w) {e : ClaimError}
    (h : Lifecycle.firstFailure s.proofLimit claims (action.request origin proof) = some e) :
    (s.body origin proof action).exec w = (.ok (.error e), w) := by
  cases origin with
  | signed who => rw [exec_body_signed hreads, h]
  | root | none => cases action <;> cases h <;> rfl

/-- A call whose preconditions hold makes its change. -/
theorem exec_body_of_fulfilled (hreads : s.ReadsAs claims w)
    (h : Lifecycle.firstFailure s.proofLimit claims (action.request origin proof) = none) :
    ∃ who, origin = .signed who ∧
      (s.body origin proof action).exec w = (s.change who proof action).exec w := by
  obtain ⟨who, rfl⟩ := exists_signer h
  exact ⟨who, rfl, by rw [exec_body_signed hreads, h]⟩

end ClaimService

/-! ## Announcements -/

private theorem owner?_of_ownerFailure {claims : Claims} {who : Identity} {proof : Fingerprint}
    (h : Lifecycle.ownerFailure claims who proof = none) :
    Lifecycle.owner? claims proof = some who := by
  unfold Lifecycle.ownerFailure at h
  unfold Lifecycle.owner?
  cases hclaim : claims.get? proof with
  | none => rw [hclaim] at h; cases h
  | some r =>
    simp only [hclaim, ite_eq_left_iff, reduceCtorEq, imp_false, not_not] at h
    rw [Option.map_some, h]

/-- The event of a call whose preconditions hold announces its change. -/
theorem announces_event {limit : Nat} {claims : Claims} {who : Identity} {proof : Fingerprint}
    {action : CallAction}
    (h : Lifecycle.firstFailure limit claims (action.request (.signed who) proof) = none)
    (time : Number) :
    Announces (action.event who proof) claims
      (claims.set? proof (action.claimAfter who time)) := by
  cases action with
  | create =>
    have hcreate := (Lifecycle.firstFailure_create limit claims who proof).symm.trans h
    refine announces_created ?_ time
    -- A claim there would have been the first failure.
    by_contra hclaimed
    rw [Bool.not_eq_false] at hclaimed
    rw [hclaimed] at hcreate
    split at hcreate <;> cases hcreate
  | revoke =>
    exact announces_revoked
      (owner?_of_ownerFailure ((Lifecycle.firstFailure_revoke limit claims who proof).symm.trans h))
  | transfer dest =>
    exact announces_transferred (owner?_of_ownerFailure
      ((Lifecycle.firstFailure_transfer limit claims who proof dest).symm.trans h)) dest time

end ProofOfExistence
