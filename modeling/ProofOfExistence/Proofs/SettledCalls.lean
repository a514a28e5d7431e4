import ProofOfExistence.Proofs.Admission
import ProofOfExistence.Proofs.RegistryRuns

/-!
# The transaction of a dispatched call

A request that is admitted leads to one transaction of the service (`Collaborators.settle?`).  What
is done afterwards depends on how that transaction ended: the service reports the answer, and then
the dispatcher accepts or rejects the call (`Collaborators.finish`).

A call has committed when its own transaction has.  If the call was made within another one, the
transaction of that one may still take the change back.

## Key results

- `Dispatcher.exec_dispatchOn_of_admitted`: a request that is admitted has its call carried out
- `Dispatcher.exec_dispatchOn_of_not_admitted`: any other request writes nothing before its
  rejection
- `Collaborators.exec_dispatch_of_settle?`: a dispatch is its transaction and what is left to do
  then
-/

namespace ProofOfExistence

/-! ## The parts of a call -/

namespace ClaimService

variable {σ : Type} (s : ClaimService σ)

/-- What an action does inside its transaction. -/
def body (origin : Origin) (proof : Fingerprint) : CallAction → Run σ (Except ClaimError Unit)
  | .create => s.createBody origin proof
  | .revoke => s.revokeBody origin proof
  | .transfer dest => s.transferBody origin proof dest

theorem carryOut_eq (origin : Origin) (call : Call) :
    s.carryOut origin call =
      match Hex.decode? call.proof with
      | none => throw (.invalidHex call.proof)
      | some proof => s.perform call.method proof (s.body origin proof call.action) := by
  obtain ⟨action, proof, nonce⟩ := call
  unfold carryOut
  cases Hex.decode? proof with
  | none => rfl
  | some proof => cases action <;> rfl

/-- What an action does respects what all collaborators respect. -/
theorem respects_body {s : ClaimService σ} {R : σ → σ → Prop} [IsPreorder σ R] (hs : s.Respects R)
    (origin : Origin) (proof : Fingerprint) (action : CallAction) :
    Run.Respects R (s.body origin proof action) := by
  have hcomposes := Run.composes_respects R
  have hparts := hs.related.toPartsRelated
  cases action with
  | create => exact createBody_related hcomposes hparts origin proof
  | revoke => exact revokeBody_related hcomposes hparts origin proof
  | transfer dest => exact transferBody_related hcomposes hparts origin proof dest

end ClaimService

namespace Dispatcher

variable {σ : Type} (d : Dispatcher σ)

/-- The envelope of a request that is admitted, the origin of its call and the state then. -/
def admit? (r : Request) (w : σ) : Option (Envelope × Origin × σ) :=
  match r.envelope? with
  | none => none
  | some e =>
    match checkIds e, (d.authenticate e).exec w with
    | .ok (), (.ok (.ok origin), w') => some (e, origin, w')
    | _, _ => none

variable {d} {r : Request} {w : σ}

/-- A request that is admitted has its call carried out. -/
theorem exec_dispatchOn_of_admitted {e : Envelope} {origin : Origin} {w' : σ}
    (h : d.admit? r w = some (e, origin, w')) :
    (r.dispatchOn d).exec w = (d.carry origin e.call e.signer).exec w' := by
  unfold admit? at h
  rcases d.dispatchOn_cases r with ⟨e', hread, hdispatch⟩ | ⟨hunread, -⟩
  · simp only [hread] at h
    split at h
    · rename_i hids hadmission
      cases h
      rw [hdispatch, dispatchEnvelope, hids]
      simp only [Run.exec_bind, hadmission]
      exact (Run.exec_bind _ _ _).symm
    · cases h
  · rw [hunread] at h
    cases h

/-- To admit a request is to spend a nonce, if anything. -/
theorem state_of_admitted {e : Envelope} {origin : Origin} {w' : σ}
    (h : d.admit? r w = some (e, origin, w')) :
    w' = w ∨ ∃ who, w' = d.nonces.set ((d.nonces.get w).insert who e.call.nonce) w := by
  unfold admit? at h
  split at h
  · cases h
  · split at h
    · rename_i hadmission
      cases h
      -- The check of the ids writes nothing, and authentication a nonce at most.
      rcases d.authenticate_cases e w with ⟨k, -, -, -, hexec⟩ | ⟨hsame, -⟩
      · exact .inr ⟨k.signer, congrArg Prod.snd (hadmission.symm.trans hexec)⟩
      · exact .inl ((congrArg Prod.snd hadmission).symm.trans hsame)
    · cases h

/-- A request that is not admitted is rejected, or the check of its signature fails. -/
theorem exec_dispatchOn_of_not_admitted (h : d.admit? r w = none) :
    (∃ fault, (r.dispatchOn d).exec w = (.error fault, w)) ∨
      ∃ error call signer, (r.dispatchOn d).exec w = (d.reject error call signer).exec w := by
  unfold admit? at h
  rcases d.dispatchOn_cases r with ⟨e, hread, hdispatch⟩ | ⟨-, cause, hdispatch⟩
  · -- The request was read as an envelope.
    rw [hread] at h
    rw [hdispatch, dispatchEnvelope]
    cases hids : checkIds e with
    | error reason => exact .inr ⟨_, _, _, rfl⟩
    | ok _ =>
      simp only [Run.exec_bind]
      -- Nothing is written unless the envelope is admitted.
      -- An envelope that was authenticated is admitted.
      rcases d.authenticate_cases e w with ⟨k, -, -, -, hexec⟩ | ⟨hsame, -⟩
      · simp only [hids, hexec] at h
        cases h
      · rcases hexec : (d.authenticate e).exec w with ⟨fault | error | origin, w'⟩
        · -- A fault of the check.
          rw [hexec] at hsame
          obtain rfl : w' = w := hsame
          exact .inl ⟨fault, rfl⟩
        · -- One of the errors of the check.
          rw [hexec] at hsame
          obtain rfl : w' = w := hsame
          exact .inr ⟨_, _, _, rfl⟩
        · -- With an origin it is admitted as well.
          simp only [hids, hexec] at h
          cases h
  · -- The request was not read.
    exact .inr ⟨cause, none, none, by rw [hdispatch]⟩

end Dispatcher

variable {τ ε η : Type}

/-- How the transaction of a dispatched call ended. -/
structure Settlement (τ ε η : Type) where
  envelope : Envelope
  proof : Fingerprint
  outcome : Except Fault (Except ClaimError Unit)
  /-- The world after the transaction. -/
  world : World τ ε η

/-- The call of a settled transaction has committed its change. -/
def Settlement.Committed (t : Settlement τ ε η) : Prop := t.outcome = .ok (.ok ())

namespace Collaborators

variable (c : Collaborators τ ε η) (store : ClaimStore (World τ ε η)) (g : Gate (World τ ε η))

/-- The transaction that dispatching a request in a world leads to, if the request is admitted. -/
def settle? (r : Request) (w : World τ ε η) : Option (Settlement τ ε η) :=
  match (c.dispatcher store g).admit? r (w.noted (.dispatched r)) with
  | none => none
  | some (e, origin, w') =>
    (Hex.decode? e.call.proof).map fun proof =>
      let body := (c.service store g).body origin proof e.call.action
      let ended := (store.transaction body).exec (w'.noted (.handed origin e.call))
      ⟨e, proof, ended.1, ended.2⟩

/-- What is left to do after the transaction of a dispatched call. -/
def finish (t : Settlement τ ε η) : Run (World τ ε η) (Except DispatchError Unit) := do
  let answer ← Run.ofExcept t.outcome
  (c.service store g).report t.envelope.call.method t.proof answer
  match answer with
  | .error cause =>
    (c.dispatcher store g).reject (.claim cause) (some t.envelope.call) t.envelope.signer
  | .ok () => (c.dispatcher store g).accept t.envelope.call t.envelope.signer

/-- The service reports a commit. -/
def reportCommit (t : Settlement τ ε η) : Run (World τ ε η) Unit :=
  (c.service store g).report t.envelope.call.method t.proof (.ok ())

variable {c store g} {r : Request} {w : World τ ε η} {t : Settlement τ ε η}

/-- A dispatch is its transaction and what is left to do then. -/
theorem exec_dispatch_of_settle? (h : c.settle? store g r w = some t) :
    ((c.gateOver store g).dispatch r).exec w = (c.finish store g t).exec t.world := by
  have hdispatch : ((c.gateOver store g).dispatch r).exec w =
    (r.dispatchOn (c.dispatcher store g)).exec (w.noted (.dispatched r)) := rfl
  unfold settle? at h
  cases hadmitted : (c.dispatcher store g).admit? r (w.noted (.dispatched r)) with
  -- A request that is not admitted does not come to an end with its call.
  | none =>
    rw [hadmitted] at h
    cases h
  | some admitted =>
    obtain ⟨e, origin, w'⟩ := admitted
    simp only [hadmitted] at h
    obtain ⟨proof, hproof, rfl⟩ := Option.map_eq_some_iff.1 h
    rw [hdispatch, Dispatcher.exec_dispatchOn_of_admitted hadmitted]
    -- The fingerprint can be decoded, so to hand the call over is to perform its body.
    have hhandOver : (c.dispatcher store g).handOver origin e.call =
        (do World.note (.handed origin e.call)
            (c.service store g).perform e.call.method proof
              ((c.service store g).body origin proof e.call.action)) := by
      show (do World.note _; (c.service store g).carryOut origin e.call) = _
      rw [ClaimService.carryOut_eq, hproof]
    unfold Dispatcher.carry finish
    rw [hhandOver]
    have hstore : (c.service store g).store = store := rfl
    simp only [ClaimService.perform, Run.exec_bind, Run.exec_ofExcept, World.exec_note, hstore]
    -- A fault of the transaction or of the report ends both sides at once.
    rcases (store.transaction _).exec _ with ⟨fault | answer, w₁⟩
    · rfl
    · simp only
      rcases ((c.service store g).report _ _ _).exec w₁ with ⟨fault | _, w₂⟩ <;> rfl

/-- A dispatch without a transaction is a rejection, or it ends with a fault: when the check of a
signature fails, or when the fingerprint of an admitted call cannot be decoded. -/
theorem exec_dispatch_of_unsettled (h : c.settle? store g r w = none) :
    (∃ error call signer, ((c.gateOver store g).dispatch r).exec w =
        ((c.dispatcher store g).reject error call signer).exec (w.noted (.dispatched r))) ∨
      (∃ fault, ((c.gateOver store g).dispatch r).exec w =
        (.error fault, w.noted (.dispatched r))) ∨
      ∃ e origin w' fault,
        (c.dispatcher store g).admit? r (w.noted (.dispatched r)) = some (e, origin, w') ∧
        ((c.gateOver store g).dispatch r).exec w =
          (.error fault, w'.noted (.handed origin e.call)) := by
  have hdispatch : ((c.gateOver store g).dispatch r).exec w =
    (r.dispatchOn (c.dispatcher store g)).exec (w.noted (.dispatched r)) := rfl
  rw [hdispatch]
  unfold settle? at h
  split at h
  · -- The request was not admitted.
    rename_i hadmitted
    rcases Dispatcher.exec_dispatchOn_of_not_admitted hadmitted with hfault | hreject
    · exact .inr (.inl hfault)
    · exact .inl hreject
  · -- It was admitted, but its fingerprint cannot be decoded.
    rename_i e origin w' hadmitted
    have hproof : Hex.decode? e.call.proof = none := Option.map_eq_none_iff.1 h
    refine .inr (.inr ⟨e, origin, w', .invalidHex e.call.proof, hadmitted, ?_⟩)
    have hhandOver : (c.dispatcher store g).handOver origin e.call =
        (do World.note (.handed origin e.call)
            (c.service store g).carryOut origin e.call) := rfl
    rw [Dispatcher.exec_dispatchOn_of_admitted hadmitted, Dispatcher.carry, hhandOver,
      ClaimService.carryOut_eq, hproof]
    simp only [Run.exec_bind, World.exec_note, Run.exec_throw]

/-- After a commit, the service reports it and then the dispatcher accepts the call. -/
theorem exec_finish_of_committed (h : t.Committed) :
    (c.finish store g t).exec t.world =
      match (c.reportCommit store g t).exec t.world with
      | (.error fault, w') => (.error fault, w')
      | (.ok (), w') =>
        ((c.dispatcher store g).accept t.envelope.call t.envelope.signer).exec w' := by
  have houtcome : t.outcome = .ok (.ok ()) := h
  unfold finish reportCommit
  rw [houtcome]
  simp only [Run.exec_bind, Run.exec_ofExcept]
  rcases ((c.service store g).report _ _ _).exec _ with ⟨fault | _, w'⟩ <;> rfl

end Collaborators

end ProofOfExistence
