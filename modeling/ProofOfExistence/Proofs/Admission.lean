import ProofOfExistence.Proofs.CallSteps
import ProofOfExistence.Proofs.EnvelopeReading
import ProofOfExistence.Proofs.KeyIds

/-!
# Authentic envelopes are admitted by their nonce alone

An envelope is authentic for `who` if it keeps to the schema, names `who` as its signer, names
canonical ids only, and has a signature that verifies (`Envelope.Authentic`).  The dispatcher then
looks at its nonce: from the signer's next nonce on it spends the nonce and hands the call over,
below it refuses the call as stale and changes nothing.

What is read does not depend on the order of members, so this holds of every value that has the
members of the envelope, in any order.

## Key results

- `Dispatcher.exec_dispatch_of_next_le`: an authentic envelope with a fresh nonce is handed over
- `Dispatcher.exec_dispatch_of_lt_next`: one with a spent nonce is refused as stale
- `Dispatcher.carry_answer`: a call that was handed over is refused by the service only
-/

namespace ProofOfExistence

/-- An envelope that `who` signed and nothing but its nonce may keep from being handed over. -/
structure Envelope.Authentic
    (verify : (signer : String) → Call → (signature : String) → Except Fault Bool) (who : String)
    (e : Envelope) : Prop where
  valid : e.Valid
  signer : KeyId.isCanonical who = true
  dest : ∀ dest, e.call.action.dest? = some dest → KeyId.isCanonical dest = true
  signed : ∃ signature, e.credentials = some ⟨who, signature⟩ ∧
    verify who e.call signature = .ok true

namespace Dispatcher

variable {σ : Type} (d : Dispatcher σ)

/-- Hand a call over and report its answer. -/
def carry (origin : Origin) (call : Call) (signer : Option String) :
    Run σ (Except DispatchError Unit) := do
  match ← d.handOver origin call with
  | .error cause => d.reject (.claim cause) (some call) signer
  | .ok () => d.accept call signer

/-! ## Answers -/

/-- Whoever is told of a rejection is told its error. -/
theorem reject_answer {error : DispatchError} {call : Option Call} {signer : Option String}
    {w w' : σ} {answer : Except DispatchError Unit}
    (h : (d.reject error call signer).exec w = (.ok answer, w')) : answer = .error error := by
  unfold reject at h
  obtain ⟨_, w₁, -, h⟩ := Run.exec_bind_eq_ok h
  obtain ⟨_, w₂, -, h⟩ := Run.exec_bind_eq_ok h
  obtain ⟨_, w₃, -, h⟩ := Run.exec_bind_eq_ok h
  cases h
  rfl

/-- A call that was handed over is refused by the service only. -/
theorem carry_answer {origin : Origin} {call : Call} {signer : Option String} {w w' : σ}
    {error : DispatchError} (h : (d.carry origin call signer).exec w = (.ok (.error error), w')) :
    ∃ cause, error = .claim cause := by
  obtain ⟨answer, w₁, -, h⟩ := Run.exec_bind_eq_ok h
  cases answer with
  | error cause => exact ⟨cause, Except.error.inj (d.reject_answer h)⟩
  | ok _ =>
    unfold accept at h
    obtain ⟨_, w₂, -, h⟩ := Run.exec_bind_eq_ok h
    obtain ⟨_, w₃, -, h⟩ := Run.exec_bind_eq_ok h
    cases h

/-! ## Ids -/

/-- The ids that pass the check are the canonical ones. -/
theorem checkIds_eq_ok_iff {e : Envelope} : checkIds e = .ok () ↔
    (∀ signer, e.signer = some signer → KeyId.isCanonical signer = true) ∧
      ∀ dest, e.call.action.dest? = some dest → KeyId.isCanonical dest = true := by
  have hany (id : Option String) : (id.any fun id => !KeyId.isCanonical id) = true ↔
      ¬ ∀ i, id = some i → KeyId.isCanonical i = true := by
    cases id <;> simp
  unfold checkIds
  split
  · -- The signer is no id, and the other id is not looked at.
    rename_i hsigner
    exact ⟨nofun, fun h => absurd h.1 ((hany _).1 hsigner)⟩
  · rename_i hsigner
    rw [hany, not_not] at hsigner
    -- The signer passes; it depends on the receiver.
    split
    · rename_i hdest
      exact ⟨nofun, fun h => absurd h.2 ((hany _).1 hdest)⟩
    · rename_i hdest
      rw [hany, not_not] at hdest
      exact ⟨fun _ => ⟨hsigner, hdest⟩, fun _ => rfl⟩

/-! ## Nonces -/

/-- A nonce that is not below the next one is spent. -/
theorem exec_spendNonce_of_next_le {signer : String} {nonce : Nat} {w : σ}
    (h : (d.nonces.get w).next signer ≤ nonce) :
    (d.spendNonce signer nonce).exec w =
      (.ok (.ok ()), d.nonces.set ((d.nonces.get w).insert signer nonce) w) := by
  unfold spendNonce
  unfold Nonces.next at h
  simp only [Run.exec_bind, Cell.exec_read]
  cases hlast : (d.nonces.get w).get? signer with
  | none => rfl
  | some last =>
    rw [hlast] at h
    simp only [if_neg (Nat.not_le.2 h)]
    rfl

/-- A nonce below the next one is stale. -/
theorem exec_spendNonce_of_lt_next {signer : String} {nonce : Nat} {w : σ}
    (h : nonce < (d.nonces.get w).next signer) :
    (d.spendNonce signer nonce).exec w =
      (.ok (.error (.staleNonce nonce ((d.nonces.get w).next signer - 1))), w) := by
  unfold spendNonce
  unfold Nonces.next at h ⊢
  simp only [Run.exec_bind, Cell.exec_read]
  cases hlast : (d.nonces.get w).get? signer with
  | none =>
    rw [hlast] at h
    cases h
  | some last =>
    rw [hlast] at h
    simp only [if_pos (Nat.le_of_lt_succ h)]
    rfl

/-! ## Authentic envelopes -/

variable {d} {who : String} {e : Envelope}

theorem checkIds_of_authentic (h : e.Authentic d.verify who) : checkIds e = .ok () := by
  obtain ⟨signature, hcredentials, -⟩ := h.signed
  refine checkIds_eq_ok_iff.2 ⟨fun signer hsigner => ?_, h.dest⟩
  rw [Envelope.signer, hcredentials] at hsigner
  exact Option.some.inj hsigner ▸ h.signer

/-- An authentic envelope is dispatched by its nonce. -/
theorem exec_dispatchEnvelope_of_authentic (h : e.Authentic d.verify who) (w : σ) :
    (d.dispatchEnvelope e).exec w =
      match (d.spendNonce who e.call.nonce).exec w with
      | (.ok (.ok ()), w') => (d.carry (.signed who) e.call (some who)).exec w'
      | (.ok (.error error), w') => (d.reject error (some e.call) (some who)).exec w'
      | (.error fault, w') => (.error fault, w') := by
  obtain ⟨signature, hcredentials, hverify⟩ := h.signed
  have hsigner : e.signer = some who := by
    rw [Envelope.signer, hcredentials, Option.map_some]
  -- The ids and the signature pass, so only the nonce is left to decide.
  have hadmission : (d.authenticate e).exec w =
      match (d.spendNonce who e.call.nonce).exec w with
      | (.ok (.ok ()), w') => (.ok (.ok (.signed who)), w')
      | (.ok (.error error), w') => (.ok (.error error), w')
      | (.error fault, w') => (.error fault, w') := by
    unfold authenticate
    rw [hcredentials]
    simp only [Run.exec_bind, Run.exec_ofExcept, hverify, if_true]
    rcases (d.spendNonce who e.call.nonce).exec w with ⟨_ | _ | _, w'⟩ <;> rfl
  rw [dispatchEnvelope, checkIds_of_authentic h, hsigner]
  simp only [Run.exec_bind, hadmission]
  rcases (d.spendNonce who e.call.nonce).exec w with ⟨_ | _ | _, w'⟩ <;> rfl

/-- An authentic envelope whose nonce is not below the next one is handed over, with the nonce
spent. -/
theorem exec_dispatchEnvelope_of_next_le {w : σ} (h : e.Authentic d.verify who)
    (hnext : (d.nonces.get w).next who ≤ e.call.nonce) :
    (d.dispatchEnvelope e).exec w = (d.carry (.signed who) e.call (some who)).exec
      (d.nonces.set ((d.nonces.get w).insert who e.call.nonce) w) := by
  rw [exec_dispatchEnvelope_of_authentic h, exec_spendNonce_of_next_le d hnext]

/-- An authentic envelope whose nonce is below the next one is refused as stale. -/
theorem exec_dispatchEnvelope_of_lt_next {w : σ} (h : e.Authentic d.verify who)
    (hnext : e.call.nonce < (d.nonces.get w).next who) :
    (d.dispatchEnvelope e).exec w =
      (d.reject (.staleNonce e.call.nonce ((d.nonces.get w).next who - 1)) (some e.call)
        (some who)).exec w := by
  rw [exec_dispatchEnvelope_of_authentic h, exec_spendNonce_of_lt_next d hnext]

/-- What has the members of an authentic envelope, in some order, is dispatched as that. -/
private theorem dispatch_of_authentic {v : Value} (h : e.Authentic d.verify who)
    (hv : Value.SameUpToOrder v e.toJson) : d.dispatch v = d.dispatchEnvelope e := by
  rw [dispatch, Envelope.ofValue_eq_ok h.valid hv]

/-- An authentic envelope with a fresh nonce is handed over, whatever the order of its members. -/
theorem exec_dispatch_of_next_le {v : Value} {w : σ} (h : e.Authentic d.verify who)
    (hv : Value.SameUpToOrder v e.toJson) (hnext : (d.nonces.get w).next who ≤ e.call.nonce) :
    (d.dispatch v).exec w = (d.carry (.signed who) e.call (some who)).exec
      (d.nonces.set ((d.nonces.get w).insert who e.call.nonce) w) := by
  rw [dispatch_of_authentic h hv, exec_dispatchEnvelope_of_next_le h hnext]

/-- An authentic envelope with a spent nonce is refused, whatever the order of its members. -/
theorem exec_dispatch_of_lt_next {v : Value} {w : σ} (h : e.Authentic d.verify who)
    (hv : Value.SameUpToOrder v e.toJson) (hnext : e.call.nonce < (d.nonces.get w).next who) :
    (d.dispatch v).exec w =
      (d.reject (.staleNonce e.call.nonce ((d.nonces.get w).next who - 1)) (some e.call)
        (some who)).exec w := by
  rw [dispatch_of_authentic h hv, exec_dispatchEnvelope_of_lt_next h hnext]

end Dispatcher

end ProofOfExistence
