import ProofOfExistence.Proofs.Admission
import ProofOfExistence.Proofs.RegistryRuns

/-!
# The next nonce is the least one that a signer can use

An envelope that nothing but its nonce may keep from being handed over is handed over from the
signer's next nonce on, and below it the envelope is stale (`LeastUsable`).  This holds in every
world, so it holds at every point of a run, within calls, too.

The schema admits nonces up to the greatest safe integer.  A signer who spends that one is told the
number above it as the next nonce, and no envelope can carry that: the signer has run out of nonces.
The next nonce never passes that number (`run_noncesInRange`).

## Key results

- `run_noncesInRange`: no next nonce is more than one above the greatest nonce of the schema
- `nextNonce_least_usable`: the next nonce is the least usable one, while there is one
-/

namespace ProofOfExistence

/-- A request that carries an envelope carries a nonce within the bounds of the schema. -/
theorem Request.nonce_le {r : Request} {e : Envelope} (h : r.envelope? = some e) :
    e.call.nonce ≤ maxSafeInteger := by
  obtain ⟨v, hv⟩ := exists_of_envelope? h
  exact Envelope.nonce_le_of_ofValue hv

variable {τ ε η : Type}

/-! ## The range of nonces -/

/-- No next nonce is more than one above the greatest nonce of the schema. -/
def World.NoncesInRange (w : World τ ε η) : Prop :=
  ∀ signer, w.nonces.next signer ≤ maxSafeInteger + 1

/-- Nonces stay in range. -/
def KeepsRange (w w' : World τ ε η) : Prop := w.NoncesInRange → w'.NoncesInRange

instance : IsPreorder (World τ ε η) KeepsRange where
  refl _ := id
  trans _ _ _ h h' := h' ∘ h

theorem keepsRange_of_nonces {w w' : World τ ε η} (h : w'.nonces = w.nonces) : KeepsRange w w' :=
  fun hrange signer => h ▸ hrange signer

/-- A nonce within the bounds of the schema may be spent. -/
theorem keepsRange_insert {who : String} {nonce : Nat} (h : nonce ≤ maxSafeInteger)
    (w : World τ ε η) : KeepsRange w { w with nonces := w.nonces.insert who nonce } := by
  intro hrange signer
  show Nonces.next (w.nonces.insert who nonce) signer ≤ _
  rw [Nonces.next_insert]
  split
  · exact Nat.succ_le_succ h
  · exact hrange signer

variable (ops : StoreOps τ) (c : Collaborators τ ε η)

section Gate

variable {g : Gate (World τ ε η)} (hg : g.Respects KeepsRange)
include hg

private theorem keepsRange_handOver (origin : Origin) (call : Call) : Run.Respects KeepsRange
    ((c.dispatcher (ops.store World.storeCell) g).handOver origin call) := by
  have hservice : (c.service (ops.store World.storeCell) g).Respects KeepsRange :=
    Collaborators.respects_service hg (fun _ _ _ => keepsRange_of_nonces rfl)
      (fun _ _ => keepsRange_of_nonces rfl) fun _ _ => keepsRange_of_nonces rfl
  exact Run.respects_bind (fun _ => keepsRange_of_nonces rfl) fun _ =>
    ClaimService.respects_carryOut hservice origin call

private theorem keepsRange_gateOver :
    (c.gateOver (ops.store World.storeCell) g).Respects KeepsRange where
  dispatch r := by
    have hreports : (c.dispatcher (ops.store World.storeCell) g).Reports KeepsRange :=
      Collaborators.respects_reports hg (fun _ _ _ => keepsRange_of_nonces rfl) fun _ _ =>
        keepsRange_of_nonces rfl
    refine Run.respects_bind (fun _ => keepsRange_of_nonces rfl) fun _ w => ?_
    refine Dispatcher.rel_dispatchOn hreports r (Std.Refl.refl w) fun e he => ?_
    refine Dispatcher.rel_dispatchEnvelope hreports (Std.Refl.refl w) (fun k _ _ _ => ?_)
      fun _ => keepsRange_handOver ops c hg .none e.call w
    -- The nonce that is spent was read from the request.
    exact IsTrans.trans _ _ _ (keepsRange_insert (Request.nonce_le he) w)
      (keepsRange_handOver ops c hg (.signed k.signer) e.call _)
  nextNonce _ _ := keepsRange_of_nonces rfl

end Gate

/-- In every run that begins without spent nonces the nonces stay in range. -/
theorem run_noncesInRange (depth : Nat) (store : τ) (audit : AuditLog) (sink : ε) (others : η)
    (moves : List (Move ε η)) :
    ((c.gate (ops.store World.storeCell) depth).run
      (.fresh store audit sink others) moves).NoncesInRange := by
  have hgate := Collaborators.respects_gate (fun _ hg => keepsRange_gateOver ops c hg) depth
  -- While no nonce is spent, the next one of every signer is 0.
  refine Gate.rel_run hgate (fun _ _ _ => keepsRange_of_nonces rfl) _ moves fun signer => ?_
  exact Nat.zero_le _

/-! ## The least usable nonce -/

/-- The store and the nonces are the same. -/
structure World.SameRegistry (w w' : World τ ε η) : Prop where
  store : w'.store = w.store
  nonces : w'.nonces = w.nonces

instance : IsPreorder (World τ ε η) World.SameRegistry where
  refl _ := ⟨rfl, rfl⟩
  trans _ _ _ h h' := ⟨h'.store.trans h.store, h'.nonces.trans h.nonces⟩

/-- In a world, `n` is the least nonce that `who` can use: what has the members of an authentic
envelope, in any order, is handed over from `n` on and stale below it. -/
structure LeastUsable (store : ClaimStore (World τ ε η)) (depth : Nat) (w : World τ ε η)
    (who : String) (n : Nat) : Prop where
  told : ((c.gate store (depth + 1)).nextNonce who).exec w = (.ok n, w.noted (.told who n))
  /-- A call that is handed over has its nonce spent and may be refused by the service only. -/
  handed : ∀ (e : Envelope) (v : Value), e.Authentic c.verify who →
    Value.SameUpToOrder v e.toJson → n ≤ e.call.nonce →
    let d := c.dispatcher store (c.gate store depth)
    let answered := ((c.gate store (depth + 1)).dispatch (.data v)).exec w
    answered = (d.carry (.signed who) e.call (some who)).exec
        { w.noted (.dispatched (.data v)) with nonces := w.nonces.insert who e.call.nonce } ∧
      ∀ error, answered.1 = .ok (.error error) → ∃ cause, error = .claim cause
  /-- A stale call is reported.  It changes neither the store nor the nonces unless the reporters
  do, and it is answered unless they fail. -/
  stale : ∀ (e : Envelope) (v : Value), e.Authentic c.verify who →
    Value.SameUpToOrder v e.toJson → e.call.nonce < n →
    let d := c.dispatcher store (c.gate store depth)
    let error := DispatchError.staleNonce e.call.nonce (n - 1)
    let answered := ((c.gate store (depth + 1)).dispatch (.data v)).exec w
    answered = (d.reject error (some e.call) (some who)).exec (w.noted (.dispatched (.data v))) ∧
      (∀ answer, answered.1 = .ok answer → answer = .error error) ∧
      (d.Reports World.SameRegistry → w.SameRegistry answered.2) ∧
      ((∀ name tags, Run.Completes (d.count name tags)) →
        (∀ level text context, Run.Completes (d.log level text context)) →
        answered.1 = .ok (.error error))
  /-- Above the greatest nonce of the schema there is none to use. -/
  exhausted : n = maxSafeInteger + 1 → ∀ (e : Envelope) (v : Value), e.call.nonce = n →
    Value.SameUpToOrder v e.toJson →
    let d := c.dispatcher store (c.gate store depth)
    ∃ violations, ((c.gate store (depth + 1)).dispatch (.data v)).exec w =
      (d.reject (.malformedCall (.schema violations)) none none).exec
        (w.noted (.dispatched (.data v)))

variable {ops c} {depth : Nat} {w : World τ ε η} {who : String}

private theorem exec_gate_dispatch {store : ClaimStore (World τ ε η)} (v : Value) :
    ((c.gate store (depth + 1)).dispatch (.data v)).exec w =
      ((c.dispatcher store (c.gate store depth)).dispatch v).exec
        (w.noted (.dispatched (.data v))) :=
  rfl

/-- A rejection is answered unless it cannot be reported. -/
theorem Dispatcher.completes_reject {σ : Type} {d : Dispatcher σ}
    (hcount : ∀ name tags, Run.Completes (d.count name tags))
    (hlog : ∀ level text context, Run.Completes (d.log level text context))
    (error : DispatchError) (call : Option Call) (signer : Option String) :
    Run.Completes (d.reject error call signer) := by
  refine Run.completes_bind (fun w => ⟨(), _, Cell.exec_modify _ _ w⟩) fun _ => ?_
  refine Run.completes_bind (hcount _ _) fun _ => ?_
  exact Run.completes_bind (hlog _ _ _) fun _ w => ⟨_, w, rfl⟩

theorem leastUsable_next (c : Collaborators τ ε η) (store : ClaimStore (World τ ε η)) (depth : Nat)
    (w : World τ ε η) (who : String) : LeastUsable c store depth w who (w.nonces.next who) where
  told := rfl
  handed e v he hv hnext := by
    have hexec := Dispatcher.exec_dispatch_of_next_le (w := w.noted (.dispatched (.data v)))
      (d := c.dispatcher store (c.gate store depth)) he hv hnext
    refine ⟨hexec, fun error herror => ?_⟩
    rw [exec_gate_dispatch, hexec] at herror
    exact Dispatcher.carry_answer _ (Prod.ext herror rfl)
  stale e v he hv hnext := by
    have hexec := Dispatcher.exec_dispatch_of_lt_next (w := w.noted (.dispatched (.data v)))
      (d := c.dispatcher store (c.gate store depth)) he hv hnext
    refine ⟨hexec, fun answer hanswer => ?_, fun hreports => ?_, fun hcount hlog => ?_⟩
    · -- A stale call is answered with its own error.
      rw [exec_gate_dispatch, hexec] at hanswer
      exact Dispatcher.reject_answer _ (Prod.ext hanswer rfl)
    · -- Neither claims nor nonces change.
      rw [exec_gate_dispatch, hexec]
      have hnoted : w.SameRegistry (w.noted (.dispatched (.data v))) := ⟨rfl, rfl⟩
      exact IsTrans.trans _ _ _ hnoted (Dispatcher.respects_reject hreports _ _ _ _)
    · rw [exec_gate_dispatch, hexec]
      -- There is an answer, and a rejection has only one to give.
      obtain ⟨answer, w', hanswered⟩ := Dispatcher.completes_reject hcount hlog
        (.staleNonce e.call.nonce (w.nonces.next who - 1)) (some e.call) (some who)
        (w.noted (.dispatched (.data v)))
      obtain rfl := Dispatcher.reject_answer _ hanswered
      exact congrArg Prod.fst hanswered
  exhausted hlast e v hnonce hv := by
    -- The schema refuses the nonce before any other check.
    obtain ⟨violations, hread⟩ := Envelope.ofValue_of_nonce_eq (hnonce.trans hlast) hv
    refine ⟨violations, ?_⟩
    rw [exec_gate_dispatch, Dispatcher.dispatch, hread]

/-! ## The statement -/

/-- Reporters that do nothing. -/
def Reporters.silent : Reporters τ ε η := ⟨fun _ _ => .done (.ok ()), fun _ _ _ => .done (.ok ())⟩

/-- Collaborators that do nothing and take every signature for genuine. -/
def Collaborators.trusting : Collaborators τ ε η where
  now := .done (.ok (.ofNat 0))
  deposit _ := .done (.ok ())
  proofLimit := 10
  verify _ _ _ := .ok true
  serviceReporters := .silent
  dispatcherReporters := .silent

/-- The envelope of a call that claims a byte. -/
def Envelope.claiming (who : String) (nonce : Nat) : Envelope :=
  ⟨⟨.create, "07", nonce⟩, some ⟨who, "signature"⟩⟩

theorem authentic_claiming {who : String} (hwho : KeyId.isCanonical who = true) {nonce : Nat}
    (h : nonce ≤ maxSafeInteger) :
    (Envelope.claiming who nonce).Authentic
      (Collaborators.trusting (τ := τ) (ε := ε) (η := η)).verify who where
  valid :=
    { call := ⟨show Hex.isHex "07" = true by decide, h, nofun⟩
      credentials := fun _ h => Option.some.inj h ▸
        ⟨KeyId.ne_empty_of_isCanonical hwho, show "signature" ≠ "" by decide⟩ }
  signer := hwho
  dest := nofun
  signed := ⟨_, rfl, rfl⟩

/-- On every store, with collaborators that may fail and call back at any time: in every world, and
so at every point of a run, what is told as the next nonce of a signer is the least one that the
signer can use.  In a run the next nonce is at most one above the greatest nonce of the schema, and
only there is none to use. -/
theorem nextNonce_least_usable (ops : StoreOps τ) (c : Collaborators τ ε η) (who : String) :
    (∀ (depth : Nat) (store : τ) (audit : AuditLog) (sink : ε) (others : η)
        (moves : List (Move ε η)),
      ((c.gate (ops.store World.storeCell) depth).run
        (.fresh store audit sink others) moves).nonces.next who ≤ maxSafeInteger + 1) ∧
      ∀ (depth : Nat) (w : World τ ε η),
        LeastUsable c (ops.store World.storeCell) depth w who (w.nonces.next who) :=
  ⟨fun depth store audit sink others moves =>
    run_noncesInRange ops c depth store audit sink others moves who,
    fun depth w => leastUsable_next c _ depth w who⟩

/-- After the nonce 5, the nonce 3 is stale, and a call with nonce 6 is handed over and accepted. -/
theorem nextNonce_least_usable_after_gap :
    let who := "O2onvM62pC1io6jQKm8Nc2UyFXcd4kOmOsBIoYtZ2ik"
    let c : Collaborators UndoStore Unit Unit := .trusting
    let gate := c.gate (UndoStore.transactional.store World.storeCell) 1
    let w : World UndoStore Unit Unit :=
      { World.fresh .empty [] () () with nonces := .insert .empty who 5 }
    let dispatch (nonce : Nat) :=
      (gate.dispatch (.data (Envelope.claiming who nonce).toJson)).exec w
    ((gate.nextNonce who).exec w).1 = .ok 6 ∧
      ((dispatch 3).1 = .ok (.error (.staleNonce 3 5)) ∧ w.SameRegistry (dispatch 3).2) ∧
      (dispatch 6).2.audit = [⟨.accepted, some .create, some who, some "07", none⟩] := by
  intro who c gate w dispatch
  have hwho : KeyId.isCanonical who = true := by decide
  have hleast : LeastUsable c (UndoStore.transactional.store World.storeCell) 0 w who 6 :=
    (nextNonce_least_usable UndoStore.transactional.toStoreOps c who).2 0 w
  refine ⟨congrArg Prod.fst hleast.told, ?_, ?_⟩
  · -- The nonce 3 is below the next one.
    obtain ⟨-, -, hsame, hanswered⟩ :=
      hleast.stale _ _ (authentic_claiming hwho (show 3 ≤ maxSafeInteger by decide)) (.refl _)
        (show 3 < 6 by decide)
    have hreports : (c.dispatcher (UndoStore.transactional.store World.storeCell)
        (c.gate (UndoStore.transactional.store World.storeCell) 0)).Reports World.SameRegistry :=
      ⟨fun _ _ => ⟨rfl, rfl⟩, fun _ _ _ => ⟨rfl, rfl⟩, fun _ _ _ _ => ⟨rfl, rfl⟩⟩
    exact ⟨hanswered (fun _ _ w => ⟨(), w, rfl⟩) fun _ _ _ w => ⟨(), w, rfl⟩, hsame hreports⟩
  · -- The nonce 6 is the next one.
    obtain ⟨hhanded, -⟩ :=
      hleast.handed _ _ (authentic_claiming hwho (show 6 ≤ maxSafeInteger by decide)) (.refl _)
        (show 6 ≤ 6 by decide)
    rw [show dispatch 6 = _ from hhanded]
    decide +kernel

/-- A signer who has spent the greatest nonce of the schema is told the number above it, and a call
with that nonce is malformed, though its signature verifies. -/
theorem nextNonce_above_schema :
    let who := "O2onvM62pC1io6jQKm8Nc2UyFXcd4kOmOsBIoYtZ2ik"
    let c : Collaborators UndoStore Unit Unit := .trusting
    let gate := c.gate (UndoStore.transactional.store World.storeCell) 1
    let w := gate.run (.fresh .empty [] () ())
      [.dispatch (.data (Envelope.claiming who maxSafeInteger).toJson)]
    let e := Envelope.claiming who (maxSafeInteger + 1)
    KeyId.isCanonical who = true ∧ ((gate.nextNonce who).exec w).1 = .ok e.call.nonce ∧
      (∃ signature, e.credentials = some ⟨who, signature⟩ ∧
        c.verify who e.call signature = .ok true) ∧
      ∃ violations, ((gate.dispatch (.data e.toJson)).exec w).1 =
        .ok (.error (.malformedCall (.schema violations))) := by
  intro who c gate w e
  have hnext : w.nonces.next who = maxSafeInteger + 1 := by decide +kernel
  have hleast := leastUsable_next c (UndoStore.transactional.store World.storeCell) 0 w who
  obtain ⟨violations, hexec⟩ := hleast.exhausted hnext e _ hnext.symm (.refl _)
  refine ⟨by decide, congrArg Except.ok hnext, ⟨_, rfl, rfl⟩, violations, ?_⟩
  rw [hexec]
  rfl

end ProofOfExistence
