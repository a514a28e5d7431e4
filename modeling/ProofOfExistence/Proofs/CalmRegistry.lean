import ProofOfExistence.Proofs.CallBodies
import ProofOfExistence.Proofs.CallCounters
import ProofOfExistence.Proofs.HonestEnvelopes
import ProofOfExistence.Proofs.OwnershipSteps

/-!
# A registry among calm collaborators

Calm collaborators never fail and call nobody: the clock tells a time, the sink takes every event,
counters count and loggers write.  The clock and the reporters keep their own state, so that what a
call does to the one can be told apart from what it does to the others.  Signatures are checked as
they are everywhere.

Among them a call of the service does one of two things.  If a precondition fails, it answers with
the error and only its report is left of it (`exec_call_of_firstFailure`).  If all hold, it answers
well, changes the claim on its fingerprint and deposits its event (`exists_change`).

## Key results

- `exec_call_of_firstFailure`, `exists_change`: what a call of the service does
- `exec_reject`, `exec_accept`: what the dispatcher does with the answer
-/

namespace ProofOfExistence

variable {τ θ ε μ : Type}

/-! ## The collaborators -/

/-- What the clock and the reporters keep. -/
structure CalmState (θ μ : Type) where
  clock : θ
  records : μ

/-- Counters and a log that never fail and call nobody. -/
structure CalmReporters (μ : Type) where
  count : Utf16 → Tags → μ → μ
  log : LogLevel → String → LogContext → μ → μ

/-- The collaborators of a service and its dispatcher that never fail and call nobody. -/
structure CalmCollaborators (θ ε μ : Type) where
  tick : θ → Number × θ
  deposit : ε → ClaimEvent → ε
  proofLimit : Nat
  serviceReporters : CalmReporters μ
  dispatcherReporters : CalmReporters μ

def CalmReporters.toReporters (r : CalmReporters μ) : Reporters τ ε (CalmState θ μ) where
  count name tags := .quiet fun o => (.ok (), { o with records := r.count name tags o.records })
  log level text context :=
    .quiet fun o => (.ok (), { o with records := r.log level text context o.records })

def CalmCollaborators.toCollaborators (c : CalmCollaborators θ ε μ) :
    Collaborators τ ε (CalmState θ μ) where
  now := .quiet fun o => (.ok (c.tick o.clock).1, { o with clock := (c.tick o.clock).2 })
  deposit event := .look fun w => .keep (c.deposit w.sink event) w.others (.done (.ok ()))
  proofLimit := c.proofLimit
  verify := Call.verifySignature
  serviceReporters := c.serviceReporters.toReporters
  dispatcherReporters := c.dispatcherReporters.toReporters

/-- A time that claims may bear: the store refuses no claim because of it. -/
def FaithfulStore.Accepts (S : FaithfulStore τ) (time : Number) : Prop :=
  ∀ {s claims}, S.Keeps s claims → ∀ f owner, ∃ t, S.insert s f ⟨owner, time⟩ = .ok t

/-- The store with undo logs refuses no claim at all. -/
theorem UndoStore.accepts (time : Number) : faithful.Accepts time :=
  fun _ _ _ => ⟨_, rfl⟩

/-- The durable store refuses only claims without a time. -/
theorem SavepointStore.accepts {time : Number} (h : time ≠ .nan) : faithful.Accepts time := by
  intro s claims hkeeps f owner
  obtain ⟨o, ho⟩ := Keeps.opened hkeeps
  have hstorable : storable ⟨owner, time⟩ = true := decide_eq_true h
  refine ⟨s.put o ((s.visible o).insert (StorageKey.ofFingerprint f) ⟨owner, time⟩), ?_⟩
  show SavepointStore.insert s f ⟨owner, time⟩ = _
  simp only [SavepointStore.insert, opened_eq_ok.2 ho, bind, Except.bind, hstorable, if_true]
  rfl

/-! ## Reports -/

/-- What reporters are told. -/
inductive Note where
  | counted (name : Utf16) (tags : Tags)
  | logged (level : LogLevel) (text : String) (context : LogContext)

namespace CalmReporters

variable (r : CalmReporters μ)

/-- Enter a note in the records. -/
def enter (records : μ) : Note → μ
  | .counted name tags => r.count name tags records
  | .logged level text context => r.log level text context records

/-- Enter some notes, in order. -/
def enterAll (records : μ) (notes : List Note) : μ := notes.foldl r.enter records

end CalmReporters

/-- What the service reports of an answer. -/
def ClaimService.notes (call : ClaimCall) (proof : Fingerprint) :
    Except ClaimError Unit → List Note
  | .ok () =>
    [.counted callCounter (callTags call "ok"),
      .logged .info "Call applied"
        [("call", .ofString call.name), ("proof", .ofString (Hex.encode proof))]]
  | .error e =>
    [.counted callCounter (callTags call e.kind),
      .logged .debug "Call rejected"
        [("call", .ofString call.name), ("proofLength", .num (.ofNat proof.length)),
          ("error", .ofString e.kind)]]

/-- What the dispatcher makes of a request, with the call and the signer as far as they are
recorded. -/
structure Judgement where
  answer : Except DispatchError Unit
  call : Option Call
  signer : Option String
deriving DecidableEq

namespace Judgement

/-- The entry in the audit log. -/
def entry (j : Judgement) : AuditEntry :=
  match j.answer with
  | .ok () => ⟨.accepted, j.call.map Call.method, j.signer, j.call.map Call.proof, none⟩
  | .error e => ⟨.rejected, j.call.map Call.method, j.signer, j.call.map Call.proof, some e.kind⟩

/-- What the dispatcher reports. -/
def notes (j : Judgement) : List Note :=
  match j.answer with
  | .ok () => [.counted Dispatcher.callCounter (decisionTags .accepted)]
  | .error e =>
    [.counted Dispatcher.callCounter (decisionTags .rejected),
      .logged .warn "Call rejected"
        [("method", .ofString? (j.call.map fun c => c.method.name)),
          ("signer", .ofString? j.signer), ("error", .ofString e.kind)]]

end Judgement

namespace CalmCollaborators

variable (c : CalmCollaborators θ ε μ)

/-- The world after the service has reported. -/
def reported (notes : List Note) (w : World τ ε (CalmState θ μ)) : World τ ε (CalmState θ μ) :=
  { w with others :=
    { w.others with records := c.serviceReporters.enterAll w.others.records notes } }

/-- The world after the dispatcher has judged a request. -/
def judged (j : Judgement) (w : World τ ε (CalmState θ μ)) : World τ ε (CalmState θ μ) :=
  { w with
    audit := w.audit ++ [j.entry]
    others := { w.others with
      records := c.dispatcherReporters.enterAll w.others.records j.notes } }

variable (store : ClaimStore (World τ ε (CalmState θ μ))) (g : Gate (World τ ε (CalmState θ μ)))

/-- The claim service among calm collaborators. -/
abbrev service : ClaimService (World τ ε (CalmState θ μ)) := c.toCollaborators.service store g

/-- The dispatcher among calm collaborators. -/
abbrev dispatcher : Dispatcher (World τ ε (CalmState θ μ)) := c.toCollaborators.dispatcher store g

variable {store g} {w : World τ ε (CalmState θ μ)}

theorem exec_report (call : ClaimCall) (proof : Fingerprint) (answer : Except ClaimError Unit) :
    ((c.service store g).report call proof answer).exec w =
      (.ok (), c.reported (ClaimService.notes call proof answer) w) := by
  cases answer <;> rfl

theorem exec_reject (error : DispatchError) (call : Option Call) (signer : Option String) :
    ((c.dispatcher store g).reject error call signer).exec w =
      (.ok (.error error), c.judged ⟨.error error, call, signer⟩ w) :=
  rfl

theorem exec_accept (call : Call) (signer : Option String) :
    ((c.dispatcher store g).accept call signer).exec w =
      (.ok (.ok ()), c.judged ⟨.ok (), some call, signer⟩ w) :=
  rfl

end CalmCollaborators

/-! ## Calls of the service -/

/-- A call of the service. -/
def ClaimService.call {σ : Type} (s : ClaimService σ) (origin : Origin) (proof : Fingerprint) :
    CallAction → Run σ (Except ClaimError Unit)
  | .create => s.create origin proof
  | .revoke => s.revoke origin proof
  | .transfer dest => s.transfer origin proof dest

theorem ClaimService.call_eq {σ : Type} (s : ClaimService σ) (origin : Origin)
    (proof : Fingerprint) (action : CallAction) :
    s.call origin proof action = s.perform action.method proof (s.body origin proof action) := by
  cases action <;> rfl

theorem ClaimService.carryOut_of_decode {σ : Type} (s : ClaimService σ) (origin : Origin)
    {call : Call} {proof : Fingerprint} (h : Hex.decode? call.proof = some proof) :
    s.carryOut origin call = s.call origin proof call.action := by
  rw [carryOut_eq, h, call_eq]
  rfl

namespace CalmCollaborators

variable (c : CalmCollaborators θ ε μ) {S : FaithfulStore τ} {g : Gate (World τ ε (CalmState θ μ))}
  {claims : Claims} {origin : Origin} {proof : Fingerprint} {action : CallAction} {time : Number}

/-- The state of the clock after a claim was set for its new owner, or removed. -/
def clockAfter (clock : θ) : Option Identity → θ
  | some _ => (c.tick clock).2
  | none => clock

/-- The world after an action has changed the claim on its fingerprint, with `store` as the store
then. -/
def changed (who : Identity) (proof : Fingerprint) (action : CallAction) (store : τ)
    (w : World τ ε (CalmState θ μ)) : World τ ε (CalmState θ μ) :=
  { w.noted (.deposited (action.event who proof)) with
    store := store
    sink := c.deposit w.sink (action.event who proof)
    others := { w.others with clock := c.clockAfter w.others.clock (action.ownerAfter who) } }

/-- A call reports the answer that its transaction ended with. -/
private theorem exec_perform {body : Run (World τ ε (CalmState θ μ)) (Except ClaimError Unit)}
    {w w' : World τ ε (CalmState θ μ)} {answer : Except ClaimError Unit}
    (h : (S.transaction World.storeCell body).exec w = (.ok answer, w')) (call : ClaimCall)
    (proof : Fingerprint) :
    ((c.service (S.store World.storeCell) g).perform call proof body).exec w =
      (.ok answer, c.reported (ClaimService.notes call proof answer) w') := by
  have htransaction : ((c.service (S.store World.storeCell) g).store.transaction body).exec w =
    (.ok answer, w') := h
  unfold ClaimService.perform
  rw [Run.exec_bind, htransaction]
  simp only [Run.exec_bind, exec_report]
  rfl

/-- A call of which a precondition fails answers with the error of the first one that does, and only
its report is left of it. -/
theorem exec_call_of_firstFailure {w : World τ ε (CalmState θ μ)} {e : ClaimError}
    (hkeeps : S.Keeps w.store claims)
    (h : Lifecycle.firstFailure c.proofLimit claims (action.request origin proof) = some e) :
    ((c.service (S.store World.storeCell) g).call origin proof action).exec w =
      (.ok (.error e), c.reported (ClaimService.notes action.method proof (.error e)) w) := by
  -- A refusal changes nothing, so the transaction ends with the store that it began with.
  obtain ⟨t, hopen, ht⟩ := S.open_keeps hkeeps
  have hopen' : S.openTransaction (World.storeCell.get w) = .ok t := hopen
  have hcommit : S.commit (World.storeCell.get (World.storeCell.set t w)) = .ok w.store :=
    S.commit_open (S.valid_of_keeps hkeeps) hopen
  have hreads : (c.service (S.store World.storeCell) g).ReadsAs claims (World.storeCell.set t w) :=
    ClaimService.readsAs_of_keeps rfl rfl ht
  rw [ClaimService.call_eq]
  refine exec_perform c ?_ action.method proof
  rw [StoreOps.exec_transaction, hopen']
  simp only [ClaimService.exec_body_of_firstFailure hreads h, hcommit]
  rfl

/-- A claim can be set or removed. -/
private theorem exists_alter (hclock : S.Accepts time) {t : τ} (hkeeps : S.Keeps t claims)
    (proof : Fingerprint) (owner : Option Identity) :
    ∃ t', S.Follows t t' ∧
      S.Keeps t' (claims.set? proof (owner.map fun owner => ⟨owner, time⟩)) ∧
      ∀ w : World τ ε (CalmState θ μ), w.store = t → (c.tick w.others.clock).1 = time →
        ((c.service (S.store World.storeCell) g).alter proof owner).exec w =
          (.ok (), { w with
            store := t'
            others := { w.others with clock := c.clockAfter w.others.clock owner } }) := by
  cases owner with
  | none =>
    -- The claim is removed, and no clock is asked.
    obtain ⟨t', hremove, ht'⟩ := S.remove_keeps hkeeps (f := proof)
    refine ⟨t', (S.remove_ok hremove).1, ht', ?_⟩
    rintro w rfl -
    show (StoreOps.update World.storeCell fun s => S.remove s proof).exec w = _
    have hremove' : S.remove (World.storeCell.get w) proof = .ok t' := hremove
    rw [StoreOps.exec_update, hremove']
    rfl
  | some owner =>
    -- The clock is asked first, then the claim is written.
    obtain ⟨t', hinsert⟩ := hclock hkeeps proof owner
    refine ⟨t', (S.insert_ok hinsert).1, S.insert_keeps hkeeps hinsert, ?_⟩
    rintro w rfl rfl
    let w' : World τ ε (CalmState θ μ) :=
      { w with others := { w.others with clock := (c.tick w.others.clock).2 } }
    have hnow : (c.service (S.store World.storeCell) g).now.exec w =
      (.ok (c.tick w.others.clock).1, w') := rfl
    have hinsert' : S.insert (World.storeCell.get w') proof ⟨owner, (c.tick w.others.clock).1⟩ =
      .ok t' := hinsert
    unfold ClaimService.alter ClaimService.stamp
    rw [Run.exec_bind, hnow]
    show (StoreOps.update World.storeCell fun s => S.insert s proof _).exec w' = _
    rw [StoreOps.exec_update, hinsert']
    rfl

/-- A call whose preconditions hold answers well.  It changes the claim on its fingerprint, and what
becomes of the store depends on the store and the time only. -/
theorem exists_change (hclock : S.Accepts time) {s : τ} (hkeeps : S.Keeps s claims)
    (h : Lifecycle.firstFailure c.proofLimit claims (action.request origin proof) = none) :
    ∃ who u, origin = .signed who ∧
      S.Keeps u (claims.set? proof (action.claimAfter who time)) ∧
      ∀ w : World τ ε (CalmState θ μ), w.store = s → (c.tick w.others.clock).1 = time →
        ((c.service (S.store World.storeCell) g).call origin proof action).exec w =
          (.ok (.ok ()), c.reported (ClaimService.notes action.method proof (.ok ()))
            (c.changed who proof action u w)) := by
  obtain ⟨t, hopen, ht⟩ := S.open_keeps hkeeps
  have hvalid := S.valid_of_keeps hkeeps
  -- The signer is the same in all worlds.
  obtain ⟨who, rfl⟩ : ∃ who, origin = .signed who := by
    cases origin with
    | signed who => exact ⟨who, rfl⟩
    | root | none => cases action <;> cases h
  obtain ⟨t', hfollows, ht', halter⟩ :=
    exists_alter c (g := g) hclock ht proof (action.ownerAfter who)
  obtain ⟨u, hcommit, -⟩ := S.commit_ok hvalid hopen hfollows
  refine ⟨who, u, rfl, S.commit_keeps hvalid hopen hfollows hcommit ht', ?_⟩
  -- The transaction opens, the body makes the change, and the commit keeps it.
  rintro w rfl htime
  have hopen' : S.openTransaction (World.storeCell.get w) = .ok t := hopen
  have hreads : (c.service (S.store World.storeCell) g).ReadsAs claims (World.storeCell.set t w) :=
    ClaimService.readsAs_of_keeps rfl rfl ht
  obtain ⟨who', hwho, hbody⟩ := ClaimService.exec_body_of_fulfilled hreads h
  obtain rfl : who = who' := Origin.signed.inj hwho
  rw [ClaimService.call_eq]
  refine exec_perform c ?_ action.method proof
  have haltered := halter (World.storeCell.set t w) rfl htime
  have hchange : ((c.service (S.store World.storeCell) g).change who proof action).exec
      (World.storeCell.set t w) = (.ok (.ok ()), c.changed who proof action t' w) := by
    unfold ClaimService.change
    rw [Run.exec_bind, haltered]
    rfl
  have hcommit' : S.commit (World.storeCell.get (c.changed who proof action t' w)) = .ok u :=
    hcommit
  rw [StoreOps.exec_transaction, hopen']
  simp only [hbody, hchange, hcommit']
  rfl

end CalmCollaborators

end ProofOfExistence
