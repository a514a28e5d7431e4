import ProofOfExistence.Proofs.CalmRegistry
import ProofOfExistence.Proofs.UsableNonces

/-!
# What a dispatch does, exactly

Among calm collaborators a dispatch is decided by its checks, in this order: the schema, the ids of
the signer and of the receiver, the signature, the nonce.  The first check that fails decides the
error (`Request.admission`).  A request that passes has its nonce spent, and the service is called
for its signer, just as anyone else could call it.  Either way the audit log gets one entry, which
tells the answer.

## Key results

- `exec_dispatchOn`: a request is judged at once, or its call is handed over with its nonce spent
- `exec_carry`: a call that is handed over is a call of the service
- `dispatch_outcome`: all that a dispatch does, on both stores
-/

namespace ProofOfExistence

variable {τ θ ε μ : Type}

/-! ## Reading -/

namespace Request

/-- The envelope of a request, or why it cannot be read. -/
def reading : Request → Except Malformation Envelope
  | data v => (Envelope.ofValue v).mapError .schema
  | text t =>
    match Value.parse t with
    | none => .error .notJson
    | some v => (Envelope.ofValue v).mapError .schema

theorem dispatchOn_eq {σ : Type} (d : Dispatcher σ) (r : Request) :
    r.dispatchOn d =
      match r.reading with
      | .error cause => d.reject (.malformedCall cause) none none
      | .ok e => d.dispatchEnvelope e := by
  have hdata (v : Value) : d.dispatch v =
      match (Envelope.ofValue v).mapError Malformation.schema with
      | .error cause => d.reject (.malformedCall cause) none none
      | .ok e => d.dispatchEnvelope e := by
    unfold Dispatcher.dispatch
    cases Envelope.ofValue v <;> rfl
  cases r with
  | data v => exact hdata v
  | text t =>
    simp only [dispatchOn, reading, Dispatcher.dispatchText]
    cases Value.parse t with
    | none => rfl
    | some v => exact hdata v

theorem envelope?_eq (r : Request) : r.envelope? = r.reading.toOption := by
  have hdata (v : Value) : (Envelope.ofValue v).toOption =
      ((Envelope.ofValue v).mapError Malformation.schema).toOption := by
    cases Envelope.ofValue v <;> rfl
  cases r with
  | data v => exact hdata v
  | text t =>
    simp only [envelope?, reading]
    cases Value.parse t with
    | none => rfl
    | some v => exact hdata v

/-- The call of an envelope that is read keeps to the bounds of the schema. -/
theorem valid_of_reading {r : Request} {e : Envelope} (h : r.reading = .ok e) : e.call.Valid := by
  have henvelope : r.envelope? = some e := by rw [envelope?_eq, h]; rfl
  obtain ⟨v, hv⟩ := exists_of_envelope? henvelope
  exact Envelope.valid_call_of_ofValue hv

end Request

/-! ## Checks -/

/-- A check of an envelope, and what the dispatcher says and records of one that fails it. -/
structure EnvelopeCheck where
  passed : Bool
  error : DispatchError
  signer : Option String

namespace Envelope

variable (e : Envelope)

/-- The origin of the call of an envelope. -/
def origin : Origin :=
  match e.credentials with
  | some c => .signed c.signer
  | none => .none

/-- Whether the signature of an envelope, if any, verifies. -/
def isVerified : Bool :=
  match e.credentials with
  | some c => (Call.verifySignature c.signer e.call c.signature).toOption.getD false
  | none => true

/-- The last nonce that the signer of an envelope, if any, spent. -/
def lastNonce? (nonces : Nonces) : Option Nat := e.signer.bind nonces.get?

/-- The nonces once that of an envelope is spent. -/
def spend (nonces : Nonces) : Nonces :=
  match e.credentials with
  | some c => nonces.insert c.signer e.call.nonce
  | none => nonces

/-- What an envelope must pass, in the order in which the checks count. -/
def checks (nonces : Nonces) : List EnvelopeCheck :=
  [⟨e.signer.all KeyId.isCanonical, .malformedCall .signerId, none⟩,
    ⟨e.call.action.dest?.all KeyId.isCanonical, .malformedCall .destId, e.signer⟩,
    ⟨e.isVerified, .badSignature, e.signer⟩] ++
  (e.lastNonce? nonces).toList.map fun last =>
    ⟨last < e.call.nonce, .staleNonce e.call.nonce last, e.signer⟩

end Envelope

/-- The envelope of a request that passes all checks, or what becomes of the request. -/
def Request.admission (nonces : Nonces) (r : Request) : Except Judgement Envelope :=
  match r.reading with
  | .error cause => .error ⟨.error (.malformedCall cause), none, none⟩
  | .ok e =>
    match (e.checks nonces).find? fun check => !check.passed with
    | some check => .error ⟨.error check.error, some e.call, check.signer⟩
    | none => .ok e

/-- A request that passes all checks was read, and its fingerprint can be decoded. -/
theorem Request.decode?_of_admission {nonces : Nonces} {r : Request} {e : Envelope}
    (h : r.admission nonces = .ok e) :
    r.reading = .ok e ∧ ∃ proof, Hex.decode? e.call.proof = some proof := by
  unfold admission at h
  cases hreading : r.reading with
  | error cause =>
    rw [hreading] at h
    cases h
  | ok e' =>
    simp only [hreading] at h
    split at h
    · cases h
    · obtain rfl : e' = e := Except.ok.inj h
      have hhex := (valid_of_reading hreading).proof
      rw [← Hex.isSome_decode?] at hhex
      exact ⟨rfl, Option.isSome_iff_exists.1 hhex⟩

theorem Dispatcher.checkIds_eq (e : Envelope) :
    checkIds e =
      if e.signer.all KeyId.isCanonical then
        if e.call.action.dest?.all KeyId.isCanonical then .ok () else .error (.destId, e.signer)
      else .error (.signerId, none) := by
  have hnot (id : Option String) :
      (id.any fun id => !KeyId.isCanonical id) = !id.all KeyId.isCanonical := by
    cases id <;> rfl
  unfold checkIds
  rw [hnot, hnot]
  cases e.signer.all KeyId.isCanonical <;> cases e.call.action.dest?.all KeyId.isCanonical <;> rfl

/-! ## A dispatch among calm collaborators -/

namespace CalmCollaborators

variable (c : CalmCollaborators θ ε μ) {store : ClaimStore (World τ ε (CalmState θ μ))}
  {g : Gate (World τ ε (CalmState θ μ))}

/-- An unsigned envelope is authentic, and a signed one if its signature verifies and its nonce is
above the last one of its signer. -/
private theorem exec_authenticate {e : Envelope} (hcall : e.call.Valid)
    (w : World τ ε (CalmState θ μ)) :
    ((c.dispatcher store g).authenticate e).exec w =
      if e.isVerified then
        match e.lastNonce? w.nonces with
        | some last =>
          if last < e.call.nonce then (.ok (.ok e.origin), { w with nonces := e.spend w.nonces })
          else (.ok (.error (.staleNonce e.call.nonce last)), w)
        | none => (.ok (.ok e.origin), { w with nonces := e.spend w.nonces })
      else (.ok (.error .badSignature), w) := by
  obtain ⟨call, credentials⟩ := e
  cases credentials with
  -- Nobody has signed, so there is nothing to verify and no nonce to spend.
  | none => rfl
  | some k =>
    obtain ⟨verified, hverify⟩ := Call.exists_verifySignature hcall k.signer k.signature
    have hverify' : (c.dispatcher store g).verify k.signer call k.signature = .ok verified :=
      hverify
    have hverified : Envelope.isVerified ⟨call, some k⟩ = verified := by
      show (Call.verifySignature k.signer call k.signature).toOption.getD false = _
      rw [hverify]
      rfl
    have hlast : (Envelope.mk call (some k)).lastNonce? w.nonces = w.nonces.get? k.signer := rfl
    have hread : (c.dispatcher store g).nonces.read.exec w = (.ok w.nonces, w) := rfl
    rw [hverified, hlast]
    unfold Dispatcher.authenticate Dispatcher.spendNonce
    simp only [Run.exec_bind, Run.exec_ofExcept, hverify']
    cases verified with
    -- The signature is wrong.
    | false => rfl
    -- The signature is right, and the nonce decides.
    | true =>
      simp only [if_true, Run.exec_bind, hread]
      cases w.nonces.get? k.signer with
      | none => rfl
      | some last =>
        by_cases hstale : call.nonce ≤ last
        · simp only [if_pos hstale, if_neg (Nat.not_lt.2 hstale)]
          rfl
        · simp only [if_neg hstale, if_pos (Nat.not_le.1 hstale)]
          rfl

/-- A request is judged at once, or its call is handed over with its nonce spent. -/
theorem exec_dispatchOn (r : Request) (w : World τ ε (CalmState θ μ)) :
    (r.dispatchOn (c.dispatcher store g)).exec w =
      match r.admission w.nonces with
      | .error j => (.ok j.answer, c.judged j w)
      | .ok e => ((c.dispatcher store g).carry e.origin e.call e.signer).exec
          { w with nonces := e.spend w.nonces } := by
  rw [Request.dispatchOn_eq]
  unfold Request.admission
  cases hreading : r.reading with
  -- The request cannot be read.
  | error cause => exact c.exec_reject _ _ _
  | ok e =>
    have hauthenticate : ((c.dispatcher store g).authenticate e).exec w = _ :=
      c.exec_authenticate (Request.valid_of_reading hreading) w
    simp only [Dispatcher.dispatchEnvelope, Dispatcher.checkIds_eq, Envelope.checks,
      List.cons_append, List.nil_append, List.find?_cons]
    -- The checks are made in the order of the list, and the first one that fails ends it.
    cases e.signer.all KeyId.isCanonical with
    | false => exact c.exec_reject _ _ _
    | true =>
      cases e.call.action.dest?.all KeyId.isCanonical with
      | false => exact c.exec_reject _ _ _
      | true =>
        simp only [if_true, Bool.not_true, Run.exec_bind, hauthenticate]
        cases e.isVerified with
        | false => exact c.exec_reject _ _ _
        | true =>
          cases e.lastNonce? w.nonces with
          -- The signer has spent no nonce yet.
          | none => rfl
          | some last =>
            simp only [if_true, Option.toList_some, List.map_cons, List.map_nil, List.find?_cons]
            by_cases hfresh : last < e.call.nonce
            · simp only [if_pos hfresh, decide_eq_true hfresh]
              rfl
            · simp only [if_neg hfresh, decide_eq_false hfresh]
              exact c.exec_reject _ _ _

/-- A call that is handed over is a call of the service, whose answer is judged. -/
theorem exec_carry {call : Call} {proof : Fingerprint} {w w' : World τ ε (CalmState θ μ)}
    {origin : Origin} {answer : Except ClaimError Unit}
    (hproof : Hex.decode? call.proof = some proof)
    (h : ((c.service store g).call origin proof call.action).exec (w.noted (.handed origin call)) =
      (.ok answer, w')) (signer : Option String) :
    ((c.dispatcher store g).carry origin call signer).exec w =
      (.ok (answer.mapError .claim), c.judged ⟨answer.mapError .claim, some call, signer⟩ w') := by
  have hhandOver : ((c.dispatcher store g).handOver origin call).exec w = (.ok answer, w') := by
    rw [← ClaimService.carryOut_of_decode _ _ hproof] at h
    exact h
  unfold Dispatcher.carry
  rw [Run.exec_bind, hhandOver]
  cases answer with
  | error cause => exact c.exec_reject _ _ _
  | ok _ => exact c.exec_accept _ _

section Service

variable {S : FaithfulStore τ} {claims : Claims} {origin : Origin} {proof : Fingerprint}
  {action : CallAction}

/-- A call of the service answers, and works on the store, the sink and what the collaborators keep
only: it does the same in worlds that differ in the nonces and the audit log. -/
private theorem exec_call_congr {w w₁ : World τ ε (CalmState θ μ)} (hkeeps : S.Keeps w.store claims)
    (hclock : S.Accepts (c.tick w.others.clock).1) (hstore : w₁.store = w.store)
    (hsink : w₁.sink = w.sink) (hothers : w₁.others = w.others) :
    let call := (c.service (S.store World.storeCell) g).call origin proof action
    ∃ answer w' w₁', call.exec w = (.ok answer, w') ∧ call.exec w₁ = (.ok answer, w₁') ∧
      w₁'.store = w'.store ∧ w₁'.sink = w'.sink ∧ w₁'.others = w'.others ∧
      w₁'.nonces = w₁.nonces ∧ w₁'.audit = w₁.audit := by
  intro call
  cases hfailure :
      Lifecycle.firstFailure c.proofLimit claims (action.request origin proof) with
  | some e =>
    refine ⟨_, _, _, c.exec_call_of_firstFailure hkeeps hfailure,
      c.exec_call_of_firstFailure (hstore ▸ hkeeps) hfailure, hstore, hsink, ?_, rfl, rfl⟩
    simp only [reported, hothers]
  | none =>
    obtain ⟨who, u, -, -, hexec⟩ := c.exists_change (g := g) hclock hkeeps hfailure
    refine ⟨_, _, _, hexec w rfl rfl, hexec w₁ hstore (by rw [hothers]), rfl, ?_, ?_, rfl, rfl⟩
    · simp only [reported, changed, hsink]
    · simp only [reported, changed, hothers]

end Service

end CalmCollaborators

/-! ## The statement -/

/-- The store, the sink, the clock and the nonces are as before. -/
structure World.Untouched (w w' : World τ ε (CalmState θ μ)) : Prop where
  store : w'.store = w.store
  sink : w'.sink = w.sink
  clock : w'.others.clock = w.others.clock
  nonces : w'.nonces = w.nonces

/-- What a dispatch does in a world.  A request that fails a check leaves its entry in the audit log
and nothing else.  If it passes, then for a signed envelope the nonce is spent, and all else is as
if its signer had called the service; an unsigned one is refused. -/
def CalmCollaborators.DispatchesExactly (c : CalmCollaborators θ ε μ)
    (store : ClaimStore (World τ ε (CalmState θ μ))) (g : Gate (World τ ε (CalmState θ μ)))
    (r : Request) (w : World τ ε (CalmState θ μ)) : Prop :=
  let dispatched := (r.dispatchOn (c.dispatcher store g)).exec w
  match r.admission w.nonces with
  | .error j =>
    dispatched.1 = .ok j.answer ∧ w.Untouched dispatched.2 ∧
      dispatched.2.audit = w.audit ++ [j.entry]
  | .ok e =>
    ∃ proof answer, Hex.decode? e.call.proof = some proof ∧
      let j : Judgement := ⟨answer.mapError .claim, some e.call, e.signer⟩
      dispatched.1 = .ok j.answer ∧ dispatched.2.audit = w.audit ++ [j.entry] ∧
      match e.signer with
      | some signer =>
        let direct := ((c.service store g).call (.signed signer) proof e.call.action).exec w
        direct.1 = .ok answer ∧ dispatched.2.store = direct.2.store ∧
          dispatched.2.sink = direct.2.sink ∧
          dispatched.2.others.clock = direct.2.others.clock ∧
          dispatched.2.nonces = w.nonces.insert signer e.call.nonce
      | none => answer = .error .badOrigin ∧ w.Untouched dispatched.2

/-- On a faithful store with a clock that tells times that claims may bear, a dispatch does exactly
that. -/
private theorem dispatchesExactly (c : CalmCollaborators θ ε μ) (S : FaithfulStore τ)
    (g : Gate (World τ ε (CalmState θ μ))) (r : Request) {w : World τ ε (CalmState θ μ)}
    {claims : Claims} (hkeeps : S.Keeps w.store claims)
    (hclock : S.Accepts (c.tick w.others.clock).1) :
    c.DispatchesExactly (S.store World.storeCell) g r w := by
  have hexec : (r.dispatchOn (c.dispatcher (S.store World.storeCell) g)).exec w = _ :=
    c.exec_dispatchOn r w
  unfold CalmCollaborators.DispatchesExactly
  intro dispatched
  have hdispatched : dispatched = _ := hexec
  cases hadmission : r.admission w.nonces with
  -- The request is turned away, and only the entry of its rejection is made.
  | error j =>
    rw [hadmission] at hdispatched
    rw [hdispatched]
    exact ⟨rfl, ⟨rfl, rfl, rfl, rfl⟩, rfl⟩
  | ok e =>
    rw [hadmission] at hdispatched
    obtain ⟨-, proof, hproof⟩ := Request.decode?_of_admission hadmission
    obtain ⟨call, credentials⟩ := e
    cases credentials with
    | none =>
      -- Nobody has signed the call, and the service refuses it for that.
      have hfailure : Lifecycle.firstFailure c.proofLimit claims
          (call.action.request .none proof) = some .badOrigin := by
        cases call.action <;> rfl
      have hrefused := c.exec_call_of_firstFailure (g := g)
        (w := w.noted (.handed .none call)) hkeeps hfailure
      refine ⟨proof, .error .badOrigin, hproof, ?_⟩
      rw [hdispatched.trans (c.exec_carry hproof hrefused none)]
      exact ⟨rfl, rfl, rfl, ⟨rfl, rfl, rfl, rfl⟩⟩
    | some k =>
      -- The nonce is spent before the call, and the call does not look at the nonces.
      let w₁ : World τ ε (CalmState θ μ) :=
        World.noted { w with nonces := w.nonces.insert k.signer call.nonce }
          (.handed (.signed k.signer) call)
      have hsame : w₁.store = w.store ∧ w₁.sink = w.sink ∧ w₁.others = w.others := ⟨rfl, rfl, rfl⟩
      obtain ⟨answer, w', w₁', hdirect, hcalled, hstore, hsink, hothers, hnonces, haudit⟩ :=
        c.exec_call_congr hkeeps hclock hsame.1 hsame.2.1 hsame.2.2
      refine ⟨proof, answer, hproof, ?_⟩
      rw [hdispatched.trans (c.exec_carry hproof hcalled (some k.signer))]
      refine ⟨rfl, congrArg (· ++ [_]) haudit, ?_⟩
      show Prod.fst (((c.service _ g).call _ proof call.action).exec w) = _ ∧ _
      rw [hdirect]
      have hclock' : w₁'.others.clock = w'.others.clock := congrArg CalmState.clock hothers
      exact ⟨rfl, hstore, hsink, hclock', hnonces⟩

/-- On both stores, whatever they keep, in every state of the dispatcher and for every request: a
dispatch among calm collaborators does exactly what its checks say.  The durable store needs a clock
that tells numbers. -/
theorem dispatch_outcome (c : CalmCollaborators θ ε μ) (r : Request) :
    (∀ (g : Gate (World UndoStore ε (CalmState θ μ))) (w : World UndoStore ε (CalmState θ μ))
        (claims : Claims), w.store.Represents claims →
      c.DispatchesExactly (UndoStore.store World.storeCell) g r w) ∧
    ∀ (g : Gate (World SavepointStore ε (CalmState θ μ)))
        (w : World SavepointStore ε (CalmState θ μ)) (claims : Claims), w.store.Keeps claims →
      (c.tick w.others.clock).1 ≠ .nan →
      c.DispatchesExactly (SavepointStore.store World.storeCell) g r w := by
  refine ⟨fun g w claims hkeeps => ?_, fun g w claims hkeeps hclock => ?_⟩
  · exact dispatchesExactly c UndoStore.faithful g r hkeeps (UndoStore.accepts _)
  · rw [SavepointStore.store_eq]
    exact dispatchesExactly c SavepointStore.faithful g r hkeeps (SavepointStore.accepts hclock)

/-- A registry that nobody hears of, with a clock that stands still. -/
def CalmCollaborators.silent : CalmCollaborators Unit Unit Unit where
  tick _ := (0, ())
  deposit _ _ := ()
  proofLimit := 10
  serviceReporters := ⟨fun _ _ _ => (), fun _ _ _ _ => ()⟩
  dispatcherReporters := ⟨fun _ _ _ => (), fun _ _ _ _ => ()⟩

/-- On both stores a call whose signature does not verify is refused for that, and nothing but its
entry in the audit log is left. -/
theorem dispatch_outcome_of_bad_signature :
    let c := CalmCollaborators.silent
    let r := Request.data
      (Envelope.claiming "O2onvM62pC1io6jQKm8Nc2UyFXcd4kOmOsBIoYtZ2ik" 0).toJson
    let undo : World UndoStore Unit (CalmState Unit Unit) :=
      .fresh (.ofClaims .empty) [] () ⟨(), ()⟩
    let savepoints : World SavepointStore Unit (CalmState Unit Unit) :=
      .fresh (.ofClaims .empty) [] () ⟨(), ()⟩
    let refused := ((r.dispatchOn (c.dispatcher (UndoStore.store World.storeCell)
      (c.toCollaborators.gate (UndoStore.store World.storeCell) 0))).exec undo)
    let refused' := ((r.dispatchOn (c.dispatcher (SavepointStore.store World.storeCell)
      (c.toCollaborators.gate (SavepointStore.store World.storeCell) 0))).exec savepoints)
    (refused.1 = .ok (.error .badSignature) ∧ undo.Untouched refused.2) ∧
      refused'.1 = .ok (.error .badSignature) ∧ savepoints.Untouched refused'.2 := by
  intro c r undo savepoints refused refused'
  obtain ⟨hundo, hsavepoints⟩ := dispatch_outcome c r
  have h := hundo (c.toCollaborators.gate (UndoStore.store World.storeCell) 0) undo .empty
    (UndoStore.represents_ofClaims .empty)
  have h' := hsavepoints (c.toCollaborators.gate (SavepointStore.store World.storeCell) 0)
    savepoints .empty (SavepointStore.keeps_ofClaims .empty) nofun
  -- The ids are canonical, so the signature is the first check that fails.
  have hadmission : r.admission .empty = .error ⟨.error .badSignature, some ⟨.create, "07", 0⟩,
      some "O2onvM62pC1io6jQKm8Nc2UyFXcd4kOmOsBIoYtZ2ik"⟩ := by
    decide +kernel
  unfold CalmCollaborators.DispatchesExactly at h h'
  rw [show r.admission undo.nonces = _ from hadmission] at h
  rw [show r.admission savepoints.nonces = _ from hadmission] at h'
  exact ⟨⟨h.1, h.2.1⟩, h'.1, h'.2.1⟩

end ProofOfExistence
