import Mathlib.Data.List.Forall2
import ProofOfExistence.ClaimService
import ProofOfExistence.Proofs.Lifecycle

/-!
# The claim service refines the lifecycle of claims

The claim service runs on the store with undo logs, with a clock and a sink that raise no fault.  It
carries out every run of requests like the machine `Lifecycle`: it leaves the claims, the clock and
the events of the machine, and gives its answers.  Only a counter or the log can still keep an
answer back, with a fault of its own once the call is over.

## Key results

- `perform_reported`: a call does what the machine does when its body does
- `serve_reported`: one request
- `serve_refines_lifecycle`: every run of requests
-/

namespace ProofOfExistence

/-! ## The service in its surroundings -/

/-- What the service works on: its store, the state of the clock, the state of the sink, and the
counters and log entries. -/
structure ServiceState (η ε μ : Type) where
  store : UndoStore
  clock : η
  sink : ε
  records : μ

/-- The collaborators of the service.  None of them calls the service, and only the counters and the
log can raise a fault. -/
structure Surroundings (η ε μ : Type) where
  tick : η → Number × η
  deposit : ε → ClaimEvent → ε
  count : Utf16 → Tags → μ → Except Fault Unit × μ
  log : LogLevel → String → LogContext → μ → Except Fault Unit × μ

namespace ServiceState

variable {η ε μ : Type}

/-- The place of the store. -/
def storeCell : Cell (ServiceState η ε μ) UndoStore :=
  ⟨ServiceState.store, fun s w => { w with store := s }⟩

/-- The place of the clock. -/
def clockCell : Cell (ServiceState η ε μ) η :=
  ⟨ServiceState.clock, fun c w => { w with clock := c }⟩

/-- The place of the sink. -/
def sinkCell : Cell (ServiceState η ε μ) ε :=
  ⟨ServiceState.sink, fun e w => { w with sink := e }⟩

/-- The place of the counters and log entries. -/
def recordsCell : Cell (ServiceState η ε μ) μ :=
  ⟨ServiceState.records, fun r w => { w with records := r }⟩

end ServiceState

namespace Surroundings

open ServiceState

variable {η ε μ : Type} (env : Surroundings η ε μ) (limit : Nat)

/-- Read the clock, which moves it on. -/
def now : Run (ServiceState η ε μ) Number := do
  let clock ← clockCell.read
  clockCell.write (env.tick clock).2
  return (env.tick clock).1

/-- Have a counter or the log record something. -/
def record (f : μ → Except Fault Unit × μ) : Run (ServiceState η ε μ) Unit := do
  let records ← recordsCell.read
  recordsCell.write (f records).2
  Run.ofExcept (f records).1

/-- The claim service among its collaborators. -/
def service : ClaimService (ServiceState η ε μ) where
  store := UndoStore.store storeCell
  now := env.now
  deposit event := sinkCell.modify fun sink => env.deposit sink event
  proofLimit := limit
  count name tags := record (env.count name tags)
  log level text context := record (env.log level text context)

/-- Have the service answer a request. -/
def serve : ClaimRequest → Run (ServiceState η ε μ) ClaimReply
  | .create origin proof => .ended <$> (env.service limit).create origin proof
  | .revoke origin proof => .ended <$> (env.service limit).revoke origin proof
  | .transfer origin proof dest => .ended <$> (env.service limit).transfer origin proof dest
  | .claim proof => .found <$> (env.service limit).claim proof

/-! ## One request -/

/-- The service stands where the machine does, if its sink started from `sink`. -/
structure Simulates (sink : ε) (w : ServiceState η ε μ) (m : Lifecycle η) : Prop where
  claims : w.store.Represents m.claims
  clock : w.clock = m.clock
  sink : w.sink = m.events.foldl env.deposit sink

/-- A computation does at this state what the machine does: it ends with the answer and stands where
the machine goes. -/
def Refines {α : Type} (sink : ε) (body : Run (ServiceState η ε μ) α) (w : ServiceState η ε μ)
    (answer : α) (m : Lifecycle η) : Prop :=
  (body.exec w).1 = .ok answer ∧ env.Simulates sink (body.exec w).2 m

/-- A fault that a counter or the log can raise. -/
def Raises (e : Fault) : Prop :=
  (∃ name tags records, (env.count name tags records).1 = .error e) ∨
    ∃ level text context records, (env.log level text context records).1 = .error e

/-- The answer was given, unless a counter or the log raised a fault. -/
def Answered {α : Type} (outcome : Except Fault α) (answer : α) : Prop :=
  outcome = .ok answer ∨ ∃ e, env.Raises e ∧ outcome = .error e

/-- A computation does at this state what the machine does, although its answer may be lost in a
report. -/
def Reported {α : Type} (sink : ε) (body : Run (ServiceState η ε μ) α) (w : ServiceState η ε μ)
    (answer : α) (m : Lifecycle η) : Prop :=
  env.Answered (body.exec w).1 answer ∧ env.Simulates sink (body.exec w).2 m

variable {env limit} {sink : ε} {w : ServiceState η ε μ} {m m' : Lifecycle η} {α β : Type}

theorem refines_pure (h : env.Simulates sink w m) (a : α) : env.Refines sink (pure a) w a m :=
  ⟨rfl, h⟩

theorem Refines.bind {x : Run (ServiceState η ε μ) α} {f : α → Run (ServiceState η ε μ) β} {a : α}
    {b : β} {m'' : Lifecycle η} (hx : env.Refines sink x w a m')
    (hf : ∀ w', env.Simulates sink w' m' → env.Refines sink (f a) w' b m'') :
    env.Refines sink (x >>= f) w b m'' := by
  obtain ⟨hanswer, hstate⟩ := hx
  unfold Refines
  rw [Run.exec_bind]
  rcases hexec : x.exec w with ⟨outcome, w'⟩
  rw [hexec] at hanswer hstate
  obtain rfl : outcome = .ok a := hanswer
  exact hf w' hstate

theorem Refines.reported {x : Run (ServiceState η ε μ) α} {a : α}
    (hx : env.Refines sink x w a m') : env.Reported sink x w a m' :=
  ⟨.inl hx.1, hx.2⟩

/-- After what the machine does, a report may follow. -/
theorem Refines.bind_reported {x : Run (ServiceState η ε μ) α}
    {f : α → Run (ServiceState η ε μ) β} {a : α} {b : β} {m'' : Lifecycle η}
    (hx : env.Refines sink x w a m')
    (hf : ∀ w', env.Simulates sink w' m' → env.Reported sink (f a) w' b m'') :
    env.Reported sink (x >>= f) w b m'' := by
  obtain ⟨hanswer, hstate⟩ := hx
  unfold Reported
  rw [Run.exec_bind]
  rcases hexec : x.exec w with ⟨outcome, w'⟩
  rw [hexec] at hanswer hstate
  obtain rfl : outcome = .ok a := hanswer
  exact hf w' hstate

/-- After a report, another one may follow; if the first raises a fault the second is left out. -/
theorem Reported.bind {x : Run (ServiceState η ε μ) α} {f : α → Run (ServiceState η ε μ) β} {a : α}
    {b : β} (hx : env.Reported sink x w a m')
    (hf : ∀ w', env.Simulates sink w' m' → env.Reported sink (f a) w' b m') :
    env.Reported sink (x >>= f) w b m' := by
  obtain ⟨hanswer, hstate⟩ := hx
  unfold Reported
  rw [Run.exec_bind]
  rcases hexec : x.exec w with ⟨outcome, w'⟩
  rw [hexec] at hanswer hstate
  rcases hanswer with rfl | ⟨e, hraises, rfl⟩
  · exact hf w' hstate
  · exact ⟨.inr ⟨e, hraises, rfl⟩, hstate⟩

theorem Reported.map {x : Run (ServiceState η ε μ) α} {a : α} (hx : env.Reported sink x w a m')
    (f : α → β) : env.Reported sink (f <$> x) w (f a) m' := by
  obtain ⟨hanswer, hstate⟩ := hx
  unfold Reported
  rw [Run.exec_map]
  refine ⟨?_, hstate⟩
  rcases hanswer with hok | ⟨e, hraises, herror⟩
  · rw [hok]
    exact .inl rfl
  · rw [herror]
    exact .inr ⟨e, hraises, rfl⟩

/-- The answer to a call that fails for a reason, or for none. -/
def outcomeOf : Option ClaimError → Except ClaimError Unit
  | some e => .error e
  | none => .ok ()

section Steps

variable (h : env.Simulates sink w m) (proof : Fingerprint)
include h

private theorem refines_get :
    env.Refines sink ((env.service limit).store.get proof) w (m.claims.get? proof) m :=
  ⟨congrArg Except.ok (h.claims.get?_eq proof), h⟩

private theorem refines_contains :
    env.Refines sink ((env.service limit).store.contains proof) w (m.claims.contains proof) m :=
  ⟨congrArg Except.ok (h.claims.contains_eq proof), h⟩

private theorem refines_remove :
    env.Refines sink ((env.service limit).store.remove proof) w ()
      { m with claims := m.claims.erase proof } :=
  ⟨rfl, h.claims.remove proof, h.clock, h.sink⟩

/-- A stamp reads the clock once. -/
private theorem refines_stamp (owner : Identity) :
    env.Refines sink ((env.service limit).stamp proof owner) w ()
      (m.stamp env.tick proof owner) := by
  refine ⟨rfl, ?_, ?_, h.sink⟩
  · rw [Lifecycle.stamp, ← h.clock]
    exact h.claims.insert proof _
  · rw [Lifecycle.stamp, ← h.clock]
    rfl

private theorem refines_deposit (event : ClaimEvent) :
    env.Refines sink ((env.service limit).deposit event) w () (m.announce event) := by
  refine ⟨rfl, h.claims, h.clock, ?_⟩
  rw [Lifecycle.announce, List.foldl_append, ← h.sink]
  rfl

omit proof in
private theorem reported_count (name : Utf16) (tags : Tags) :
    env.Reported sink ((env.service limit).count name tags) w () m := by
  refine ⟨?_, h.claims, h.clock, h.sink⟩
  show env.Answered (env.count name tags w.records).1 ()
  rcases hcount : (env.count name tags w.records).1 with e | _
  · exact .inr ⟨e, .inl ⟨name, tags, w.records, hcount⟩, rfl⟩
  · exact .inl rfl

omit proof in
private theorem reported_log (level : LogLevel) (text : String) (context : LogContext) :
    env.Reported sink ((env.service limit).log level text context) w () m := by
  refine ⟨?_, h.claims, h.clock, h.sink⟩
  show env.Answered (env.log level text context w.records).1 ()
  rcases hlog : (env.log level text context w.records).1 with e | _
  · exact .inr ⟨e, .inr ⟨level, text, context, w.records, hlog⟩, rfl⟩
  · exact .inl rfl

/-- Neither the counters nor the log count for the machine. -/
private theorem reported_report (call : ClaimCall) (answer : Except ClaimError Unit) :
    env.Reported sink ((env.service limit).report call proof answer) w () m := by
  cases answer <;> exact (reported_count h _ _).bind fun w' h' => reported_log h' _ _ _

private theorem refines_checkOwner (caller : Identity) :
    env.Refines sink ((env.service limit).checkOwner proof caller) w
      (outcomeOf (Lifecycle.ownerFailure m.claims caller proof)) m := by
  refine (refines_get h proof).bind fun w' h' => ?_
  unfold Lifecycle.ownerFailure
  cases m.claims.get? proof with
  | none => exact refines_pure h' _
  | some r =>
    by_cases howner : r.owner = caller
    · simp only [if_pos howner]
      exact refines_pure h' _
    · simp only [if_neg howner]
      exact refines_pure h' _

end Steps

/-- The state with a transaction opened on its store. -/
def opened (w : ServiceState η ε μ) : ServiceState η ε μ :=
  { w with store := w.store.openTransaction }

theorem Simulates.opened (h : env.Simulates sink w m) : env.Simulates sink (opened w) m :=
  ⟨h.claims, h.clock, h.sink⟩

private theorem refines_transaction {body : Run (ServiceState η ε μ) α} {a : α}
    (h : env.Refines sink body (opened w) a m') :
    env.Refines sink ((env.service limit).store.transaction body) w a m' := by
  obtain ⟨hanswer, hstate⟩ := h
  have hstore : (env.service limit).store.transaction body =
    UndoStore.transaction storeCell body := rfl
  have hopened : storeCell.set (storeCell.get w).openTransaction w = opened w := rfl
  unfold Refines
  rw [hstore, UndoStore.exec_transaction, hopened]
  generalize body.exec (opened w) = r at hanswer hstate ⊢
  obtain ⟨outcome, w'⟩ := r
  -- The body raised no fault, so the transaction is committed, also when the call was refused.
  obtain rfl : outcome = .ok a := hanswer
  exact ⟨rfl, hstate.claims.commit, hstate.clock, hstate.sink⟩

/-- A call does what the machine does if its body does inside the transaction. -/
theorem perform_reported {body : Run (ServiceState η ε μ) (Except ClaimError Unit)}
    {answer : Except ClaimError Unit} (h : env.Refines sink body (opened w) answer m')
    (call : ClaimCall) (proof : Fingerprint) :
    env.Reported sink ((env.service limit).perform call proof body) w answer m' := by
  refine (refines_transaction h).bind_reported fun w' h' => ?_
  exact (reported_report h' proof call answer).bind fun w'' h'' =>
    (refines_pure h'' answer).reported

/-! ## The calls -/

/-- A body answers a call like the machine: with its first failing precondition, if any. -/
def Answers (limit : Nat) (sink : ε) (body : Run (ServiceState η ε μ) (Except ClaimError Unit))
    (w : ServiceState η ε μ) (m : Lifecycle η) (r : ClaimRequest) : Prop :=
  match Lifecycle.firstFailure limit m.claims r with
  | some e => env.Refines sink body w (.error e) m
  | none => env.Refines sink body w (.ok ()) (m.effect env.tick r)

section Calls

variable (h : env.Simulates sink w m) (origin : Origin) (proof : Fingerprint)
include h

private theorem createBody_answers :
    env.Answers limit sink ((env.service limit).createBody origin proof) w m
      (.create origin proof) := by
  cases origin with
  | root | none => exact refines_pure h _
  | signed who =>
    -- The body checks in the order in which the preconditions count.
    unfold Answers ClaimService.createBody
    rw [Lifecycle.firstFailure_create]
    by_cases hlength : proof.length ≤ limit
    · -- The fingerprint is not too long.
      have hadmitted : ¬ proof.length > (env.service limit).proofLimit := Nat.not_lt.2 hlength
      have hcontains : env.Refines sink ((env.service limit).store.contains proof) w
        (m.claims.contains proof) m := refines_contains h proof
      simp only [Origin.caller, if_neg hadmitted, if_pos hlength]
      cases hclaimed : m.claims.contains proof with
      -- It is claimed already.
      | true =>
        rw [hclaimed] at hcontains
        exact hcontains.bind fun w' h' => refines_pure h' _
      -- It is not claimed: the claim is stamped, and the event deposited.
      | false =>
        rw [hclaimed] at hcontains
        refine hcontains.bind fun w' h' => ?_
        refine (refines_stamp h' proof who).bind fun w' h' => ?_
        exact (refines_deposit h' (.created who proof)).bind fun w' h' => refines_pure h' _
    · -- The fingerprint is too long.
      have htoo : proof.length > (env.service limit).proofLimit := Nat.not_le.1 hlength
      simp only [Origin.caller, if_pos htoo, if_neg hlength]
      exact refines_pure h _

private theorem revokeBody_answers :
    env.Answers limit sink ((env.service limit).revokeBody origin proof) w m
      (.revoke origin proof) := by
  cases origin with
  | root | none => exact refines_pure h _
  | signed who =>
    -- The owner is checked, the claim removed, and the event deposited.
    unfold Answers ClaimService.revokeBody
    rw [Lifecycle.firstFailure_revoke]
    have hcheck : env.Refines sink ((env.service limit).checkOwner proof who) w
        (outcomeOf (Lifecycle.ownerFailure m.claims who proof)) m := refines_checkOwner h proof who
    simp only [Origin.caller]
    cases howner : Lifecycle.ownerFailure m.claims who proof with
    | some e =>
      rw [howner] at hcheck
      exact hcheck.bind fun w' h' => refines_pure h' _
    | none =>
      rw [howner] at hcheck
      refine hcheck.bind fun w' h' => ?_
      refine (refines_remove h' proof).bind fun w' h' => ?_
      exact (refines_deposit h' (.revoked who proof)).bind fun w' h' => refines_pure h' _

private theorem transferBody_answers (dest : Identity) :
    env.Answers limit sink ((env.service limit).transferBody origin proof dest) w m
      (.transfer origin proof dest) := by
  cases origin with
  | root | none => exact refines_pure h _
  | signed who =>
    -- The owner is checked, the claim stamped for the receiver, and the event deposited.
    unfold Answers ClaimService.transferBody
    rw [Lifecycle.firstFailure_transfer]
    have hcheck : env.Refines sink ((env.service limit).checkOwner proof who) w
        (outcomeOf (Lifecycle.ownerFailure m.claims who proof)) m := refines_checkOwner h proof who
    simp only [Origin.caller]
    cases howner : Lifecycle.ownerFailure m.claims who proof with
    | some e =>
      rw [howner] at hcheck
      exact hcheck.bind fun w' h' => refines_pure h' _
    | none =>
      rw [howner] at hcheck
      refine hcheck.bind fun w' h' => ?_
      refine (refines_stamp h' proof dest).bind fun w' h' => ?_
      exact (refines_deposit h' (.transferred who proof dest)).bind fun w' h' =>
        refines_pure h' _

end Calls

/-- A request whose body answers like the machine is answered and carried out like it. -/
private theorem step_of_answers {body : Run (ServiceState η ε μ) (Except ClaimError Unit)}
    {r : ClaimRequest} (h : env.Answers limit sink body (opened w) m r)
    (hreply : m.reply r = .ended (.ok ())) (call : ClaimCall) (proof : Fingerprint) :
    env.Reported sink (ClaimReply.ended <$> (env.service limit).perform call proof body) w
      (m.step env.tick limit r).1 (m.step env.tick limit r).2 := by
  unfold Answers at h
  -- The machine and the body decide on the same first failure.
  cases hfailure : Lifecycle.firstFailure limit m.claims r with
  | some e =>
    rw [hfailure] at h
    rw [Lifecycle.step_of_firstFailure hfailure]
    exact (perform_reported h call proof).map ClaimReply.ended
  | none =>
    rw [hfailure] at h
    rw [Lifecycle.step_of_fulfilled hfailure, hreply]
    exact (perform_reported h call proof).map ClaimReply.ended

/-- One request is carried out and answered like the machine does. -/
theorem serve_reported (h : env.Simulates sink w m) (r : ClaimRequest) :
    env.Reported sink (env.serve limit r) w (m.step env.tick limit r).1
      (m.step env.tick limit r).2 := by
  cases r with
  | create origin proof =>
    exact step_of_answers (createBody_answers h.opened origin proof) rfl .create proof
  | revoke origin proof =>
    exact step_of_answers (revokeBody_answers h.opened origin proof) rfl .revoke proof
  | transfer origin proof dest =>
    exact step_of_answers (transferBody_answers h.opened origin proof dest) rfl .transfer proof
  | claim proof => exact (refines_get h proof).reported.map ClaimReply.found

/-! ## Runs -/

/-- Have the service answer requests in turn, whatever becomes of the answers. -/
def serveAll (env : Surroundings η ε μ) (limit : Nat) (requests : List ClaimRequest) :
    Run (ServiceState η ε μ) (List (Except Fault ClaimReply)) :=
  requests.mapM fun r => Run.observe (env.serve limit r)

private theorem exec_serveAll_cons (r : ClaimRequest) (rest : List ClaimRequest)
    (w : ServiceState η ε μ) :
    (env.serveAll limit (r :: rest)).exec w =
      (((env.serveAll limit rest).exec ((env.serve limit r).exec w).2).1.map
          (((env.serve limit r).exec w).1 :: ·),
        ((env.serveAll limit rest).exec ((env.serve limit r).exec w).2).2) := by
  rw [serveAll, List.mapM_cons, Run.exec_bind, Run.exec_observe]
  exact Run.exec_map _ _ _

/-- By induction on the requests: each finds the service where the machine stands. -/
theorem serveAll_reported (h : env.Simulates sink w m) (requests : List ClaimRequest) :
    (∃ replies, ((env.serveAll limit requests).exec w).1 = .ok replies ∧
      List.Forall₂ env.Answered replies (m.run env.tick limit requests).1) ∧
    env.Simulates sink ((env.serveAll limit requests).exec w).2
      (m.run env.tick limit requests).2 := by
  induction requests generalizing w m with
  | nil => exact ⟨⟨[], rfl, .nil⟩, h⟩
  | cons r rest ih =>
    have hone : env.Reported sink (env.serve limit r) w (m.step env.tick limit r).1
        (m.step env.tick limit r).2 := serve_reported h r
    obtain ⟨hanswer, hstate⟩ := hone
    obtain ⟨⟨replies, hreplies, hanswers⟩, hend⟩ := ih hstate
    rw [exec_serveAll_cons, hreplies]
    exact ⟨⟨_, rfl, .cons hanswer hanswers⟩, hend⟩

/-- If neither the counters nor the log raise faults, all answers are given. -/
theorem eq_map_ok_of_answered (hquiet : ∀ e, ¬ env.Raises e) {replies : List (Except Fault α)}
    {answers : List α} (h : List.Forall₂ env.Answered replies answers) :
    replies = answers.map Except.ok := by
  induction h with
  | nil => rfl
  | cons hanswer _ ih =>
    rcases hanswer with rfl | ⟨e, hraises, -⟩
    · rw [ih, List.map_cons]
    · exact absurd hraises (hquiet e)

/-- Under every limit that the service admits, from every store, every run of requests leaves the
claims of the lifecycle machine, its clock, and a sink in which exactly its events were deposited,
in order.  Every request is answered as the machine answers it, unless a counter or the log raises a
fault when the call is over. -/
theorem serve_refines_lifecycle {admitted : Number}
    (hlimit : ClaimService.checkLimit admitted = .ok limit) (env : Surroundings η ε μ)
    (claims : Claims) (clock : η) (sink : ε) (records : μ) (requests : List ClaimRequest) :
    let final := Lifecycle.run env.tick limit ⟨claims, clock, []⟩ requests
    let served := (env.serveAll limit requests).exec ⟨.ofClaims claims, clock, sink, records⟩
    admitted = .ofNat limit ∧
      (∃ replies, served.1 = .ok replies ∧ List.Forall₂ env.Answered replies final.1) ∧
      (∀ f, served.2.store.get? f = final.2.claims.get? f) ∧
      served.2.store.size = final.2.claims.size ∧
      served.2.clock = final.2.clock ∧
      served.2.sink = final.2.events.foldl env.deposit sink := by
  intro final served
  have hadmitted : admitted = .ofNat limit := by
    unfold ClaimService.checkLimit at hlimit
    cases hsafe : admitted.toSafeNat? with
    | none => simp [hsafe] at hlimit
    | some n =>
      simp only [hsafe, Except.ok.injEq] at hlimit
      rw [← hlimit]
      exact (Number.eq_ofNat_of_toSafeNat? hsafe).1
  have hstart : env.Simulates sink ⟨.ofClaims claims, clock, sink, records⟩ ⟨claims, clock, []⟩ :=
    ⟨UndoStore.represents_ofClaims claims, rfl, rfl⟩
  obtain ⟨hanswers, hstate⟩ := serveAll_reported hstart requests
  exact ⟨hadmitted, hanswers, hstate.claims.get?_eq, hstate.claims.size_eq, hstate.clock,
    hstate.sink⟩

/-- A limit of two bytes, a clock that counts, a sink that lists, and no reports: a claim is made, a
fingerprint that is too long is refused, and the claim is handed on. -/
theorem serve_refines_lifecycle_two_bytes :
    let env : Surroundings Nat (List ClaimEvent) Unit :=
      ⟨fun time => (.ofNat time, time + 1), fun sink event => sink ++ [event],
        fun _ _ w => (.ok (), w), fun _ _ _ w => (.ok (), w)⟩
    let requests : List ClaimRequest :=
      [.create (.signed "alice") [7], .create (.signed "bob") [7, 7, 7],
        .transfer (.signed "alice") [7] "bob", .claim [7]]
    let served := (env.serveAll 2 requests).exec ⟨.ofClaims .empty, 0, [], ()⟩
    ClaimService.checkLimit (.ofNat 2) = .ok 2 ∧
      served.1 = .ok [.ok (.ended (.ok ())),
        .ok (.ended (.error (.proofTooLong (.ofNat 3) (.ofNat 2)))), .ok (.ended (.ok ())),
        .ok (.found (some ⟨"bob", .ofNat 1⟩))] ∧
      served.2.clock = 2 ∧
      served.2.sink = [.created "alice" [7], .transferred "alice" [7] "bob"] := by
  intro env requests served
  have hlimit : ClaimService.checkLimit (.ofNat 2) = .ok 2 := by
    unfold ClaimService.checkLimit
    rw [Number.toSafeNat?_ofNat (by decide)]
  -- Nothing in these surroundings raises a fault.
  have hquiet : ∀ e, ¬ env.Raises e := by
    rintro e (⟨_, _, _, h⟩ | ⟨_, _, _, _, h⟩) <;> cases h
  obtain ⟨-, ⟨replies, hserved, hanswers⟩, -, -, hclock, hsink⟩ :=
    serve_refines_lifecycle hlimit env .empty 0 [] () requests
  rw [eq_map_ok_of_answered hquiet hanswers] at hserved
  exact ⟨hlimit, hserved, hclock, hsink⟩

end Surroundings

end ProofOfExistence
