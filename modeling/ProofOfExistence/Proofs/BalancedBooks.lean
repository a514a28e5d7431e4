import ProofOfExistence.Proofs.AuditTrail
import ProofOfExistence.Proofs.CallBodies
import ProofOfExistence.Proofs.CallCounters
import ProofOfExistence.Proofs.FaithfulStores

/-!
# The books of a registry balance

A registry keeps four records of the calls that are dispatched to it: the counter of the service,
the counter of the dispatcher, the audit log, and the events in the sink.  They are written in
different places and at different moments.  `Office` is a registry whose sink records every event,
whose adapters and loggers do not fail, and whose clock may fail; the service and the dispatcher
count in the same metrics.

All that the four records show is told by the results of the dispatches and by what the service
answered (`Dispatched`), so they agree with each other.  A dispatch that ends with a fault has no
entry in the audit log, and the dispatcher does not count it.

## Key results

- `handOver_enters`, `dispatch_enters`: what one call adds to the records
- `dispatchAll_enters`: what a run of dispatches adds
- `books_balance`: the records of every run, on both stores
-/

namespace ProofOfExistence

variable {τ κ ρ : Type}

/-! ## The registry -/

/-- What the adapters, the loggers and the clock keep, beside the metrics. -/
structure Books (κ ρ : Type) where
  metrics : Metrics κ
  rest : ρ

/-- The place of the metrics. -/
def Books.metricsCell : Cell (Books κ ρ) (Metrics κ) :=
  ⟨Books.metrics, fun m b => { b with metrics := m }⟩

/-- The surroundings of a registry: a clock that may fail, and adapters and loggers that do not. -/
structure Office (κ ρ : Type) where
  tick : ρ → Except Fault Number × ρ
  /-- An adapter is told of a count. -/
  told : κ → Utf16 → Number → Option Tags → ρ → ρ
  logged : LogLevel → String → LogContext → ρ → ρ
  proofLimit : Nat
  verify : (signer : String) → Call → (signature : String) → Except Fault Bool

namespace Office

variable (m : Office κ ρ)

/-- Tell an adapter of a count. -/
def notify : Metrics.Notify (Books κ ρ) κ := fun adapter name amount tags =>
  modifyThe (Books κ ρ) fun b => { b with rest := m.told adapter name amount tags b.rest }

/-- Those who count in the metrics and write log entries. -/
def reporters : Reporters τ EventLog (Books κ ρ) where
  count name tags := .quiet fun b =>
    (Metrics.count Books.metricsCell m.notify name (some tags) 1).exec b
  log level text context := .quiet fun b =>
    (.ok (), { b with rest := m.logged level text context b.rest })

/-- The collaborators of the registry, with a sink that records every event. -/
def collaborators : Collaborators τ EventLog (Books κ ρ) where
  now := .quiet fun b => ((m.tick b.rest).1, { b with rest := (m.tick b.rest).2 })
  deposit event := .look fun w => .keep (w.sink.push event) w.others (.done (.ok ()))
  proofLimit := m.proofLimit
  verify := m.verify
  serviceReporters := m.reporters
  dispatcherReporters := m.reporters

end Office

/-! ## What the records gain -/

/-- What an entry of the audit log says of a call. -/
def AuditEntry.verdict (e : AuditEntry) : Decision × Option String := (e.decision, e.errorKind)

/-- The records have gained some counts, verdicts on calls and kinds of events. -/
structure Enters (counts : List (Utf16 × Tags)) (verdicts : List (Decision × Option String))
    (kinds : List EventKind) (w w' : World τ EventLog (Books κ ρ)) : Prop where
  metrics : w'.others.metrics = w.others.metrics.recordAll counts
  audit : w'.audit.map AuditEntry.verdict = w.audit.map AuditEntry.verdict ++ verdicts
  events : w'.sink.map ClaimEvent.kind = w.sink.map ClaimEvent.kind ++ kinds

section Enters

variable {w w' w'' : World τ EventLog (Books κ ρ)} {counts counts' : List (Utf16 × Tags)}
  {verdicts verdicts' : List (Decision × Option String)} {kinds kinds' : List EventKind}

theorem Enters.trans (h : Enters counts verdicts kinds w w')
    (h' : Enters counts' verdicts' kinds' w' w'') :
    Enters (counts ++ counts') (verdicts ++ verdicts') (kinds ++ kinds') w w'' where
  metrics := by rw [h'.metrics, h.metrics, Metrics.recordAll_append]
  audit := by rw [h'.audit, h.audit, List.append_assoc]
  events := by rw [h'.events, h.events, List.append_assoc]

theorem enters_of_same (hmetrics : w'.others.metrics = w.others.metrics)
    (haudit : w'.audit = w.audit) (hsink : w'.sink = w.sink) : Enters [] [] [] w w' where
  metrics := hmetrics
  audit := by rw [haudit, List.append_nil]
  events := by rw [hsink, List.append_nil]

/-- What becomes of the store is in none of the records. -/
theorem Enters.of_stores {s : τ} (h : Enters counts verdicts kinds { w with store := s } w')
    (t : τ) : Enters counts verdicts kinds w { w' with store := t } :=
  ⟨h.metrics, h.audit, h.events⟩

end Enters

/-! ## Reports -/

section Reports

variable (m : Office κ ρ) (store : ClaimStore (World τ EventLog (Books κ ρ)))
  (g : Gate (World τ EventLog (Books κ ρ)))

/-- The adapters are told of a count, and none of them fails or touches the metrics. -/
private theorem exec_tell (name : Utf16) (tags : Option Tags) (adapters : List κ)
    (b : Books κ ρ) :
    ∃ rest, (Metrics.tell m.notify name tags 1 adapters).exec b =
      (.ok (), { b with rest := rest }) := by
  induction adapters generalizing b with
  | nil => exact ⟨b.rest, rfl⟩
  | cons a others ih => exact ih { b with rest := m.told a name 1 tags b.rest }

/-- A count is made in the metrics. -/
private theorem exec_count (name : Utf16) (tags : Tags) (w : World τ EventLog (Books κ ρ)) :
    ∃ w', ((m.reporters.count name tags).run g).exec w = (.ok (), w') ∧
      Enters [(name, tags)] [] [] w w' ∧ w'.store = w.store := by
  let b : Books κ ρ := { w.others with metrics := w.others.metrics.record name (some tags) 1 }
  obtain ⟨rest, htell⟩ := exec_tell m name (some tags) b.metrics.adapters b
  have hcount : (Metrics.count Books.metricsCell m.notify name (some tags) 1).exec w.others =
      (.ok (), { b with rest := rest }) := htell
  refine ⟨{ w with others := { b with rest := rest } }, ?_, ⟨rfl, ?_, ?_⟩, rfl⟩
  · show ((Client.quiet fun b =>
      (Metrics.count Books.metricsCell m.notify name (some tags) 1).exec b).run g).exec w = _
    rw [Client.exec_quiet, hcount]
  · exact (List.append_nil _).symm
  · exact (List.append_nil _).symm

/-- A log entry is in none of the records. -/
private theorem exec_log (level : LogLevel) (text : String) (context : LogContext)
    (w : World τ EventLog (Books κ ρ)) :
    ∃ w', ((m.reporters.log level text context).run g).exec w = (.ok (), w') ∧
      Enters [] [] [] w w' ∧ w'.store = w.store :=
  ⟨_, rfl, enters_of_same rfl rfl rfl, rfl⟩

/-- The outcome that the service counts a call under. -/
def outcomeName : Except ClaimError Unit → String
  | .ok () => "ok"
  | .error e => e.kind

/-- The service counts an answer and writes it in the log. -/
private theorem exec_office_report (call : ClaimCall) (proof : Fingerprint)
    (answer : Except ClaimError Unit) (w : World τ EventLog (Books κ ρ)) :
    ∃ w', ((m.collaborators.service store g).report call proof answer).exec w = (.ok (), w') ∧
      Enters [(ClaimService.callCounter, callTags call (outcomeName answer))] [] [] w w' ∧
      w'.store = w.store := by
  obtain ⟨w₁, hcount, hcounted, hstore₁⟩ :=
    exec_count m g ClaimService.callCounter (callTags call (outcomeName answer)) w
  have hthen (level : LogLevel) (text : String) (context : LogContext) :
      ∃ w', (do
        (m.reporters.count ClaimService.callCounter (callTags call (outcomeName answer))).run g
        (m.reporters.log level text context).run g).exec w = (.ok (), w') ∧
      Enters [(ClaimService.callCounter, callTags call (outcomeName answer))] [] [] w w' ∧
      w'.store = w.store := by
    obtain ⟨w₂, hlog, hlogged, hstore₂⟩ := exec_log m g level text context w₁
    exact ⟨w₂, by rw [Run.exec_bind, hcount]; exact hlog, hcounted.trans hlogged,
      hstore₂.trans hstore₁⟩
  cases answer <;> exact hthen _ _ _

/-- An accepted call gets its entry and is counted. -/
private theorem exec_accept (call : Call) (signer : Option String)
    (w : World τ EventLog (Books κ ρ)) :
    ∃ w', ((m.collaborators.dispatcher store g).accept call signer).exec w = (.ok (.ok ()), w') ∧
      Enters [(Dispatcher.callCounter, decisionTags .accepted)] [(.accepted, none)] [] w w' ∧
      w'.store = w.store := by
  let entry : AuditEntry := ⟨.accepted, some call.method, signer, some call.proof, none⟩
  obtain ⟨w₁, hcount, hcounted, hstore⟩ := exec_count m g Dispatcher.callCounter
    (decisionTags .accepted) { w with audit := w.audit ++ [entry] }
  have hentered : Enters [] [(.accepted, none)] [] w { w with audit := w.audit ++ [entry] } :=
    ⟨rfl, List.map_append, (List.append_nil _).symm⟩
  refine ⟨w₁, ?_, hentered.trans hcounted, hstore⟩
  show (do
    (m.reporters.count Dispatcher.callCounter (decisionTags .accepted)).run g
    return .ok () : Run (World τ EventLog (Books κ ρ)) (Except DispatchError Unit)).exec
      { w with audit := w.audit ++ [entry] } = _
  rw [Run.exec_bind, hcount]
  rfl

/-- So does a rejected one, and the rejection is written in the log. -/
private theorem exec_reject (error : DispatchError) (call : Option Call) (signer : Option String)
    (w : World τ EventLog (Books κ ρ)) :
    ∃ w', ((m.collaborators.dispatcher store g).reject error call signer).exec w =
        (.ok (.error error), w') ∧
      Enters [(Dispatcher.callCounter, decisionTags .rejected)] [(.rejected, some error.kind)] []
        w w' ∧
      w'.store = w.store := by
  let entry : AuditEntry :=
    ⟨.rejected, call.map Call.method, signer, call.map Call.proof, some error.kind⟩
  obtain ⟨w₁, hcount, hcounted, hstore₁⟩ := exec_count m g Dispatcher.callCounter
    (decisionTags .rejected) { w with audit := w.audit ++ [entry] }
  obtain ⟨w₂, hlog, hlogged, hstore₂⟩ := exec_log m g .warn "Call rejected"
    [("method", .ofString? (call.map fun c => c.method.name)), ("signer", .ofString? signer),
      ("error", .ofString error.kind)] w₁
  -- The entry is made first, and then the counter and the log are told.
  have hentered : Enters [] [(.rejected, some error.kind)] [] w
      { w with audit := w.audit ++ [entry] } :=
    ⟨rfl, List.map_append, (List.append_nil _).symm⟩
  refine ⟨w₂, ?_, (hentered.trans hcounted).trans hlogged, hstore₂.trans hstore₁⟩
  show (do
    (m.reporters.count Dispatcher.callCounter (decisionTags .rejected)).run g
    (m.reporters.log .warn "Call rejected"
      [("method", .ofString? (call.map fun c => c.method.name)), ("signer", .ofString? signer),
        ("error", .ofString error.kind)]).run g
    return .error error : Run (World τ EventLog (Books κ ρ)) (Except DispatchError Unit)).exec
      { w with audit := w.audit ++ [entry] } = _
  simp only [Run.exec_bind, hcount, hlog]
  rfl

end Reports

/-! ## Calls of the service -/

/-- The kind of the events of a call. -/
def ClaimCall.eventKind : ClaimCall → EventKind
  | create => .created
  | revoke => .revoked
  | transfer => .transferred

namespace ClaimCall

/-- The kinds of the events of a call with an outcome: only a call that is carried out has one. -/
def eventKinds (call : ClaimCall) : Except Fault (Except ClaimError Unit) → List EventKind
  | .ok (.ok ()) => [call.eventKind]
  | _ => []

/-- What the service counts for a call with an outcome: it counts answers only. -/
def counts (call : ClaimCall) : Except Fault (Except ClaimError Unit) → List (Utf16 × Tags)
  | .ok answer => [(ClaimService.callCounter, callTags call (outcomeName answer))]
  | .error _ => []

end ClaimCall

section Calls

variable (m : Office κ ρ) (S : FaithfulStore τ) (g : Gate (World τ EventLog (Books κ ρ)))
  {claims : Claims} {w : World τ EventLog (Books κ ρ)}

/-- The service of the registry. -/
private abbrev officeService : ClaimService (World τ EventLog (Books κ ρ)) :=
  m.collaborators.service (S.store World.storeCell) g

private theorem exec_office_insert (proof : Fingerprint) (r : ClaimRecord)
    (w : World τ EventLog (Books κ ρ)) :
    ((officeService m S g).store.insert proof r).exec w =
      match S.insert w.store proof r with
      | .ok t => (.ok (), { w with store := t })
      | .error e => (.error e, w) :=
  StoreOps.exec_update World.storeCell (fun s => S.insert s proof r) w

private theorem exec_office_remove (proof : Fingerprint) (w : World τ EventLog (Books κ ρ)) :
    ((officeService m S g).store.remove proof).exec w =
      match S.remove w.store proof with
      | .ok t => (.ok (), { w with store := t })
      | .error e => (.error e, w) :=
  StoreOps.exec_update World.storeCell (fun s => S.remove s proof) w

/-- A change of a claim enters nothing, whether it fails or not. -/
private theorem alter_enters (hkeeps : S.Keeps w.store claims) (proof : Fingerprint)
    (owner : Option Identity) :
    ∃ outcome w', ((officeService m S g).alter proof owner).exec w = (outcome, w') ∧
      Enters [] [] [] w w' ∧ S.Follows w.store w'.store ∧
      (outcome = .ok () → ∃ claims', S.Keeps w'.store claims') := by
  cases owner with
  -- To give up a claim, no clock is asked.
  | none =>
    obtain ⟨t, hremove, ht⟩ := S.remove_keeps hkeeps (f := proof)
    have halter : ((officeService m S g).alter proof none).exec w =
      ((officeService m S g).store.remove proof).exec w := rfl
    rw [halter, exec_office_remove, hremove]
    exact ⟨.ok (), _, rfl, enters_of_same rfl rfl rfl, (S.remove_ok hremove).1, fun _ => ⟨_, ht⟩⟩
  | some owner =>
    -- The clock may fail, and a durable store refuses a claim without a time.
    let w₁ : World τ EventLog (Books κ ρ) :=
      { w with others := { w.others with rest := (m.tick w.others.rest).2 } }
    have hnow : (officeService m S g).now.exec w = ((m.tick w.others.rest).1, w₁) := rfl
    unfold ClaimService.alter ClaimService.stamp
    rw [Run.exec_bind, hnow]
    cases (m.tick w.others.rest).1 with
    | error fault =>
      exact ⟨.error fault, w₁, rfl, enters_of_same rfl rfl rfl, S.follows_refl _, nofun⟩
    | ok time =>
      dsimp only
      rw [exec_office_insert]
      cases hinsert : S.insert w₁.store proof ⟨owner, time⟩ with
      | error fault =>
        exact ⟨.error fault, w₁, rfl, enters_of_same rfl rfl rfl, S.follows_refl _, nofun⟩
      | ok t =>
        exact ⟨.ok (), _, rfl, enters_of_same rfl rfl rfl, (S.insert_ok hinsert).1,
          fun _ => ⟨_, S.insert_keeps hkeeps hinsert⟩⟩

/-- What a call does inside its transaction enters its event if the call is carried out, and nothing
otherwise. -/
private theorem body_enters (hkeeps : S.Keeps w.store claims) (origin : Origin)
    (proof : Fingerprint) (action : CallAction) :
    ∃ outcome w', ((officeService m S g).body origin proof action).exec w = (outcome, w') ∧
      Enters [] [] (action.method.eventKinds outcome) w w' ∧ S.Follows w.store w'.store ∧
      ∀ answer, outcome = .ok answer → ∃ claims', S.Keeps w'.store claims' := by
  have hreads : (officeService m S g).ReadsAs claims w :=
    ClaimService.readsAs_of_keeps rfl rfl hkeeps
  cases hfailure : Lifecycle.firstFailure m.proofLimit claims (action.request origin proof) with
  | some error =>
    -- A refusal leaves everything as it is.
    exact ⟨_, w, ClaimService.exec_body_of_firstFailure hreads hfailure,
      enters_of_same rfl rfl rfl, S.follows_refl _, fun _ _ => ⟨claims, hkeeps⟩⟩
  | none =>
    -- All preconditions hold, so the claim is changed and the event deposited.
    obtain ⟨who, -, hbody⟩ := ClaimService.exec_body_of_fulfilled hreads hfailure
    obtain ⟨outcome, w₁, halter, hentered, hfollows, hkept⟩ :=
      alter_enters m S g hkeeps proof (action.ownerAfter who)
    rw [hbody]
    unfold ClaimService.change
    rw [Run.exec_bind, halter]
    cases outcome with
    -- The change failed, and no event was deposited.
    | error fault => exact ⟨.error fault, w₁, rfl, hentered, hfollows, nofun⟩
    | ok _ =>
      -- The sink records the event; depositing it cannot fail.
      have hevent : Enters [] [] [action.method.eventKind] w₁
          { w₁.noted (.deposited (action.event who proof)) with
            sink := w₁.sink.push (action.event who proof) } := by
        refine ⟨rfl, (List.append_nil _).symm, ?_⟩
        show (w₁.sink ++ [action.event who proof]).map ClaimEvent.kind = _
        rw [List.map_append]
        cases action <;> rfl
      exact ⟨.ok (.ok ()), _, rfl, hentered.trans hevent, hfollows, fun _ _ => hkept rfl⟩

/-- So does its transaction, which leaves claims in the store in any case. -/
private theorem transaction_enters (hkeeps : S.Keeps w.store claims) (origin : Origin)
    (proof : Fingerprint) (action : CallAction) :
    ∃ outcome w', ((officeService m S g).store.transaction
        ((officeService m S g).body origin proof action)).exec w = (outcome, w') ∧
      Enters [] [] (action.method.eventKinds outcome) w w' ∧
      ∃ claims', S.Keeps w'.store claims' := by
  obtain ⟨t, hopen, ht⟩ := S.open_keeps hkeeps
  obtain ⟨outcome, w₁, hbody, hentered, hfollows, hkept⟩ :=
    body_enters m S g (w := { w with store := t }) ht origin proof action
  cases outcome with
  | error fault =>
    -- A fault is passed on after the rollback.
    obtain ⟨u, htransaction, -, hu⟩ :=
      S.transaction_error World.storeCell hkeeps hopen hbody hfollows
    exact ⟨.error fault, { w₁ with store := u }, htransaction, hentered.of_stores u, claims, hu⟩
  | ok answer =>
    -- The changes are committed.
    obtain ⟨u, htransaction, -, hu⟩ := S.transaction_ok World.storeCell hkeeps hopen hbody hfollows
    obtain ⟨claims', hkeeps'⟩ := hkept answer rfl
    exact ⟨.ok answer, { w₁ with store := u }, htransaction, hentered.of_stores u, claims',
      hu claims' hkeeps'⟩

/-- Handing a call to the service counts its answer and enters its event, if there are any. -/
theorem handOver_enters (hkeeps : S.Keeps w.store claims) (origin : Origin) (call : Call) :
    ∃ outcome w', ((m.collaborators.dispatcher (S.store World.storeCell) g).handOver origin
        call).exec w = (outcome, w') ∧
      Enters (call.method.counts outcome) [] (call.method.eventKinds outcome) w w' ∧
      ∃ claims', S.Keeps w'.store claims' := by
  have hhandOver : (m.collaborators.dispatcher (S.store World.storeCell) g).handOver origin call =
      (do World.note (.handed origin call)
          (officeService m S g).carryOut origin call) := rfl
  have hnoted : Enters [] [] [] w (w.noted (.handed origin call)) := enters_of_same rfl rfl rfl
  rw [hhandOver, ClaimService.carryOut_eq]
  simp only [Run.exec_bind, World.exec_note]
  cases Hex.decode? call.proof with
  -- The text is no fingerprint, and no call is made.
  | none => exact ⟨_, _, rfl, hnoted, claims, hkeeps⟩
  | some proof =>
    obtain ⟨outcome, w₁, htransaction, hentered, hkeeps₁⟩ :=
      transaction_enters m S g (w := w.noted (.handed origin call)) hkeeps origin proof call.action
    unfold ClaimService.perform
    simp only [Run.exec_bind, htransaction]
    cases outcome with
    -- The call ended in a fault, which is not reported.
    | error fault => exact ⟨.error fault, w₁, rfl, hnoted.trans hentered, hkeeps₁⟩
    | ok answer =>
      -- The answer is reported before it is returned.
      obtain ⟨w₂, hreport, hreported, hstore⟩ :=
        exec_office_report m (S.store World.storeCell) g call.method proof answer w₁
      have hreport' : ((officeService m S g).report call.method proof answer).exec w₁ =
        (.ok (), w₂) := hreport
      simp only [hreport']
      refine ⟨.ok answer, w₂, rfl, ?_, hstore ▸ hkeeps₁⟩
      have hall := (hnoted.trans hentered).trans hreported
      simp only [List.nil_append, List.append_nil] at hall
      exact hall

end Calls

/-! ## Dispatches -/

/-- What became of a dispatch: its result, and the call that was handed to the service with its
outcome, if there was one. -/
structure Dispatched where
  result : Except Fault (Except DispatchError Unit)
  service : Option (ClaimCall × Except Fault (Except ClaimError Unit))

namespace Dispatched

variable (d : Dispatched)

/-- The verdict on the request, if the dispatch returned. -/
def verdict? : Option (Decision × Option String) :=
  match d.result with
  | .ok (.ok ()) => some (.accepted, none)
  | .ok (.error e) => some (.rejected, some e.kind)
  | .error _ => none

/-- The service was called and answered with an outcome. -/
def answered (call : ClaimCall) (outcome : String) (d : Dispatched) : Bool :=
  match d.service with
  | some (c, .ok answer) => decide (call = c ∧ outcome = outcomeName answer)
  | _ => false

/-- The dispatch returned a decision. -/
def decided (decision : Decision) (d : Dispatched) : Bool :=
  match d.verdict? with
  | some v => decide (decision = v.1)
  | none => false

/-- What is counted for the dispatch. -/
def counts : List (Utf16 × Tags) :=
  (match d.service with
    | some (call, outcome) => call.counts outcome
    | none => []) ++
  match d.verdict? with
  | some v => [(Dispatcher.callCounter, decisionTags v.1)]
  | none => []

/-- The kinds of the events of the dispatch. -/
def eventKinds : List EventKind :=
  match d.service with
  | some (call, outcome) => call.eventKinds outcome
  | none => []

end Dispatched

namespace Collaborators

variable {ε η : Type} (c : Collaborators τ ε η) (store : ClaimStore (World τ ε η))
  (g : Gate (World τ ε η))

/-- The call that dispatching a request in a world hands to the service, and how it ends. -/
def serviceCall? (r : Request) (w : World τ ε η) :
    Option (ClaimCall × Except Fault (Except ClaimError Unit)) :=
  ((c.dispatcher store g).admit? r (w.noted (.dispatched r))).map fun (e, origin, w') =>
    (e.call.method, (((c.dispatcher store g).handOver origin e.call).exec w').1)

/-- Dispatch some requests, one after the other: what became of them, and the world after that. -/
def dispatchAll (depth : Nat) (w : World τ ε η) : List Request → List Dispatched × World τ ε η
  | [] => ([], w)
  | r :: rest =>
    let ended := ((c.gate store (depth + 1)).dispatch r).exec w
    let later := dispatchAll depth ended.2 rest
    (⟨ended.1, c.serviceCall? store (c.gate store depth) r w⟩ :: later.1, later.2)

end Collaborators

/-- A dispatch has entered what it counts, its verdict and its event.  It was accepted if and only
if there is an event. -/
structure Dispatched.Entered (d : Dispatched) (S : FaithfulStore τ)
    (w w' : World τ EventLog (Books κ ρ)) : Prop where
  enters : Enters d.counts d.verdict?.toList d.eventKinds w w'
  accepted : d.eventKinds.length = if d.decided .accepted then 1 else 0
  keeps : ∃ claims, S.Keeps w'.store claims

section Dispatches

variable (m : Office κ ρ) (S : FaithfulStore τ) (g : Gate (World τ EventLog (Books κ ρ)))
  {claims : Claims} {w : World τ EventLog (Books κ ρ)}

/-- A request that is not admitted is rejected, or its dispatch ends with a fault. -/
private theorem turnedAway_enters (hkeeps : S.Keeps w.store claims) {r : Request}
    (h : (m.collaborators.dispatcher (S.store World.storeCell) g).admit? r
      (w.noted (.dispatched r)) = none) :
    let ended := ((m.collaborators.gateOver (S.store World.storeCell) g).dispatch r).exec w
    Dispatched.Entered ⟨ended.1, none⟩ S w ended.2 := by
  have hnoted : Enters [] [] [] w (w.noted (.dispatched r)) := enters_of_same rfl rfl rfl
  have hdispatch : ((m.collaborators.gateOver (S.store World.storeCell) g).dispatch r).exec w =
    (r.dispatchOn (m.collaborators.dispatcher (S.store World.storeCell) g)).exec
      (w.noted (.dispatched r)) := rfl
  rw [hdispatch]
  rcases Dispatcher.exec_dispatchOn_of_not_admitted h with
    ⟨fault, hexec⟩ | ⟨error, call, signer, hexec⟩
  · -- A check raised a fault.
    rw [hexec]
    exact ⟨hnoted, rfl, claims, hkeeps⟩
  · -- The dispatcher says no.
    obtain ⟨w', hreject, hentered, hstore⟩ :=
      exec_reject m (S.store World.storeCell) g error call signer (w.noted (.dispatched r))
    rw [hexec, hreject]
    exact ⟨hnoted.trans hentered, rfl, claims, hstore ▸ hkeeps⟩

/-- A call that is handed over is accepted if it is carried out, and rejected if it is refused. -/
private theorem carry_enters (hkeeps : S.Keeps w.store claims) (origin : Origin) (call : Call)
    (signer : Option String) :
    let dispatcher := m.collaborators.dispatcher (S.store World.storeCell) g
    let ended := (dispatcher.carry origin call signer).exec w
    Dispatched.Entered ⟨ended.1, some (call.method, ((dispatcher.handOver origin call).exec w).1)⟩
      S w ended.2 := by
  obtain ⟨outcome, w₁, hhandOver, hentered, claims', hkeeps'⟩ :=
    handOver_enters m S g hkeeps origin call
  unfold Dispatcher.carry
  simp only [Run.exec_bind, hhandOver]
  rcases outcome with fault | cause | ⟨⟩
  · -- The service raised a fault.
    exact ⟨hentered, rfl, claims', hkeeps'⟩
  · -- The service refused.
    obtain ⟨w₂, hreject, hrejected, hstore⟩ :=
      exec_reject m (S.store World.storeCell) g (.claim cause) (some call) signer w₁
    simp only [hreject]
    exact ⟨hentered.trans hrejected, rfl, claims', hstore ▸ hkeeps'⟩
  · -- The service accepted.
    obtain ⟨w₂, haccept, haccepted, hstore⟩ :=
      exec_accept m (S.store World.storeCell) g call signer w₁
    simp only [haccept]
    exact ⟨hentered.trans haccepted, rfl, claims', hstore ▸ hkeeps'⟩

/-- What happened before a dispatch entered its records does not matter if it entered nothing. -/
private theorem Dispatched.Entered.after {d : Dispatched} {w w' w'' : World τ EventLog (Books κ ρ)}
    (h : d.Entered S w' w'') (hbefore : Enters [] [] [] w w') : d.Entered S w w'' :=
  ⟨hbefore.trans h.enters, h.accepted, h.keeps⟩

/-- What one dispatch enters. -/
theorem dispatch_enters (hkeeps : S.Keeps w.store claims) (r : Request) :
    let store := S.store World.storeCell
    let ended := ((m.collaborators.gateOver store g).dispatch r).exec w
    Dispatched.Entered ⟨ended.1, m.collaborators.serviceCall? store g r w⟩ S w ended.2 := by
  intro store ended
  unfold Collaborators.serviceCall?
  cases hadmitted : (m.collaborators.dispatcher store g).admit? r (w.noted (.dispatched r)) with
  -- The service has not seen the call.
  | none => exact turnedAway_enters m S g hkeeps hadmitted
  | some admitted =>
    obtain ⟨e, origin, w'⟩ := admitted
    have hdispatch : ended =
        ((m.collaborators.dispatcher store g).carry origin e.call e.signer).exec w' :=
      Dispatcher.exec_dispatchOn_of_admitted hadmitted
    -- To be admitted spends a nonce at most, which is in none of the records.
    have hbefore : Enters [] [] [] w w' ∧ w'.store = w.store := by
      rcases Dispatcher.state_of_admitted hadmitted with rfl | ⟨who, rfl⟩ <;>
        exact ⟨enters_of_same rfl rfl rfl, rfl⟩
    rw [hdispatch]
    have hcarried := carry_enters m S g (hbefore.2.symm ▸ hkeeps) origin e.call e.signer
    exact hcarried.after S hbefore.1

/-- Some dispatches have entered what each of them enters, in order. -/
structure EnteredAll (dispatches : List Dispatched) (w w' : World τ EventLog (Books κ ρ)) :
    Prop where
  enters : Enters (dispatches.flatMap Dispatched.counts)
    (dispatches.filterMap Dispatched.verdict?) (dispatches.flatMap Dispatched.eventKinds) w w'
  accepted : ∀ d ∈ dispatches, d.eventKinds.length = if d.decided .accepted then 1 else 0

private theorem EnteredAll.cons {d : Dispatched} {later : List Dispatched}
    {w w' w'' : World τ EventLog (Books κ ρ)} (h : d.Entered S w w')
    (hlater : EnteredAll later w' w'') : EnteredAll (d :: later) w w'' := by
  have hverdicts : (d :: later).filterMap Dispatched.verdict? =
      d.verdict?.toList ++ later.filterMap Dispatched.verdict? := by
    rw [List.filterMap_cons]
    cases d.verdict? <;> rfl
  refine ⟨hverdicts ▸ h.enters.trans hlater.enters, fun d' hd' => ?_⟩
  rcases List.mem_cons.1 hd' with rfl | hd'
  · exact h.accepted
  · exact hlater.accepted d' hd'

/-- What a run of dispatches enters. -/
theorem dispatchAll_enters (depth : Nat) (hkeeps : S.Keeps w.store claims)
    (requests : List Request) :
    let run := m.collaborators.dispatchAll (S.store World.storeCell) depth w requests
    EnteredAll run.1 w run.2 := by
  induction requests generalizing w claims with
  | nil => exact ⟨enters_of_same rfl rfl rfl, fun d hd => absurd hd List.not_mem_nil⟩
  | cons r rest ih =>
    have hfirst := dispatch_enters m S (m.collaborators.gate (S.store World.storeCell) depth)
      hkeeps r
    obtain ⟨claims', hkeeps'⟩ := hfirst.keeps
    exact .cons S hfirst (ih hkeeps')

end Dispatches

/-! ## Balance -/

section Counting

variable {α β : Type}

/-- To count in lists with one item at most is to count the lists that have it. -/
private theorem countP_flatMap_of {f : α → List β} {p : β → Bool} {q : α → Bool} {l : List α}
    (h : ∀ a ∈ l, (f a).countP p = if q a then 1 else 0) :
    (l.flatMap f).countP p = l.countP q := by
  induction l with
  | nil => rfl
  | cons a rest ih =>
    rw [List.flatMap_cons, List.countP_append, ih fun b hb => h b (List.mem_cons_of_mem a hb),
      h a List.mem_cons_self, List.countP_cons, Nat.add_comm]

end Counting

namespace Dispatched

variable (d : Dispatched)

/-- What the service has counted for a dispatch is not counted under any decision. -/
private theorem countP_service (name : Utf16) (tags : Tags) :
    d.counts.countP (Metrics.countsUnder name tags) =
      (match d.service with
        | some (call, .ok answer) =>
          if name = ClaimService.callCounter ∧ tags.key = (callTags call (outcomeName answer)).key
          then 1 else 0
        | _ => 0) +
      match d.verdict? with
      | some v =>
        if name = Dispatcher.callCounter ∧ tags.key = (decisionTags v.1).key then 1 else 0
      | none => 0 := by
  unfold counts
  rw [List.countP_append]
  congr 1
  · rcases d.service with _ | ⟨call, fault | answer⟩
    · rfl
    · rfl
    · simp [ClaimCall.counts, Metrics.countsUnder, List.countP_cons]
  · cases d.verdict? with
    | none => rfl
    | some v => simp [Metrics.countsUnder, List.countP_cons]

/-- The service counts a call once, under its outcome. -/
private theorem countP_counts_answered (call : ClaimCall) (outcome : String) :
    d.counts.countP (Metrics.countsUnder ClaimService.callCounter (callTags call outcome)) =
      if d.answered call outcome then 1 else 0 := by
  have hother : ClaimService.callCounter ≠ Dispatcher.callCounter := by decide
  rw [countP_service]
  unfold answered
  rcases d.service with _ | ⟨call', fault | answer⟩ <;> cases d.verdict? <;>
    simp [hother, key_callTags_inj]

/-- The dispatcher counts a call once, under its decision. -/
private theorem countP_counts_decided (decision : Decision) :
    d.counts.countP (Metrics.countsUnder Dispatcher.callCounter (decisionTags decision)) =
      if d.decided decision then 1 else 0 := by
  have hother : Dispatcher.callCounter ≠ ClaimService.callCounter := by decide
  rw [countP_service]
  unfold decided
  rcases d.service with _ | ⟨call', fault | answer⟩ <;> cases d.verdict? <;>
    simp [hother, key_decisionTags_inj]

/-- A call has an event if it is carried out. -/
private theorem countP_eventKinds (call : ClaimCall) :
    (d.eventKinds.countP fun kind => kind = call.eventKind) =
      if d.answered call "ok" then 1 else 0 := by
  unfold eventKinds answered
  rcases d.service with _ | ⟨call', fault | error | ⟨⟩⟩
  · rfl
  · rfl
  · -- No error has the name of a success.
    have hname : "ok" ≠ error.kind := by cases error <;> simp [ClaimError.kind]
    simp [ClaimCall.eventKinds, outcomeName, hname]
  · cases call <;> cases call' <;> rfl

private theorem countP_verdict (decision : Decision) :
    (d.verdict?.toList.countP fun v => v.1 = decision) =
      if d.decided decision then 1 else 0 := by
  unfold decided
  cases d.verdict? with
  | none => rfl
  | some v => simp [List.countP_cons, eq_comm]

end Dispatched

/-- The records agree with each other and with what became of the dispatches. -/
structure Balanced (dispatches : List Dispatched) (w : World τ EventLog (Books κ ρ)) : Prop where
  /-- The service has counted each call under the outcome that it answered. -/
  calls : ∀ call outcome,
    w.others.metrics.total ClaimService.callCounter (some (callTags call outcome)) =
      counted (dispatches.countP (Dispatched.answered call outcome))
  /-- There are as many events as calls that were carried out, and the counters show that. -/
  events : ∀ call : ClaimCall,
    dispatches.countP (Dispatched.answered call "ok") = (w.sink.ofKind call.eventKind).length ∧
    w.others.metrics.total ClaimService.callCounter (some (callTags call "ok")) =
      counted (w.sink.ofKind call.eventKind).length
  /-- The dispatcher has counted the entries of the audit log. -/
  decisions : ∀ decision,
    w.others.metrics.total Dispatcher.callCounter (some (decisionTags decision)) =
      counted (w.audit.ofDecision decision).length
  /-- The entries of the audit log are those of the dispatches that returned, in order. -/
  audit : w.audit.map AuditEntry.verdict = dispatches.filterMap Dispatched.verdict?
  accepted : (w.audit.ofDecision .accepted).length = w.sink.length

/-- If some dispatches have entered what they enter in records that were empty, the records are
balanced. -/
private theorem EnteredAll.balanced {dispatches : List Dispatched}
    {w w' : World τ EventLog (Books κ ρ)} (h : EnteredAll dispatches w w')
    (hmetrics : w.others.metrics.counters = .empty) (haudit : w.audit = []) (hsink : w.sink = []) :
    Balanced dispatches w' := by
  have hcounter (name : Utf16) (tags : Tags) : w'.others.metrics.total name (some tags) =
      counted ((dispatches.flatMap Dispatched.counts).countP (Metrics.countsUnder name tags)) := by
    have hzero : w.others.metrics.total name (some tags) = counted 0 := by
      rw [Metrics.total, hmetrics]
      rfl
    rw [h.enters.metrics, Metrics.total_recordAll _ hzero, Nat.zero_add]
  have hverdicts : w'.audit.map AuditEntry.verdict = dispatches.filterMap Dispatched.verdict? := by
    rw [h.enters.audit, haudit]
    rfl
  have hkinds : w'.sink.map ClaimEvent.kind = dispatches.flatMap Dispatched.eventKinds := by
    rw [h.enters.events, hsink]
    rfl
  -- Every record is a count over the dispatches, so the identities hold one dispatch at a time.
  have hcalls (call : ClaimCall) (outcome : String) :
      w'.others.metrics.total ClaimService.callCounter (some (callTags call outcome)) =
        counted (dispatches.countP (Dispatched.answered call outcome)) := by
    rw [hcounter, countP_flatMap_of fun d _ => d.countP_counts_answered call outcome]
  have hevents (call : ClaimCall) :
      dispatches.countP (Dispatched.answered call "ok") =
        (w'.sink.ofKind call.eventKind).length := by
    rw [← countP_flatMap_of fun d _ => d.countP_eventKinds call, ← hkinds, List.countP_map,
      List.countP_eq_length_filter]
    rfl
  have hdecided (decision : Decision) :
      (w'.audit.ofDecision decision).length = dispatches.countP (Dispatched.decided decision) := by
    rw [← countP_flatMap_of fun d _ => d.countP_verdict decision,
      ← List.filterMap_eq_flatMap_toList, ← hverdicts, List.countP_map,
      List.countP_eq_length_filter]
    rfl
  refine ⟨hcalls, fun call => ⟨hevents call, ?_⟩, fun decision => ?_, hverdicts, ?_⟩
  · rw [hcalls, hevents]
  · rw [hcounter, countP_flatMap_of fun d _ => d.countP_counts_decided decision, hdecided]
  · -- A dispatch is accepted if it has an event, and there is one at most.
    rw [hdecided, ← countP_flatMap_of fun d hd => by
      rw [List.countP_true]; exact h.accepted d hd, List.countP_true, ← hkinds, List.length_map]

/-- The second one of two equal requests is stale, and only the first one has an event. -/
example :
    let m : Office Unit Unit :=
      { tick := fun _ => (.ok 0, ())
        told := fun _ _ _ _ _ => ()
        logged := fun _ _ _ _ => ()
        proofLimit := 10
        verify := fun _ _ _ => .ok true }
    let e := Envelope.claiming "O2onvM62pC1io6jQKm8Nc2UyFXcd4kOmOsBIoYtZ2ik" 0
    let run := m.collaborators.dispatchAll (UndoStore.store World.storeCell) 0
      (.fresh (.ofClaims .empty) [] [] ⟨.empty, ()⟩) [.data e.toJson, .data e.toJson]
    run.1.map Dispatched.verdict? =
        [some (.accepted, none), some (.rejected, some "StaleNonce")] ∧
      run.2.sink.length = 1 ∧
      run.2.others.metrics.total ClaimService.callCounter (some (callTags .create "ok")) = 1 := by
  decide +kernel

end ProofOfExistence
