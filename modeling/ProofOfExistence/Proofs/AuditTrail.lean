import ProofOfExistence.Metrics
import ProofOfExistence.Proofs.OwnershipSteps
import ProofOfExistence.Proofs.SettledCalls
import ProofOfExistence.Proofs.UsableNonces

/-!
# The audit log tells which calls have committed

The dispatcher makes one entry in the audit log for each request.  Collaborators may dispatch
requests of their own at any time, and these make entries, too.  `Gains` keeps the two kinds apart:
the entries that some dispatches make themselves, and one more at most for each other dispatch in
between.

The entry of a call that has committed comes after the report of the service.  When that report
fails, the dispatch ends with its fault and makes no entry.  Reports of the dispatcher come after
the entry, so it does not matter whether they fail.

## Key results

- `dispatch_audits`: what one dispatch adds to the audit log
- `run_gains`: the accepted entries of a run are those of the calls that have committed
- `completes_reportCommit`: commits can be reported if no adapter fails on the counter of the
  service
- `commits_audited`: both, for every store and all collaborators
-/

namespace ProofOfExistence

variable {τ ε η : Type}

/-! ## What the audit log gains -/

/-- Whether a request was dispatched. -/
def Entry.isDispatched : Entry → Bool
  | dispatched _ => true
  | _ => false

/-- The number of requests that were dispatched. -/
def World.dispatches (w : World τ ε η) : Nat := w.trace.countP Entry.isDispatched

/-- The audit log has gained the entries `own` of a number of dispatches, in order, and among them
at most one entry for each other dispatch. -/
def Gains (own : List AuditEntry) (dispatches : Nat) (w w' : World τ ε η) : Prop :=
  ∃ gained, w'.audit = w.audit ++ gained ∧ own.Sublist gained ∧
    gained.length + dispatches + w.dispatches ≤ own.length + w'.dispatches

section Gains

variable {w w' w'' : World τ ε η} {own own' : List AuditEntry} {m n : Nat}

theorem Gains.trans (h : Gains own m w w') (h' : Gains own' n w' w'') :
    Gains (own ++ own') (m + n) w w'' := by
  obtain ⟨gained, haudit, hsublist, hlength⟩ := h
  obtain ⟨gained', haudit', hsublist', hlength'⟩ := h'
  refine ⟨gained ++ gained', ?_, hsublist.append hsublist', ?_⟩
  · rw [haudit', haudit, List.append_assoc]
  · simp only [List.length_append]
    omega

/-- What others dispatch before changes nothing about the own entries. -/
theorem Gains.after_others (h : Gains [] 0 w w') (h' : Gains own n w' w'') : Gains own n w w'' := by
  have hgains := h.trans h'
  rwa [List.nil_append, Nat.zero_add] at hgains

/-- A dispatch with at most one entry is like any other one. -/
theorem Gains.forget (h : Gains own 1 w w') (hown : own.length ≤ 1) : Gains [] 0 w w' := by
  obtain ⟨gained, haudit, -, hlength⟩ := h
  refine ⟨gained, haudit, List.nil_sublist gained, ?_⟩
  simp only [List.length_nil]
  omega

/-- If there were no other dispatches, there are no other entries. -/
theorem Gains.audit_eq (h : Gains own n w w') (hothers : w'.dispatches = w.dispatches + n) :
    w'.audit = w.audit ++ own := by
  obtain ⟨gained, haudit, hsublist, hlength⟩ := h
  -- Then no more was gained than `own`, which is a part of it.
  have hown : own = gained := hsublist.eq_of_length_le (by omega)
  rw [haudit, hown]

theorem gains_of_same (haudit : w'.audit = w.audit) (htrace : w'.trace = w.trace) :
    Gains [] 0 w w' := by
  refine ⟨[], by rw [haudit, List.append_nil], List.nil_sublist [], ?_⟩
  unfold World.dispatches
  rw [htrace]
  exact Nat.le_refl _

instance : IsPreorder (World τ ε η) (Gains [] 0) where
  refl _ := gains_of_same rfl rfl
  trans _ _ _ h h' := h.trans h'

theorem gains_dispatched (w : World τ ε η) (r : Request) :
    Gains [] 1 w (w.noted (.dispatched r)) := by
  refine ⟨[], (List.append_nil _).symm, List.nil_sublist [], ?_⟩
  have hcount : (w.noted (.dispatched r)).dispatches = w.dispatches + 1 := List.countP_append
  simp only [List.length_nil]
  omega

/-- To note anything else is no dispatch. -/
theorem gains_noted (w : World τ ε η) {e : Entry} (h : e.isDispatched = false) :
    Gains [] 0 w (w.noted e) := by
  refine ⟨[], (List.append_nil _).symm, List.nil_sublist [], ?_⟩
  have hcount : (w.noted e).dispatches = w.dispatches := by
    unfold World.dispatches World.noted
    rw [List.countP_append, List.countP_singleton, h]
    rfl
  rw [hcount]
  exact Nat.le_refl _

theorem gains_entry (w : World τ ε η) (entry : AuditEntry) :
    Gains [entry] 0 w { w with audit := w.audit ++ [entry] } := by
  refine ⟨[entry], rfl, .refl _, ?_⟩
  show 1 + 0 + w.dispatches ≤ 1 + w.dispatches
  omega

end Gains

/-! ## What a dispatch adds -/

/-- A dispatch has made an entry for a rejected call, or none. -/
def GainsRejection (w w' : World τ ε η) : Prop :=
  Gains [] 1 w w' ∨ ∃ entry : AuditEntry, entry.decision = .rejected ∧ Gains [entry] 1 w w'

/-- The entry for an envelope whose call is accepted. -/
def Envelope.acceptedEntry (e : Envelope) : AuditEntry :=
  ⟨.accepted, some e.call.method, e.signer, some e.call.proof, none⟩

namespace Collaborators

variable (c : Collaborators τ ε η) (store : ClaimStore (World τ ε η)) (g : Gate (World τ ε η))

/-- What dispatching a request in a world adds to the audit log. -/
structure Audits (r : Request) (w : World τ ε η) : Prop where
  /-- A call that has committed gets its entry once the service has reported the commit. -/
  committed : ∀ t w', c.settle? store g r w = some t → t.Committed →
    (c.reportCommit store g t).exec t.world = (.ok (), w') →
    Gains [t.envelope.acceptedEntry] 1 w (((c.gateOver store g).dispatch r).exec w).2
  /-- A commit that the service fails to report gets none, and the fault goes on to the caller. -/
  unreported : ∀ t fault w', c.settle? store g r w = some t → t.Committed →
    (c.reportCommit store g t).exec t.world = (.error fault, w') →
    ((c.gateOver store g).dispatch r).exec w = (.error fault, w') ∧ Gains [] 1 w w'
  /-- Without a commit there is at most an entry for a rejected call. -/
  uncommitted : (∀ t, c.settle? store g r w = some t → ¬ t.Committed) →
    GainsRejection w (((c.gateOver store g).dispatch r).exec w).2

end Collaborators

section Gate

variable (ops : StoreOps τ) (c : Collaborators τ ε η) {g : Gate (World τ ε η)}

private theorem gains_admitted {r : Request} {w w' : World τ ε η} {e : Envelope} {origin : Origin}
    (h : (c.dispatcher (ops.store World.storeCell) g).admit? r (w.noted (.dispatched r)) =
      some (e, origin, w')) : Gains [] 1 w (w'.noted (.handed origin e.call)) := by
  -- Admission writes nothing but the nonce that it spends.
  have hadmission : Gains [] 0 (w.noted (.dispatched r)) w' := by
    rcases Dispatcher.state_of_admitted h with rfl | ⟨who, rfl⟩
    · exact Std.Refl.refl _
    · exact gains_of_same rfl rfl
  exact ((gains_dispatched w r).trans hadmission).trans (gains_noted w' rfl)

variable (hg : g.Respects (Gains [] 0))
include hg

private theorem gains_client {α : Type} (client : Client τ ε η α) :
    Run.Respects (Gains [] 0) (client.run g) :=
  Client.respects_run hg (fun _ _ _ => gains_of_same rfl rfl) client

private theorem gains_service :
    (c.service (ops.store World.storeCell) g).Respects (Gains [] 0) :=
  Collaborators.respects_service hg (fun _ _ _ => gains_of_same rfl rfl)
    (fun _ _ => gains_of_same rfl rfl) fun w _ => gains_noted w rfl

/-- The reports of the service make no entry, whether they fail or not. -/
private theorem gains_report {call : ClaimCall} {proof : Fingerprint}
    {answer : Except ClaimError Unit} {w w' : World τ ε η} {ended : Except Fault Unit}
    (h : ((c.service (ops.store World.storeCell) g).report call proof answer).exec w =
      (ended, w')) : Gains [] 0 w w' := by
  have hservice := gains_service ops c hg
  have hrespects := ClaimService.respects_report hservice.count hservice.log call proof answer w
  rwa [h] at hrespects

/-- A rejection makes one entry. -/
private theorem gains_reject (error : DispatchError) (call : Option Call) (signer : Option String)
    (w : World τ ε η) : ∃ entry : AuditEntry, entry.decision = .rejected ∧ Gains [entry] 0 w
      (((c.dispatcher (ops.store World.storeCell) g).reject error call signer).exec w).2 := by
  refine ⟨⟨.rejected, call.map Call.method, signer, call.map Call.proof, some error.kind⟩, rfl, ?_⟩
  -- The entry is made first, so it stays when the reports fail.
  have hreports : Run.Respects (Gains [] 0) (do
      (c.dispatcher (ops.store World.storeCell) g).count Dispatcher.callCounter
        [("outcome", "rejected")]
      (c.dispatcher (ops.store World.storeCell) g).log .warn "Call rejected"
        [("method", .ofString? (call.map fun c => c.method.name)), ("signer", .ofString? signer),
          ("error", .ofString error.kind)]
      return (.error error : Except DispatchError Unit)) :=
    Run.respects_bind (gains_client hg _) fun _ =>
      Run.respects_bind (gains_client hg _) fun _ => Run.respects_pure _ _
  exact (gains_entry w _).trans (hreports _)

/-- So does the acceptance of a call. -/
private theorem gains_accept (call : Call) (signer : Option String) (w : World τ ε η) :
    Gains [⟨.accepted, some call.method, signer, some call.proof, none⟩] 0 w
      (((c.dispatcher (ops.store World.storeCell) g).accept call signer).exec w).2 := by
  have hreports : Run.Respects (Gains [] 0) (do
      (c.dispatcher (ops.store World.storeCell) g).count Dispatcher.callCounter
        [("outcome", "accepted")]
      return (.ok () : Except DispatchError Unit)) :=
    Run.respects_bind (gains_client hg _) fun _ => Run.respects_pure _ _
  exact (gains_entry w _).trans (hreports _)

/-- The transaction of a call makes no entry. -/
private theorem gains_settled {r : Request} {w : World τ ε η} {t : Settlement τ ε η}
    (h : c.settle? (ops.store World.storeCell) g r w = some t) : Gains [] 1 w t.world := by
  unfold Collaborators.settle? at h
  split at h
  · cases h
  · rename_i e origin w' hadmitted
    obtain ⟨proof, -, rfl⟩ := Option.map_eq_some_iff.1 h
    have hservice := gains_service ops c hg
    have hbody := ClaimService.respects_body hservice origin proof e.call.action
    exact (gains_admitted ops c hadmitted).trans (hservice.transaction _ hbody _)

private theorem gains_unsettled {r : Request} {w : World τ ε η}
    (h : c.settle? (ops.store World.storeCell) g r w = none) :
    GainsRejection w (((c.gateOver (ops.store World.storeCell) g).dispatch r).exec w).2 := by
  have hnoted := gains_dispatched w r
  rcases Collaborators.exec_dispatch_of_unsettled h with
    ⟨error, call, signer, hexec⟩ | ⟨fault, hexec⟩ | ⟨e, origin, w', fault, hadmitted, hexec⟩
  · obtain ⟨entry, hrejected, hentry⟩ := gains_reject ops c hg error call signer
      (w.noted (.dispatched r))
    rw [hexec]
    exact .inr ⟨entry, hrejected, hnoted.trans hentry⟩
  · rw [hexec]
    exact .inl hnoted
  · rw [hexec]
    exact .inl (gains_admitted ops c hadmitted)

/-- After a transaction without a commit, the call is rejected or a fault goes on. -/
private theorem gains_finish {w : World τ ε η} {t : Settlement τ ε η}
    (hsettled : Gains [] 1 w t.world) (h : ¬ t.Committed) :
    GainsRejection w ((c.finish (ops.store World.storeCell) g t).exec t.world).2 := by
  unfold Collaborators.finish
  rw [Run.exec_bind, Run.exec_ofExcept]
  cases houtcome : t.outcome with
  -- Without an answer there is no entry.
  | error fault => exact .inl hsettled
  | ok answer =>
    cases answer with
    | ok _ => exact absurd houtcome h
    | error cause =>
      -- The report of a refusal may fail as well, and then there is no entry.
      simp only [Run.exec_bind]
      rcases hreport : ((c.service (ops.store World.storeCell) g).report t.envelope.call.method
        t.proof (.error cause)).exec t.world with ⟨ended, w'⟩
      have hreported : Gains [] 0 t.world w' := gains_report ops c hg hreport
      cases ended with
      | error fault => exact .inl (hsettled.trans hreported)
      | ok _ =>
        obtain ⟨entry, hrejected, hentry⟩ := gains_reject ops c hg (.claim cause)
          (some t.envelope.call) t.envelope.signer w'
        exact .inr ⟨entry, hrejected, (hsettled.trans hreported).trans hentry⟩

/-- What one dispatch adds to the audit log. -/
theorem dispatch_audits (r : Request) (w : World τ ε η) :
    c.Audits (ops.store World.storeCell) g r w where
  committed t w' hsettle hcommitted hreport := by
    have hsettled := gains_settled ops c hg hsettle
    have hreported : Gains [] 0 t.world w' := gains_report ops c hg hreport
    have haccepted := gains_accept ops c hg t.envelope.call t.envelope.signer w'
    rw [Collaborators.exec_dispatch_of_settle? hsettle,
      Collaborators.exec_finish_of_committed hcommitted, hreport]
    exact (hsettled.trans hreported).trans haccepted
  unreported t fault w' hsettle hcommitted hreport := by
    have hsettled := gains_settled ops c hg hsettle
    have hreported : Gains [] 0 t.world w' := gains_report ops c hg hreport
    rw [Collaborators.exec_dispatch_of_settle? hsettle,
      Collaborators.exec_finish_of_committed hcommitted, hreport]
    exact ⟨rfl, hsettled.trans hreported⟩
  uncommitted huncommitted := by
    -- The dispatch ends before the service is done.
    cases hsettle : c.settle? (ops.store World.storeCell) g r w with
    | none => exact gains_unsettled ops c hg hsettle
    | some t =>
      rw [Collaborators.exec_dispatch_of_settle? hsettle]
      exact gains_finish ops c hg (gains_settled ops c hg hsettle) (huncommitted t hsettle)

end Gate

/-! ## Runs -/

namespace Collaborators

variable (c : Collaborators τ ε η) (store : ClaimStore (World τ ε η)) (g : Gate (World τ ε η))

/-- The accepted entry that dispatching a request in a world has to make, if its call commits. -/
def due (r : Request) (w : World τ ε η) : List AuditEntry :=
  match c.settle? store g r w with
  | some ⟨e, _, .ok (.ok ()), _⟩ => [e.acceptedEntry]
  | _ => []

variable {c store g} {r : Request} {w : World τ ε η}

theorem due_of_committed {t : Settlement τ ε η} (h : c.settle? store g r w = some t)
    (ht : t.Committed) : c.due store g r w = [t.envelope.acceptedEntry] := by
  obtain ⟨e, proof, outcome, w'⟩ := t
  obtain rfl : outcome = .ok (.ok ()) := ht
  unfold due
  rw [h]

theorem due_of_uncommitted (h : ∀ t, c.settle? store g r w = some t → ¬ t.Committed) :
    c.due store g r w = [] := by
  unfold due
  split
  · rename_i hsettle
    exact absurd rfl (h _ hsettle)
  · rfl

/-- A dispatch makes at most one entry, and if the service can report commits, an accepted one
exactly when it is due. -/
theorem Audits.exists_own (h : c.Audits store g r w) :
    ∃ own, own.length ≤ 1 ∧ Gains own 1 w (((c.gateOver store g).dispatch r).exec w).2 ∧
      ((∀ t, Run.Completes (c.reportCommit store g t)) →
        AuditLog.ofDecision own .accepted = c.due store g r w) := by
  -- The cases are those of `Audits`: a commit that is reported or not, and no commit.
  by_cases hcommitted : ∃ t, c.settle? store g r w = some t ∧ t.Committed
  · obtain ⟨t, hsettle, ht⟩ := hcommitted
    rcases hreport : (c.reportCommit store g t).exec t.world with ⟨fault | _, w'⟩
    · -- The report fails, so the dispatch has nothing of its own in the log.
      obtain ⟨hexec, hgains⟩ := h.unreported t fault w' hsettle ht hreport
      refine ⟨[], Nat.zero_le 1, by rwa [hexec], fun hcompletes => ?_⟩
      obtain ⟨_, _, hreported⟩ := hcompletes t t.world
      cases hreport.symm.trans hreported
    · -- The report is made, so the entry of the accepted call follows.
      refine ⟨[t.envelope.acceptedEntry], Nat.le_refl 1, h.committed t w' hsettle ht hreport,
        fun _ => ?_⟩
      rw [due_of_committed hsettle ht]
      rfl
  · -- Without a commit, what the dispatch adds is an entry for a rejection at most.
    have huncommitted : ∀ t, c.settle? store g r w = some t → ¬ t.Committed :=
      fun t hsettle ht => hcommitted ⟨t, hsettle, ht⟩
    rcases h.uncommitted huncommitted with hgains | ⟨entry, hrejected, hgains⟩
    · exact ⟨[], Nat.zero_le 1, hgains, fun _ => (due_of_uncommitted huncommitted).symm⟩
    · refine ⟨[entry], Nat.le_refl 1, hgains, fun _ => ?_⟩
      rw [due_of_uncommitted huncommitted]
      refine List.filter_eq_nil_iff.2 fun other hother => ?_
      rw [List.mem_singleton.1 hother, hrejected]
      decide

end Collaborators

/-- Calls of every depth make at most one entry for each dispatch. -/
theorem gate_gains (ops : StoreOps τ) (c : Collaborators τ ε η) (depth : Nat) :
    (c.gate (ops.store World.storeCell) depth).Respects (Gains [] 0) := by
  refine Collaborators.respects_gate (fun g hg => ⟨fun r w => ?_, fun signer w => ?_⟩) depth
  · obtain ⟨own, hlength, hgains, -⟩ := (dispatch_audits ops c hg r w).exists_own
    -- What a collaborator dispatches is no dispatch of the run.
    exact hgains.forget hlength
  · exact gains_noted w rfl

/-- Whether a move dispatches a request. -/
def Move.isDispatch : Move ε η → Bool
  | dispatch _ => true
  | _ => false

/-- The accepted entries that the moves of a run have to make, in order. -/
def Collaborators.dues (c : Collaborators τ ε η) (store : ClaimStore (World τ ε η)) (depth : Nat)
    (w : World τ ε η) : List (Move ε η) → List AuditEntry
  | [] => []
  | .dispatch r :: rest =>
    c.due store (c.gate store depth) r w ++
      dues c store depth ((c.gate store (depth + 1)).play w (.dispatch r)) rest
  | move :: rest => dues c store depth ((c.gate store (depth + 1)).play w move) rest

/-- If the service can report commits, the accepted entries of a run are those that are due. -/
theorem run_gains (ops : StoreOps τ) (c : Collaborators τ ε η) (depth : Nat)
    (hreports : ∀ t, Run.Completes
      (c.reportCommit (ops.store World.storeCell) (c.gate (ops.store World.storeCell) depth) t))
    (w : World τ ε η) (moves : List (Move ε η)) :
    ∃ own, AuditLog.ofDecision own .accepted = c.dues (ops.store World.storeCell) depth w moves ∧
      Gains own (moves.countP Move.isDispatch) w
        ((c.gate (ops.store World.storeCell) (depth + 1)).run w moves) := by
  induction moves generalizing w with
  -- Without moves there are no entries, and none are due.
  | nil => exact ⟨[], rfl, gains_of_same rfl rfl⟩
  | cons move rest ih =>
    obtain ⟨later, hdues, hlater⟩ :=
      ih ((c.gate (ops.store World.storeCell) (depth + 1)).play w move)
    cases move with
    | dispatch r =>
      have haudits := dispatch_audits ops c (gate_gains ops c depth) r w
      -- The accepted entries of the rest follow those of this dispatch.
      obtain ⟨own, -, hgains, haccepted⟩ := haudits.exists_own
      have hcount : (.dispatch r :: rest).countP Move.isDispatch =
          1 + rest.countP Move.isDispatch := by
        rw [List.countP_cons_of_pos rfl, Nat.add_comm]
      refine ⟨own ++ later, ?_, hcount ▸ hgains.trans hlater⟩
      show List.filter _ (own ++ later) = _ ++ _
      rw [List.filter_append, ← haccepted hreports, ← hdues]
      rfl
    | nextNonce signer =>
      -- To ask for a nonce makes no entry, and it is no dispatch.
      have htold : Gains [] 0 w
          ((c.gate (ops.store World.storeCell) (depth + 1)).play w (.nextNonce signer)) :=
        gains_noted w rfl
      rw [List.countP_cons_of_neg Bool.false_ne_true]
      exact ⟨later, hdues, htold.after_others hlater⟩
    | adjust sink others =>
      -- Nor does a change of the surroundings.
      have hadjusted : Gains [] 0 w
          ((c.gate (ops.store World.storeCell) (depth + 1)).play w (.adjust sink others)) :=
        gains_of_same rfl rfl
      rw [List.countP_cons_of_neg Bool.false_ne_true]
      exact ⟨later, hdues, hadjusted.after_others hlater⟩

/-! ## Metrics with adapters -/

namespace Metrics

variable {σ κ : Type} {notify : Notify σ κ} {name : Utf16} {tags : Option Tags} {amount : Number}

/-- Adapters are told of a count without a fault if none of them raises one. -/
theorem completes_tell (h : ∀ a, Run.Completes (notify a name amount tags)) (adapters : List κ) :
    Run.Completes (tell notify name tags amount adapters) := by
  induction adapters with
  | nil => exact fun w => ⟨(), w, rfl⟩
  | cons a rest ih => exact Run.completes_bind (h a) fun _ => ih

theorem completes_count (cell : Cell σ (Metrics κ))
    (h : ∀ a, Run.Completes (notify a name amount tags)) :
    Run.Completes (count cell notify name tags amount) := by
  refine Run.completes_bind (fun w => ⟨(), _, Cell.exec_modify _ _ w⟩) fun _ => ?_
  refine Run.completes_bind (fun w => ⟨_, w, Cell.exec_read _ w⟩) fun m => ?_
  exact completes_tell h m.adapters

end Metrics

/-- A quiet client does what it does to what it keeps. -/
theorem Client.exec_quiet {α : Type} (f : η → Except Fault α × η) (g : Gate (World τ ε η))
    (w : World τ ε η) :
    ((Client.quiet f).run g).exec w = ((f w.others).1, { w with others := (f w.others).2 }) :=
  rfl

/-- Reporters that count in metrics, which are kept for them, and tell the adapters. -/
def Reporters.metered {κ : Type} (notify : Metrics.Notify (Metrics κ) κ) :
    Reporters τ ε (Metrics κ) where
  count name tags :=
    .quiet fun metrics => (Metrics.count ⟨id, fun m _ => m⟩ notify name (some tags) 1).exec metrics
  log _ _ _ := .done (.ok ())

/-- The service can report commits if no adapter fails on its counter. -/
theorem completes_reportCommit {κ : Type} {notify : Metrics.Notify (Metrics κ) κ}
    {c : Collaborators τ ε (Metrics κ)} (hc : c.serviceReporters = .metered notify)
    (h : ∀ a tags, Run.Completes (notify a ClaimService.callCounter 1 tags))
    (store : ClaimStore (World τ ε (Metrics κ))) (g : Gate (World τ ε (Metrics κ)))
    (t : Settlement τ ε (Metrics κ)) : Run.Completes (c.reportCommit store g t) := by
  have hcount (tags : Tags) :
      Run.Completes ((c.service store g).count ClaimService.callCounter tags) := by
    intro w
    -- The reporters work on the metrics that they keep, whatever the rest of the world is.
    obtain ⟨_, metrics, hexec⟩ := Metrics.completes_count ⟨id, fun m _ => m⟩
      (fun a => h a (some tags)) w.others
    show ∃ a w', ((c.serviceReporters.count _ tags).run g).exec w = (.ok a, w')
    rw [hc]
    refine ⟨(), { w with others := metrics }, ?_⟩
    have hquiet : (((Reporters.metered (τ := τ) (ε := ε) notify).count
        ClaimService.callCounter tags).run g).exec w = _ := Client.exec_quiet _ g w
    rw [hquiet, hexec]
  have hlog (level : LogLevel) (text : String) (context : LogContext) :
      Run.Completes ((c.service store g).log level text context) := by
    intro w
    show ∃ a w', ((c.serviceReporters.log level text context).run g).exec w = (.ok a, w')
    rw [hc]
    exact ⟨(), w, rfl⟩
  exact Run.completes_bind (hcount _) fun _ => hlog _ _ _

/-- On every store, with collaborators that may fail and call back at any time, wherever a request
is dispatched: if its call commits and the service can report that, the dispatch makes one entry,
for the call that is accepted, whether it returns or ends with a fault; if the service cannot report
the commit, it makes none; and without a commit it makes no accepted entry.  So if the service can
always report commits, the accepted entries that the dispatches of a run make are those of the calls
that commit, in order, and they are all entries unless collaborators dispatch requests, too. -/
theorem commits_audited (ops : StoreOps τ) (c : Collaborators τ ε η) (depth : Nat) :
    let store := ops.store World.storeCell
    (∀ r w, c.Audits store (c.gate store depth) r w) ∧
      ((∀ t, Run.Completes (c.reportCommit store (c.gate store depth) t)) →
        ∀ (w : World τ ε η) (moves : List (Move ε η)),
          let after := (c.gate store (depth + 1)).run w moves
          let dispatches := moves.countP Move.isDispatch
          ∃ own, AuditLog.ofDecision own .accepted = c.dues store depth w moves ∧
            Gains own dispatches w after ∧
            (after.dispatches = w.dispatches + dispatches → after.audit = w.audit ++ own)) := by
  intro store
  refine ⟨dispatch_audits ops c (gate_gains ops c depth), fun hreports w moves => ?_⟩
  obtain ⟨own, hdues, hgains⟩ := run_gains ops c depth hreports w moves
  exact ⟨own, hdues, hgains, hgains.audit_eq⟩

/-- An adapter that fails when it is told of one counter. -/
def Metrics.failingOn (counter : Utf16) : Metrics.Notify (Metrics Unit) Unit :=
  fun _ name _ _ => if name = counter then throw (.raised "adapter failed") else return ()

/-- An adapter that fails on the dispatcher's counter makes a dispatch fail, but not its entry. -/
theorem commits_audited_failing_adapter :
    let c : Collaborators UndoStore Unit (Metrics Unit) :=
      { Collaborators.trusting with
        serviceReporters := .metered (Metrics.failingOn Dispatcher.callCounter)
        dispatcherReporters := .metered (Metrics.failingOn Dispatcher.callCounter) }
    let gate := c.gate (UndoStore.transactional.store World.storeCell) 1
    let w := World.fresh .empty [] () (Metrics.empty.register ())
    let e := Envelope.claiming "O2onvM62pC1io6jQKm8Nc2UyFXcd4kOmOsBIoYtZ2ik" 0
    let answered := (gate.dispatch (.data e.toJson)).exec w
    answered.1.isOk = false ∧ answered.2.audit.ofDecision .accepted = [e.acceptedEntry] := by
  intro c gate w e answered
  refine ⟨by decide +kernel, ?_⟩
  -- The service counts under another name, so its report of the commit succeeds.
  have hadapter : ∀ a tags, Run.Completes
      (Metrics.failingOn Dispatcher.callCounter a ClaimService.callCounter 1 tags) :=
    fun _ _ metrics => ⟨(), metrics, rfl⟩
  obtain ⟨own, hown, -, hlog⟩ := (commits_audited UndoStore.transactional.toStoreOps c 0).2
    (completes_reportCommit rfl hadapter _ _) w [.dispatch (.data e.toJson)]
  have haudit : answered.2.audit = [] ++ own := hlog (by decide +kernel)
  have hdues : c.dues (UndoStore.transactional.store World.storeCell) 0 w
      [.dispatch (.data e.toJson)] = [e.acceptedEntry] := by decide +kernel
  rw [haudit, List.nil_append, hown, hdues]

/-- An adapter that fails on the service's counter makes a dispatch fail after its call has
committed, and there is no entry for it. -/
theorem commit_not_audited :
    let c : Collaborators UndoStore Unit (Metrics Unit) :=
      { Collaborators.trusting with
        serviceReporters := .metered (Metrics.failingOn ClaimService.callCounter)
        dispatcherReporters := .metered (Metrics.failingOn ClaimService.callCounter) }
    let store := UndoStore.transactional.store World.storeCell
    let w := World.fresh .empty [] () (Metrics.empty.register ())
    let e := Envelope.claiming "O2onvM62pC1io6jQKm8Nc2UyFXcd4kOmOsBIoYtZ2ik" 0
    let answered := ((c.gate store 1).dispatch (.data e.toJson)).exec w
    c.due store (c.gate store 0) (.data e.toJson) w = [e.acceptedEntry] ∧
      answered.2.store.contains [7] = true ∧ answered.1.isOk = false ∧ answered.2.audit = [] := by
  decide +kernel

end ProofOfExistence
