import ProofOfExistence.Proofs.ServiceRuns

/-!
# Calls that fail change nothing

A call of the service fails if its clock, its sink or its store raises a fault.  Whatever they did
to the store before, the transaction of the call takes it back.  The fault is the last thing that
happens, it goes on to the caller, and the call is neither counted nor logged.

`Passes` relates the settings before and after a computation that is a part of a call at some level:
its transactions are closed again and all reports in between are those of calls within that call.

## Key results

- `passes_run`: a program passes
- `keeps_of_transaction_error`: a transaction that fails gives back the claims that it found
- `serve_error`: what a call that fails leaves
- `failed_calls_change_nothing`: both stores, alone and in an enclosing transaction
-/

namespace ProofOfExistence

variable {τ κ α β : Type}

/-! ## Parts of a call -/

section Passes

variable (S : FaithfulStore τ) (level : Nat)

/-- The store follows and still keeps claims, and only calls below a level reported anything. -/
structure Passage (w w' : Setting τ κ) : Prop where
  follows : S.Follows w.store w'.store
  keeps : ∃ claims, S.Keeps w'.store claims
  trace : ∃ new, w'.trace = w.trace ++ new ∧ ∀ o ∈ new, Occurrence.ReportsBelow level o

/-- There is a passage from a setting whose store keeps claims. -/
def Passes (w w' : Setting τ κ) : Prop :=
  (∃ claims, S.Keeps w.store claims) → Passage S level w w'

/-- After a passage a collaborator of the call at the level raised a fault. -/
def Breaks (e : Fault) (w w' : Setting τ κ) : Prop :=
  (∃ claims, S.Keeps w.store claims) →
    ∃ w₁, Passage S level w w₁ ∧ w' = w₁.noted (.raised level e)

variable {S level} {w w' w'' : Setting τ κ}

theorem Passage.trans (h : Passage S level w w') (h' : Passage S level w' w'') :
    Passage S level w w'' := by
  refine ⟨S.follows_trans h.follows h'.follows, h'.keeps, ?_⟩
  obtain ⟨new, htrace, hnew⟩ := h.trace
  obtain ⟨new', htrace', hnew'⟩ := h'.trace
  refine ⟨new ++ new', by rw [htrace', htrace, List.append_assoc], fun o ho => ?_⟩
  exact (List.mem_append.1 ho).elim (hnew o) (hnew' o)

/-- A passage if nothing is noted. -/
theorem passage_of_trace (hfollows : S.Follows w.store w'.store)
    (hkeeps : ∃ claims, S.Keeps w'.store claims) (htrace : w'.trace = w.trace) :
    Passage S level w w' :=
  ⟨hfollows, hkeeps, [], by rw [htrace, List.append_nil], List.forall_mem_nil _⟩

instance : IsPreorder (Setting τ κ) (Passes S level) where
  refl _ hkeeps := passage_of_trace (S.follows_refl _) hkeeps rfl
  trans _ _ _ h h' hkeeps := (h hkeeps).trans (h' (h hkeeps).keeps)

theorem Passes.breaks {e : Fault} (h : Passes S level w w') (h' : Breaks S level e w' w'') :
    Breaks S level e w w'' := by
  intro hkeeps
  obtain ⟨w₁, hpassage, hraised⟩ := h' (h hkeeps).keeps
  exact ⟨w₁, (h hkeeps).trans hpassage, hraised⟩

private theorem passes_update {f : τ → Except Fault τ}
    (h : ∀ {s t claims}, S.Keeps s claims → f s = .ok t →
      S.Follows s t ∧ ∃ claims', S.Keeps t claims') :
    Run.Respects (Passes S level) (StoreOps.update (Setting.storeCell (κ := κ)) f) := by
  intro w
  rw [StoreOps.exec_update]
  cases hf : f (Setting.storeCell.get w) with
  | error e => exact Std.Refl.refl w
  | ok t =>
    rintro ⟨claims, hkeeps⟩
    obtain ⟨hfollows, hkeeps'⟩ := h hkeeps hf
    exact passage_of_trace hfollows hkeeps' rfl

/-- A transaction passes, and if it fails it gives back the claims that it found. -/
private theorem exec_transaction_of_passes {body : Run (Setting τ κ) α} {claims : Claims}
    (hbody : Run.Respects (Passes S level) body) (hkeeps : S.Keeps w.store claims) :
    ∃ outcome w', (S.transaction Setting.storeCell body).exec w = (outcome, w') ∧
      Passage S level w w' ∧ ∀ e, outcome = .error e → S.Keeps w'.store claims := by
  obtain ⟨t, hopen, ht⟩ := S.open_keeps hkeeps
  have hpassage := hbody (Setting.storeCell.set t w) ⟨claims, ht⟩
  rcases hexec : body.exec (Setting.storeCell.set t w) with ⟨e | a, w'⟩ <;> rw [hexec] at hpassage
  · obtain ⟨u, htransaction, hfollows, hu⟩ :=
      S.transaction_error Setting.storeCell hkeeps hopen hexec hpassage.follows
    exact ⟨_, _, htransaction, ⟨hfollows, ⟨claims, hu⟩, hpassage.trace⟩, fun _ _ => hu⟩
  · obtain ⟨u, htransaction, hfollows, hu⟩ :=
      S.transaction_ok Setting.storeCell hkeeps hopen hexec hpassage.follows
    obtain ⟨claims', hclaims'⟩ := hpassage.keeps
    exact ⟨_, _, htransaction, ⟨hfollows, ⟨claims', hu claims' hclaims'⟩, hpassage.trace⟩, nofun⟩

private theorem passes_transaction {body : Run (Setting τ κ) α}
    (hbody : Run.Respects (Passes S level) body) :
    Run.Respects (Passes S level) (S.transaction Setting.storeCell body) := by
  rintro w ⟨claims, hkeeps⟩
  obtain ⟨outcome, w', hexec, hpassage, -⟩ := exec_transaction_of_passes hbody hkeeps
  rwa [hexec]

/-- A transaction that fails gives back the claims that it found. -/
theorem keeps_of_transaction_error {body : Run (Setting τ κ) α} {claims : Claims} {e : Fault}
    (hbody : Run.Respects (Passes S level) body) (hkeeps : S.Keeps w.store claims)
    (h : (S.transaction Setting.storeCell body).exec w = (.error e, w')) :
    S.Keeps w'.store claims := by
  obtain ⟨outcome, w₁, hexec, -, hback⟩ := exec_transaction_of_passes hbody hkeeps
  cases hexec.symm.trans h
  exact hback e rfl

variable (S level) in
/-- Whatever programs are made of passes. -/
theorem passes_storage (T : Number → Prop) :
    S.storage.Related T (Occurrence.ReportsBelow level)
      (fun _ x _ => Run.Respects (Passes (κ := κ) S level) x) S.storage where
  toComposes := Run.composes_respects _
  throw e := Run.respects_throw _ e
  observe h := Run.respects_observe h
  look := fun w => Std.Refl.refl w
  keep own := fun w hkeeps => passage_of_trace (S.follows_refl _) hkeeps rfl
  note o ho := fun w hkeeps =>
    ⟨S.follows_refl _, hkeeps, [o], rfl, fun o' ho' => List.mem_singleton.1 ho' ▸ ho⟩
  measure := fun w => Std.Refl.refl w
  get f := StoreOps.respects_ask _ _
  contains f := StoreOps.respects_ask _ _
  insert f r _ := passes_update fun hkeeps hinsert =>
    ⟨(S.insert_ok hinsert).1, _, S.insert_keeps hkeeps hinsert⟩
  remove f := passes_update fun hkeeps hremove => by
    obtain ⟨t, hremove', ht⟩ := S.remove_keeps hkeeps (f := f)
    obtain rfl := Except.ok.inj (hremove'.symm.trans hremove)
    exact ⟨(S.remove_ok hremove).1, _, ht⟩
  transaction := passes_transaction

/-- A program passes if its calls are below the level. -/
theorem passes_run {T : Number → Prop} (P : Partners T κ) {depth : Nat} (hdepth : depth ≤ level)
    (p : ServiceProgram T κ α) :
    Run.Respects (Passes S level) (p.run S.storage (P.serve S.storage depth)) :=
  P.run_related (passes_storage S level T) depth (fun _ ho => ho.mono hdepth) p

theorem passes_serve {T : Number → Prop} (P : Partners T κ) {depth : Nat} (hdepth : depth ≤ level)
    (r : ClaimRequest) : Run.Respects (Passes S level) (P.serve S.storage depth r) :=
  P.serve_related (passes_storage S level T) depth (fun _ ho => ho.mono hdepth) r

end Passes

/-! ## Calls -/

/-- What a failed call leaves: the claims that it found, and after all that happened within it the
fault that one of its collaborators raised.  The call itself reported nothing. -/
structure Undone (Keeps : τ → Claims → Prop) (claims : Claims) (level : Nat) (e : Fault)
    (w w' : Setting τ κ) : Prop where
  claims : Keeps w'.store claims
  trace : ∃ new, w'.trace = w.trace ++ new ++ [.raised level e] ∧
    ∀ o ∈ new, Occurrence.ReportsBelow level o

/-- Run a program and then a call, and catch the fault of the call. -/
def Partners.catching {T : Number → Prop} (P : Partners T κ) (K : Storage τ κ) (depth : Nat)
    (earlier : ServiceProgram T κ α) (r : ClaimRequest) :
    Run (Setting τ κ) (α × Except Fault ClaimReply) := do
  let a ← earlier.run K (P.serve K depth)
  let outcome ← Run.observe (P.serve K depth r)
  return (a, outcome)

private theorem exec_catching {T : Number → Prop} {P : Partners T κ} {K : Storage τ κ} {depth : Nat}
    {earlier : ServiceProgram T κ α} {r : ClaimRequest} {w w' : Setting τ κ} {a : α}
    {outcome : Except Fault ClaimReply}
    (h : (P.catching K depth earlier r).exec w = (.ok (a, outcome), w')) :
    ∃ w₁, (earlier.run K (P.serve K depth)).exec w = (.ok a, w₁) ∧
      (P.serve K depth r).exec w₁ = (outcome, w') := by
  obtain ⟨a₁, w₁, hearlier, hcall⟩ := Run.exec_bind_eq_ok h
  cases hcall
  exact ⟨w₁, hearlier, rfl⟩

/-- Counting and logging raise no fault. -/
structure Partners.ReportsComplete {T : Number → Prop} (P : Partners T κ) (K : Storage τ κ) :
    Prop where
  count : ∀ depth name tags, Run.Completes ((P.count name tags).run K (P.serve K depth))
  log : ∀ depth severity text context,
    Run.Completes ((P.log severity text context).run K (P.serve K depth))

section Calls

variable {S : FaithfulStore τ} {level depth : Nat} {T : Number → Prop} {P : Partners T κ}
  {w w' : Setting τ κ} {e : Fault} {claims : Claims}

/-- A computation passes, or breaks off with the fault that a collaborator raised. -/
abbrev PassesOrBreaks (S : FaithfulStore τ) (level : Nat) (body : Run (Setting τ κ) α) : Prop :=
  Run.Ends (Passes S level) (Breaks S level) body

private theorem composes_passesOrBreaks :
    Run.Composes fun α (x _ : Run (Setting τ κ) α) => PassesOrBreaks S level x :=
  Run.composes_ends fun _ _ _ _ => Passes.breaks

private theorem passesOrBreaks_bind {x : Run (Setting τ κ) α} {f : α → Run (Setting τ κ) β}
    (hx : PassesOrBreaks S level x) (hf : ∀ a, PassesOrBreaks S level (f a)) :
    PassesOrBreaks S level (x >>= f) :=
  composes_passesOrBreaks.bind (y := x) (g := f) hx hf

private theorem passesOrBreaks_watched {body : Run (Setting τ κ) α}
    (h : Run.Respects (Passes S level) body) :
    PassesOrBreaks S level (Setting.watched level body) := by
  constructor
  · -- A computation that is watched notes nothing unless it fails.
    intro w a w' hwatched
    have hpasses := h w
    rwa [Setting.exec_watched_eq_ok hwatched] at hpasses
  · intro w e w' hwatched hkeeps
    obtain ⟨w₁, hbody, hraised⟩ := Setting.exec_watched_eq_error hwatched
    have hpasses := h w hkeeps
    rw [hbody] at hpasses
    exact ⟨w₁, hpasses, hraised⟩

variable (P) in
/-- The service for the call at a level, on a faithful store. -/
private abbrev callService (S : FaithfulStore τ) (level : Nat) : ClaimService (Setting τ κ) :=
  P.service S.storage level (P.serve S.storage level)

variable (S depth P) in
/-- What the service does inside its transactions passes or breaks off. -/
private theorem parts_passOrBreak :
    (callService P S depth).PartsRelated (fun _ x _ => PassesOrBreaks S depth x)
      (callService P S depth) := by
  have hpasses := passes_storage (κ := κ) S depth T
  have hrun {α : Type} (p : ServiceProgram T κ α) :=
    passesOrBreaks_watched (passes_run (S := S) P (Nat.le_refl depth) p)
  have hnote (event : ClaimEvent) :
      PassesOrBreaks S depth (Setting.note (τ := τ) (κ := κ) (.deposited event)) := by
    refine ⟨fun {w _ w'} h => ?_, fun h => by cases h⟩
    obtain rfl : w.noted (.deposited event) = w' := (Prod.mk.inj h).2
    exact hpasses.note (.deposited event) trivial w
  refine ⟨fun f => ?_, fun f => ?_, fun f => ?_, fun proof owner => ?_, fun event => ?_, rfl⟩
  · -- The parts that work on the store keep its claims, or they break it.
    exact passesOrBreaks_watched (hpasses.get f)
  · exact passesOrBreaks_watched (hpasses.contains f)
  · exact passesOrBreaks_watched (hpasses.remove f)
  · -- To stamp a claim is to ask the clock and then to write.
    show PassesOrBreaks S depth ((Subtype.val <$> _) >>= _)
    rw [bind_map_left]
    refine passesOrBreaks_bind (hrun P.now) fun time => ?_
    exact passesOrBreaks_watched (hpasses.insert _ _ time.2)
  · -- The event is noted before the sink runs.
    exact passesOrBreaks_bind (hnote event) fun _ => hrun _

section Reports

variable (hreports : P.ReportsComplete S.storage)
include hreports

private theorem report_completes (depth : Nat) (call : ClaimCall) (proof : Fingerprint)
    (answer : Except ClaimError Unit) :
    Run.Completes ((callService P S depth).report call proof answer) := by
  refine ClaimService.report_related (t := callService P S depth) Run.composes_completes
    (fun name tags => ?_) (fun severity text context _ => ?_) call proof answer
  · exact Run.completes_bind (fun w => ⟨_, _, rfl⟩) fun _ => hreports.count depth name tags
  · exact Run.completes_bind (fun w => ⟨_, _, rfl⟩) fun _ =>
      hreports.log depth severity text context

private theorem perform_error {body : Run (Setting τ κ) (Except ClaimError Unit)}
    (hbody : PassesOrBreaks S depth body) (hkeeps : S.Keeps w.store claims) {call : ClaimCall}
    {proof : Fingerprint}
    (h : ((callService P S depth).perform call proof body).exec w = (.error e, w')) :
    Undone S.Keeps claims depth e w w' := by
  obtain ⟨t, hopen, ht⟩ := S.open_keeps hkeeps
  have hperform : (S.transaction Setting.storeCell body >>= fun answer => do
      (callService P S depth).report call proof answer
      return answer).exec w = (.error e, w') := h
  rw [Run.exec_bind] at hperform
  rcases hexec : body.exec (Setting.storeCell.set t w) with ⟨e₁ | answer, w₁⟩
  · -- The transaction gives the claims back and passes on the fault of the body.
    obtain ⟨w₂, hpassage, rfl⟩ := hbody.error hexec ⟨claims, ht⟩
    obtain ⟨u, htransaction, -, hu⟩ :=
      S.transaction_error Setting.storeCell hkeeps hopen hexec hpassage.follows
    rw [htransaction] at hperform
    cases hperform
    obtain ⟨new, htrace, hnew⟩ := hpassage.trace
    exact ⟨hu, new, congrArg (· ++ [_]) htrace, hnew⟩
  · -- After a transaction that was closed only the report is left, which raises no fault.
    obtain ⟨u, htransaction, -⟩ := S.transaction_ok Setting.storeCell hkeeps hopen hexec
      (hbody.ok hexec ⟨claims, ht⟩).follows
    obtain ⟨_, w₂, hreport⟩ := report_completes hreports depth call proof answer
      (Setting.storeCell.set u w₁)
    rw [htransaction] at hperform
    simp only [Run.exec_bind, hreport, Run.exec_pure] at hperform
    cases hperform

/-- A call that fails leaves the claims that it found. -/
theorem serve_error {r : ClaimRequest} (hkeeps : S.Keeps w.store claims)
    (h : (P.serve S.storage (depth + 1) r).exec w = (.error e, w')) :
    Undone S.Keeps claims depth e w w' := by
  have hparts := parts_passOrBreak S depth P
  cases r with
  | create origin proof =>
    exact perform_error hreports
      (ClaimService.createBody_related composes_passesOrBreaks hparts origin proof) hkeeps
      (Run.exec_map_eq_error h)
  | revoke origin proof =>
    exact perform_error hreports
      (ClaimService.revokeBody_related composes_passesOrBreaks hparts origin proof) hkeeps
      (Run.exec_map_eq_error h)
  | transfer origin proof dest =>
    exact perform_error hreports
      (ClaimService.transferBody_related composes_passesOrBreaks hparts origin proof dest) hkeeps
      (Run.exec_map_eq_error h)
  | claim proof =>
    -- A store that keeps claims answers every lookup.
    have hclaim : (ClaimReply.found <$> (callService P S depth).store.get proof).exec w =
      (.error e, w') := h
    rw [Run.exec_map, Partners.exec_get hkeeps] at hclaim
    cases hclaim

/-- A call that fails inside a transaction that catches the fault leaves what the transaction would
have kept without the call. -/
theorem transaction_of_caught_error {earlier : ServiceProgram T κ α} {r : ClaimRequest} {a : α}
    (hkeeps : S.Keeps w.store claims)
    (h : (S.storage.store.transaction (P.catching S.storage (depth + 1) earlier r)).exec w =
      (.ok (a, .error e), w')) :
    ∃ w₁ claims₁, (S.storage.store.transaction
        (earlier.run S.storage (P.serve S.storage (depth + 1)))).exec w = (.ok a, w₁) ∧
      S.Keeps w₁.store claims₁ ∧ Undone S.Keeps claims₁ depth e w₁ w' := by
  have hearlier : Run.Respects (Passes S (depth + 1))
      (earlier.run S.storage (P.serve S.storage (depth + 1))) :=
    passes_run P (Nat.le_refl _) earlier
  have hcatching : Run.Respects (Passes S (depth + 1))
      (P.catching S.storage (depth + 1) earlier r) :=
    Run.respects_bind hearlier fun a =>
      Run.respects_bind (passes_serve P (Nat.le_refl _) r) fun _ => Run.respects_pure _ _
  obtain ⟨t, hopen, ht⟩ := S.open_keeps hkeeps
  have hpassage := hearlier (Setting.storeCell.set t w) ⟨claims, ht⟩
  have hpassage' := hcatching (Setting.storeCell.set t w) ⟨claims, ht⟩
  -- Alone, the part before the call cannot tell that there is more to come.
  rcases hexec : (P.catching S.storage (depth + 1) earlier r).exec (Setting.storeCell.set t w) with
    ⟨e₁ | result, w₁⟩ <;> rw [hexec] at hpassage'
  · -- The transaction would have failed.
    obtain ⟨u, htransaction, -⟩ :=
      S.transaction_error Setting.storeCell hkeeps hopen hexec hpassage'.follows
    cases htransaction.symm.trans h
  obtain ⟨u, htransaction, -, hu⟩ :=
    S.transaction_ok Setting.storeCell hkeeps hopen hexec hpassage'.follows
  cases htransaction.symm.trans h
  -- By itself the earlier part comes to the setting in which the call begins.
  obtain ⟨w₂, hexec₂, hcall⟩ := exec_catching hexec
  rw [hexec₂] at hpassage
  obtain ⟨claims₂, hclaims₂⟩ := hpassage.keeps
  obtain ⟨u', htransaction', -, hu'⟩ :=
    S.transaction_ok Setting.storeCell hkeeps hopen hexec₂ hpassage.follows
  have hundone := serve_error hreports hclaims₂ hcall
  exact ⟨_, claims₂, htransaction', hu' claims₂ hclaims₂, hu claims₂ hundone.claims, hundone.trace⟩

end Reports

end Calls

/-! ## Both stores -/

/-- Failed calls change nothing in a store. -/
structure FailuresUndone {T : Number → Prop} (Keeps : τ → Claims → Prop) (K : Storage τ κ)
    (P : Partners T κ) : Prop where
  /-- A call that fails leaves the claims that it found. -/
  call : ∀ depth r w w' e claims, Keeps w.store claims →
    (P.serve K (depth + 1) r).exec w = (.error e, w') → Undone Keeps claims depth e w w'
  /-- In a transaction that catches its fault, such a call takes back nothing that was there before
  it: the transaction keeps what it would have kept without the call. -/
  inside : ∀ {α : Type} depth (earlier : ServiceProgram T κ α) r w w' a e claims,
    Keeps w.store claims →
    (K.store.transaction (P.catching K (depth + 1) earlier r)).exec w = (.ok (a, .error e), w') →
    ∃ w₁ claims₁, (K.store.transaction (earlier.run K (P.serve K (depth + 1)))).exec w =
      (.ok a, w₁) ∧ Keeps w₁.store claims₁ ∧ Undone Keeps claims₁ depth e w₁ w'

private theorem failuresUndone (S : FaithfulStore τ) {T : Number → Prop} {P : Partners T κ}
    (hreports : P.ReportsComplete S.storage) : FailuresUndone S.Keeps S.storage P where
  call _ _ _ _ _ _ hkeeps h := serve_error hreports hkeeps h
  inside _ _ _ _ _ _ _ _ hkeeps h := transaction_of_caught_error hreports hkeeps h

/-- On both stores, whatever the clock and the sink do, a call that fails leaves the claims that it
found, alone and in a transaction that catches the fault.  The fault is the one that its clock, its
sink or its store raised last, and the call is neither counted nor logged. -/
theorem failed_calls_change_nothing {T : Number → Prop} (P : Partners T κ) :
    (P.ReportsComplete UndoStore.storage →
      FailuresUndone UndoStore.Represents UndoStore.storage P) ∧
    (P.ReportsComplete SavepointStore.storage →
      FailuresUndone SavepointStore.Keeps SavepointStore.storage P) := by
  refine ⟨failuresUndone UndoStore.faithful, fun hreports => ?_⟩
  rw [SavepointStore.storage_eq] at hreports ⊢
  exact failuresUndone SavepointStore.faithful hreports

/-- A clock that stands still, and a sink that opens a transaction, makes a call of its own and then
refuses every event. -/
def Partners.refusing : Partners AnyTime Unit where
  now := .done (.ok ⟨0, trivial⟩)
  deposit _ :=
    .transaction (.step (.call (.create .none [8])) trivial fun _ => .done (.ok ())) fun _ =>
      .done (.error (.raised "refused"))
  proofLimit := 10
  count _ _ := .done (.ok ())
  log _ _ _ := .done (.ok ())

/-- A refused event takes back the claim that was written before it, on both stores. -/
theorem failed_calls_change_nothing_refusing :
    let request := ClaimRequest.create (.signed "alice") [7]
    let u := (Partners.refusing.serve UndoStore.storage 2 request).exec
      (.fresh (.ofClaims .empty) ())
    let v := (Partners.refusing.serve SavepointStore.storage 2 request).exec
      (.fresh (.ofClaims .empty) ())
    u.1 = .error (.raised "refused") ∧ u.2.store.Represents .empty ∧
      v.1 = .error (.raised "refused") ∧ v.2.store.Keeps .empty := by
  intro request u v
  have hu : u.1 = .error (.raised "refused") := rfl
  have hv : v.1 = .error (.raised "refused") := rfl
  have hundo := (failed_calls_change_nothing Partners.refusing).1
    ⟨fun _ _ _ _ => ⟨_, _, rfl⟩, fun _ _ _ _ _ => ⟨_, _, rfl⟩⟩
  have hsavepoint := (failed_calls_change_nothing Partners.refusing).2
    ⟨fun _ _ _ _ => ⟨_, _, rfl⟩, fun _ _ _ _ _ => ⟨_, _, rfl⟩⟩
  refine ⟨hu, ?_, hv, ?_⟩
  · have hstart := UndoStore.represents_ofClaims .empty
    exact (hundo.call 1 request _ _ _ _ hstart (Prod.ext hu rfl)).claims
  · have hstart := SavepointStore.keeps_ofClaims .empty
    exact (hsavepoint.call 1 request _ _ _ _ hstart (Prod.ext hv rfl)).claims

end ProofOfExistence
