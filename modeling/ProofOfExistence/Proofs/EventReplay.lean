import ProofOfExistence.Proofs.RecordedEvents

/-!
# The recorded events determine the owners

A service whose sink records every event carries out calls on a store that was empty at first, one
after the other and outside all transactions.  Its clock and its reporters may fail in any call.
Replaying the recorded events gives the owners of all claims in the store: each event can happen
after those before it, and the last one leads to the owners that the store has.

## Key results

- `Owners.size_replay`: replaying counts the events that were created and revoked
- `call_recorded`: a call changes nothing, or makes the change that the event announces which it
  deposits
- `recorded_events_determine_owners`: every run of calls, on both stores
-/

namespace ProofOfExistence

variable {τ η : Type}

/-! ## Replaying events -/

/-- The owners of the claimed fingerprints. -/
abbrev Owners := Table Fingerprint Identity

namespace Owners

/-- The owners after an event, none if it cannot happen: only an unclaimed fingerprint is claimed,
and only its owner gives a claim up or hands it on. -/
def after? (owners : Owners) (event : ClaimEvent) : Option Owners :=
  match event.kind, event.dest with
  | .created, none =>
    if owners.contains event.proof then none else some (owners.insert event.proof event.who)
  | .revoked, none =>
    if owners.get? event.proof = some event.who then some (owners.erase event.proof) else none
  | .transferred, some dest =>
    if owners.get? event.proof = some event.who then some (owners.insert event.proof dest)
    else none
  | _, _ => none

/-- The owners after some events, from none at all. -/
def replay (events : EventLog) : Option Owners := events.foldlM after? .empty

theorem replay_push (events : EventLog) (event : ClaimEvent) :
    replay (events.push event) = (replay events).bind fun owners => owners.after? event := by
  unfold replay EventLog.push
  rw [List.foldlM_append]
  cases events.foldlM after? .empty with
  | none => rfl
  | some owners => exact bind_pure (owners.after? event)

/-- A claim that is created adds an owner, one that is revoked removes one. -/
theorem size_after? {owners owners' : Owners} {event : ClaimEvent}
    (h : owners.after? event = some owners') :
    owners'.size + (if event.kind = .revoked then 1 else 0) =
      owners.size + (if event.kind = .created then 1 else 0) := by
  obtain ⟨kind, who, proof, dest⟩ := event
  have hcontains (howner : owners.get? proof = some who) : owners.contains proof = true :=
    congrArg Option.isSome howner
  cases kind with
  -- An event of a claim that was made has no receiver, and the fingerprint had no owner.
  | created =>
    cases dest with
    | some _ => cases h
    | none =>
      simp only [after?, Option.ite_none_left_eq_some, Option.some.injEq] at h
      obtain ⟨hnew, rfl⟩ := h
      rw [Table.size_insert, if_neg hnew]
      rfl
  -- A claim that was given up had an owner.
  | revoked =>
    cases dest with
    | some _ => cases h
    | none =>
      simp only [after?, Option.ite_none_right_eq_some, Option.some.injEq] at h
      obtain ⟨howner, rfl⟩ := h
      exact Table.size_erase (hcontains howner)
  -- A claim that was handed on had an owner, and has one.
  | transferred =>
    cases dest with
    | none => cases h
    | some dest =>
      simp only [after?, Option.ite_none_right_eq_some, Option.some.injEq] at h
      obtain ⟨howner, rfl⟩ := h
      rw [Table.size_insert, if_pos (hcontains howner)]
      rfl

private theorem size_foldlM {events : EventLog} {start owners : Owners}
    (h : events.foldlM after? start = some owners) :
    owners.size + (events.ofKind .revoked).length =
      start.size + (events.ofKind .created).length := by
  -- Induction on the events, from whatever owners the first one finds.
  induction events generalizing start with
  | nil =>
    cases h
    rfl
  | cons event rest ih =>
    rw [List.foldlM_cons] at h
    obtain ⟨next, hnext, hrest⟩ := Option.bind_eq_some_iff.1 h
    have hfirst := size_after? hnext
    have hlater := ih hrest
    have hcount (kind : EventKind) : (EventLog.ofKind (event :: rest) kind).length =
        (if event.kind = kind then 1 else 0) + (EventLog.ofKind rest kind).length := by
      unfold EventLog.ofKind
      by_cases hkind : event.kind = kind <;> simp [hkind, Nat.add_comm]
    rw [hcount, hcount]
    omega

/-- In the end there are as many owners as claims were created and not revoked. -/
theorem size_replay {events : EventLog} {owners : Owners} (h : replay events = some owners) :
    owners.size + (events.ofKind .revoked).length = (events.ofKind .created).length :=
  (size_foldlM h).trans (Nat.zero_add _)

end Owners

/-- The owners are those of the claims. -/
def OwnersOf (claims : Claims) (owners : Owners) : Prop :=
  ∀ f, owners.get? f = Lifecycle.owner? claims f

/-- An event announces how the claims change: it can happen, and it leads to the new owners. -/
def Announces (event : ClaimEvent) (claims claims' : Claims) : Prop :=
  ∀ owners, OwnersOf claims owners →
    ∃ owners', owners.after? event = some owners' ∧ OwnersOf claims' owners'

section Announces

variable {claims : Claims} {proof : Fingerprint} {who : Identity} {owners : Owners}

theorem OwnersOf.insert (h : OwnersOf claims owners) (proof : Fingerprint) (r : ClaimRecord) :
    OwnersOf (claims.insert proof r) (owners.insert proof r.owner) := by
  intro f
  rw [Lifecycle.owner?, Table.get?_insert, Table.get?_insert, h f]
  split <;> rfl

theorem OwnersOf.erase (h : OwnersOf claims owners) (proof : Fingerprint) :
    OwnersOf (claims.erase proof) (owners.erase proof) := by
  intro f
  rw [Lifecycle.owner?, Table.get?_erase, Table.get?_erase, h f]
  split <;> rfl

theorem announces_created (hnew : claims.contains proof = false) (time : Number) :
    Announces (.created who proof) claims (claims.insert proof ⟨who, time⟩) := by
  intro owners h
  have hunowned : ¬ owners.contains proof = true := by
    rw [Table.contains_eq, h proof, Lifecycle.owner?, Option.isSome_map, ← Table.contains_eq, hnew]
    exact Bool.false_ne_true
  exact ⟨owners.insert proof who, if_neg hunowned, h.insert proof ⟨who, time⟩⟩

theorem announces_revoked (howner : Lifecycle.owner? claims proof = some who) :
    Announces (.revoked who proof) claims (claims.erase proof) :=
  fun owners h => ⟨owners.erase proof, if_pos ((h proof).trans howner), h.erase proof⟩

theorem announces_transferred (howner : Lifecycle.owner? claims proof = some who)
    (dest : Identity) (time : Number) :
    Announces (.transferred who proof dest) claims (claims.insert proof ⟨dest, time⟩) :=
  fun owners h =>
    ⟨owners.insert proof dest, if_pos ((h proof).trans howner), h.insert proof ⟨dest, time⟩⟩

end Announces

/-! ## What a call records -/

/-- The outcome of what a call does inside its transaction.  It records an event exactly if it was
carried out. -/
inductive Recording (S : FaithfulStore τ) (claims : Claims) (w : Setting τ (Recorded η)) :
    Except Fault (Except ClaimError Unit) × Setting τ (Recorded η) → Prop where
  | failed {e : Fault} {w' : Setting τ (Recorded η)} (follows : S.Follows w.store w'.store)
    (events : w'.own.events = w.own.events) : Recording S claims w (.error e, w')
  | refused {error : ClaimError} {w' : Setting τ (Recorded η)}
    (follows : S.Follows w.store w'.store) (keeps : S.Keeps w'.store claims)
    (events : w'.own.events = w.own.events) : Recording S claims w (.ok (.error error), w')
  | carriedOut {event : ClaimEvent} {claims' : Claims} {w' : Setting τ (Recorded η)}
    (follows : S.Follows w.store w'.store) (keeps : S.Keeps w'.store claims')
    (events : w'.own.events = w.own.events.push event)
    (announces : Announces event claims claims') : Recording S claims w (.ok (.ok ()), w')

/-- A call changed nothing, or made the change that the event announces which it deposited. -/
def CallRecorded (S : FaithfulStore τ) (claims : Claims) (w w' : Setting τ (Recorded η)) : Prop :=
  (S.Keeps w'.store claims ∧ w'.own.events = w.own.events) ∨
    ∃ event claims', S.Keeps w'.store claims' ∧ w'.own.events = w.own.events.push event ∧
      Announces event claims claims'

section Calls

variable {c : Recorder η} {S : FaithfulStore τ} {level : Nat}
  {serve : ClaimRequest → Run (Setting τ (Recorded η)) ClaimReply} {claims : Claims}
  {w : Setting τ (Recorded η)} {proof : Fingerprint}

variable (c S level serve) in
/-- The service for a call, whose events are recorded. -/
private abbrev recordingService : ClaimService (Setting τ (Recorded η)) :=
  c.partners.service S.storage level serve

private theorem exec_now (w : Setting τ (Recorded η)) :
    ∃ outcome w', (recordingService c S level serve).now.exec w = (outcome, w') ∧
      w'.store = w.store ∧ w'.own.events = w.own.events := by
  have hreading : (c.partners.now.run S.storage serve).exec w = ((c.reading w.own.others).1,
    { w with own := ⟨w.own.events, (c.reading w.own.others).2⟩ }) := rfl
  have hnow : (recordingService c S level serve).now =
    Subtype.val <$> Setting.watched level (c.partners.now.run S.storage serve) := rfl
  rw [hnow, Run.exec_map, Setting.exec_watched, hreading]
  cases (c.reading w.own.others).1 <;> exact ⟨_, _, rfl, rfl, rfl⟩

private theorem exec_insert (hkeeps : S.Keeps w.store claims) (r : ClaimRecord) :
    (∃ e w', ((recordingService c S level serve).store.insert proof r).exec w = (.error e, w') ∧
      w'.store = w.store ∧ w'.own.events = w.own.events) ∨
    ∃ w', ((recordingService c S level serve).store.insert proof r).exec w = (.ok (), w') ∧
      S.Follows w.store w'.store ∧ S.Keeps w'.store (claims.insert proof r) ∧
      w'.own.events = w.own.events := by
  have hwatched : (recordingService c S level serve).store.insert proof r =
    Setting.watched level (StoreOps.update Setting.storeCell fun s => S.insert s proof r) := rfl
  rw [hwatched, Setting.exec_watched, StoreOps.exec_update]
  -- A durable store refuses a claim without a time, before it writes anything.
  cases hinsert : S.insert (Setting.storeCell.get w) proof r with
  | error e => exact .inl ⟨e, _, rfl, rfl, rfl⟩
  | ok t =>
    exact .inr ⟨_, rfl, (S.insert_ok hinsert).1, S.insert_keeps hkeeps hinsert, rfl⟩

private theorem exec_remove (hkeeps : S.Keeps w.store claims) :
    ∃ w', ((recordingService c S level serve).store.remove proof).exec w = (.ok (), w') ∧
      S.Follows w.store w'.store ∧ S.Keeps w'.store (claims.erase proof) ∧
      w'.own.events = w.own.events := by
  have hwatched : (recordingService c S level serve).store.remove proof =
    Setting.watched level (StoreOps.update Setting.storeCell fun s => S.remove s proof) := rfl
  obtain ⟨t, hremove, ht⟩ := S.remove_keeps hkeeps (f := proof)
  have hremove' : S.remove (Setting.storeCell.get w) proof = .ok t := hremove
  rw [hwatched, Setting.exec_watched, StoreOps.exec_update, hremove']
  exact ⟨_, rfl, (S.remove_ok hremove).1, ht, rfl⟩

private theorem exec_deposit (event : ClaimEvent) (w : Setting τ (Recorded η)) :
    ∃ w', ((recordingService c S level serve).deposit event).exec w = (.ok (), w') ∧
      w'.store = w.store ∧ w'.own.events = w.own.events.push event :=
  ⟨_, rfl, rfl, rfl⟩

/-- Stamping a claim sets it to some time, or fails and records nothing. -/
private theorem exec_stamp (hkeeps : S.Keeps w.store claims) (owner : Identity) :
    (∃ e w', ((recordingService c S level serve).stamp proof owner).exec w = (.error e, w') ∧
      S.Follows w.store w'.store ∧ w'.own.events = w.own.events) ∨
    ∃ time w', ((recordingService c S level serve).stamp proof owner).exec w = (.ok (), w') ∧
      S.Follows w.store w'.store ∧ S.Keeps w'.store (claims.insert proof ⟨owner, time⟩) ∧
      w'.own.events = w.own.events := by
  unfold ClaimService.stamp
  rw [Run.exec_bind]
  obtain ⟨_ | time, w₁, hnow, hstore, hevents⟩ := exec_now w <;> rw [hnow]
  · exact .inl ⟨_, w₁, rfl, hstore ▸ S.follows_refl _, hevents⟩
  · rw [← hstore] at hkeeps
    rcases exec_insert hkeeps ⟨owner, time⟩ with ⟨e, w₂, hinsert, hstore', hevents'⟩ |
      ⟨w₂, hinsert, hfollows, hkeeps', hevents'⟩
    · refine .inl ⟨e, w₂, hinsert, ?_, hevents'.trans hevents⟩
      rw [hstore', hstore]
      exact S.follows_refl _
    · exact .inr ⟨time, w₂, hinsert, hstore ▸ hfollows, hkeeps', hevents'.trans hevents⟩

/-- Either the caller owns the claim or the call is refused. -/
private theorem exec_checkOwner (hkeeps : S.Keeps w.store claims) (who : Identity) :
    (∃ error, ((recordingService c S level serve).checkOwner proof who).exec w =
      (.ok (.error error), w)) ∨
    ((recordingService c S level serve).checkOwner proof who).exec w = (.ok (.ok ()), w) ∧
      Lifecycle.owner? claims proof = some who := by
  unfold ClaimService.checkOwner
  rw [Run.exec_bind, Partners.exec_get hkeeps]
  cases hclaim : claims.get? proof with
  | none => exact .inl ⟨_, rfl⟩
  | some r =>
    by_cases howner : r.owner = who
    · refine .inr ⟨by simp [howner], ?_⟩
      rw [Lifecycle.owner?, hclaim, Option.map_some, howner]
    · exact .inl ⟨.notProofOwner, by simp [howner]⟩

/-- Depositing the event of a change carries a call out. -/
private theorem recording_deposit {w' : Setting τ (Recorded η)} {claims' : Claims}
    {event : ClaimEvent} (hfollows : S.Follows w.store w'.store) (hkeeps : S.Keeps w'.store claims')
    (hevents : w'.own.events = w.own.events) (hannounces : Announces event claims claims') :
    Recording S claims w (((recordingService c S level serve).deposit event >>= fun _ =>
      pure (.ok ())).exec w') := by
  rw [Run.exec_bind]
  obtain ⟨w₁, hdeposit, hstore, hpushed⟩ := exec_deposit event w'
  rw [hdeposit]
  refine .carriedOut ?_ ?_ (hpushed.trans (congrArg (EventLog.push · event) hevents)) hannounces
  · rwa [hstore]
  · rwa [hstore]

private theorem createBody_recording (hkeeps : S.Keeps w.store claims) (origin : Origin)
    (proof : Fingerprint) :
    Recording S claims w
      (((recordingService c S level serve).createBody origin proof).exec w) := by
  unfold ClaimService.createBody
  cases origin.caller with
  -- The call has no caller.
  | error e => exact .refused (S.follows_refl _) hkeeps rfl
  | ok who =>
    dsimp only
    split
    · -- The fingerprint is too long.
      exact .refused (S.follows_refl _) hkeeps rfl
    · rw [Run.exec_bind, Partners.exec_contains hkeeps]
      cases hclaimed : claims.contains proof with
      -- The fingerprint is claimed already.
      | true => exact .refused (S.follows_refl _) hkeeps rfl
      | false =>
        simp only [Bool.false_eq_true, if_false]
        rw [Run.exec_bind]
        rcases exec_stamp hkeeps who with ⟨e, w₁, hstamp, hfollows, hevents⟩ |
          ⟨time, w₁, hstamp, hfollows, hkeeps', hevents⟩ <;> rw [hstamp]
        · -- The clock or the store has failed.
          exact .failed hfollows hevents
        · -- The claim is written and announced.
          exact recording_deposit hfollows hkeeps' hevents (announces_created hclaimed time)

private theorem revokeBody_recording (hkeeps : S.Keeps w.store claims) (origin : Origin)
    (proof : Fingerprint) :
    Recording S claims w
      (((recordingService c S level serve).revokeBody origin proof).exec w) := by
  unfold ClaimService.revokeBody
  cases origin.caller with
  | error e => exact .refused (S.follows_refl _) hkeeps rfl
  | ok who =>
    dsimp only
    rw [Run.exec_bind]
    rcases exec_checkOwner hkeeps who with ⟨error, hcheck⟩ | ⟨hcheck, howner⟩ <;>
      rw [hcheck]
    · exact .refused (S.follows_refl _) hkeeps rfl
    · obtain ⟨w₁, hremove, hfollows, hkeeps', hevents⟩ := exec_remove hkeeps
      dsimp only
      rw [Run.exec_bind, hremove]
      exact recording_deposit hfollows hkeeps' hevents (announces_revoked howner)

private theorem transferBody_recording (hkeeps : S.Keeps w.store claims) (origin : Origin)
    (proof : Fingerprint) (dest : Identity) :
    Recording S claims w
      (((recordingService c S level serve).transferBody origin proof dest).exec w) := by
  unfold ClaimService.transferBody
  cases origin.caller with
  -- The call has no caller.
  | error e => exact .refused (S.follows_refl _) hkeeps rfl
  | ok who =>
    dsimp only
    rw [Run.exec_bind]
    rcases exec_checkOwner hkeeps who with ⟨error, hcheck⟩ | ⟨hcheck, howner⟩ <;>
      rw [hcheck]
    · -- The caller is not the owner.
      exact .refused (S.follows_refl _) hkeeps rfl
    · dsimp only
      rw [Run.exec_bind]
      rcases exec_stamp hkeeps dest with ⟨e, w₁, hstamp, hfollows, hevents⟩ |
        ⟨time, w₁, hstamp, hfollows, hkeeps', hevents⟩ <;> rw [hstamp]
      · -- The clock or the store has failed.
        exact .failed hfollows hevents
      · -- The claim bears its new owner and is announced.
        exact recording_deposit hfollows hkeeps' hevents (announces_transferred howner dest time)

/-- The store and the recorded events are left alone. -/
private def Untouched (w w' : Setting τ (Recorded η)) : Prop :=
  w'.store = w.store ∧ w'.own.events = w.own.events

private instance : IsPreorder (Setting τ (Recorded η)) Untouched where
  refl _ := ⟨rfl, rfl⟩
  trans _ _ _ h h' := ⟨h'.1.trans h.1, h'.2.trans h.2⟩

private theorem untouched_report (call : ClaimCall) (proof : Fingerprint)
    (answer : Except ClaimError Unit) :
    Run.Respects Untouched ((recordingService c S level serve).report call proof answer) := by
  refine ClaimService.respects_report (fun name tags => ?_) (fun severity text context => ?_) _ _ _
  · exact Run.respects_bind (fun w => ⟨rfl, rfl⟩) fun _ w => ⟨rfl, rfl⟩
  · exact Run.respects_bind (fun w => ⟨rfl, rfl⟩) fun _ w => ⟨rfl, rfl⟩

private theorem perform_recorded {body : Run (Setting τ (Recorded η)) (Except ClaimError Unit)}
    (hbody : ∀ v : Setting τ (Recorded η), S.Keeps v.store claims →
      Recording S claims v (body.exec v))
    (hkeeps : S.Keeps w.store claims) (call : ClaimCall) :
    CallRecorded S claims w
      (((recordingService c S level serve).perform call proof body).exec w).2 := by
  obtain ⟨t, hopen, ht⟩ := S.open_keeps hkeeps
  have hrecording := hbody (Setting.storeCell.set t w) ht
  have hperform : (recordingService c S level serve).perform call proof body =
      S.transaction Setting.storeCell body >>= fun answer =>
        (recordingService c S level serve).report call proof answer >>= fun _ => pure answer := rfl
  have hreport (answer : Except ClaimError Unit) : Run.Respects Untouched
      ((recordingService c S level serve).report call proof answer >>= fun _ => pure answer) :=
    Run.respects_bind (untouched_report call proof answer) fun _ => Run.respects_pure _ answer
  rw [hperform, Run.exec_bind]
  -- Only after a fault is the transaction taken back, and then nothing was recorded.
  generalize hexec : body.exec (Setting.storeCell.set t w) = result at hrecording
  cases hrecording with
  | failed hfollows hevents =>
    obtain ⟨u, htransaction, -, hu⟩ :=
      S.transaction_error Setting.storeCell hkeeps hopen hexec hfollows
    rw [htransaction]
    exact .inl ⟨hu, hevents⟩
  | refused hfollows hkeeps' hevents =>
    obtain ⟨u, htransaction, -, hu⟩ :=
      S.transaction_ok Setting.storeCell hkeeps hopen hexec hfollows
    rw [htransaction]
    obtain ⟨hstore, hsame⟩ := hreport _ (Setting.storeCell.set u _)
    exact .inl ⟨hstore ▸ hu _ hkeeps', hsame.trans hevents⟩
  -- The answer is reported after the commit, and the reports record no events.
  | carriedOut hfollows hkeeps' hevents hannounces =>
    obtain ⟨u, htransaction, -, hu⟩ :=
      S.transaction_ok Setting.storeCell hkeeps hopen hexec hfollows
    rw [htransaction]
    obtain ⟨hstore, hsame⟩ := hreport _ (Setting.storeCell.set u _)
    exact .inr ⟨_, _, hstore ▸ hu _ hkeeps', hsame.trans hevents, hannounces⟩

variable (c) in
/-- A call changes nothing, or makes the change that the event announces which it deposits. -/
theorem call_recorded (depth : Nat) (r : ClaimRequest) (hkeeps : S.Keeps w.store claims) :
    CallRecorded S claims w ((c.partners.serve S.storage depth r).exec w).2 := by
  -- A request is answered with what its call has ended with.
  have hended {call : Run (Setting τ (Recorded η)) (Except ClaimError Unit)}
      (h : CallRecorded S claims w (call.exec w).2) :
      CallRecorded S claims w ((ClaimReply.ended <$> call).exec w).2 := by
    rwa [Run.exec_map]
  cases depth with
  -- No room is left for the call.
  | zero => exact .inl ⟨hkeeps, rfl⟩
  | succ depth =>
    cases r with
    | create origin proof =>
      exact hended (perform_recorded (fun v hv => createBody_recording hv origin proof) hkeeps _)
    | revoke origin proof =>
      exact hended (perform_recorded (fun v hv => revokeBody_recording hv origin proof) hkeeps _)
    | transfer origin proof dest =>
      exact hended
        (perform_recorded (fun v hv => transferBody_recording hv origin proof dest) hkeeps _)
    | claim proof =>
      -- A lookup only reads.
      have hget : ((ClaimReply.found <$>
          (recordingService c S depth (c.partners.serve S.storage depth)).store.get proof).exec
            w).2 = w := by
        rw [Run.exec_map, Partners.exec_get hkeeps]
      exact .inl ⟨hget.symm ▸ hkeeps, congrArg (fun v => v.own.events) hget⟩

end Calls

/-! ## Runs -/

/-- The setting after some requests, each of which may have ended with a fault. -/
def Recorder.serveAll (c : Recorder η) (K : Storage τ (Recorded η)) (depth : Nat)
    (w : Setting τ (Recorded η)) (requests : List ClaimRequest) : Setting τ (Recorded η) :=
  requests.foldl (fun w r => ((c.partners.serve K depth r).exec w).2) w

/-- Replaying the recorded events leads to the owners of the claims in the store.  The store holds
as many claims as were created and not revoked. -/
def Determined (claim? : τ → Fingerprint → Option ClaimRecord) (size? : τ → Option Nat)
    (w : Setting τ (Recorded η)) : Prop :=
  ∃ owners, Owners.replay w.own.events = some owners ∧
    (∀ f, (claim? w.store f).map ClaimRecord.owner = owners.get? f) ∧
    size? w.store = some owners.size ∧
    owners.size + (w.own.events.ofKind .revoked).length = (w.own.events.ofKind .created).length

section Runs

variable {c : Recorder η} {S : FaithfulStore τ} {w w' : Setting τ (Recorded η)}

/-- The store keeps claims whose owners are those that the recorded events lead to. -/
private def Replayed (S : FaithfulStore τ) (w : Setting τ (Recorded η)) : Prop :=
  ∃ claims owners, S.Keeps w.store claims ∧ Owners.replay w.own.events = some owners ∧
    OwnersOf claims owners

private theorem Replayed.call {claims : Claims} {owners : Owners} (h : CallRecorded S claims w w')
    (hreplay : Owners.replay w.own.events = some owners) (howners : OwnersOf claims owners) :
    Replayed S w' := by
  rcases h with ⟨hkeeps, hevents⟩ | ⟨event, claims', hkeeps, hevents, hannounces⟩
  · exact ⟨claims, owners, hkeeps, by rw [hevents, hreplay], howners⟩
  · obtain ⟨owners', hafter, howners'⟩ := hannounces owners howners
    refine ⟨claims', owners', hkeeps, ?_, howners'⟩
    rw [hevents, Owners.replay_push, hreplay]
    exact hafter

private theorem Replayed.serveAll (h : Replayed S w) (depth : Nat) (requests : List ClaimRequest) :
    Replayed S (c.serveAll S.storage depth w requests) := by
  -- The next call finds what the last one left, also after a fault.
  induction requests generalizing w with
  | nil => exact h
  | cons r rest ih =>
    obtain ⟨claims, owners, hkeeps, hreplay, howners⟩ := h
    exact ih (.call (call_recorded c depth r hkeeps) hreplay howners)

private theorem Replayed.determined (h : Replayed S w) : Determined S.claim S.size? w := by
  obtain ⟨claims, owners, hkeeps, hreplay, howners⟩ := h
  refine ⟨owners, hreplay, fun f => ?_, ?_, Owners.size_replay hreplay⟩
  · rw [S.claim_eq hkeeps, howners f]
    rfl
  · have hsame (f : Fingerprint) : claims.contains f = owners.contains f := by
      rw [Table.contains_eq, Table.contains_eq, howners f, Lifecycle.owner?, Option.isSome_map]
    rw [S.size_eq hkeeps, Table.size_eq_of_contains_eq hsame]

end Runs

end ProofOfExistence
