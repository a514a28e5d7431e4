import ProofOfExistence.Proofs.RegistryRuns

/-!
# What a call may do to owners and events

`Progress` relates the worlds before and after a computation.  Between them an owner lost a claim,
and an event was deposited, only for a signed call that was handed to the service in between
(`Vouched`), or for the call that the computation is a part of.

Every step of the service makes progress for its call, and so does a call as a whole, with all calls
that the sink makes meanwhile.  Only the sink calls back: the clock, the counters and the logs keep
to themselves.

## Key results

- `Progress.trans`: progress composes, and a part may be vouched for by what came before it
- `transaction_advances`: a transaction makes progress if its computation does
- `carryOut_advances`: the service makes progress for the call that it carries out
- `gate_advances`: a call makes progress at every depth
-/

namespace ProofOfExistence

variable {τ ε η α : Type}

/-! ## Collaborators that keep to themselves -/

/-- A collaborator that works on what it keeps, may fail and calls nobody. -/
def Client.quiet (f : η → Except Fault α × η) : Client τ ε η α :=
  .look fun w => .keep w.sink (f w.others).2 (.done (f w.others).1)

/-- Counters and a log that call nobody. -/
structure QuietReporters (η : Type) where
  count : Utf16 → Tags → η → Except Fault Unit × η
  log : LogLevel → String → LogContext → η → Except Fault Unit × η

/-- The collaborators of a service and its dispatcher if only the sink calls back. -/
structure QuietCollaborators (τ ε η : Type) where
  tick : η → Except Fault Number × η
  deposit : ClaimEvent → Client τ ε η Unit
  proofLimit : Nat
  verify : (signer : String) → Call → (signature : String) → Except Fault Bool
  serviceReporters : QuietReporters η
  dispatcherReporters : QuietReporters η

def QuietReporters.toReporters (r : QuietReporters η) : Reporters τ ε η where
  count name tags := .quiet (r.count name tags)
  log level text context := .quiet (r.log level text context)

def QuietCollaborators.toCollaborators (c : QuietCollaborators τ ε η) : Collaborators τ ε η where
  now := .quiet c.tick
  deposit := c.deposit
  proofLimit := c.proofLimit
  verify := c.verify
  serviceReporters := c.serviceReporters.toReporters
  dispatcherReporters := c.dispatcherReporters.toReporters

/-! ## What a call is about -/

/-- The kind of the event that announces an action. -/
def CallAction.eventKind : CallAction → EventKind
  | create => .created
  | revoke => .revoked
  | transfer _ => .transferred

/-- A call that takes the claim on a fingerprint from its owner. -/
def Call.Releases (call : Call) (f : Fingerprint) : Prop :=
  (call.action = .revoke ∨ ∃ dest, call.action = .transfer dest) ∧ Hex.decode? call.proof = some f

/-- A call that an event announces: it has its fingerprint, its kind and its receiver. -/
def Call.AnnouncedBy (call : Call) (event : ClaimEvent) : Prop :=
  Hex.decode? call.proof = some event.proof ∧ event.kind = call.action.eventKind ∧
    event.dest = call.action.dest?

/-- A predicate on deciding if a signature verifies for a party over a call. -/
abbrev Verifier := (signer : String) → Call → (signature : String) → Except Fault Bool

/-- Between two traces a request was dispatched whose envelope `who` signed, and its call, which is
of a certain kind, was handed to the service. -/
def Vouched (verify : Verifier) (start finish : List Entry) (who : Identity) (P : Call → Prop) :
    Prop :=
  ∃ past r e signature, start <+: past ∧
    past ++ [.dispatched r, .handed (.signed who) e.call] <+: finish ∧ r.envelope? = some e ∧
    e.credentials = some ⟨who, signature⟩ ∧ verify who e.call signature = .ok true ∧ P e.call

theorem Vouched.mono {verify : Verifier} {start start' finish finish' : List Entry}
    {who : Identity} {P : Call → Prop} (h : Vouched verify start finish who P)
    (hstart : start' <+: start) (hfinish : finish <+: finish') :
    Vouched verify start' finish' who P := by
  obtain ⟨past, r, e, signature, hpast, hhanded, hrest⟩ := h
  exact ⟨past, r, e, signature, hstart.trans hpast, hhanded.trans hfinish, hrest⟩

/-- A party and a call of theirs that a computation is a part of, if any. -/
abbrev Charge := Option (Identity × Call)

/-- The computation is a part of a call by `who` of a certain kind. -/
def Charge.Covers (charge : Charge) (who : Identity) (P : Call → Prop) : Prop :=
  ∃ call, charge = some (who, call) ∧ P call

/-- A call is on the charge of the signer of its origin. -/
def Origin.charge (origin : Origin) (call : Call) : Charge :=
  match origin with
  | .signed who => some (who, call)
  | .root | .none => Option.none

/-! ## Progress -/

section Progress

variable (S : TransactionalStore τ) (verify : Verifier)

/-- The owner of a fingerprint, if it is claimed. -/
def World.owner? (w : World τ ε η) (f : Fingerprint) : Option Identity :=
  (S.claim w.store f).map ClaimRecord.owner

/-- What happens to owners and events in a computation that is a part of the charged call. -/
structure Progress (charge : Charge) (w w' : World τ ε η) : Prop where
  trace : w.trace <+: w'.trace
  follows : S.Follows w.store w'.store
  owners : ∀ f who, w.owner? S f = some who → w'.owner? S f ≠ some who →
    charge.Covers who (·.Releases f) ∨ Vouched verify w.trace w'.trace who (·.Releases f)
  events : ∀ past event, w.trace <+: past → past ++ [.deposited event] <+: w'.trace →
    charge.Covers event.who (·.AnnouncedBy event) ∨
      Vouched verify w.trace past event.who (·.AnnouncedBy event)

variable {S verify} {charge inner : Charge} {w w' w'' : World τ ε η}

theorem Progress.refl (w : World τ ε η) : Progress S verify charge w w := by
  refine ⟨List.prefix_refl _, S.follows_refl _, fun f who h h' => absurd h h', ?_⟩
  intro past event hpast hnew
  -- A trace is no longer than its own beginning.
  have hlength := Nat.le_trans hnew.length_le hpast.length_le
  rw [List.length_append, List.length_singleton] at hlength
  omega

/-- Progress composes.  The second part may be charged with another call, if that is vouched for by
the first part. -/
theorem Progress.trans (h : Progress S verify charge w w') (h' : Progress S verify inner w' w'')
    (hinner : ∀ who P, inner.Covers who P →
      charge.Covers who P ∨ Vouched verify w.trace w'.trace who P) :
    Progress S verify charge w w'' := by
  refine ⟨h.trace.trans h'.trace, S.follows_trans h.follows h'.follows, ?_, ?_⟩
  · intro f who hbefore hafter
    -- The claim was lost in the part at whose start it was still there.
    by_cases hbetween : w'.owner? S f = some who
    · rcases h'.owners f who hbetween hafter with hcovers | hvouched
      · exact (hinner who _ hcovers).imp_right (·.mono (List.prefix_refl _) h'.trace)
      · exact .inr (hvouched.mono h.trace (List.prefix_refl _))
    · exact (h.owners f who hbefore hbetween).imp_right (·.mono (List.prefix_refl _) h'.trace)
  · intro past event hpast hnew
    have hfirst (hin : past ++ [.deposited event] <+: w'.trace) := h.events past event hpast hin
    -- The event was deposited in the second part unless the trace held it between the parts.
    rcases List.prefix_or_prefix_of_prefix h'.trace hnew with hlong | hin
    · rcases List.prefix_concat_iff.1 hlong with heq | hpast'
      · exact hfirst (heq ▸ List.prefix_refl _)
      · rcases h'.events past event hpast' hnew with hcovers | hvouched
        · exact (hinner event.who _ hcovers).imp_right (·.mono (List.prefix_refl _) hpast')
        · exact .inr (hvouched.mono h.trace (List.prefix_refl _))
    · exact hfirst hin

variable (S verify) in
/-- Progress from every world whose store is in order. -/
def Advances (charge : Charge) (w w' : World τ ε η) : Prop :=
  S.Valid w.store → Progress S verify charge w w'

/-- Advancing composes, in the way that progress does. -/
theorem Advances.trans (h : Advances S verify charge w w') (h' : Advances S verify inner w' w'')
    (hinner : ∀ who P, inner.Covers who P →
      charge.Covers who P ∨ Vouched verify w.trace w'.trace who P) :
    Advances S verify charge w w'' := by
  intro hvalid
  have hfirst := h hvalid
  exact hfirst.trans (h' (S.valid_of_follows hfirst.follows hvalid)) hinner

instance : IsPreorder (World τ ε η) (Advances S verify charge) where
  refl w _ := Progress.refl w
  trans _ _ _ h h' := h.trans h' fun _ _ => .inl

/-- What advances without a charge advances under any. -/
theorem Advances.of_none (h : Advances S verify none w w') : Advances S verify charge w w' := by
  intro hvalid
  refine (Progress.refl w).trans (h hvalid) fun who P hcovers => ?_
  obtain ⟨call, hcharge, -⟩ := hcovers
  cases hcharge

theorem advances_of_same (hstore : w'.store = w.store) (htrace : w'.trace = w.trace) :
    Advances S verify charge w w' := by
  intro hvalid
  have hsame : Progress S verify charge w w := Progress.refl w
  refine ⟨htrace ▸ List.prefix_refl _, hstore ▸ S.follows_refl _, fun f who h h' => ?_, ?_⟩
  · rw [World.owner?, hstore] at h'
    exact absurd h h'
  · rw [htrace]
    exact hsame.events

/-- An entry may be noted; an event only if it announces the charged call. -/
theorem advances_noted (w : World τ ε η) {e : Entry}
    (h : ∀ event, e = .deposited event → charge.Covers event.who (·.AnnouncedBy event)) :
    Advances S verify charge w (w.noted e) := by
  intro hvalid
  refine ⟨List.prefix_append _ _, S.follows_refl _, fun f who h h' => absurd h h', ?_⟩
  intro past event hpast hnew
  have heq : past ++ [.deposited event] = w.trace ++ [e] := by
    refine hnew.eq_of_length_le ?_
    show (w.trace ++ [e]).length ≤ _
    rw [List.length_append, List.length_append]
    exact Nat.add_le_add_right hpast.length_le _
  exact .inl (h event (List.cons.inj (List.append_inj_right' heq rfl)).1.symm)

/-- The store may be written if owners lose their claims only for the charged call. -/
theorem advances_write {s : τ} (hfollows : S.Follows w.store s)
    (howners : ∀ f who, w.owner? S f = some who → (S.claim s f).map ClaimRecord.owner ≠ some who →
      charge.Covers who (·.Releases f)) :
    Advances S verify charge w { w with store := s } :=
  fun _ =>
    have hsame : Progress S verify charge w w := Progress.refl w
    ⟨List.prefix_refl _, hfollows, fun f who h h' => .inl (howners f who h h'), hsame.events⟩

end Progress

/-! ## Steps of the service -/

section Steps

variable {S : TransactionalStore τ} {verify : Verifier} {charge : Charge} {w : World τ ε η}
  {f : Fingerprint}

theorem ask_advances (g : τ → Except Fault α) :
    Run.Respects (Advances S verify charge) (StoreOps.ask (World.storeCell (ε := ε) (η := η)) g) :=
  fun _ => advances_of_same rfl rfl

theorem advances_insert {r : ClaimRecord}
    (h : ∀ who, w.owner? S f = some who → r.owner = who ∨ charge.Covers who (·.Releases f)) :
    Advances S verify charge w (((S.store World.storeCell).insert f r).exec w).2 := by
  show Advances S verify charge w
    ((StoreOps.update World.storeCell fun s => S.insert s f r).exec w).2
  rw [StoreOps.exec_update]
  cases hinsert : S.insert (World.storeCell.get w) f r with
  -- The store refused, so nobody has lost anything.
  | error e => exact advances_of_same rfl rfl
  | ok s =>
    obtain ⟨hfollows, hclaim⟩ := S.insert_ok hinsert
    refine advances_write hfollows fun g who hbefore hafter => ?_
    rw [hclaim] at hafter
    -- Only the claim on the fingerprint that was written can have changed its owner.
    by_cases hg : g = f
    · subst hg
      rw [if_pos rfl] at hafter
      exact (h who hbefore).resolve_left fun hown => hafter (congrArg some hown)
    · rw [if_neg hg] at hafter
      exact absurd hbefore hafter

theorem advances_remove
    (h : ∀ who, w.owner? S f = some who → charge.Covers who (·.Releases f)) :
    Advances S verify charge w (((S.store World.storeCell).remove f).exec w).2 := by
  show Advances S verify charge w
    ((StoreOps.update World.storeCell fun s => S.remove s f).exec w).2
  rw [StoreOps.exec_update]
  cases hremove : S.remove (World.storeCell.get w) f with
  | error e => exact advances_of_same rfl rfl
  | ok s =>
    obtain ⟨hfollows, hclaim⟩ := S.remove_ok hremove
    refine advances_write hfollows fun g who hbefore hafter => ?_
    rw [hclaim] at hafter
    by_cases hg : g = f
    · subst hg
      exact h who hbefore
    · rw [if_neg hg] at hafter
      exact absurd hbefore hafter

/-- A transaction advances if its computation does: closing it keeps the owners that the computation
left or gives back those of its start. -/
theorem transaction_advances {body : Run (World τ ε η) α}
    (hbody : Run.Respects (Advances S verify charge) body) :
    Run.Respects (Advances S verify charge) ((S.store World.storeCell).transaction body) := by
  intro w hvalid
  show Progress S verify charge w ((S.transaction World.storeCell body).exec w).2
  rw [StoreOps.exec_transaction]
  cases hopen : S.openTransaction (World.storeCell.get w) with
  -- The transaction was not opened.
  | error e => exact Progress.refl w
  | ok s =>
    obtain ⟨hvalidOpen, hclaimOpen⟩ := S.open_ok hopen
    have hrun := hbody (World.storeCell.set s w) (hvalidOpen hvalid)
    dsimp only
    generalize body.exec (World.storeCell.set s w) = result at hrun ⊢
    obtain ⟨outcome, w'⟩ := result
    have howner : ∀ f, (World.storeCell.set s w).owner? S f = w.owner? S f :=
      fun f => congrArg (Option.map ClaimRecord.owner) (hclaimOpen f)
    cases outcome with
    | error e =>
      -- The store gives the old owners back, while the events of the computation stay in the trace.
      obtain ⟨hfollows, hclaim⟩ := S.rollback_ok hopen hrun.follows
      refine ⟨hrun.trace, hfollows, fun f who h h' => absurd ?_ h', hrun.events⟩
      exact (congrArg (Option.map ClaimRecord.owner) (hclaim f)).trans h
    | ok a =>
      -- A commit shows the claims that the computation has left.
      obtain ⟨t, hcommit, hfollows, hclaim⟩ := S.commit_ok hvalid hopen hrun.follows
      have hcommit' : S.commit (World.storeCell.get w') = .ok t := hcommit
      simp only [hcommit']
      refine ⟨hrun.trace, hfollows, fun f who h h' => ?_, hrun.events⟩
      refine hrun.owners f who ((howner f).trans h) fun hend => h' ?_
      exact (congrArg (Option.map ClaimRecord.owner) (hclaim f)).trans hend

end Steps

/-! ## Calls -/

section Calls

variable {S : TransactionalStore τ} {c : QuietCollaborators τ ε η} {charge : Charge}
  {g : Gate (World τ ε η)}

/-- The claim service of which only the sink calls back. -/
abbrev QuietCollaborators.service (c : QuietCollaborators τ ε η) (S : TransactionalStore τ)
    (g : Gate (World τ ε η)) : ClaimService (World τ ε η) :=
  c.toCollaborators.service (S.store World.storeCell) g

theorem quiet_advances {verify : Verifier} (f : η → Except Fault α × η) :
    Run.Respects (Advances S verify charge) ((Client.quiet f).run g) :=
  fun _ => advances_of_same rfl rfl

/-- Who passes the check owns the claim. -/
private theorem owner?_of_checkOwner {proof : Fingerprint} {caller : Identity}
    {w w' : World τ ε η}
    (h : ((c.service S g).checkOwner proof caller).exec w = (.ok (.ok ()), w')) :
    w' = w ∧ w.owner? S proof = some caller := by
  have hget : ((c.service S g).store.get proof).exec w = (S.get w.store proof, w) := rfl
  unfold ClaimService.checkOwner at h
  rw [Run.exec_bind, hget] at h
  cases hclaim : S.get w.store proof with
  -- The lookup failed, which is not the answer of the check.
  | error e =>
    rw [hclaim] at h
    cases h
  | ok claim =>
    have howner : w.owner? S proof = claim.map ClaimRecord.owner := by
      rw [World.owner?, ← S.get_ok hclaim]
    rw [hclaim] at h
    cases claim with
    -- There is no claim.
    | none => cases h
    | some r =>
      by_cases hcaller : r.owner = caller
      · simp only [if_pos hcaller, Run.exec_pure] at h
        exact ⟨(Prod.mk.inj h).2.symm, howner.trans (congrArg some hcaller)⟩
      · -- The claim is somebody else's.
        simp only [if_neg hcaller, Run.exec_pure] at h
        cases h

/-- Checking the owner only reads. -/
private theorem checkOwner_advances {verify : Verifier} (proof : Fingerprint) (caller : Identity) :
    Run.Respects (Advances S verify charge) ((c.service S g).checkOwner proof caller) := by
  refine Run.respects_bind (ask_advances _) fun claim => ?_
  cases claim <;> exact Run.respects_pure _ _

/-- A stamp may be set on a claim whose owner stays or is charged with giving it away. -/
private theorem advances_stamp {verify : Verifier} {proof : Fingerprint} {owner : Identity}
    {w : World τ ε η} (h : ∀ who, w.owner? S proof = some who →
      owner = who ∨ charge.Covers who (·.Releases proof)) :
    Advances S verify charge w (((c.service S g).stamp proof owner).exec w).2 := by
  refine Run.rel_bind (quiet_advances c.tick w) fun time w' hexec => ?_
  -- Reading the clock leaves the store alone.
  have hstore : w'.store = w.store := by
    obtain ⟨-, rfl⟩ := Prod.mk.inj hexec
    rfl
  refine advances_insert fun who hwho => h who ?_
  rwa [World.owner?, ← hstore]

/-- A call advances if its body does; the reporters keep to themselves. -/
private theorem perform_advances {body : Run (World τ ε η) (Except ClaimError Unit)}
    (hbody : Run.Respects (Advances S c.verify charge) body) (method : ClaimCall)
    (proof : Fingerprint) :
    Run.Respects (Advances S c.verify charge) ((c.service S g).perform method proof body) := by
  refine Run.respects_bind (transaction_advances hbody) fun answer => ?_
  refine Run.respects_bind (ClaimService.respects_report ?_ ?_ _ _ _) fun _ =>
    Run.respects_pure _ _
  · exact fun name tags => quiet_advances _
  · exact fun level text context => quiet_advances _

section Bodies

variable (hg : g.Respects (Advances S c.verify none))
include hg

private theorem client_advances (client : Client τ ε η α) :
    Run.Respects (Advances S c.verify charge) (client.run g) :=
  fun w => (Client.respects_run hg (fun _ _ _ => advances_of_same rfl rfl) client w).of_none

/-- The sink may be given an event that announces the charged call. -/
private theorem deposit_advances {call : Call} (event : ClaimEvent) (h : call.AnnouncedBy event) :
    Run.Respects (Advances S c.verify ((Origin.signed event.who).charge call))
      ((c.service S g).deposit event) := by
  refine Run.respects_bind (fun w => advances_noted w fun event' heq => ?_) fun _ =>
    client_advances hg _
  cases heq
  exact ⟨call, rfl, h⟩

variable {call : Call} {proof : Fingerprint} (hproof : Hex.decode? call.proof = some proof)
include hproof

private theorem createBody_advances (origin : Origin) (haction : call.action = .create) :
    Run.Respects (Advances S c.verify (origin.charge call))
      ((c.service S g).createBody origin proof) := by
  unfold ClaimService.createBody
  cases origin with
  -- Only a signed call has a caller.
  | root | none => exact Run.respects_pure _ _
  | signed who =>
    simp only [Origin.caller]
    split
    · -- The fingerprint is too long.
      exact Run.respects_pure _ _
    · refine fun w => Run.rel_bind (ask_advances _ w) fun claimed w' hexec => ?_
      cases claimed with
      -- The fingerprint is claimed already.
      | true => exact Run.respects_pure _ _ w'
      | false =>
        -- Nobody loses a claim that is made on an unclaimed fingerprint.
        have hunclaimed : w'.owner? S proof = none := by
          obtain ⟨hcontains, rfl⟩ := Prod.mk.inj hexec
          have hclaim := S.contains_ok hcontains
          rw [World.owner?, Option.map_eq_none_iff]
          exact Option.not_isSome_iff_eq_none.1 (Bool.eq_false_iff.1 hclaim.symm)
        refine Run.rel_bind (advances_stamp fun owner howner => ?_) fun _ w'' _ => ?_
        · rw [hunclaimed] at howner
          cases howner
        · -- The claim was made, and the call announces it.
          have hannounced : call.AnnouncedBy (.created who proof) :=
            ⟨hproof, by rw [haction]; rfl, by rw [haction]; rfl⟩
          exact Run.respects_bind (deposit_advances hg _ hannounced)
            (fun _ => Run.respects_pure _ _) w''

private theorem revokeBody_advances (origin : Origin) (haction : call.action = .revoke) :
    Run.Respects (Advances S c.verify (origin.charge call))
      ((c.service S g).revokeBody origin proof) := by
  unfold ClaimService.revokeBody
  cases origin with
  -- Only a signed call has a caller.
  | root | none => exact Run.respects_pure _ _
  | signed who =>
    refine fun w => Run.rel_bind (checkOwner_advances proof who w) fun check w' hexec => ?_
    cases check with
    -- The caller is not the owner.
    | error e => exact Run.respects_pure _ _ w'
    | ok _ =>
      obtain ⟨rfl, howner⟩ := owner?_of_checkOwner hexec
      -- The caller is the one who loses the claim, and their call releases it.
      refine Run.rel_bind (advances_remove fun owner howner' => ?_) fun _ w'' _ => ?_
      · obtain rfl : who = owner := Option.some.inj (howner.symm.trans howner')
        exact ⟨call, rfl, .inl haction, hproof⟩
      · have hannounced : call.AnnouncedBy (.revoked who proof) :=
          ⟨hproof, by rw [haction]; rfl, by rw [haction]; rfl⟩
        exact Run.respects_bind (deposit_advances hg _ hannounced)
          (fun _ => Run.respects_pure _ _) w''

private theorem transferBody_advances (origin : Origin) {dest : Identity}
    (haction : call.action = .transfer dest) :
    Run.Respects (Advances S c.verify (origin.charge call))
      ((c.service S g).transferBody origin proof dest) := by
  unfold ClaimService.transferBody
  cases origin with
  -- Only a signed call has a caller.
  | root | none => exact Run.respects_pure _ _
  | signed who =>
    refine fun w => Run.rel_bind (checkOwner_advances proof who w) fun check w' hexec => ?_
    cases check with
    -- The caller is not the owner.
    | error e => exact Run.respects_pure _ _ w'
    | ok _ =>
      obtain ⟨rfl, howner⟩ := owner?_of_checkOwner hexec
      refine Run.rel_bind (advances_stamp fun owner howner' => .inr ?_) fun _ w'' _ => ?_
      · -- The caller loses the claim to the receiver, and their call releases it.
        obtain rfl : who = owner := Option.some.inj (howner.symm.trans howner')
        exact ⟨call, rfl, .inr ⟨dest, haction⟩, hproof⟩
      · have hannounced : call.AnnouncedBy (.transferred who proof dest) :=
          ⟨hproof, by rw [haction]; rfl, by rw [haction]; rfl⟩
        exact Run.respects_bind (deposit_advances hg _ hannounced)
          (fun _ => Run.respects_pure _ _) w''

omit hproof in
/-- The service makes progress for the call that it carries out. -/
theorem carryOut_advances (origin : Origin) (call : Call) :
    Run.Respects (Advances S c.verify (origin.charge call))
      ((c.service S g).carryOut origin call) := by
  unfold ClaimService.carryOut
  cases hproof : Hex.decode? call.proof with
  | none => exact Run.respects_throw _ _
  | some proof =>
    dsimp only
    cases haction : call.action with
    | create => exact perform_advances (createBody_advances hg hproof origin haction) _ _
    | revoke => exact perform_advances (revokeBody_advances hg hproof origin haction) _ _
    | transfer dest => exact perform_advances (transferBody_advances hg hproof origin haction) _ _

end Bodies

/-! ## Requests -/

/-- The dispatcher of which only the sink calls back. -/
abbrev QuietCollaborators.dispatcher (c : QuietCollaborators τ ε η) (S : TransactionalStore τ)
    (g : Gate (World τ ε η)) : Dispatcher (World τ ε η) :=
  c.toCollaborators.dispatcher (S.store World.storeCell) g

private theorem dispatcher_reports :
    (c.dispatcher S g).Reports (Advances S c.verify charge) where
  audit _ := fun _ => advances_of_same rfl rfl
  count _ _ := quiet_advances _
  log _ _ _ := quiet_advances _

/-- A call may be handed over for the signer of its envelope once the signature verified: it is then
vouched for by its own request. -/
private theorem advances_handOver (hg : g.Respects (Advances S c.verify none))
    {w : World τ ε η} {r : Request} {e : Envelope} {k : Credentials} {nonces : Nonces}
    (he : r.envelope? = some e) (hk : e.credentials = some k)
    (hverify : c.verify k.signer e.call k.signature = .ok true) :
    Advances S c.verify none w (((c.dispatcher S g).handOver (.signed k.signer) e.call).exec
      { w.noted (.dispatched r) with nonces := nonces }).2 := by
  let w' := World.noted { w.noted (.dispatched r) with nonces := nonces }
    (.handed (.signed k.signer) e.call)
  have htrace : w'.trace = w.trace ++ [.dispatched r, .handed (.signed k.signer) e.call] :=
    List.append_assoc w.trace _ _
  -- Neither the nonce nor the entries change the owner of any claim.
  have hnoted : Advances S c.verify none w w' := by
    have hrequest : Advances S c.verify none w (w.noted (.dispatched r)) :=
      advances_noted w nofun
    have hspent : Advances S c.verify none (w.noted (.dispatched r))
        { w.noted (.dispatched r) with nonces := nonces } := advances_of_same rfl rfl
    exact IsTrans.trans _ _ _ (IsTrans.trans _ _ _ hrequest hspent) (advances_noted _ nofun)
  -- What the service does is charged with the call, and the trace up to here vouches for the call.
  refine hnoted.trans (carryOut_advances hg (.signed k.signer) e.call w') fun who P hcovers => ?_
  obtain ⟨call, hcharge, hP⟩ := hcovers
  cases hcharge
  exact .inr ⟨w.trace, r, e, k.signature, List.prefix_refl _, htrace ▸ List.prefix_refl _, he, hk,
    hverify, hP⟩

/-- If the calls of the sink advance, so do the requests that lead to them. -/
private theorem gateOver_advances (hg : g.Respects (Advances S c.verify none)) :
    (c.toCollaborators.gateOver (S.store World.storeCell) g).Respects
      (Advances S c.verify none) where
  dispatch r := by
    intro w
    have hrequest : Advances S c.verify none w (w.noted (.dispatched r)) :=
      advances_noted w nofun
    show Advances S c.verify none w
      ((r.dispatchOn (c.dispatcher S g)).exec (w.noted (.dispatched r))).2
    refine Dispatcher.rel_dispatchOn dispatcher_reports r hrequest fun e he => ?_
    refine Dispatcher.rel_dispatchEnvelope dispatcher_reports hrequest (fun k hk hverify _ => ?_)
      fun _ => ?_
    · exact advances_handOver hg he hk hverify
    · have hhanded : Advances S c.verify none w
          ((w.noted (.dispatched r)).noted (.handed .none e.call)) :=
        IsTrans.trans _ _ _ hrequest (advances_noted _ nofun)
      exact IsTrans.trans _ _ _ hhanded (carryOut_advances hg .none e.call _)
  nextNonce signer := fun w => advances_noted w nofun

/-- At every depth calls advance. -/
theorem gate_advances (depth : Nat) :
    (c.toCollaborators.gate (S.store World.storeCell) depth).Respects
      (Advances S c.verify none) :=
  Collaborators.respects_gate (fun _ hg => gateOver_advances hg) depth

theorem run_advances (depth : Nat) (w : World τ ε η) (moves : List (Move ε η)) :
    Advances S c.verify none w
      ((c.toCollaborators.gate (S.store World.storeCell) depth).run w moves) :=
  Gate.rel_run (gate_advances depth) (fun _ _ _ => advances_of_same rfl rfl) w moves

end Calls

end ProofOfExistence
