import ProofOfExistence.Proofs.NonceOrder
import ProofOfExistence.Proofs.OwnershipSteps

/-!
# Nobody loses a claim without having signed for it

An owner loses a claim only for a call of theirs: between the two points of the run an envelope was
dispatched that they signed, with a nonce above all that they had spent, for a call that releases
the claim.  Likewise every event announces the call of such an envelope, and an envelope without a
signer leaves the registry as it is.  This holds whoever verifies signatures, on the store with undo
logs and on the durable store, with a sink that may dispatch anything at any time.

## Key results

- `nonce_fresh_of_handed`: a call that is handed over has a nonce above all that were handed over
- `dispatch_spares`: an envelope without a signer leaves the registry as it is
- `owners_protected`: the statement on both stores
-/

namespace ProofOfExistence

variable {τ ε η : Type}

/-- The events that were deposited, in order. -/
def eventsDeposited (trace : List Entry) : List ClaimEvent :=
  trace.filterMap fun
    | .deposited event => some event
    | _ => none

/-- An envelope that its signer signed, with a nonce above all those that the signer had spent: a
nonce is handed over as soon as it is spent (`run_lastNonce`). -/
structure Authentic (verify : Verifier) (past : List Entry) (e : Envelope) (who : Identity) :
    Prop where
  signed : ∃ signature, e.credentials = some ⟨who, signature⟩ ∧
    verify who e.call signature = .ok true
  fresh : ∀ nonce ∈ noncesHanded past who, nonce < e.call.nonce

/-- Owners lose claims, and events are deposited, only for authentic envelopes, and envelopes
without a signer change nothing. -/
structure OwnersProtected (store : ClaimStore (World τ ε η)) (S : TransactionalStore τ) (start : τ)
    (c : QuietCollaborators τ ε η) : Prop where
  losses : ∀ depth audit sink others earlier later,
    let gate := c.toCollaborators.gate store depth
    let before := gate.run (.fresh start audit sink others) earlier
    let after := gate.run (.fresh start audit sink others) (earlier ++ later)
    ∀ f who, before.owner? S f = some who → after.owner? S f ≠ some who →
      ∃ past r rest e, after.trace = past ++ .dispatched r :: rest ∧ before.trace <+: past ∧
        r.envelope? = some e ∧ Authentic c.verify past e who ∧ e.call.Releases f
  events : ∀ depth audit sink others moves,
    let gate := c.toCollaborators.gate store depth
    let world := gate.run (.fresh start audit sink others) moves
    ∀ past event later, world.trace = past ++ .deposited event :: later →
      ∃ past' r rest e, past = past' ++ .dispatched r :: rest ∧ r.envelope? = some e ∧
        Authentic c.verify past' e event.who ∧ e.call.AnnouncedBy event
  unsigned : ∀ depth r, (∀ e, r.envelope? = some e → e.credentials = none) →
    ∀ w : World τ ε η, S.Valid w.store →
      let w' := (((c.toCollaborators.gate store depth).dispatch r).exec w).2
      w'.store = w.store ∧ w'.sink = w.sink ∧ w'.nonces = w.nonces ∧
        eventsDeposited w'.trace = eventsDeposited w.trace

/-! ## Fresh nonces -/

/-- When a call is handed over, its nonce is above all those that were handed over before. -/
theorem nonce_fresh_of_handed {w : World τ ε η} (h : OrderedNonces w) {past : List Entry}
    {r : Request} {who : Identity} {call : Call}
    (hhanded : past ++ [.dispatched r, .handed (.signed who) call] <+: w.trace) :
    ∀ nonce ∈ noncesHanded past who, nonce < call.nonce := by
  intro nonce hnonce
  obtain ⟨rest, hrest⟩ := hhanded
  have hpairs := h.signedHandovers
  -- What was handed over before stands in front of this call in the list of all signed calls.
  have hlist : signedHandovers w.trace =
      signedHandovers past ++ (who, call) :: signedHandovers rest := by
    rw [← hrest, signedHandovers, List.append_assoc, List.filterMap_append]
    rfl
  rw [hlist, List.pairwise_append] at hpairs
  obtain ⟨handover, hmem, rfl⟩ := List.mem_map.1 hnonce
  obtain ⟨hpast, hwho⟩ := List.mem_filter.1 hmem
  exact hpairs.2.2 handover hpast _ List.mem_cons_self (of_decide_eq_true hwho)

/-- What is vouched for in a trace with ordered nonces was dispatched in an authentic envelope. -/
theorem authentic_of_vouched {verify : Verifier} {w : World τ ε η} (h : OrderedNonces w)
    {start finish : List Entry} (hfinish : finish <+: w.trace) {who : Identity} {P : Call → Prop}
    (hvouched : Vouched verify start finish who P) :
    ∃ past r rest e, finish = past ++ .dispatched r :: rest ∧ start <+: past ∧
      r.envelope? = some e ∧ Authentic verify past e who ∧ P e.call := by
  obtain ⟨past, r, e, signature, hstart, hhanded, he, hsigned, hverify, hP⟩ := hvouched
  obtain ⟨rest, hrest⟩ := hhanded
  refine ⟨past, r, .handed (.signed who) e.call :: rest, e, ?_, hstart, he, ⟨⟨signature, hsigned,
    hverify⟩, ?_⟩, hP⟩
  · rw [← hrest, List.append_assoc]
    rfl
  · exact nonce_fresh_of_handed h ((hrest ▸ List.prefix_append _ rest).trans hfinish)

/-! ## Envelopes without a signer -/

section Unsigned

variable {S : TransactionalStore τ} {c : QuietCollaborators τ ε η} {g : Gate (World τ ε η)}

variable (S) in
/-- From a store in order, the registry and the sink stay as they are. -/
def Spares (w w' : World τ ε η) : Prop :=
  S.Valid w.store → w'.store = w.store ∧ w'.sink = w.sink ∧ w'.nonces = w.nonces ∧
    eventsDeposited w'.trace = eventsDeposited w.trace

instance : IsPreorder (World τ ε η) (Spares S) where
  refl _ _ := ⟨rfl, rfl, rfl, rfl⟩
  trans w w' w'' h h' hvalid := by
    obtain ⟨hstore, hsink, hnonces, hevents⟩ := h hvalid
    obtain ⟨hstore', hsink', hnonces', hevents'⟩ := h' (hstore ▸ hvalid)
    exact ⟨hstore'.trans hstore, hsink'.trans hsink, hnonces'.trans hnonces, hevents'.trans hevents⟩

/-- Anything but an event may be noted. -/
private theorem spares_noted (w : World τ ε η) {e : Entry} (h : ∀ event, e ≠ .deposited event) :
    Spares S w (w.noted e) := by
  refine fun _ => ⟨rfl, rfl, rfl, ?_⟩
  show eventsDeposited (w.trace ++ [e]) = _
  rw [eventsDeposited, List.filterMap_append]
  cases e with
  | deposited event => exact absurd rfl (h event)
  | _ => exact List.append_nil _

private theorem spares_quiet {α : Type} (f : η → Except Fault α × η) :
    Run.Respects (Spares S) ((Client.quiet f).run g) :=
  fun _ _ => ⟨rfl, rfl, rfl, rfl⟩

/-- A transaction that does nothing leaves the world as it is. -/
private theorem exec_transaction_pure {α : Type} (a : α) {w : World τ ε η}
    (hvalid : S.Valid w.store) :
    (((c.service S g).store.transaction (pure a)).exec w).2 = w := by
  have hexec : ((c.service S g).store.transaction (pure a)).exec w =
    (S.transaction World.storeCell (pure a)).exec w := rfl
  rw [hexec, StoreOps.exec_transaction]
  cases hopen : S.openTransaction (World.storeCell.get w) with
  | error e => rfl
  | ok s =>
    have hcommit : S.commit (World.storeCell.get (World.storeCell.set s w)) = .ok w.store :=
      S.commit_open hvalid hopen
    simp only [Run.exec_pure, hcommit]
    rfl

/-- A call from nobody in particular is refused before anything is read. -/
private theorem spares_carryOut (call : Call) :
    Run.Respects (Spares S) ((c.service S g).carryOut .none call) := by
  have hrefused (method : ClaimCall) (proof : Fingerprint) : Run.Respects (Spares S)
      ((c.service S g).perform method proof (pure (.error .badOrigin))) := by
    refine Run.respects_bind (fun w hvalid => ?_) fun answer => ?_
    · rw [exec_transaction_pure _ hvalid]
      exact ⟨rfl, rfl, rfl, rfl⟩
    · refine Run.respects_bind (ClaimService.respects_report ?_ ?_ _ _ _) fun _ =>
        Run.respects_pure _ _
      · exact fun name tags => spares_quiet _
      · exact fun level text context => spares_quiet _
  -- The body of each of the three calls is this refusal.
  unfold ClaimService.carryOut
  split
  · exact Run.respects_throw _ _
  · split <;> exact hrefused _ _

private theorem spares_reports : (c.dispatcher S g).Reports (Spares (ε := ε) (η := η) S) where
  audit _ := fun _ _ => ⟨rfl, rfl, rfl, rfl⟩
  count _ _ := spares_quiet _
  log _ _ _ := spares_quiet _

/-- An envelope without a signer leaves the registry as it is, at every depth. -/
theorem dispatch_spares (depth : Nat) {r : Request}
    (hr : ∀ e, r.envelope? = some e → e.credentials = none) :
    Run.Respects (Spares S)
      ((c.toCollaborators.gate (S.store World.storeCell) depth).dispatch r) := by
  cases depth with
  | zero => exact Run.respects_throw _ _
  | succ depth =>
    refine Run.respects_bind (fun w => spares_noted w fun _ h => by cases h) fun _ w => ?_
    refine Dispatcher.rel_dispatchOn spares_reports r (Std.Refl.refl w) fun e he => ?_
    refine Dispatcher.rel_dispatchEnvelope spares_reports (Std.Refl.refl w) (fun k hk => ?_)
      fun _ => ?_
    · rw [hr e he] at hk
      cases hk
    · have hhanded : Spares S w (w.noted (.handed .none e.call)) := spares_noted w nofun
      exact IsTrans.trans _ _ _ hhanded (spares_carryOut e.call _)

end Unsigned

/-! ## The statement -/

/-- On every store with transactions that starts in order. -/
theorem ownersProtected_of_valid (S : TransactionalStore τ) {start : τ} (hstart : S.Valid start)
    (c : QuietCollaborators τ ε η) :
    OwnersProtected (S.store World.storeCell) S start c where
  losses := by
    intro depth audit sink others earlier later gate before after f who hbefore hafter
    have hordered : OrderedNonces after :=
      (run_noncesRise S.toStoreOps c.toCollaborators depth _ _).ordered
        (orderedNonces_fresh start audit sink others)
    have hfirst : Progress S c.verify none (.fresh start audit sink others) before :=
      run_advances depth _ earlier hstart
    -- The later moves are a run of their own.
    have hsecond : Progress S c.verify none before after := by
      have hafter : after = gate.run before later := Gate.run_append _ _ earlier later
      rw [hafter]
      exact run_advances depth before later (S.valid_of_follows hfirst.follows hstart)
    -- A run is not a part of any call, so somebody vouched for the loss.
    rcases hsecond.owners f who hbefore hafter with ⟨call, hcharge, -⟩ | hvouched
    · cases hcharge
    · exact authentic_of_vouched hordered (List.prefix_refl _) hvouched
  events := by
    intro depth audit sink others moves gate world past event later htrace
    have hordered : OrderedNonces world :=
      (run_noncesRise S.toStoreOps c.toCollaborators depth _ _).ordered
        (orderedNonces_fresh start audit sink others)
    have hrun : Progress S c.verify none (.fresh start audit sink others) world :=
      run_advances depth _ moves hstart
    -- The event is among those that the run has deposited.
    have hnew : past ++ [.deposited event] <+: world.trace :=
      ⟨later, by rw [htrace, List.append_assoc]; rfl⟩
    rcases hrun.events past event List.nil_prefix hnew with ⟨call, hcharge, -⟩ | hvouched
    · cases hcharge
    · have hpast : past <+: world.trace := (List.prefix_append _ _).trans hnew
      obtain ⟨past', r, rest, e, hsplit, -, hrest⟩ :=
        authentic_of_vouched hordered hpast hvouched
      exact ⟨past', r, rest, e, hsplit, hrest⟩
  unsigned depth r hr w hvalid := dispatch_spares depth hr w hvalid

/-- On the store with undo logs and on the durable store, from any claims at the start, none
included: owners lose claims and events are deposited only for authentic envelopes, and envelopes
without a signer change nothing. -/
theorem owners_protected (ε η : Type) :
    (∀ (start : UndoStore) (c : QuietCollaborators UndoStore ε η),
      OwnersProtected (UndoStore.store World.storeCell) UndoStore.transactional start c) ∧
    ∀ (durable : DurableClaims) (c : QuietCollaborators SavepointStore ε η),
      OwnersProtected (SavepointStore.store World.storeCell) SavepointStore.transactional
        (.ofDurable durable) c := by
  refine ⟨fun start c => ?_, fun durable c => ?_⟩
  · rw [UndoStore.store_eq]
    exact ownersProtected_of_valid UndoStore.transactional trivial c
  · rw [SavepointStore.store_eq]
    exact ownersProtected_of_valid SavepointStore.transactional
      (SavepointStore.valid_ofDurable durable) c

end ProofOfExistence
