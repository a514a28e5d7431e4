import ProofOfExistence.Proofs.CallBodies
import ProofOfExistence.Proofs.UsableNonces

/-!
# What a registry holds is well formed

A registry that began without claims is written by its dispatcher only.  All that it holds then
comes from envelopes that passed the dispatcher's checks: owners, receivers and signers are
canonical key ids, so each of them can sign later calls, fingerprints are as long as the registry
admits, and nonces are in the range of the schema (`World.WellFormed`).

A transfer does not check the length of its fingerprint.  The fingerprint was claimed when the owner
was checked, and this is what bounds its length, even if the clock has the claim revoked meanwhile.

The registry is well formed at every point at which anyone looks at it, also inside calls and
transactions: `Client.watched` is a client that notes whether it ever sees another registry.

## Key results

- `transaction_maintains`: a transaction keeps the registry well formed if its computation does
- `gate_maintains`: so does a call at every depth
- `exists_keeps_of_run`: the store stays open and keeps finitely many claims
- `registry_wellFormed`: every run on both stores
-/

namespace ProofOfExistence

variable {τ ε η α : Type}

/-! ## Well-formed registries -/

/-- An id that a signer can have: it is the text of exactly one key. -/
structure KeyId.Usable (id : String) : Prop where
  canonical : KeyId.isCanonical id = true
  key : ∃! key : Bytes, key.length = 32 ∧ Base64Url.encode key = id

theorem KeyId.usable_of_isCanonical {id : String} (h : KeyId.isCanonical id = true) :
    KeyId.Usable id :=
  ⟨h, KeyId.existsUnique_key h⟩

/-- An event whose parties are known by usable ids. -/
structure ClaimEvent.Usable (event : ClaimEvent) : Prop where
  who : KeyId.Usable event.who
  dest : ∀ dest, event.dest = some dest → KeyId.Usable dest

/-- All that a registry holds is as it should be. -/
structure World.WellFormed (S : TransactionalStore τ) (limit : Nat) (w : World τ ε η) : Prop where
  proofs : ∀ f r, S.claim w.store f = some r → f.length ≤ limit
  owners : ∀ f r, S.claim w.store f = some r → KeyId.Usable r.owner
  events : ∀ event, .deposited event ∈ w.trace → event.Usable
  nonces : ∀ signer last, w.nonces.get? signer = some last →
    KeyId.Usable signer ∧ last ≤ maxSafeInteger

/-- Only the store, the trace and the nonces matter. -/
theorem World.WellFormed.congr {η' : Type} {S : TransactionalStore τ} {limit : Nat}
    {w : World τ ε η} {w' : World τ ε η'} (h : w.WellFormed S limit) (hstore : w'.store = w.store)
    (htrace : w'.trace = w.trace) (hnonces : w'.nonces = w.nonces) : w'.WellFormed S limit where
  proofs := hstore ▸ h.proofs
  owners := hstore ▸ h.owners
  events := htrace ▸ h.events
  nonces := hnonces ▸ h.nonces

/-! ## Steps that keep the registry well formed -/

section Maintains

variable (S : FaithfulStore τ) (limit : Nat) (Q : η → Prop)

/-- The store is open, the registry is well formed, and the collaborators keep what they should. -/
structure World.Sound (w : World τ ε η) : Prop where
  keeps : ∃ claims, S.Keeps w.store claims
  wellFormed : w.WellFormed S.toTransactionalStore limit
  others : Q w.others

/-- From a sound world a computation leads to a sound one, with its transactions closed again. -/
def Maintains (w w' : World τ ε η) : Prop :=
  w.Sound S limit Q → S.Follows w.store w'.store ∧ w'.Sound S limit Q

variable {S limit Q} {w w' : World τ ε η}

instance : IsPreorder (World τ ε η) (Maintains S limit Q) where
  refl _ h := ⟨S.follows_refl _, h⟩
  trans _ _ _ h h' hsound :=
    have ⟨hfollows, hsound'⟩ := h hsound
    have ⟨hfollows', hsound''⟩ := h' hsound'
    ⟨S.follows_trans hfollows hfollows', hsound''⟩

theorem maintains_of_same (hstore : w'.store = w.store) (htrace : w'.trace = w.trace)
    (hnonces : w'.nonces = w.nonces) (hothers : Q w.others → Q w'.others) :
    Maintains S limit Q w w' := by
  intro h
  refine ⟨hstore ▸ S.follows_refl _, ?_, h.wellFormed.congr hstore htrace hnonces, hothers h.others⟩
  exact hstore ▸ h.keeps

/-- An entry may be noted; an event only if its parties are known by usable ids. -/
theorem maintains_noted {e : Entry} (h : ∀ event, e = .deposited event → event.Usable) :
    Maintains S limit Q w (w.noted e) := by
  intro hsound
  have hwell := hsound.wellFormed
  refine ⟨S.follows_refl _, hsound.keeps, ⟨hwell.proofs, hwell.owners, ?_, hwell.nonces⟩,
    hsound.others⟩
  intro event hmem
  rcases List.mem_append.1 hmem with hold | hnew
  · exact hwell.events event hold
  · exact h event (List.mem_singleton.1 hnew).symm

/-- A usable signer may spend a nonce in the range of the schema. -/
theorem maintains_spent {who : String} {nonce : Nat} (hwho : KeyId.Usable who)
    (hnonce : nonce ≤ maxSafeInteger) :
    Maintains S limit Q w { w with nonces := w.nonces.insert who nonce } := by
  intro hsound
  have hwell := hsound.wellFormed
  refine ⟨S.follows_refl _, hsound.keeps, ⟨hwell.proofs, hwell.owners, hwell.events, ?_⟩,
    hsound.others⟩
  intro signer last hlast
  rw [Table.get?_insert] at hlast
  split at hlast
  · rename_i hsigner
    cases hlast
    exact ⟨hsigner ▸ hwho, hnonce⟩
  · exact hwell.nonces signer last hlast

/-- The store may be written if every claim is as it was or as it should be. -/
private theorem maintains_write {s : τ} (hfollows : S.Follows w.store s)
    (hkeeps : ∃ claims, S.Keeps s claims)
    (hclaims : ∀ f r, S.claim s f = some r →
      S.claim w.store f = some r ∨ f.length ≤ limit ∧ KeyId.Usable r.owner) :
    Maintains S limit Q w { w with store := s } := by
  intro hsound
  have hwell := hsound.wellFormed
  refine ⟨hfollows, hkeeps, ⟨fun f r h => ?_, fun f r h => ?_, hwell.events, hwell.nonces⟩,
    hsound.others⟩
  · exact (hclaims f r h).elim (hwell.proofs f r) And.left
  · exact (hclaims f r h).elim (hwell.owners f r) And.right

theorem ask_maintains (g : τ → Except Fault α) :
    Run.Respects (Maintains S limit Q) (StoreOps.ask (World.storeCell (ε := ε) (η := η)) g) :=
  fun _ => maintains_of_same rfl rfl rfl id

theorem insert_maintains {f : Fingerprint} {r : ClaimRecord} (hlength : f.length ≤ limit)
    (howner : KeyId.Usable r.owner) :
    Run.Respects (Maintains S limit Q)
      ((S.store (World.storeCell (ε := ε) (η := η))).insert f r) := by
  intro w
  show Maintains S limit Q w ((StoreOps.update World.storeCell fun s => S.insert s f r).exec w).2
  rw [StoreOps.exec_update]
  intro hsound
  obtain ⟨claims, hkeeps⟩ := hsound.keeps
  cases hinsert : S.insert (World.storeCell.get w) f r with
  -- The store refused the claim.
  | error e => exact ⟨S.follows_refl _, hsound⟩
  | ok s =>
    obtain ⟨hfollows, hclaim⟩ := S.insert_ok hinsert
    refine maintains_write hfollows ⟨_, S.insert_keeps hkeeps hinsert⟩ (fun g r' h => ?_) hsound
    rw [hclaim] at h
    split at h
    · -- The claim that was written is short enough, and its owner can act.
      rename_i hg
      cases h
      exact .inr ⟨hg ▸ hlength, howner⟩
    · -- All other claims were there before.
      exact .inl h

theorem remove_maintains (f : Fingerprint) :
    Run.Respects (Maintains S limit Q)
      ((S.store (World.storeCell (ε := ε) (η := η))).remove f) := by
  intro w
  show Maintains S limit Q w ((StoreOps.update World.storeCell fun s => S.remove s f).exec w).2
  rw [StoreOps.exec_update]
  intro hsound
  obtain ⟨claims, hkeeps⟩ := hsound.keeps
  obtain ⟨s, hremove, hkeeps'⟩ := S.remove_keeps hkeeps (f := f)
  have hremove' : S.remove (World.storeCell.get w) f = .ok s := hremove
  obtain ⟨hfollows, hclaim⟩ := S.remove_ok hremove
  rw [hremove']
  refine maintains_write hfollows ⟨_, hkeeps'⟩ (fun g r h => .inl ?_) hsound
  rw [hclaim] at h
  split at h
  · cases h
  · exact h

/-- A transaction keeps the registry well formed if its computation does: closing it keeps the
claims that the computation left, or gives back those of its start. -/
theorem transaction_maintains {body : Run (World τ ε η) α}
    (hbody : Run.Respects (Maintains S limit Q) body) :
    Run.Respects (Maintains S limit Q) ((S.store World.storeCell).transaction body) := by
  intro w hsound
  have hwell := hsound.wellFormed
  obtain ⟨claims, hkeeps⟩ := hsound.keeps
  obtain ⟨s, hopen, hopened⟩ := S.open_keeps hkeeps
  -- To open a transaction changes no claim.
  have hclaim (f : Fingerprint) : S.claim s f = S.claim w.store f := by
    rw [S.claim_eq hopened, S.claim_eq hkeeps]
  -- The computation begins with the same claims as the transaction.
  obtain ⟨hfollows, hsound'⟩ := hbody (World.storeCell.set s w)
    ⟨⟨claims, hopened⟩, ⟨fun f r h => hwell.proofs f r (hclaim f ▸ h),
      fun f r h => hwell.owners f r (hclaim f ▸ h), hwell.events, hwell.nonces⟩, hsound.others⟩
  have hwell' := hsound'.wellFormed
  show S.Follows w.store ((S.transaction World.storeCell body).exec w).2.store ∧
    World.Sound S limit Q ((S.transaction World.storeCell body).exec w).2
  rcases hexec : body.exec (World.storeCell.set s w) with ⟨outcome, w'⟩
  rw [hexec] at hfollows hsound' hwell'
  cases outcome with
  | error e =>
    -- Events and nonces of the computation stay, while its claims are taken back.
    obtain ⟨u, hended, hfollows', hu⟩ :=
      S.transaction_error World.storeCell hkeeps hopen hexec hfollows
    have hclaim' (f : Fingerprint) : S.claim u f = S.claim w.store f := by
      rw [S.claim_eq hu, S.claim_eq hkeeps]
    rw [hended]
    exact ⟨hfollows', ⟨claims, hu⟩, ⟨fun f r h => hwell.proofs f r (hclaim' f ▸ h),
      fun f r h => hwell.owners f r (hclaim' f ▸ h), hwell'.events, hwell'.nonces⟩, hsound'.others⟩
  | ok a =>
    -- The claims of the computation are committed, and they are well-formed like all the rest.
    obtain ⟨u, hended, hfollows', hu⟩ :=
      S.transaction_ok World.storeCell hkeeps hopen hexec hfollows
    obtain ⟨claims', hkeeps'⟩ := hsound'.keeps
    have hclaim' (f : Fingerprint) : S.claim u f = S.claim w'.store f := by
      rw [S.claim_eq (hu claims' hkeeps'), S.claim_eq hkeeps']
    rw [hended]
    exact ⟨hfollows', ⟨claims', hu claims' hkeeps'⟩,
      ⟨fun f r h => hwell'.proofs f r (hclaim' f ▸ h),
        fun f r h => hwell'.owners f r (hclaim' f ▸ h), hwell'.events, hwell'.nonces⟩,
      hsound'.others⟩

end Maintains

/-! ## Calls -/

section Calls

/-- A client keeps a relation if the calls that it makes do. -/
def Client.Heeds (R : World τ ε η → World τ ε η → Prop) (client : Client τ ε η α) : Prop :=
  ∀ g : Gate (World τ ε η), g.Respects R → Run.Respects R (client.run g)

/-- So do all clients that a registry has. -/
structure Collaborators.Heed (R : World τ ε η → World τ ε η → Prop) (c : Collaborators τ ε η) :
    Prop where
  now : c.now.Heeds R
  deposit : ∀ event, (c.deposit event).Heeds R
  serviceCount : ∀ name tags, (c.serviceReporters.count name tags).Heeds R
  serviceLog : ∀ level text context, (c.serviceReporters.log level text context).Heeds R
  dispatcherCount : ∀ name tags, (c.dispatcherReporters.count name tags).Heeds R
  dispatcherLog : ∀ level text context, (c.dispatcherReporters.log level text context).Heeds R

variable {S : FaithfulStore τ} {Q : η → Prop} {c : Collaborators τ ε η}
  {g : Gate (World τ ε η)} (hc : c.Heed (Maintains S c.proofLimit Q))
  (hg : g.Respects (Maintains S c.proofLimit Q))
include hc hg

/-- A claim may be stamped for a usable owner if its fingerprint is not too long. -/
private theorem stamp_maintains {proof : Fingerprint} {owner : Identity}
    (hlength : proof.length ≤ c.proofLimit) (howner : KeyId.Usable owner) :
    Run.Respects (Maintains S c.proofLimit Q)
      ((c.service (S.store World.storeCell) g).stamp proof owner) :=
  Run.respects_bind (hc.now g hg) fun _ => insert_maintains hlength howner

/-- The sink may be given an event whose parties are known by usable ids. -/
private theorem deposit_maintains {event : ClaimEvent} (h : event.Usable) :
    Run.Respects (Maintains S c.proofLimit Q)
      ((c.service (S.store World.storeCell) g).deposit event) := by
  refine Run.respects_bind (fun w => maintains_noted fun event' heq => ?_) fun _ =>
    hc.deposit event g hg
  cases heq
  exact h

private theorem createBody_maintains {origin : Origin} (proof : Fingerprint)
    (hwho : ∀ who, origin = .signed who → KeyId.Usable who) :
    Run.Respects (Maintains S c.proofLimit Q)
      ((c.service (S.store World.storeCell) g).createBody origin proof) := by
  unfold ClaimService.createBody
  cases origin with
  -- Only a signed call has a caller.
  | root | none => exact Run.respects_pure _ _
  | signed who =>
    simp only [Origin.caller]
    split
    · -- The fingerprint is too long.
      exact Run.respects_pure _ _
    · rename_i hlength
      refine Run.respects_bind (ask_maintains _) fun claimed => ?_
      cases claimed with
      -- The fingerprint is claimed already.
      | true => exact Run.respects_pure _ _
      | false =>
        refine Run.respects_bind
          (stamp_maintains hc hg (Nat.not_lt.1 hlength) (hwho who rfl)) fun _ => ?_
        have hevent : (ClaimEvent.created who proof).Usable :=
          ⟨hwho who rfl, fun _ h => by cases h⟩
        exact Run.respects_bind (deposit_maintains hc hg hevent) fun _ => Run.respects_pure _ _

omit hc hg in
/-- Checking the owner only reads. -/
private theorem checkOwner_maintains (proof : Fingerprint) (caller : Identity) :
    Run.Respects (Maintains S c.proofLimit Q)
      ((c.service (S.store World.storeCell) g).checkOwner proof caller) := by
  refine Run.respects_bind (ask_maintains _) fun claim => ?_
  cases claim <;> exact Run.respects_pure _ _

omit hc hg in
/-- Whoever passes the check owns a claim, so its fingerprint is not too long. -/
private theorem length_le_of_checkOwner {w w' : World τ ε η} {proof : Fingerprint}
    {caller : Identity} (hsound : w.Sound S c.proofLimit Q)
    (h : ((c.service (S.store World.storeCell) g).checkOwner proof caller).exec w =
      (.ok (.ok ()), w')) : proof.length ≤ c.proofLimit := by
  obtain ⟨claim, w₁, hget, hcheck⟩ := Run.exec_bind_eq_ok h
  have hfound : S.get w.store proof = .ok claim := congrArg Prod.fst hget
  cases claim with
  | none => cases hcheck
  | some r => exact hsound.wellFormed.proofs proof r (S.get_ok hfound).symm

private theorem revokeBody_maintains {origin : Origin} (proof : Fingerprint)
    (hwho : ∀ who, origin = .signed who → KeyId.Usable who) :
    Run.Respects (Maintains S c.proofLimit Q)
      ((c.service (S.store World.storeCell) g).revokeBody origin proof) := by
  unfold ClaimService.revokeBody
  cases origin with
  | root | none => exact Run.respects_pure _ _
  | signed who =>
    refine Run.respects_bind (checkOwner_maintains proof who) fun check => ?_
    cases check with
    | error e => exact Run.respects_pure _ _
    | ok _ =>
      refine Run.respects_bind (remove_maintains proof) fun _ => ?_
      have hevent : (ClaimEvent.revoked who proof).Usable :=
        ⟨hwho who rfl, fun _ h => by cases h⟩
      exact Run.respects_bind (deposit_maintains hc hg hevent) fun _ => Run.respects_pure _ _

private theorem transferBody_maintains {origin : Origin} (proof : Fingerprint) {dest : Identity}
    (hwho : ∀ who, origin = .signed who → KeyId.Usable who) (hdest : KeyId.Usable dest) :
    Run.Respects (Maintains S c.proofLimit Q)
      ((c.service (S.store World.storeCell) g).transferBody origin proof dest) := by
  unfold ClaimService.transferBody
  cases origin with
  -- Only a signed call has a caller.
  | root | none => exact Run.respects_pure _ _
  | signed who =>
    intro w hsound
    -- What bounds the length is found out here, before the clock may call back.
    refine Run.rel_bind (R := Maintains S c.proofLimit Q) (checkOwner_maintains proof who w)
      (fun check w' hexec => ?_) hsound
    cases check with
    -- The caller is not the owner.
    | error e => exact Run.respects_pure _ _ w'
    | ok _ =>
      have hlength := length_le_of_checkOwner hsound hexec
      have hevent : (ClaimEvent.transferred who proof dest).Usable :=
        ⟨hwho who rfl, fun _ h => Option.some.inj h ▸ hdest⟩
      refine Run.respects_bind (stamp_maintains hc hg hlength hdest) (fun _ => ?_) w'
      exact Run.respects_bind (deposit_maintains hc hg hevent) fun _ => Run.respects_pure _ _

/-- The service keeps the registry well formed if the parties of a call are known by usable ids. -/
theorem carryOut_maintains {origin : Origin} {call : Call}
    (hwho : ∀ who, origin = .signed who → KeyId.Usable who)
    (hdest : ∀ dest, call.action.dest? = some dest → KeyId.Usable dest) :
    Run.Respects (Maintains S c.proofLimit Q)
      ((c.service (S.store World.storeCell) g).carryOut origin call) := by
  rw [ClaimService.carryOut_eq]
  cases Hex.decode? call.proof with
  | none => exact Run.respects_throw _ _
  | some proof =>
    refine Run.respects_bind (transaction_maintains ?_) fun answer => ?_
    · cases haction : call.action with
      | create => exact createBody_maintains hc hg proof hwho
      | revoke => exact revokeBody_maintains hc hg proof hwho
      | transfer dest =>
        exact transferBody_maintains hc hg proof hwho (hdest dest (by rw [haction]; rfl))
    · refine Run.respects_bind (ClaimService.respects_report ?_ ?_ _ _ _) fun _ =>
        Run.respects_pure _ _
      · exact fun name tags => hc.serviceCount name tags g hg
      · exact fun level text context => hc.serviceLog level text context g hg

private theorem reports_maintain :
    (c.dispatcher (S.store World.storeCell) g).Reports (Maintains S c.proofLimit Q) where
  audit _ := fun _ => maintains_of_same rfl rfl rfl id
  count name tags := hc.dispatcherCount name tags g hg
  log level text context := hc.dispatcherLog level text context g hg

private theorem handOver_maintains {origin : Origin} {call : Call}
    (hwho : ∀ who, origin = .signed who → KeyId.Usable who)
    (hdest : ∀ dest, call.action.dest? = some dest → KeyId.Usable dest) :
    Run.Respects (Maintains S c.proofLimit Q)
      ((c.dispatcher (S.store World.storeCell) g).handOver origin call) :=
  Run.respects_bind (fun _ => maintains_noted nofun) fun _ => carryOut_maintains hc hg hwho hdest

/-- An envelope is handed over only if the ids that it names are canonical. -/
private theorem dispatchEnvelope_maintains {e : Envelope} (hnonce : e.call.nonce ≤ maxSafeInteger) :
    Run.Respects (Maintains S c.proofLimit Q)
      ((c.dispatcher (S.store World.storeCell) g).dispatchEnvelope e) := by
  have hreports := reports_maintain hc hg
  cases hids : Dispatcher.checkIds e with
  -- An id is malformed, so nothing but the report is done.
  | error reason =>
    unfold Dispatcher.dispatchEnvelope
    rw [hids]
    exact Dispatcher.respects_reject hreports _ _ _
  | ok _ =>
    obtain ⟨hsigner, hdest⟩ := Dispatcher.checkIds_eq_ok_iff.1 hids
    have hdest' (dest : Identity) (h : e.call.action.dest? = some dest) : KeyId.Usable dest :=
      KeyId.usable_of_isCanonical (hdest dest h)
    intro w
    refine Dispatcher.rel_dispatchEnvelope hreports (Std.Refl.refl w) (fun k hk _ _ => ?_)
      fun _ => ?_
    · -- The signer of a signed call can act, and the nonce is within the schema.
      have husable : KeyId.Usable k.signer :=
        KeyId.usable_of_isCanonical (hsigner k.signer (congrArg (Option.map _) hk))
      refine IsTrans.trans _ _ _ (maintains_spent husable hnonce) ?_
      exact handOver_maintains hc hg (fun who h => Origin.signed.inj h ▸ husable) hdest' _
    · -- A call that nobody has signed spends no nonce.
      have hnobody (who : Identity) (h : Origin.none = .signed who) : KeyId.Usable who := nomatch h
      exact handOver_maintains hc hg hnobody hdest' w

omit hg in
/-- If the calls that collaborators make keep the registry well formed, so do the requests that lead
to them. -/
private theorem gateOver_maintains (g : Gate (World τ ε η))
    (hg : g.Respects (Maintains S c.proofLimit Q)) :
    (c.gateOver (S.store World.storeCell) g).Respects (Maintains S c.proofLimit Q) where
  dispatch r := by
    refine Run.respects_bind (fun _ => maintains_noted nofun) fun _ w => ?_
    refine Dispatcher.rel_dispatchOn (reports_maintain hc hg) r (Std.Refl.refl w) fun e he => ?_
    exact dispatchEnvelope_maintains hc hg (Request.nonce_le he) w
  nextNonce _ := fun _ => maintains_noted nofun

omit hg in
/-- At every depth calls keep the registry well formed. -/
theorem gate_maintains (depth : Nat) :
    (c.gate (S.store World.storeCell) depth).Respects (Maintains S c.proofLimit Q) :=
  Collaborators.respects_gate (gateOver_maintains hc) depth

end Calls

/-! ## Runs -/

section Runs

variable (S : FaithfulStore τ)

/-- A registry without claims in which nothing has happened is sound. -/
theorem sound_fresh {limit : Nat} {Q : η → Prop} {store : τ} (hempty : S.Keeps store .empty)
    (audit : AuditLog) (sink : ε) {others : η} (hothers : Q others) :
    (World.fresh store audit sink others).Sound S limit Q := by
  have hnone (f : Fingerprint) (r : ClaimRecord) : S.claim store f ≠ some r := by
    rw [S.claim_eq hempty]
    exact nofun
  exact ⟨⟨.empty, hempty⟩, ⟨fun f r h => absurd h (hnone f r), fun f r h => absurd h (hnone f r),
    nofun, nofun⟩, hothers⟩

/-- Clients that may keep anything keep a sound registry sound. -/
private theorem heeds_maintains {limit : Nat} (client : Client τ ε η α) :
    client.Heeds (Maintains S limit fun _ => True) :=
  fun _ hg => Client.respects_run hg (fun _ _ _ => maintains_of_same rfl rfl rfl id) client

/-- In every run that begins without claims, the store stays open and keeps finitely many claims. -/
theorem exists_keeps_of_run (c : Collaborators τ ε η) (depth : Nat) {store : τ}
    (hempty : S.Keeps store .empty) (audit : AuditLog) (sink : ε) (others : η)
    (moves : List (Move ε η)) :
    ∃ claims, S.Keeps ((c.gate (S.store World.storeCell) depth).run
      (.fresh store audit sink others) moves).store claims := by
  have hc : c.Heed (Maintains S c.proofLimit fun _ => True) :=
    ⟨heeds_maintains S _, fun _ => heeds_maintains S _, fun _ _ => heeds_maintains S _,
      fun _ _ _ => heeds_maintains S _, fun _ _ => heeds_maintains S _,
      fun _ _ _ => heeds_maintains S _⟩
  have hrun := Gate.rel_run (gate_maintains hc depth)
    (fun _ _ _ => maintains_of_same rfl rfl rfl id) (.fresh store audit sink others) moves
  exact (hrun (sound_fresh S hempty audit sink trivial)).2.keeps

end Runs

/-! ## Watched runs -/

/-- The world without what its watchers note. -/
def World.unwatched (w : World τ ε (η × Prop)) : World τ ε η := { w with others := w.others.1 }

namespace Client

variable (P : World τ ε η → Prop)

/-- Note whether the world has a property, and go on. -/
def noting (next : Client τ ε (η × Prop) α) : Client τ ε (η × Prop) α :=
  .look fun w => .keep w.sink (w.others.1, w.others.2 ∧ P w.unwatched) next

/-- The client that notes before each of its steps whether the world has a property. -/
def watched : Client τ ε η α → Client τ ε (η × Prop) α
  | done outcome => noting P (.done outcome)
  | look next => noting P (.look fun w => (next w.unwatched).watched)
  | keep sink others next =>
    noting P (.look fun w => .keep sink (others, w.others.2) next.watched)
  | dispatch r next => noting P (.dispatch r fun answer => (next answer).watched)
  | nextNonce signer next => noting P (.nextNonce signer fun answer => (next answer).watched)

end Client

def Reporters.watched (P : World τ ε η → Prop) (r : Reporters τ ε η) :
    Reporters τ ε (η × Prop) where
  count name tags := (r.count name tags).watched P
  log level text context := (r.log level text context).watched P

namespace Collaborators

variable (c : Collaborators τ ε η) (P : World τ ε η → Prop)

/-- The collaborators with all their clients watched. -/
def watched : Collaborators τ ε (η × Prop) where
  now := c.now.watched P
  deposit event := (c.deposit event).watched P
  proofLimit := c.proofLimit
  verify := c.verify
  serviceReporters := c.serviceReporters.watched P
  dispatcherReporters := c.dispatcherReporters.watched P

/-- The world that a program leads to, with it and all collaborators watched. -/
def watchedRun (store : ClaimStore (World τ ε (η × Prop))) (depth : Nat) (program : Client τ ε η α)
    (w : World τ ε η) : World τ ε (η × Prop) :=
  (((program.watched P).run ((c.watched P).gate store depth)).exec
    { w with others := (w.others, True) }).2

end Collaborators

section Watched

variable {S : FaithfulStore τ} {limit : Nat}

/-- To note that the registry is well formed keeps the notes good. -/
private theorem noting_heeds {next : Client τ ε (η × Prop) α}
    (h : next.Heeds (Maintains S limit Prod.snd)) :
    (Client.noting (World.WellFormed S.toTransactionalStore limit) next).Heeds
      (Maintains S limit Prod.snd) := by
  intro g hg w
  refine IsTrans.trans _ _ _ (fun hsound => ?_) (h g hg _)
  refine maintains_of_same rfl rfl rfl (fun hgood => ?_) hsound
  exact ⟨hgood, hsound.wellFormed.congr rfl rfl rfl⟩

private theorem watched_heeds (client : Client τ ε η α) :
    (client.watched (World.WellFormed S.toTransactionalStore limit)).Heeds
      (Maintains S limit Prod.snd) := by
  induction client with
  | done outcome => exact noting_heeds fun g hg => Run.respects_ofExcept _ outcome
  -- A program that looks at the world sees no more than before it was watched.
  | look next ih =>
    refine noting_heeds fun g hg => ?_
    exact Run.respects_bind (fun w => Std.Refl.refl w) fun w => ih w.unwatched g hg
  | keep sink others next ih =>
    -- What a program keeps is none of the registry.
    refine noting_heeds fun g hg w => ?_
    let w' : World τ ε (η × Prop) := { w with sink := sink, others := (others, w.others.2) }
    have hkept : Maintains S limit Prod.snd w w' := maintains_of_same rfl rfl rfl id
    exact IsTrans.trans _ _ _ hkept (ih g hg w')
  | dispatch r next ih =>
    refine noting_heeds fun g hg => ?_
    exact Run.respects_bind (Run.respects_observe (hg.dispatch r)) fun answer => ih answer g hg
  | nextNonce signer next ih =>
    refine noting_heeds fun g hg => ?_
    exact Run.respects_bind (Run.respects_observe (hg.nextNonce signer)) fun answer =>
      ih answer g hg

variable (S) in
/-- Whatever is seen in a run that begins without claims is well formed, and so is its end. -/
private theorem watchedRun_wellFormed (c : Collaborators τ ε η) (depth : Nat) {store : τ}
    (hempty : S.Keeps store .empty) (audit : AuditLog) (sink : ε) (others : η)
    (program : Client τ ε η α) :
    let wellFormed := World.WellFormed S.toTransactionalStore c.proofLimit
    let w := c.watchedRun wellFormed (S.store World.storeCell) depth program
      (.fresh store audit sink others)
    w.others.2 ∧ wellFormed w.unwatched := by
  intro wellFormed w
  have hc : (c.watched wellFormed).Heed
      (Maintains S (c.watched wellFormed).proofLimit Prod.snd) :=
    ⟨watched_heeds _, fun _ => watched_heeds _, fun _ _ => watched_heeds _,
      fun _ _ _ => watched_heeds _, fun _ _ => watched_heeds _, fun _ _ _ => watched_heeds _⟩
  have hrun := watched_heeds program _ (gate_maintains hc depth)
    (.fresh store audit sink (others, True))
  obtain ⟨-, hsound⟩ := hrun (sound_fresh S hempty audit sink trivial)
  exact ⟨hsound.others, hsound.wellFormed.congr rfl rfl rfl⟩

end Watched

/-- On both stores, without claims at first, with collaborators that may fail and call back at any
time, and for every program that dispatches requests: the registry is well formed at every point at
which the program or a collaborator looks at it, and at the end. -/
theorem registry_wellFormed (depth : Nat) (audit : AuditLog) (sink : ε) (others : η) :
    (∀ (c : Collaborators UndoStore ε η) (program : Client UndoStore ε η α),
      let wellFormed := World.WellFormed UndoStore.transactional c.proofLimit
      let w := c.watchedRun wellFormed (UndoStore.store World.storeCell) depth program
        (.fresh (.ofClaims .empty) audit sink others)
      w.others.2 ∧ wellFormed w.unwatched) ∧
    ∀ (c : Collaborators SavepointStore ε η) (program : Client SavepointStore ε η α),
      let wellFormed := World.WellFormed SavepointStore.transactional c.proofLimit
      let w := c.watchedRun wellFormed (SavepointStore.store World.storeCell) depth program
        (.fresh (.ofClaims .empty) audit sink others)
      w.others.2 ∧ wellFormed w.unwatched := by
  refine ⟨fun c program => ?_, fun c program => ?_⟩
  · have hstore : UndoStore.store World.storeCell =
        UndoStore.faithful.store (World.storeCell (ε := ε) (η := η × Prop)) := rfl
    rw [hstore]
    exact watchedRun_wellFormed UndoStore.faithful c depth (UndoStore.represents_ofClaims .empty)
      audit sink others program
  · rw [SavepointStore.store_eq]
    exact watchedRun_wellFormed SavepointStore.faithful c depth
      (SavepointStore.keeps_ofClaims .empty) audit sink others program

end ProofOfExistence
