import ProofOfExistence.Proofs.FaithfulStores
import ProofOfExistence.Proofs.Lifecycle
import ProofOfExistence.Proofs.RegistryRuns
import ProofOfExistence.Proofs.ServiceParts

/-!
# Runs of a claim service whose collaborators use its store and call back

A `Setting` holds a store and what the collaborators of the service on it keep for themselves.  A
collaborator is a `ServiceProgram`: it reads and writes the store, opens transactions, calls the
service, catches or passes on the faults of all these, and ends with a value or a fault.  So a sink
may do anything to the store, and make any calls, while the call that made the event is still in
progress, to any depth.  Whoever uses the service is such a program, too.

Each setting notes what happens in it, in order.  A call notes its reports and the faults of its
collaborators at its level, which is the room that is left on the stack for calls within it.

## Key results

- `ServiceProgram.run_related`, `Partners.serve_related`: programs and calls of every depth are
  related on two storages if what can be done with the storages is
-/

namespace ProofOfExistence

variable {σ τ τ' κ α β : Type}

/-- Have the service answer a request. -/
def ClaimService.serve (s : ClaimService σ) : ClaimRequest → Run σ ClaimReply
  | .create origin proof => .ended <$> s.create origin proof
  | .revoke origin proof => .ended <$> s.revoke origin proof
  | .transfer origin proof dest => .ended <$> s.transfer origin proof dest
  | .claim proof => .found <$> s.claim proof

/-- Answering a request respects what all collaborators respect. -/
theorem ClaimService.respects_serve {s : ClaimService σ} {R : σ → σ → Prop} [IsPreorder σ R]
    (hs : s.Respects R) (r : ClaimRequest) : Run.Respects R (s.serve r) := by
  have hcomposes := Run.composes_respects R
  cases r with
  | create origin proof => exact Run.respects_map (create_related hcomposes hs.related _ _) _
  | revoke origin proof => exact Run.respects_map (revoke_related hcomposes hs.related _ _) _
  | transfer origin proof dest =>
    exact Run.respects_map (transfer_related hcomposes hs.related _ _ _) _
  | claim proof => exact Run.respects_map (hs.get proof) _

/-! ## Settings -/

/-- One thing to do with a store or with the service on it. -/
inductive StoreStep where
  | get (f : Fingerprint)
  | contains (f : Fingerprint)
  | insert (f : Fingerprint) (r : ClaimRecord)
  | remove (f : Fingerprint)
  | size
  | call (r : ClaimRequest)

/-- What a step is answered. -/
inductive StepAnswer where
  | claim (r : Option ClaimRecord)
  | claimed (b : Bool)
  | written
  | size (n : Option Nat)
  | replied (reply : ClaimReply)

/-- If a step writes a claim by itself, its time is in a set. -/
def StoreStep.TimesIn (T : Number → Prop) : StoreStep → Prop
  | insert _ r => T r.registeredAt
  | _ => True

/-- What happens in a setting. -/
inductive Occurrence where
  /-- A step was answered or failed, and then the store had a size. -/
  | answered (s : StoreStep) (answer : Except Fault StepAnswer) (size : Option Nat)
  /-- A transaction was closed, with a fault or without, and then the store had a size. -/
  | closed (fault : Option Fault) (size : Option Nat)
  /-- An event was deposited in the sink. -/
  | deposited (event : ClaimEvent)
  /-- A collaborator of the call at a level raised a fault. -/
  | raised (level : Nat) (e : Fault)
  /-- The call at a level was counted. -/
  | counted (level : Nat) (name : Utf16) (tags : Tags)
  /-- The call at a level was logged. -/
  | logged (level : Nat) (severity : LogLevel) (text : String) (context : LogContext)

/-- Only calls below a level report anything. -/
def Occurrence.ReportsBelow (level : Nat) : Occurrence → Prop
  | counted l _ _ | logged l _ _ _ => l < level
  | _ => True

theorem Occurrence.ReportsBelow.mono {o : Occurrence} {level level' : Nat}
    (h : o.ReportsBelow level) (hle : level ≤ level') : o.ReportsBelow level' := by
  cases o with
  | counted | logged => exact Nat.lt_of_lt_of_le h hle
  | _ => trivial

/-- A store and its surroundings. -/
structure Setting (τ κ : Type) where
  store : τ
  /-- What the collaborators keep. -/
  own : κ
  /-- What happened so far. -/
  trace : List Occurrence

namespace Setting

/-- The place of the store. -/
def storeCell : Cell (Setting τ κ) τ := ⟨Setting.store, fun s w => { w with store := s }⟩

/-- The place of what the collaborators keep. -/
def ownCell : Cell (Setting τ κ) κ := ⟨Setting.own, fun k w => { w with own := k }⟩

/-- A setting in which nothing has happened. -/
def fresh (store : τ) (own : κ) : Setting τ κ := ⟨store, own, []⟩

/-- The setting with one more occurrence. -/
def noted (w : Setting τ κ) (o : Occurrence) : Setting τ κ := { w with trace := w.trace ++ [o] }

/-- Note what happens. -/
def note (o : Occurrence) : Run (Setting τ κ) Unit := modifyThe (Setting τ κ) fun w => w.noted o

@[simp] theorem exec_note (o : Occurrence) (w : Setting τ κ) :
    (note o).exec w = (.ok (), w.noted o) :=
  rfl

/-- Note a fault that a collaborator of the call at a level raises, and pass it on. -/
def watched (level : Nat) (body : Run (Setting τ κ) α) : Run (Setting τ κ) α := do
  match ← Run.observe body with
  | .ok a => return a
  | .error e =>
    note (.raised level e)
    throw e

theorem exec_watched (level : Nat) (body : Run (Setting τ κ) α) (w : Setting τ κ) :
    (watched level body).exec w =
      match body.exec w with
      | (.ok a, w') => (.ok a, w')
      | (.error e, w') => (.error e, w'.noted (.raised level e)) := by
  unfold watched
  rw [Run.exec_bind, Run.exec_observe]
  rcases body.exec w with ⟨_ | a, w'⟩ <;> rfl

/-- A watched computation raises only faults of its own, and they are noted. -/
theorem exec_watched_eq_ok {level : Nat} {body : Run (Setting τ κ) α} {w w' : Setting τ κ} {a : α}
    (h : (watched level body).exec w = (.ok a, w')) : body.exec w = (.ok a, w') := by
  rw [exec_watched] at h
  rcases hbody : body.exec w with ⟨_ | _, w₁⟩ <;> rw [hbody] at h <;> cases h
  rfl

theorem exec_watched_eq_error {level : Nat} {body : Run (Setting τ κ) α} {w w' : Setting τ κ}
    {e : Fault} (h : (watched level body).exec w = (.error e, w')) :
    ∃ w₁, body.exec w = (.error e, w₁) ∧ w' = w₁.noted (.raised level e) := by
  rw [exec_watched] at h
  rcases hbody : body.exec w with ⟨_ | _, w₁⟩ <;> rw [hbody] at h <;> cases h
  exact ⟨w₁, rfl, rfl⟩

end Setting

/-- A store in a setting, and how to tell the number of its claims, none if it is closed. -/
structure Storage (τ κ : Type) where
  store : ClaimStore (Setting τ κ)
  size? : τ → Option Nat

/-- The number of claims in the store. -/
def Storage.measure (K : Storage τ κ) : Run (Setting τ κ) (Option Nat) := do
  return K.size? (← Setting.storeCell.read)

/-- The storage that a faithful store makes. -/
def FaithfulStore.storage (S : FaithfulStore τ) : Storage τ κ :=
  ⟨S.store Setting.storeCell, S.size?⟩

/-- The storage that the store with undo logs makes. -/
def UndoStore.storage : Storage UndoStore κ :=
  ⟨UndoStore.store Setting.storeCell, fun s => some s.size⟩

/-- The storage that the durable store makes. -/
def SavepointStore.storage : Storage SavepointStore κ :=
  ⟨SavepointStore.store Setting.storeCell, SavepointStore.count?⟩

theorem UndoStore.storage_eq : (storage : Storage UndoStore κ) = faithful.storage := rfl

theorem SavepointStore.storage_eq :
    (storage : Storage SavepointStore κ) = faithful.storage := by
  rw [storage, store_eq]
  rfl

/-! ## Programs -/

/-- A program that uses a store and the service on it.  The times that it writes by itself are in
the set `T`. -/
inductive ServiceProgram (T : Number → Prop) (κ α : Type) where
  | done (outcome : Except Fault α)
  | look (next : κ → ServiceProgram T κ α)
  | keep (own : κ) (next : ServiceProgram T κ α)
  | step (s : StoreStep) (times : s.TimesIn T)
    (next : Except Fault StepAnswer → ServiceProgram T κ α)
  /-- Run `body` in a transaction.  The program decides with the outcome how it goes on. -/
  | transaction (body : ServiceProgram T κ α) (next : Except Fault α → ServiceProgram T κ α)

/-- The set of all times. -/
def AnyTime : Number → Prop := fun _ => True

section Run

variable (K : Storage τ κ) (serve : ClaimRequest → Run (Setting τ κ) ClaimReply)

/-- Carry out a step. -/
def StoreStep.perform : StoreStep → Run (Setting τ κ) StepAnswer
  | get f => .claim <$> K.store.get f
  | contains f => .claimed <$> K.store.contains f
  | insert f r => (fun _ => .written) <$> K.store.insert f r
  | remove f => (fun _ => .written) <$> K.store.remove f
  | size => .size <$> K.measure
  | call r => .replied <$> serve r

/-- Run a program on a storage, with a service that answers its requests. -/
def ServiceProgram.run {T : Number → Prop} : ServiceProgram T κ α → Run (Setting τ κ) α
  | done outcome => Run.ofExcept outcome
  | look next => do (next (← Setting.ownCell.read)).run
  | keep own next => do
    Setting.ownCell.write own
    next.run
  | step s _ next => do
    let answer ← Run.observe (s.perform K serve)
    Setting.note (.answered s answer (← K.measure))
    (next answer).run
  | transaction body next => do
    let outcome ← Run.observe (K.store.transaction body.run)
    let fault := match outcome with
      | .ok _ => none
      | .error e => some e
    Setting.note (.closed fault (← K.measure))
    (next outcome).run

end Run

/-! ## The service -/

/-- The collaborators of a service. -/
structure Partners (T : Number → Prop) (κ : Type) where
  now : ServiceProgram T κ { t // T t }
  deposit : ClaimEvent → ServiceProgram T κ Unit
  proofLimit : Nat
  count : Utf16 → Tags → ServiceProgram T κ Unit
  log : LogLevel → String → LogContext → ServiceProgram T κ Unit

namespace Partners

variable {T : Number → Prop} (P : Partners T κ) (K : Storage τ κ)

/-- The service for the call at a level, whose collaborators' own requests are answered by
`serve`. -/
def service (level : Nat) (serve : ClaimRequest → Run (Setting τ κ) ClaimReply) :
    ClaimService (Setting τ κ) where
  store :=
    { get := fun f => Setting.watched level (K.store.get f)
      contains := fun f => Setting.watched level (K.store.contains f)
      insert := fun f r => Setting.watched level (K.store.insert f r)
      remove := fun f => Setting.watched level (K.store.remove f)
      transaction := K.store.transaction }
  now := Subtype.val <$> Setting.watched level (P.now.run K serve)
  deposit event := do
    Setting.note (.deposited event)
    Setting.watched level ((P.deposit event).run K serve)
  proofLimit := P.proofLimit
  count name tags := do
    Setting.note (.counted level name tags)
    (P.count name tags).run K serve
  log severity text context := do
    Setting.note (.logged level severity text context)
    (P.log severity text context).run K serve

/-- Have the service answer a request, with room for calls within calls to a depth. -/
def serve : Nat → ClaimRequest → Run (Setting τ κ) ClaimReply
  | 0, _ => throw Collaborators.stackFault
  | depth + 1, r => (P.service K depth (serve depth)).serve r

variable {P} {S : FaithfulStore τ} {level : Nat} {w : Setting τ κ} {claims : Claims}
  {serve : ClaimRequest → Run (Setting τ κ) ClaimReply}

/-- A store that keeps claims answers what they say. -/
theorem exec_get (h : S.Keeps w.store claims) (f : Fingerprint) :
    ((P.service S.storage level serve).store.get f).exec w = (.ok (claims.get? f), w) := by
  have hget : (S.storage.store.get f).exec w = (.ok (claims.get? f), w) :=
    congrArg (·, w) (S.get_eq h f)
  show (Setting.watched level (S.storage.store.get f)).exec w = _
  rw [Setting.exec_watched, hget]

theorem exec_contains (h : S.Keeps w.store claims) (f : Fingerprint) :
    ((P.service S.storage level serve).store.contains f).exec w = (.ok (claims.contains f), w) := by
  have hcontains : (S.storage.store.contains f).exec w = (.ok (claims.contains f), w) :=
    congrArg (·, w) (S.contains_eq h f)
  show (Setting.watched level (S.storage.store.contains f)).exec w = _
  rw [Setting.exec_watched, hcontains]

end Partners

/-! ## Runs on two storages -/

/-- What can be done with two storages is related, and so is what else programs are made of.  Only
certain occurrences are noted. -/
structure Storage.Related (T : Number → Prop) (admits : Occurrence → Prop)
    (Ψ : (α : Type) → Run (Setting τ κ) α → Run (Setting τ' κ) α → Prop) (K : Storage τ κ)
    (K' : Storage τ' κ) : Prop extends Run.Composes Ψ where
  throw : ∀ {α : Type} (e : Fault), Ψ α (throw e) (throw e)
  observe : ∀ {α : Type} {x : Run (Setting τ κ) α} {y : Run (Setting τ' κ) α}, Ψ α x y →
    Ψ _ (Run.observe x) (Run.observe y)
  look : Ψ _ Setting.ownCell.read Setting.ownCell.read
  keep : ∀ own, Ψ _ (Setting.ownCell.write own) (Setting.ownCell.write own)
  note : ∀ o, admits o → Ψ _ (Setting.note o) (Setting.note o)
  measure : Ψ _ K.measure K'.measure
  get : ∀ f, Ψ _ (K.store.get f) (K'.store.get f)
  contains : ∀ f, Ψ _ (K.store.contains f) (K'.store.contains f)
  insert : ∀ f r, T r.registeredAt → Ψ _ (K.store.insert f r) (K'.store.insert f r)
  remove : ∀ f, Ψ _ (K.store.remove f) (K'.store.remove f)
  transaction : ∀ {α : Type} {x : Run (Setting τ κ) α} {y : Run (Setting τ' κ) α}, Ψ α x y →
    Ψ α (K.store.transaction x) (K'.store.transaction y)

section Related

variable {T : Number → Prop} {admits : Occurrence → Prop}
  {Ψ : (α : Type) → Run (Setting τ κ) α → Run (Setting τ' κ) α → Prop} {K : Storage τ κ}
  {K' : Storage τ' κ} (h : K.Related T admits Ψ K')
  {serve : ClaimRequest → Run (Setting τ κ) ClaimReply}
  {serve' : ClaimRequest → Run (Setting τ' κ) ClaimReply}
include h

theorem StoreStep.perform_related (hserve : ∀ r, Ψ _ (serve r) (serve' r)) (s : StoreStep)
    (htimes : s.TimesIn T) : Ψ _ (s.perform K serve) (s.perform K' serve') := by
  cases s with
  | get f => exact h.map (h.get f) _
  | contains f => exact h.map (h.contains f) _
  | insert f r => exact h.map (h.insert f r htimes) _
  | remove f => exact h.map (h.remove f) _
  | size => exact h.map h.measure _
  | call r => exact h.map (hserve r) _

theorem Storage.Related.watched {level : Nat} (hadmits : ∀ e, admits (.raised level e))
    {x : Run (Setting τ κ) α} {y : Run (Setting τ' κ) α} (hxy : Ψ α x y) :
    Ψ α (Setting.watched level x) (Setting.watched level y) := by
  refine h.bind (h.observe hxy) fun outcome => ?_
  cases outcome with
  | ok a => exact h.pure a
  | error e => exact h.bind (h.note _ (hadmits e)) fun _ => h.throw e

variable (hadmits : ∀ o : Occurrence, o.ReportsBelow 0 → admits o)
  (hserve : ∀ r, Ψ _ (serve r) (serve' r))
include hadmits hserve

/-- A program runs alike on two storages if the service answers its requests alike. -/
theorem ServiceProgram.run_related (p : ServiceProgram T κ α) :
    Ψ _ (p.run K serve) (p.run K' serve') := by
  -- Induction on the program; what fails is observed, so the program goes on.
  induction p with
  | done outcome =>
    cases outcome with
    | ok a => exact h.pure a
    | error e => exact h.throw e
  | look next ih => exact h.bind h.look fun own => ih own
  | keep own next ih => exact h.bind (h.keep own) fun _ => ih
  | step s htimes next ih =>
    -- The answers of both calls are the same, and so is what is noted about them.
    refine h.bind (h.observe (s.perform_related h hserve htimes)) fun answer => ?_
    refine h.bind h.measure fun size => ?_
    exact h.bind (h.note _ (hadmits _ trivial)) fun _ => ih answer
  | transaction body next ihbody ihnext =>
    -- The outcomes of both transactions are the same.
    refine h.bind (h.observe (h.transaction ihbody)) fun outcome => ?_
    refine h.bind h.measure fun size => ?_
    exact h.bind (h.note _ (hadmits _ trivial)) fun _ => ihnext outcome

/-- What the service of one level does inside its transactions is related. -/
theorem Partners.parts_related (P : Partners T κ) (level : Nat) :
    (P.service K level serve).PartsRelated Ψ (P.service K' level serve') where
  get f := h.watched (fun e => hadmits _ trivial) (h.get f)
  contains f := h.watched (fun e => hadmits _ trivial) (h.contains f)
  remove f := h.watched (fun e => hadmits _ trivial) (h.remove f)
  stamp proof owner := by
    -- The clock tells a time in the set, so the store is given no other one.
    show Ψ _ ((Subtype.val <$> _) >>= _) ((Subtype.val <$> _) >>= _)
    rw [bind_map_left, bind_map_left]
    refine h.bind (h.watched (fun e => hadmits _ trivial) ?_) fun time => ?_
    · exact P.now.run_related h hadmits hserve
    · exact h.watched (fun e => hadmits _ trivial) (h.insert _ _ time.2)
  deposit event := by
    refine h.bind (h.note _ (hadmits _ trivial)) fun _ => ?_
    exact h.watched (fun e => hadmits _ trivial) ((P.deposit event).run_related h hadmits hserve)
  proofLimit := rfl

end Related

/-- Calls of every depth are related. -/
theorem Partners.serve_related {T : Number → Prop} {admits : Occurrence → Prop}
    {Ψ : (α : Type) → Run (Setting τ κ) α → Run (Setting τ' κ) α → Prop} {K : Storage τ κ}
    {K' : Storage τ' κ} (h : K.Related T admits Ψ K') (P : Partners T κ) (depth : Nat)
    (hadmits : ∀ o : Occurrence, o.ReportsBelow depth → admits o) (r : ClaimRequest) :
    Ψ _ (P.serve K depth r) (P.serve K' depth r) := by
  -- On a full stack every call fails at once.  Any other call reports at a level below its depth.
  induction depth generalizing r with
  | zero => exact h.throw _
  | succ depth ih =>
    have hsilent : ∀ o : Occurrence, o.ReportsBelow 0 → admits o :=
      fun o ho => hadmits o (ho.mono (Nat.zero_le _))
    have hserve := ih fun o ho => hadmits o (ho.mono (Nat.le_succ depth))
    -- The parts of a call are those of a program, with less room for calls within them.
    have hcalls : (P.service K depth (P.serve K depth)).Related Ψ
        (P.service K' depth (P.serve K' depth)) :=
      { P.parts_related h hsilent hserve depth with
        transaction := h.transaction
        count := fun name tags => h.bind (h.note _ (hadmits _ (Nat.lt_succ_self depth))) fun _ =>
          (P.count name tags).run_related h hsilent hserve
        log := fun severity text context _ =>
          h.bind (h.note _ (hadmits _ (Nat.lt_succ_self depth))) fun _ =>
            (P.log severity text context).run_related h hsilent hserve }
    cases r with
    | create origin proof => exact h.map (ClaimService.create_related h.toComposes hcalls _ _) _
    | revoke origin proof => exact h.map (ClaimService.revoke_related h.toComposes hcalls _ _) _
    | transfer origin proof dest =>
      exact h.map (ClaimService.transfer_related h.toComposes hcalls _ _ _) _
    | claim proof => exact h.map (hcalls.get proof) _

/-- Programs with calls of any depth are related. -/
theorem Partners.run_related {T : Number → Prop} {admits : Occurrence → Prop}
    {Ψ : (α : Type) → Run (Setting τ κ) α → Run (Setting τ' κ) α → Prop} {K : Storage τ κ}
    {K' : Storage τ' κ} (h : K.Related T admits Ψ K') (P : Partners T κ) (depth : Nat)
    (hadmits : ∀ o : Occurrence, o.ReportsBelow depth → admits o) (p : ServiceProgram T κ α) :
    Ψ _ (p.run K (P.serve K depth)) (p.run K' (P.serve K' depth)) :=
  p.run_related h (fun o ho => hadmits o (ho.mono (Nat.zero_le depth)))
    (P.serve_related h depth hadmits)

end ProofOfExistence
