import ProofOfExistence.Proofs.UndoStoreCorrect
import ProofOfExistence.Proofs.RunRelations
import ProofOfExistence.Store.Savepoint

/-!
# Stores with transactions, and their laws

`StoreOps` are the operations of a store on its own state; each may raise a fault.
`StoreOps.store` is the claim store that they make on a cell.  A `TransactionalStore` adds the
claims that a state stands for and the laws of transactions: whatever ran since a transaction was
opened (`Follows`), closing it keeps the claims of its end or gives back those of its start.

The store with undo logs and the durable store with savepoints are such stores
(`UndoStore.transactional`, `SavepointStore.transactional`).
-/

namespace ProofOfExistence

/-- The operations of a store on its state. -/
structure StoreOps (τ : Type) where
  get : τ → Fingerprint → Except Fault (Option ClaimRecord)
  contains : τ → Fingerprint → Except Fault Bool
  insert : τ → Fingerprint → ClaimRecord → Except Fault τ
  remove : τ → Fingerprint → Except Fault τ
  openTransaction : τ → Except Fault τ
  /-- Close the innermost transaction and keep its writes. -/
  commit : τ → Except Fault τ
  /-- Close the innermost transaction and take its writes back. -/
  rollback : τ → τ

namespace StoreOps

variable {σ τ α : Type}

/-- Ask the store in a cell. -/
def ask (cell : Cell σ τ) (f : τ → Except Fault α) : Run σ α := do
  Run.ofExcept (f (← cell.read))

/-- Change the store in a cell, or raise the fault and leave it. -/
def update (cell : Cell σ τ) (f : τ → Except Fault τ) : Run σ Unit := do
  cell.write (← Run.ofExcept (f (← cell.read)))

variable (ops : StoreOps τ) (cell : Cell σ τ)

/-- Run a computation between opening a transaction and closing it. -/
def transaction (body : Run σ α) : Run σ α := do
  update cell ops.openTransaction
  match ← Run.observe body with
  | .ok a =>
    update cell ops.commit
    return a
  | .error e =>
    cell.modify ops.rollback
    throw e

/-- The claim store on a cell. -/
def store : ClaimStore σ where
  get f := ask cell fun s => ops.get s f
  contains f := ask cell fun s => ops.contains s f
  insert f r := update cell fun s => ops.insert s f r
  remove f := update cell fun s => ops.remove s f
  transaction body := ops.transaction cell body

theorem exec_ask (f : τ → Except Fault α) (w : σ) : (ask cell f).exec w = (f (cell.get w), w) :=
  rfl

theorem exec_update (f : τ → Except Fault τ) (w : σ) :
    (update cell f).exec w =
      match f (cell.get w) with
      | .ok s => (.ok (), cell.set s w)
      | .error e => (.error e, w) := by
  unfold update
  simp only [Run.exec_bind, Cell.exec_read, Run.exec_ofExcept]
  cases f (cell.get w) <;> simp

/-- A transaction that cannot be opened does nothing; any other one runs its computation and is then
committed or rolled back. -/
theorem exec_transaction (body : Run σ α) (w : σ) :
    (ops.transaction cell body).exec w =
      match ops.openTransaction (cell.get w) with
      | .error e => (.error e, w)
      | .ok s =>
        match body.exec (cell.set s w) with
        | (.error e, w') => (.error e, cell.set (ops.rollback (cell.get w')) w')
        | (.ok a, w') =>
          match ops.commit (cell.get w') with
          | .error e => (.error e, w')
          | .ok t => (.ok a, cell.set t w') := by
  unfold transaction
  rw [Run.exec_bind, exec_update]
  cases ops.openTransaction (cell.get w) with
  | error e => rfl
  | ok s =>
    simp only [Run.exec_bind, Run.exec_observe]
    rcases body.exec (cell.set s w) with ⟨outcome, w'⟩
    cases outcome with
    | error e => simp [Run.exec_bind]
    | ok a =>
      simp only [Run.exec_bind, exec_update]
      cases ops.commit (cell.get w') <;> rfl

section Respects

variable {R : σ → σ → Prop} [IsPreorder σ R]

theorem respects_ask (f : τ → Except Fault α) : Run.Respects R (ask cell f) :=
  fun w => Std.Refl.refl w

variable {cell}

/-- A change respects what all its results respect. -/
theorem respects_update_of_ok {f : τ → Except Fault τ}
    (hresult : ∀ w s, f (cell.get w) = .ok s → R w (cell.set s w)) :
    Run.Respects R (update cell f) := by
  intro w
  rw [exec_update]
  split
  · exact hresult w _ ‹_›
  · exact Std.Refl.refl w

/-- A transaction respects what its computation respects, if this holds from before it was opened
to after it was closed. -/
theorem respects_transaction_of_close {ops : StoreOps τ}
    (hrollback : ∀ w s w', ops.openTransaction (cell.get w) = .ok s → R (cell.set s w) w' →
      R w (cell.set (ops.rollback (cell.get w')) w'))
    (hcommit : ∀ w s w', ops.openTransaction (cell.get w) = .ok s → R (cell.set s w) w' →
      match ops.commit (cell.get w') with
      | .ok t => R w (cell.set t w')
      | .error _ => R w w')
    {body : Run σ α} (hbody : Run.Respects R body) :
    Run.Respects R (ops.transaction cell body) := by
  intro w
  rw [exec_transaction]
  cases hopen : ops.openTransaction (cell.get w) with
  -- The transaction was not opened.
  | error e => exact Std.Refl.refl w
  | ok s =>
    have hrel := hbody (cell.set s w)
    dsimp only
    generalize body.exec (cell.set s w) = result at hrel ⊢
    obtain ⟨outcome, w'⟩ := result
    cases outcome with
    -- The body failed, so the transaction is rolled back.
    | error e => exact hrollback w s w' hopen hrel
    | ok a =>
      -- The body is done, so the transaction is committed.
      have hclosed := hcommit w s w' hopen hrel
      dsimp only
      cases hresult : ops.commit (cell.get w') <;> rwa [hresult] at hclosed

/-- The same for a store whose transactions can always be committed. -/
theorem respects_transaction_of_commit {ops : StoreOps τ}
    (hrollback : ∀ w s w', ops.openTransaction (cell.get w) = .ok s → R (cell.set s w) w' →
      R w (cell.set (ops.rollback (cell.get w')) w'))
    (hcommit : ∀ w s w', ops.openTransaction (cell.get w) = .ok s → R (cell.set s w) w' →
      ∃ t, ops.commit (cell.get w') = .ok t ∧ R w (cell.set t w'))
    {body : Run σ α} (hbody : Run.Respects R body) :
    Run.Respects R (ops.transaction cell body) := by
  refine respects_transaction_of_close hrollback (fun w s w' hopen hrel => ?_) hbody
  obtain ⟨t, hresult, hclosed⟩ := hcommit w s w' hopen hrel
  rwa [hresult]

/-! A relation that does not look at the store is respected by whatever the store does. -/

variable (hset : ∀ w s, R w (cell.set s w))
include hset

theorem respects_update (f : τ → Except Fault τ) : Run.Respects R (update cell f) :=
  respects_update_of_ok fun w s _ => hset w s

theorem respects_transaction {body : Run σ α} (hbody : Run.Respects R body) :
    Run.Respects R (ops.transaction cell body) := by
  refine respects_transaction_of_close (fun w s w' _ hrel => ?_) (fun w s w' _ hrel => ?_) hbody
  · exact IsTrans.trans _ _ _ (hset w s) (IsTrans.trans _ _ _ hrel (hset w' _))
  · have hbegun := IsTrans.trans _ _ _ (hset w s) hrel
    split
    · exact IsTrans.trans _ _ _ hbegun (hset w' _)
    · exact hbegun

end Respects

end StoreOps

/-- A store whose transactions keep or take back what ran in them. -/
structure TransactionalStore (τ : Type) extends StoreOps τ where
  /-- The claims that a state stands for. -/
  claim : τ → Fingerprint → Option ClaimRecord
  /-- The states that occur. -/
  Valid : τ → Prop
  /-- The first state can have become the second by writes and by transactions that were opened and
  closed. -/
  Follows : τ → τ → Prop
  follows_refl : ∀ s, Follows s s
  follows_trans : ∀ {s t u}, Follows s t → Follows t u → Follows s u
  valid_of_follows : ∀ {s t}, Follows s t → Valid s → Valid t
  get_ok : ∀ {s f r}, get s f = .ok r → r = claim s f
  contains_ok : ∀ {s f b}, contains s f = .ok b → b = (claim s f).isSome
  insert_ok : ∀ {s f r t}, insert s f r = .ok t →
    Follows s t ∧ ∀ g, claim t g = if g = f then some r else claim s g
  remove_ok : ∀ {s f t}, remove s f = .ok t →
    Follows s t ∧ ∀ g, claim t g = if g = f then none else claim s g
  open_ok : ∀ {s t}, openTransaction s = .ok t →
    (Valid s → Valid t) ∧ ∀ g, claim t g = claim s g
  /-- A transaction in which nothing was done leaves no trace. -/
  commit_open : ∀ {s t}, Valid s → openTransaction s = .ok t → commit t = .ok s
  commit_ok : ∀ {s t u}, Valid s → openTransaction s = .ok t → Follows t u →
    ∃ u', commit u = .ok u' ∧ Follows s u' ∧ ∀ g, claim u' g = claim u g
  rollback_ok : ∀ {s t u}, openTransaction s = .ok t → Follows t u →
    Follows s (rollback u) ∧ ∀ g, claim (rollback u) g = claim s g

/-! ## The store with undo logs -/

namespace UndoStore

/-- The store with undo logs; none of its operations fails. -/
def transactional : TransactionalStore UndoStore where
  get s f := .ok (s.get? f)
  contains s f := .ok (s.contains f)
  insert s f r := .ok (s.insert f r)
  remove s f := .ok (s.remove f)
  openTransaction s := .ok s.openTransaction
  commit s := .ok s.commit
  rollback := rollback
  claim := get?
  Valid _ := True
  Follows := Follows
  follows_refl := Follows.refl
  follows_trans := Follows.trans
  valid_of_follows _ := id
  get_ok h := (Except.ok.inj h).symm
  contains_ok h := (Except.ok.inj h).symm
  insert_ok h := by
    cases h
    exact ⟨follows_insert _ _ _, fun g => get?_insert _ _ _ _⟩
  remove_ok h := by
    cases h
    exact ⟨follows_remove _ _, fun g => get?_remove _ _ _⟩
  open_ok h := by
    cases h
    exact ⟨id, get?_openTransaction _⟩
  commit_open {s t} _ h := by
    cases h
    rcases s with ⟨records, _ | ⟨log, outer⟩⟩ <;> rfl
  commit_ok _ h hfollows := by
    cases h
    exact ⟨_, rfl, follows_commit hfollows, get?_commit _⟩
  rollback_ok h hfollows := by
    cases h
    exact ⟨follows_rollback hfollows, get?_rollback_of_follows hfollows⟩

variable {σ : Type}

/-- The operations make the store with undo logs. -/
theorem store_eq (cell : Cell σ UndoStore) : store cell = transactional.store cell := rfl

end UndoStore

/-! ## The durable store with savepoints -/

namespace SavepointStore

/-- The claims as operations see them; those of a closed store are the durable ones. -/
def contents (s : SavepointStore) : DurableClaims :=
  match s.session with
  | some o => s.visible o
  | none => s.durable

/-- The claim on a fingerprint. -/
def claim? (s : SavepointStore) (f : Fingerprint) : Option ClaimRecord :=
  s.contents.get? (StorageKey.ofFingerprint f)

/-- A session of the store is in order: writes are pending only inside transactions, and as long as
there are none all copies are those of the durable claims. -/
structure SessionValid (durable : DurableClaims) (o : StoreSession) : Prop where
  wrote_of_idle : o.copies = [] → o.wrote = false
  copies : o.wrote = false → ∀ copy ∈ o.copies, copy = durable

theorem sessionValid_idle (durable : DurableClaims) : SessionValid durable .idle :=
  ⟨fun _ => rfl, fun _ _ hmem => by cases hmem⟩

/-- The session of the store, if it is open, is in order. -/
def Valid (s : SavepointStore) : Prop :=
  ∀ o, s.session = some o → SessionValid s.durable o

/-- A store that was just opened is in order. -/
theorem valid_ofDurable (durable : DurableClaims) : (ofDurable durable).Valid := by
  intro o ho
  obtain rfl : StoreSession.idle = o := Option.some.inj ho
  exact sessionValid_idle durable

/-- The transactions that were open are still open, and inside them nothing became durable. -/
structure Follows (s t : SavepointStore) : Prop where
  closed : s.session = none → t = s
  opened : ∀ o, s.session = some o → ∃ o', t.session = some o' ∧
    o'.copies.tail = o.copies.tail ∧ (o'.copies = [] ↔ o.copies = []) ∧
    (o.copies ≠ [] → t.durable = s.durable)
  valid : s.Valid → t.Valid

theorem Follows.refl (s : SavepointStore) : Follows s s :=
  ⟨fun _ => rfl, fun o ho => ⟨o, ho, rfl, Iff.rfl, fun _ => rfl⟩, id⟩

theorem Follows.trans {s t u : SavepointStore} (h : Follows s t) (h' : Follows t u) :
    Follows s u := by
  refine ⟨fun hs => ?_, fun o ho => ?_, h'.valid ∘ h.valid⟩
  · have hst := h.closed hs
    subst hst
    exact h'.closed hs
  · obtain ⟨o', ho', htail, hnil, hdurable⟩ := h.opened o ho
    obtain ⟨o'', ho'', htail', hnil', hdurable'⟩ := h'.opened o' ho'
    refine ⟨o'', ho'', htail'.trans htail, hnil'.trans hnil, fun hne => ?_⟩
    exact (hdurable' fun hnil'' => hne (hnil.1 hnil'')).trans (hdurable hne)

variable {s t u : SavepointStore} {o : StoreSession}

theorem opened_eq_ok : s.opened = .ok o ↔ s.session = some o := by
  unfold SavepointStore.opened
  cases s.session <;> simp

theorem contents_of_session (h : s.session = some o) : s.contents = s.visible o := by
  simp only [contents, h]

theorem contents_put (claims : DurableClaims) : (s.put o claims).contents = claims := by
  unfold put
  split <;> rename_i h <;> simp [contents, visible, h]

/-- A session that is as deep as before with the same copies below its top. -/
private theorem follows_of_session {o' : StoreSession} (h : s.session = some o)
    (h' : t.session = some o') (htail : o'.copies.tail = o.copies.tail)
    (hnil : o'.copies = [] ↔ o.copies = []) (hdurable : o.copies ≠ [] → t.durable = s.durable)
    (hvalid : s.Valid → SessionValid t.durable o') : Follows s t := by
  refine ⟨fun hnone => ?_, fun o₂ ho₂ => ?_, fun hs o₂ ho₂ => ?_⟩
  · rw [h] at hnone
    cases hnone
  · obtain rfl : o = o₂ := Option.some.inj (h.symm.trans ho₂)
    exact ⟨o', h', htail, hnil, hdurable⟩
  · obtain rfl : o' = o₂ := Option.some.inj (h'.symm.trans ho₂)
    exact hvalid hs

theorem follows_put (h : s.session = some o) (claims : DurableClaims) :
    Follows s (s.put o claims) := by
  unfold put
  split
  · rename_i hcopies
    refine follows_of_session h rfl rfl Iff.rfl (fun hne => absurd hcopies hne) fun hvalid => ?_
    exact ⟨(hvalid o h).wrote_of_idle, fun _ copy hmem => by simp [hcopies] at hmem⟩
  · rename_i hcopies
    refine follows_of_session h rfl (by simp [hcopies]) (by simp [hcopies]) (fun _ => rfl)
      fun _ => ?_
    exact ⟨nofun, nofun⟩

/-- To insert a claim is to put claims that have it. -/
theorem insert_cases {f : Fingerprint} {r : ClaimRecord} (h : s.insert f r = .ok t) :
    ∃ o, s.session = some o ∧
      t = s.put o ((s.visible o).insert (StorageKey.ofFingerprint f) r) := by
  cases hsession : s.session with
  | none => simp [insert, SavepointStore.opened, hsession, bind, Except.bind] at h
  | some o =>
    have hopened : s.opened = .ok o := opened_eq_ok.2 hsession
    by_cases hstorable : storable r = true
    · simp only [insert, hopened, bind, Except.bind, hstorable, if_true, pure, Except.pure,
        Except.ok.injEq] at h
      exact ⟨o, rfl, h.symm⟩
    · simp [insert, hopened, bind, Except.bind, hstorable, throw, throwThe,
        MonadExceptOf.throw] at h

/-- To remove a claim that is there is to put claims without it. -/
theorem remove_cases {f : Fingerprint} (h : s.remove f = .ok t) :
    ∃ o, s.session = some o ∧
      ((s.visible o).contains (StorageKey.ofFingerprint f) = true ∧
          t = s.put o ((s.visible o).erase (StorageKey.ofFingerprint f)) ∨
        (s.visible o).contains (StorageKey.ofFingerprint f) = false ∧ t = s) := by
  cases hsession : s.session with
  | none => simp [remove, SavepointStore.opened, hsession, bind, Except.bind] at h
  | some o =>
    have hopened : s.opened = .ok o := opened_eq_ok.2 hsession
    by_cases hclaimed : (s.visible o).contains (StorageKey.ofFingerprint f) = true
    · simp only [remove, hopened, bind, Except.bind, hclaimed, if_true, pure, Except.pure,
        Except.ok.injEq] at h
      exact ⟨o, rfl, .inl ⟨hclaimed, h.symm⟩⟩
    · simp only [remove, hopened, bind, Except.bind, hclaimed, pure, Except.pure,
        Bool.false_eq_true, if_false, Except.ok.injEq] at h
      exact ⟨o, rfl, .inr ⟨Bool.eq_false_iff.2 hclaimed, h.symm⟩⟩

theorem insert_ok {f : Fingerprint} {r : ClaimRecord} (h : s.insert f r = .ok t) :
    Follows s t ∧ ∀ key, t.contents.get? key =
      if key = StorageKey.ofFingerprint f then some r else s.contents.get? key := by
  obtain ⟨o, hsession, rfl⟩ := insert_cases h
  refine ⟨follows_put hsession _, fun key => ?_⟩
  simp only [contents_put, Table.get?_insert, contents_of_session hsession]

theorem remove_ok {f : Fingerprint} (h : s.remove f = .ok t) :
    Follows s t ∧ ∀ key, t.contents.get? key =
      if key = StorageKey.ofFingerprint f then none else s.contents.get? key := by
  obtain ⟨o, hsession, ⟨-, rfl⟩ | ⟨hclaimed, rfl⟩⟩ := remove_cases h
  · refine ⟨follows_put hsession _, fun key => ?_⟩
    simp only [contents_put, Table.get?_erase, contents_of_session hsession]
  · refine ⟨Follows.refl _, fun key => ?_⟩
    -- There was no claim to remove.
    by_cases hkey : key = StorageKey.ofFingerprint f
    · simpa [hkey, contents_of_session hsession, Table.contains_eq] using hclaimed
    · rw [if_neg hkey]

/-- Opening a transaction puts a copy of the claims on top. -/
theorem openTransaction_cases (h : s.openTransaction = .ok t) :
    ∃ o, s.session = some o ∧
      t = { s with session := some { o with copies := s.visible o :: o.copies } } := by
  cases hsession : s.session with
  | none => simp [openTransaction, SavepointStore.opened, hsession, bind, Except.bind] at h
  | some o =>
    have hopened : s.opened = .ok o := opened_eq_ok.2 hsession
    simp only [openTransaction, hopened, bind, Except.bind, pure, Except.pure,
      Except.ok.injEq] at h
    exact ⟨o, rfl, h.symm⟩

theorem open_ok (h : s.openTransaction = .ok t) :
    (s.Valid → t.Valid) ∧ t.contents = s.contents := by
  obtain ⟨o, hsession, rfl⟩ := openTransaction_cases h
  refine ⟨fun hvalid => ?_, ?_⟩
  · intro o' ho'
    obtain rfl := Option.some.inj ho'
    refine ⟨nofun, fun hwrote copy hmem => ?_⟩
    have hcopies := (hvalid o hsession).copies hwrote
    -- The new copy is of the claims in sight, which are the durable ones if nothing was written.
    rcases List.mem_cons.1 hmem with rfl | hmem
    · unfold visible
      rcases hlist : o.copies with _ | ⟨copy, outer⟩
      · rfl
      · exact hcopies copy (by simp [hlist])
    · -- The outer copies are as they were.
      exact hcopies copy hmem
  · -- The claims in sight stay the same.
    rw [contents_of_session hsession]
    rfl

/-- What runs in a transaction leaves one copy on top of those that were open, and nothing of it is
durable. -/
private theorem session_of_follows_open (h : s.openTransaction = .ok t) (hfollows : Follows t u) :
    ∃ o o' copy, s.session = some o ∧ u.session = some o' ∧ o'.copies = copy :: o.copies ∧
      u.durable = s.durable := by
  obtain ⟨o, hsession, rfl⟩ := openTransaction_cases h
  obtain ⟨o', hsession', htail, hnil, hdurable⟩ := hfollows.opened _ rfl
  rcases hcopies : o'.copies with _ | ⟨copy, outer⟩
  · simp [hcopies] at hnil
  · refine ⟨o, o', copy, hsession, hsession', ?_, hdurable (by simp)⟩
    rw [hcopies, List.tail_cons] at htail
    rw [hcopies, htail, List.tail_cons]

/-- Outside all transactions any session without transactions follows. -/
private theorem follows_idle (h : s.session = some o) (hcopies : o.copies = [])
    (h' : t.session = some .idle) : Follows s t := by
  refine follows_of_session h h' ?_ ?_ (fun hne => absurd hcopies hne) fun _ => ?_
  · rw [hcopies, StoreSession.idle]
  · simp [hcopies, StoreSession.idle]
  · exact sessionValid_idle _

private theorem commit_open (hvalid : s.Valid) (h : s.openTransaction = .ok t) :
    t.commit = .ok s := by
  obtain ⟨o, hsession, rfl⟩ := openTransaction_cases h
  rcases s with ⟨durable, revision, session⟩
  obtain rfl : session = some o := hsession
  -- An outermost commit forgets whether something was written; outside all transactions nothing is.
  rcases o with ⟨_ | ⟨copy, outer⟩, wrote⟩
  · have hwrote : wrote = false := (hvalid _ rfl).wrote_of_idle rfl
    subst hwrote
    rfl
  · rfl

theorem commit_ok (hvalid : s.Valid) (h : s.openTransaction = .ok t) (hfollows : Follows t u) :
    ∃ u', u.commit = .ok u' ∧ Follows s u' ∧ u'.contents = u.contents := by
  have huvalid : u.Valid := hfollows.valid ((open_ok h).1 hvalid)
  obtain ⟨o, o', copy, hsession, hsession', hcopies, hdurable⟩ :=
    session_of_follows_open h hfollows
  have hopened : u.opened = .ok o' := opened_eq_ok.2 hsession'
  have hcontents : u.contents = copy := by
    rw [contents_of_session hsession', visible, hcopies, List.headD_cons]
  rcases houter : o.copies with _ | ⟨below, outer⟩
  · -- The transaction was an outermost one, so its copy becomes durable if anything was written.
    cases hwrote : o'.wrote with
    | true =>
      refine ⟨⟨copy, u.revision + 1, some .idle⟩, ?_, follows_idle hsession houter rfl, ?_⟩
      · simp [commit, hopened, hcopies, houter, hwrote, bind, Except.bind, pure, Except.pure]
      · rw [hcontents]
        rfl
    | false =>
      -- Nothing is made durable, and nothing differs from what is.
      have hcopy : copy = u.durable := (huvalid o' hsession').copies hwrote copy (by simp [hcopies])
      refine ⟨{ u with session := some .idle }, ?_, follows_idle hsession houter rfl, ?_⟩
      · simp [commit, hopened, hcopies, houter, hwrote, bind, Except.bind, pure, Except.pure]
      · rw [hcontents, hcopy]
        rfl
  · -- The copy of an inner transaction takes the place of the one below it.
    refine ⟨{ u with session := some { o' with copies := copy :: outer } }, ?_, ?_, ?_⟩
    · simp [commit, hopened, hcopies, houter, bind, Except.bind, pure, Except.pure]
    · refine follows_of_session hsession rfl ?_ ?_ (fun _ => hdurable) fun _ => ?_
      · rw [houter, List.tail_cons, List.tail_cons]
      · simp [houter]
      · refine ⟨nofun, fun hwrote c hmem => ?_⟩
        refine (huvalid o' hsession').copies hwrote c ?_
        rw [hcopies, houter]
        exact List.cons_subset_cons copy (List.subset_cons_self below outer) hmem
    · rw [hcontents]
      rfl

theorem rollback_ok (h : s.openTransaction = .ok t) (hfollows : Follows t u) :
    Follows s u.rollback ∧ u.rollback.contents = s.contents := by
  obtain ⟨o, o', copy, hsession, hsession', hcopies, hdurable⟩ :=
    session_of_follows_open h hfollows
  have hcontents := contents_of_session hsession
  -- What is below the dropped copy is what was visible before: a copy, or the durable claims.
  rcases houter : o.copies with _ | ⟨below, outer⟩
  · -- The transaction was an outermost one.
    have hrollback : u.rollback = { u with session := some .idle } := by
      simp [rollback, hsession', hcopies, houter]
    rw [hrollback]
    refine ⟨follows_idle hsession houter rfl, ?_⟩
    rw [hcontents, visible, houter, List.headD_nil, ← hdurable]
    rfl
  · -- The transaction was an inner one.
    have hrollback : u.rollback = { u with session := some { o' with copies := o.copies } } := by
      simp [rollback, hsession', hcopies, houter]
    rw [hrollback]
    refine ⟨follows_of_session hsession rfl rfl Iff.rfl (fun _ => hdurable) fun hvalid => ?_, ?_⟩
    · have huvalid : u.Valid := hfollows.valid ((open_ok h).1 hvalid)
      refine ⟨fun hnil => absurd hnil (by simp [houter]), fun hwrote c hmem => ?_⟩
      exact (huvalid o' hsession').copies hwrote c (hcopies ▸ List.mem_cons_of_mem copy hmem)
    · rw [hcontents, visible, houter]
      rfl

/-- Only the contents matter to a lookup. -/
private theorem claim?_congr (h : t.contents = s.contents) (f : Fingerprint) :
    t.claim? f = s.claim? f := by
  rw [claim?, claim?, h]

/-- The durable store with savepoints. -/
def transactional : TransactionalStore SavepointStore where
  get s f := do return (s.visible (← s.opened)).get? (StorageKey.ofFingerprint f)
  contains s f := do return (s.visible (← s.opened)).contains (StorageKey.ofFingerprint f)
  insert := insert
  remove := remove
  openTransaction := openTransaction
  commit := commit
  rollback := rollback
  claim := claim?
  Valid := Valid
  Follows := Follows
  follows_refl := Follows.refl
  follows_trans := Follows.trans
  valid_of_follows h := h.valid
  get_ok {s f r} h := by
    cases hsession : s.session with
    | none => simp [SavepointStore.opened, hsession] at h
    | some o =>
      rw [opened_eq_ok.2 hsession] at h
      rw [claim?, contents_of_session hsession]
      exact (Except.ok.inj h).symm
  contains_ok {s f b} h := by
    cases hsession : s.session with
    | none => simp [SavepointStore.opened, hsession] at h
    | some o =>
      rw [opened_eq_ok.2 hsession] at h
      rw [claim?, contents_of_session hsession]
      exact (Except.ok.inj h).symm
  insert_ok h := by
    obtain ⟨hfollows, hcontents⟩ := insert_ok h
    exact ⟨hfollows, fun g => by simp only [claim?, hcontents, StorageKey.ofFingerprint_inj]⟩
  remove_ok h := by
    obtain ⟨hfollows, hcontents⟩ := remove_ok h
    exact ⟨hfollows, fun g => by simp only [claim?, hcontents, StorageKey.ofFingerprint_inj]⟩
  open_ok h := (open_ok h).imp_right claim?_congr
  commit_open := commit_open
  commit_ok hvalid h hfollows := by
    obtain ⟨u', hcommit, hfollows', hcontents⟩ := commit_ok hvalid h hfollows
    exact ⟨u', hcommit, hfollows', claim?_congr hcontents⟩
  rollback_ok h hfollows := (rollback_ok h hfollows).imp_right claim?_congr

variable {σ α : Type}

/-- What depends on the claims in a store is asked of it. -/
theorem map_claims (cell : Cell σ SavepointStore) (g : DurableClaims → α) :
    (do return g (← claims cell) : Run σ α) =
      StoreOps.ask cell fun s => do return g (s.visible (← s.opened)) := by
  refine Run.ext fun w => ?_
  -- On a closed store both sides raise the same fault.
  rw [StoreOps.exec_ask]
  unfold claims
  simp only [Run.exec_bind, Cell.exec_read, Run.exec_ofExcept]
  generalize (cell.get w).opened = r
  cases r <;> rfl

/-- The operations make the durable store with savepoints. -/
theorem store_eq (cell : Cell σ SavepointStore) : store cell = transactional.store cell := by
  have hget : (store cell).get = (transactional.store cell).get :=
    funext fun f => map_claims cell fun t => t.get? (StorageKey.ofFingerprint f)
  have hcontains : (store cell).contains = (transactional.store cell).contains :=
    funext fun f => map_claims cell fun t => t.contains (StorageKey.ofFingerprint f)
  show ClaimStore.mk (store cell).get (store cell).contains _ _ _ = _
  rw [hget, hcontains]
  rfl

end SavepointStore

end ProofOfExistence
