import ProofOfExistence.Clock
import ProofOfExistence.Proofs.TransactionalStore

/-!
# Stores that keep finite maps

A `FaithfulStore` is a store with transactions whose states stand for finite maps from fingerprints
to claims.  As long as it is open, its operations answer and change the map as they should.  None of
them fails, except that a store may refuse a claim without a valid time.

The store with undo logs and the durable store with savepoints are faithful
(`UndoStore.faithful`, `SavepointStore.faithful`).

## Key results

- `FaithfulStore.transaction_error`, `FaithfulStore.transaction_ok`: a transaction gives back the
  claims of its start, or keeps those of its end
-/

namespace ProofOfExistence

/-- A store with transactions that keeps finite maps of claims. -/
structure FaithfulStore (τ : Type) extends TransactionalStore τ where
  /-- The number of claims, none if the store is closed. -/
  size? : τ → Option Nat
  /-- The store is open and keeps exactly these claims. -/
  Keeps : τ → Claims → Prop
  valid_of_keeps : ∀ {s claims}, Keeps s claims → Valid s
  size_eq : ∀ {s claims}, Keeps s claims → size? s = some claims.size
  get_eq : ∀ {s claims}, Keeps s claims → ∀ f, get s f = .ok (claims.get? f)
  contains_eq : ∀ {s claims}, Keeps s claims → ∀ f, contains s f = .ok (claims.contains f)
  insert_keeps : ∀ {s claims f r t}, Keeps s claims → insert s f r = .ok t →
    Keeps t (claims.insert f r)
  insert_valid : ∀ {s claims f r}, Keeps s claims → checkTimestamp r.registeredAt = .ok () →
    ∃ t, insert s f r = .ok t
  remove_keeps : ∀ {s claims f}, Keeps s claims →
    ∃ t, remove s f = .ok t ∧ Keeps t (claims.erase f)
  open_keeps : ∀ {s claims}, Keeps s claims → ∃ t, openTransaction s = .ok t ∧ Keeps t claims
  /-- Closing a transaction that succeeded keeps the claims of its end. -/
  commit_keeps : ∀ {s t u u' claims}, Valid s → openTransaction s = .ok t → Follows t u →
    commit u = .ok u' → Keeps u claims → Keeps u' claims
  /-- Taking a transaction back gives back the claims of its start. -/
  rollback_keeps : ∀ {s t u claims}, Keeps s claims → openTransaction s = .ok t → Follows t u →
    Keeps (rollback u) claims

namespace FaithfulStore

variable {σ τ α : Type} (S : FaithfulStore τ)

/-- A lookup finds what the claims say. -/
theorem claim_eq {s : τ} {claims : Claims} (h : S.Keeps s claims) (f : Fingerprint) :
    S.claim s f = claims.get? f :=
  (S.get_ok (S.get_eq h f)).symm

/-- A transaction whose computation fails gives back the claims of its start and passes on the
fault. -/
theorem transaction_error (cell : Cell σ τ) {body : Run σ α} {w w' : σ} {t : τ} {e : Fault}
    {claims : Claims} (hkeeps : S.Keeps (cell.get w) claims)
    (hopen : S.openTransaction (cell.get w) = .ok t)
    (hexec : body.exec (cell.set t w) = (.error e, w')) (hfollows : S.Follows t (cell.get w')) :
    ∃ u, (S.transaction cell body).exec w = (.error e, cell.set u w') ∧
      S.Follows (cell.get w) u ∧ S.Keeps u claims := by
  refine ⟨S.rollback (cell.get w'), ?_, (S.rollback_ok hopen hfollows).1, ?_⟩
  · rw [StoreOps.exec_transaction, hopen]
    simp only [hexec]
  · exact S.rollback_keeps hkeeps hopen hfollows

/-- A transaction whose computation succeeds keeps the claims of its end. -/
theorem transaction_ok (cell : Cell σ τ) {body : Run σ α} {w w' : σ} {t : τ} {a : α}
    {claims : Claims} (hkeeps : S.Keeps (cell.get w) claims)
    (hopen : S.openTransaction (cell.get w) = .ok t)
    (hexec : body.exec (cell.set t w) = (.ok a, w')) (hfollows : S.Follows t (cell.get w')) :
    ∃ u, (S.transaction cell body).exec w = (.ok a, cell.set u w') ∧
      S.Follows (cell.get w) u ∧ ∀ claims', S.Keeps (cell.get w') claims' → S.Keeps u claims' := by
  have hvalid := S.valid_of_keeps hkeeps
  obtain ⟨u, hcommit, hfollows', -⟩ := S.commit_ok hvalid hopen hfollows
  refine ⟨u, ?_, hfollows', fun claims' h => S.commit_keeps hvalid hopen hfollows hcommit h⟩
  rw [StoreOps.exec_transaction, hopen]
  simp only [hexec, hcommit]

end FaithfulStore

/-! ## The store with undo logs -/

namespace UndoStore

/-- The store with undo logs, which holds any claim. -/
def faithful : FaithfulStore UndoStore where
  toTransactionalStore := transactional
  size? s := some s.size
  Keeps := Represents
  valid_of_keeps _ := trivial
  size_eq h := congrArg some h.size_eq
  get_eq h f := congrArg Except.ok (h.get?_eq f)
  contains_eq h f := congrArg Except.ok (h.contains_eq f)
  insert_keeps h hinsert := by
    cases hinsert
    exact h.insert _ _
  insert_valid _ _ := ⟨_, rfl⟩
  remove_keeps h := ⟨_, rfl, h.remove _⟩
  open_keeps h := ⟨_, rfl, h⟩
  commit_keeps _ _ _ hcommit h := by
    cases hcommit
    exact h.commit
  rollback_keeps h hopen hfollows := by
    cases hopen
    exact h.rollback hfollows

end UndoStore

/-! ## The durable store with savepoints -/

namespace SavepointStore

private theorem ofFingerprint_injective : Function.Injective StorageKey.ofFingerprint :=
  fun _ _ h => StorageKey.ofFingerprint_inj.1 h

/-- Claims under their storage keys. -/
def byKey (claims : Claims) : DurableClaims :=
  claims.mapKeys StorageKey.ofFingerprint ofFingerprint_injective

/-- A store that was just opened on given claims. -/
def ofClaims (claims : Claims) : SavepointStore := ofDurable (byKey claims)

/-- The store is open and in order, and at every key it holds what the claims say. -/
structure Keeps (s : SavepointStore) (claims : Claims) : Prop where
  valid : s.Valid
  opened : ∃ o, s.session = some o
  get?_eq : ∀ key, s.contents.get? key = (byKey claims).get? key

theorem keeps_ofClaims (claims : Claims) : (ofClaims claims).Keeps claims :=
  ⟨valid_ofDurable _, ⟨.idle, rfl⟩, fun _ => rfl⟩

variable {s t u : SavepointStore} {claims claims' : Claims}

/-- Whatever follows an open store is open and in order. -/
theorem Keeps.of_follows (h : s.Keeps claims) (hfollows : Follows s t)
    (hget : ∀ key, t.contents.get? key = (byKey claims').get? key) : t.Keeps claims' := by
  obtain ⟨o, ho⟩ := h.opened
  obtain ⟨o', ho', -⟩ := hfollows.opened o ho
  exact ⟨hfollows.valid h.valid, ⟨o', ho'⟩, hget⟩

theorem Keeps.visible_get? (h : s.Keeps claims) {o : StoreSession} (ho : s.session = some o)
    (f : Fingerprint) : (s.visible o).get? (StorageKey.ofFingerprint f) = claims.get? f := by
  rw [← contents_of_session ho, h.get?_eq, byKey, Table.get?_mapKeys]

/-- A valid time is a number. -/
theorem storable_of_checkTimestamp {r : ClaimRecord} (h : checkTimestamp r.registeredAt = .ok ()) :
    storable r = true := by
  have hnan : checkTimestamp .nan ≠ .ok () := nofun
  refine decide_eq_true fun htime => hnan ?_
  rwa [htime] at h

theorem Keeps.insert_isOk (h : s.Keeps claims) {f : Fingerprint} {r : ClaimRecord}
    (htime : checkTimestamp r.registeredAt = .ok ()) : ∃ t, s.insert f r = .ok t := by
  obtain ⟨o, ho⟩ := h.opened
  simp only [SavepointStore.insert, opened_eq_ok.2 ho, bind, Except.bind,
    storable_of_checkTimestamp htime, if_true]
  exact ⟨_, rfl⟩

theorem Keeps.insert (h : s.Keeps claims) {f : Fingerprint} {r : ClaimRecord}
    (hinsert : s.insert f r = .ok t) : t.Keeps (claims.insert f r) := by
  obtain ⟨hfollows, hget⟩ := insert_ok hinsert
  refine h.of_follows hfollows fun key => ?_
  rw [hget, byKey, Table.get?_mapKeys_insert, h.get?_eq, byKey]

theorem Keeps.remove (h : s.Keeps claims) (f : Fingerprint) :
    ∃ t, s.remove f = .ok t ∧ t.Keeps (claims.erase f) := by
  obtain ⟨o, ho⟩ := h.opened
  obtain ⟨t, hremove⟩ : ∃ t, s.remove f = .ok t := by
    simp only [SavepointStore.remove, opened_eq_ok.2 ho, bind, Except.bind]
    split <;> exact ⟨_, rfl⟩
  obtain ⟨hfollows, hget⟩ := remove_ok hremove
  refine ⟨t, hremove, h.of_follows hfollows fun key => ?_⟩
  rw [hget, byKey, Table.get?_mapKeys_erase, h.get?_eq, byKey]

theorem Keeps.openTransaction (h : s.Keeps claims) :
    ∃ t, s.openTransaction = .ok t ∧ t.Keeps claims := by
  obtain ⟨o, ho⟩ := h.opened
  have hopen : s.openTransaction =
      .ok { s with session := some { o with copies := s.visible o :: o.copies } } := by
    simp only [SavepointStore.openTransaction, opened_eq_ok.2 ho, bind, Except.bind]
    rfl
  obtain ⟨hvalid, hcontents⟩ := open_ok hopen
  exact ⟨_, hopen, hvalid h.valid, ⟨_, rfl⟩, fun key => by rw [hcontents, h.get?_eq]⟩

theorem Keeps.commit (hvalid : s.Valid) (hopen : s.openTransaction = .ok t)
    (hfollows : Follows t u) {u' : SavepointStore} (hcommit : u.commit = .ok u')
    (h : u.Keeps claims) : u'.Keeps claims := by
  obtain ⟨u₁, hcommit₁, hfollows₁, hcontents⟩ := commit_ok hvalid hopen hfollows
  obtain rfl : u₁ = u' := Except.ok.inj (hcommit₁.symm.trans hcommit)
  -- Only an open store opens a transaction.
  obtain ⟨o, ho⟩ : ∃ o, s.session = some o := by
    cases hsession : s.session with
    | none => simp [SavepointStore.openTransaction, SavepointStore.opened, hsession, bind,
        Except.bind] at hopen
    | some o => exact ⟨o, rfl⟩
  obtain ⟨o', ho', -⟩ := hfollows₁.opened o ho
  exact ⟨hfollows₁.valid hvalid, ⟨o', ho'⟩, fun key => by rw [hcontents, h.get?_eq]⟩

theorem Keeps.rollback (h : s.Keeps claims) (hopen : s.openTransaction = .ok t)
    (hfollows : Follows t u) : u.rollback.Keeps claims := by
  obtain ⟨hfollows₁, hcontents⟩ := rollback_ok hopen hfollows
  exact h.of_follows hfollows₁ fun key => by rw [hcontents, h.get?_eq]

/-- The durable store, which holds any claim that has a time. -/
def faithful : FaithfulStore SavepointStore where
  toTransactionalStore := transactional
  size? := count?
  Keeps := Keeps
  valid_of_keeps h := h.valid
  size_eq {s claims} h := by
    obtain ⟨o, ho⟩ := h.opened
    have hsize : (s.visible o).size = (byKey claims).size :=
      Table.size_eq_of_get?_eq fun key => by rw [← contents_of_session ho, h.get?_eq]
    show s.session.map (fun o => (s.visible o).size) = _
    rw [ho, Option.map_some, hsize, byKey, Table.size_mapKeys]
  get_eq {s claims} h f := by
    obtain ⟨o, ho⟩ := h.opened
    show (do return (s.visible (← s.opened)).get? _ : Except Fault _) = _
    rw [opened_eq_ok.2 ho]
    exact congrArg Except.ok (h.visible_get? ho f)
  contains_eq {s claims} h f := by
    obtain ⟨o, ho⟩ := h.opened
    show (do return (s.visible (← s.opened)).contains _ : Except Fault _) = _
    rw [opened_eq_ok.2 ho]
    exact congrArg (fun r => Except.ok (Option.isSome r)) (h.visible_get? ho f)
  insert_keeps h hinsert := h.insert hinsert
  insert_valid h htime := h.insert_isOk htime
  remove_keeps h := h.remove _
  open_keeps := Keeps.openTransaction
  commit_keeps hvalid hopen hfollows hcommit h := h.commit hvalid hopen hfollows hcommit
  rollback_keeps h hopen hfollows := h.rollback hopen hfollows

end SavepointStore

end ProofOfExistence
