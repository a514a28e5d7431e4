import ProofOfExistence.Proofs.RunRelations
import ProofOfExistence.Proofs.UndoStoreCorrect

/-!
# Undo logs implement transactions exactly

A `StoreProgram` uses a store in any way: it reads, writes and counts, opens transactions to any
depth, ends a transaction with a value or a fault at any point, and goes on in any way after a
transaction that failed.  What it does next may depend on every answer so far.

The store of reference copies all its claims when a transaction opens and puts the copy back when
the transaction fails.  Every program gets the same answers from both stores, ends alike and leaves
the same claims (`undo_store_agrees_with_copies`).
-/

namespace ProofOfExistence

/-! ## The store of reference -/

namespace CopyingStore

variable {σ α : Type}

/-- Run a computation; if it fails, put back the claims of its start. -/
def transaction (cell : Cell σ Claims) (body : Run σ α) : Run σ α := do
  let copy ← cell.read
  match ← Run.observe body with
  | .ok a => return a
  | .error e =>
    cell.write copy
    throw e

/-- The store of reference in a cell. -/
def store (cell : Cell σ Claims) : ClaimStore σ where
  get f := do return (← cell.read).get? f
  contains f := do return (← cell.read).contains f
  insert f r := cell.modify fun claims => claims.insert f r
  remove f := cell.modify fun claims => claims.erase f
  transaction body := transaction cell body

theorem exec_transaction (cell : Cell σ Claims) (body : Run σ α) (w : σ) :
    (transaction cell body).exec w =
      match body.exec w with
      | (.ok a, w') => (.ok a, w')
      | (.error e, w') => (.error e, cell.set (cell.get w) w') := by
  unfold transaction
  simp only [Run.exec_bind, Cell.exec_read, Run.exec_observe]
  rcases body.exec w with ⟨outcome, w'⟩
  cases outcome <;> simp [Run.exec_bind]

end CopyingStore

/-! ## Programs -/

/-- A program that uses a store and ends with a value or a fault. -/
inductive StoreProgram (ν : Type) where
  | done (outcome : Except Fault ν)
  | get (f : Fingerprint) (next : Option ClaimRecord → StoreProgram ν)
  | contains (f : Fingerprint) (next : Bool → StoreProgram ν)
  | insert (f : Fingerprint) (r : ClaimRecord) (next : StoreProgram ν)
  | remove (f : Fingerprint) (next : StoreProgram ν)
  | size (next : Nat → StoreProgram ν)
  /-- Run `body` in a transaction.  The program decides with the outcome how it goes on; it may also
  end with the fault of the transaction. -/
  | transaction (body : StoreProgram ν) (next : Except Fault ν → StoreProgram ν)

/-- What a store answers to a step of a program. -/
inductive StoreAnswer (ν : Type) where
  | claim (r : Option ClaimRecord)
  | claimed (b : Bool)
  | size (n : Nat)
  /-- The value that a transaction returned or the fault that it passed on. -/
  | ended (outcome : Except Fault ν)

namespace StoreProgram

variable {σ ν : Type}

/-- Run a program on a store, and give every answer to `tell` as well. -/
def run (store : ClaimStore σ) (count : Run σ Nat) (tell : StoreAnswer ν → Run σ Unit) :
    StoreProgram ν → Run σ ν
  | done outcome => Run.ofExcept outcome
  | get f next => do
    let r ← store.get f
    tell (.claim r)
    run store count tell (next r)
  | contains f next => do
    let b ← store.contains f
    tell (.claimed b)
    run store count tell (next b)
  | insert f r next => do
    store.insert f r
    run store count tell next
  | remove f next => do
    store.remove f
    run store count tell next
  | size next => do
    let n ← count
    tell (.size n)
    run store count tell (next n)
  | transaction body next => do
    let outcome ← Run.observe (store.transaction (run store count tell body))
    tell (.ended outcome)
    run store count tell (next outcome)

/-- A store under test and what it has answered so far. -/
structure Session (τ ν : Type) where
  store : τ
  answers : List (StoreAnswer ν)

namespace Session

variable {τ : Type}

/-- The place of the store. -/
def storeCell : Cell (Session τ ν) τ := ⟨Session.store, fun s w => { w with store := s }⟩

/-- The session with one more answer. -/
def told (w : Session τ ν) (a : StoreAnswer ν) : Session τ ν :=
  { w with answers := w.answers ++ [a] }

/-- The size of the store. -/
def count (size : τ → Nat) : Run (Session τ ν) Nat := do return size (← storeCell.read)

/-- Keep an answer. -/
def tell (a : StoreAnswer ν) : Run (Session τ ν) Unit :=
  modifyThe (Session τ ν) fun w => w.told a

end Session

/-- Run a program on the store with undo logs. -/
def onUndoLogs (p : StoreProgram ν) : Run (Session UndoStore ν) ν :=
  p.run (UndoStore.store Session.storeCell) (Session.count UndoStore.size) Session.tell

/-- Run a program on the store of reference. -/
def onCopies (p : StoreProgram ν) : Run (Session Claims ν) ν :=
  p.run (CopyingStore.store Session.storeCell) (Session.count Table.size) Session.tell

/-- Run a program in a transaction of the store with undo logs. -/
def inUndoLog (p : StoreProgram ν) : Run (Session UndoStore ν) ν :=
  UndoStore.transaction Session.storeCell p.onUndoLogs

/-- Run a program in a transaction of the store of reference. -/
def inCopy (p : StoreProgram ν) : Run (Session Claims ν) ν :=
  CopyingStore.transaction Session.storeCell p.onCopies

/-- The session after a transaction was opened on its store. -/
def Session.opened (w : Session UndoStore ν) : Session UndoStore ν :=
  { w with store := w.store.openTransaction }

theorem exec_inUndoLog (p : StoreProgram ν) (w : Session UndoStore ν) :
    p.inUndoLog.exec w =
      match p.onUndoLogs.exec w.opened with
      | (.ok a, w') => (.ok a, { w' with store := w'.store.commit })
      | (.error e, w') => (.error e, { w' with store := w'.store.rollback }) := by
  have hopened : Session.storeCell.set (Session.storeCell.get w).openTransaction w = w.opened := rfl
  rw [inUndoLog, UndoStore.exec_transaction, hopened]
  rcases p.onUndoLogs.exec w.opened with ⟨outcome, w'⟩
  cases outcome <;> rfl

theorem exec_inCopy (p : StoreProgram ν) (w : Session Claims ν) :
    p.inCopy.exec w =
      match p.onCopies.exec w with
      | (.ok a, w') => (.ok a, w')
      | (.error e, w') => (.error e, { w' with store := w.store }) := by
  rw [inCopy, CopyingStore.exec_transaction]
  rcases p.onCopies.exec w with ⟨outcome, w'⟩
  cases outcome <;> rfl

/-! Each step of a program has the store answer, keeps the answer and goes on. -/

section Steps

variable {τ : Type} {store : ClaimStore (Session τ ν)} {count : Run (Session τ ν) Nat}
  {w : Session τ ν}

private theorem exec_get {f : Fingerprint} {r : Option ClaimRecord}
    (h : (store.get f).exec w = (.ok r, w)) (next : Option ClaimRecord → StoreProgram ν) :
    ((get f next).run store count Session.tell).exec w =
      ((next r).run store count Session.tell).exec (w.told (.claim r)) := by
  rw [run, Run.exec_bind, h]
  rfl

private theorem exec_contains {f : Fingerprint} {b : Bool}
    (h : (store.contains f).exec w = (.ok b, w)) (next : Bool → StoreProgram ν) :
    ((contains f next).run store count Session.tell).exec w =
      ((next b).run store count Session.tell).exec (w.told (.claimed b)) := by
  rw [run, Run.exec_bind, h]
  rfl

private theorem exec_size {n : Nat} (h : count.exec w = (.ok n, w))
    (next : Nat → StoreProgram ν) :
    ((size next).run store count Session.tell).exec w =
      ((next n).run store count Session.tell).exec (w.told (.size n)) := by
  rw [run, Run.exec_bind, h]
  rfl

private theorem exec_transaction_step {body : StoreProgram ν} {outcome : Except Fault ν}
    {w' : Session τ ν}
    (h : (store.transaction (body.run store count Session.tell)).exec w = (outcome, w'))
    (next : Except Fault ν → StoreProgram ν) :
    ((transaction body next).run store count Session.tell).exec w =
      ((next outcome).run store count Session.tell).exec (w'.told (.ended outcome)) := by
  rw [run, Run.exec_bind, Run.exec_observe, h]
  rfl

end Steps

/-! ## Undo logs stay balanced -/

private theorem follows_inUndoLog {p : StoreProgram ν} {w : Session UndoStore ν}
    (h : UndoStore.Follows w.store.openTransaction (p.onUndoLogs.exec w.opened).2.store) :
    UndoStore.Follows w.store (p.inUndoLog.exec w).2.store := by
  rw [exec_inUndoLog]
  generalize p.onUndoLogs.exec w.opened = r at h ⊢
  obtain ⟨outcome, w'⟩ := r
  cases outcome with
  | ok a => exact UndoStore.follows_commit h
  | error e => exact UndoStore.follows_rollback h

/-- Whatever a program does and however it ends, its transactions are closed again, and what it
wrote can be played back. -/
theorem follows_onUndoLogs (p : StoreProgram ν) (w : Session UndoStore ν) :
    UndoStore.Follows w.store (p.onUndoLogs.exec w).2.store := by
  -- Induction on the program; the continuations run in whatever session they find.
  induction p generalizing w with
  | done outcome => exact UndoStore.Follows.refl _
  | get f next ih => exact ih _ _
  | contains f next ih => exact ih _ _
  | insert f r next ih => exact (UndoStore.follows_insert w.store f r).trans (ih _)
  | remove f next ih => exact (UndoStore.follows_remove w.store f).trans (ih _)
  | size next ih => exact ih _ _
  | transaction body next ihbody ihnext =>
    have hbody := follows_inUndoLog (ihbody w.opened)
    exact hbody.trans (ihnext _ _)

/-- A transaction that fails leaves the claims and the enclosing undo logs that it found. -/
theorem inUndoLog_error {p : StoreProgram ν} {w : Session UndoStore ν} {e : Fault}
    (h : (p.inUndoLog.exec w).1 = .error e) :
    (∀ f, (p.inUndoLog.exec w).2.store.get? f = w.store.get? f) ∧
      (p.inUndoLog.exec w).2.store.undoLogs = w.store.undoLogs := by
  have hfollows := follows_onUndoLogs p w.opened
  rw [exec_inUndoLog] at h ⊢
  generalize p.onUndoLogs.exec w.opened = r at h hfollows ⊢
  obtain ⟨outcome, w'⟩ := r
  cases outcome with
  | ok a => cases h
  | error e' =>
    exact ⟨UndoStore.get?_rollback_of_follows hfollows, UndoStore.undoLogs_rollback hfollows⟩

/-! ## Agreement -/

/-- Two runs of a program ended alike, gave the same answers and left the same claims. -/
structure Agree (u : Except Fault ν × Session UndoStore ν)
    (c : Except Fault ν × Session Claims ν) : Prop where
  outcome : u.1 = c.1
  answers : u.2.answers = c.2.answers
  represents : u.2.store.Represents c.2.store

variable {u : Session UndoStore ν} {c : Session Claims ν}

/-- If a program agrees inside a transaction, the transaction agrees. -/
private theorem agree_transaction {p : StoreProgram ν} (hclaims : u.store.Represents c.store)
    (h : Agree (p.onUndoLogs.exec u.opened) (p.onCopies.exec c)) :
    Agree (p.inUndoLog.exec u) (p.inCopy.exec c) := by
  have hfollows := follows_onUndoLogs p u.opened
  rw [exec_inUndoLog, exec_inCopy]
  generalize p.onUndoLogs.exec u.opened = ru at h hfollows ⊢
  generalize p.onCopies.exec c = rc at h ⊢
  obtain ⟨uOutcome, u'⟩ := ru
  obtain ⟨cOutcome, c'⟩ := rc
  obtain ⟨houtcome, hanswers, hrepresents⟩ := h
  obtain rfl : uOutcome = cOutcome := houtcome
  cases uOutcome with
  | ok a => exact ⟨rfl, hanswers, hrepresents.commit⟩
  -- One store plays its undo log back, the other puts its copy back.
  | error e => exact ⟨rfl, hanswers, hclaims.rollback hfollows⟩

/-- From stores that keep the same claims, a program runs alike. -/
theorem agree_run (p : StoreProgram ν) (hclaims : u.store.Represents c.store)
    (hanswers : u.answers = c.answers) : Agree (p.onUndoLogs.exec u) (p.onCopies.exec c) := by
  -- Induction on the program.  Both stores give the same answers, so both runs go on with the same
  -- continuation, from stores that still keep the same claims.
  induction p generalizing u c with
  | done outcome => exact ⟨rfl, hanswers, hclaims⟩
  -- A lookup is answered alike by stores that keep the same claims.
  | get f next ih =>
    have hget : ((UndoStore.store Session.storeCell).get f).exec u = (.ok (c.store.get? f), u) := by
      rw [← hclaims.get?_eq]
      rfl
    rw [onUndoLogs, exec_get hget, onCopies, exec_get rfl]
    exact ih _ hclaims (congrArg (· ++ _) hanswers)
  | contains f next ih =>
    have hcontains : ((UndoStore.store Session.storeCell).contains f).exec u =
        (.ok (c.store.contains f), u) := by
      rw [← hclaims.contains_eq]
      rfl
    rw [onUndoLogs, exec_contains hcontains, onCopies, exec_contains rfl]
    exact ih _ hclaims (congrArg (· ++ _) hanswers)
  | insert f r next ih => exact ih (hclaims.insert f r) hanswers
  | remove f next ih => exact ih (hclaims.remove f) hanswers
  | size next ih =>
    -- So is a question for the size.
    have hsize : (Session.count UndoStore.size).exec u = (.ok c.store.size, u) := by
      rw [← hclaims.size_eq]
      rfl
    have hsize' : (Session.count Table.size).exec c = (.ok c.store.size, c) := rfl
    rw [onUndoLogs, exec_size hsize, onCopies, exec_size hsize']
    exact ih _ hclaims (congrArg (· ++ _) hanswers)
  | transaction body next ihbody ihnext =>
    obtain ⟨houtcome, hanswers', hclaims'⟩ :=
      agree_transaction hclaims (ihbody hclaims hanswers)
    -- The transactions ended alike, so the program goes on with the same outcome.
    have hended : body.inUndoLog.exec u = ((body.inCopy.exec c).1, (body.inUndoLog.exec u).2) :=
      Prod.ext houtcome rfl
    rw [onUndoLogs, exec_transaction_step hended, onCopies, exec_transaction_step rfl]
    exact ihnext _ hclaims' (congrArg (· ++ _) hanswers')

/-- From the same claims, the store with undo logs gives every program the same answers as the store
of copies, one for each step and each transaction, ends it alike and leaves the same claims and no
undo log.  Wherever a transaction fails, at any depth, the claims and the enclosing undo logs are
those that it found: it takes back its own writes, those of its committed inner transactions
included, and none of an enclosing one. -/
theorem undo_store_agrees_with_copies (ν : Type) :
    (∀ (claims : Claims) (p : StoreProgram ν),
      let u := p.onUndoLogs.exec ⟨.ofClaims claims, []⟩
      let c := p.onCopies.exec ⟨claims, []⟩
      u.1 = c.1 ∧ u.2.answers = c.2.answers ∧
        (∀ f, u.2.store.get? f = c.2.store.get? f) ∧ u.2.store.size = c.2.store.size ∧
        u.2.store.undoLogs = []) ∧
    ∀ (w : Session UndoStore ν) (p : StoreProgram ν) (e : Fault),
      (p.inUndoLog.exec w).1 = .error e →
        (∀ f, (p.inUndoLog.exec w).2.store.get? f = w.store.get? f) ∧
          (p.inUndoLog.exec w).2.store.undoLogs = w.store.undoLogs := by
  refine ⟨fun claims p => ?_, fun w p e => inUndoLog_error⟩
  intro u c
  have hagree : Agree u c := agree_run p (UndoStore.represents_ofClaims claims) rfl
  obtain ⟨houtcome, hanswers, hrepresents⟩ := hagree
  refine ⟨houtcome, hanswers, hrepresents.get?_eq, hrepresents.size_eq, ?_⟩
  -- Outside all transactions there is no log to note anything in.
  obtain ⟨log, hlogs, -⟩ := follows_onUndoLogs p ⟨.ofClaims claims, []⟩
  exact hlogs

end StoreProgram

end ProofOfExistence
