import ProofOfExistence.Store.Basic
import ProofOfExistence.Table

/-! # The store with undo logs

Claims are kept in memory, under the hexadecimal text of their storage keys.  Each open transaction
has an undo log: before a write, the innermost log notes what the key held.  A transaction that
fails plays its log back, newest entry first; one that succeeds hands its log to the enclosing
transaction, whose own entries are older.  A write outside all transactions is noted nowhere.

The view of the store is `get?`, by fingerprint:

* `get?_insert`  `(s.insert f r).get? g = if g = f then some r else s.get? g`
* `get?_remove`  `(s.remove f).get? g = if g = f then none else s.get? g` -/

namespace ProofOfExistence

/-- What a key held before a write. -/
structure UndoEntry where
  key : String
  previous : Option ClaimRecord

/-- Claims in memory, with one undo log per open transaction. -/
structure UndoStore where
  /-- The claims, by the text of their storage keys. -/
  records : Table String ClaimRecord
  /-- The undo logs, innermost transaction first; in each, the newest entry first. -/
  undoLogs : List (List UndoEntry)

namespace UndoStore

/-- The store without claims. -/
def empty : UndoStore := ⟨.empty, []⟩

instance : Inhabited UndoStore := ⟨empty⟩

/-- The number of claims. -/
def size (s : UndoStore) : Nat := s.records.size

/-- The claim on a fingerprint. -/
def get? (s : UndoStore) (f : Fingerprint) : Option ClaimRecord :=
  s.records.get? (StorageKey.hexOfFingerprint f)

/-- Whether a fingerprint is claimed. -/
def contains (s : UndoStore) (f : Fingerprint) : Bool :=
  s.records.contains (StorageKey.hexOfFingerprint f)

/-- Note in the innermost undo log what a key holds. -/
def note (s : UndoStore) (key : String) : UndoStore :=
  match s.undoLogs with
  | [] => s
  | log :: outer => { s with undoLogs := (⟨key, s.records.get? key⟩ :: log) :: outer }

/-- Set the claim on a fingerprint. -/
def insert (s : UndoStore) (f : Fingerprint) (r : ClaimRecord) : UndoStore :=
  let key := StorageKey.hexOfFingerprint f
  let s := s.note key
  { s with records := s.records.insert key r }

/-- Remove the claim on a fingerprint, if there is one. -/
def remove (s : UndoStore) (f : Fingerprint) : UndoStore :=
  let key := StorageKey.hexOfFingerprint f
  if s.records.contains key then
    let s := s.note key
    { s with records := s.records.erase key }
  else s

/-- Open a transaction. -/
def openTransaction (s : UndoStore) : UndoStore := { s with undoLogs := [] :: s.undoLogs }

/-- Close the innermost transaction and keep its writes. -/
def commit (s : UndoStore) : UndoStore :=
  match s.undoLogs with
  | log :: outer :: rest => { s with undoLogs := (log ++ outer) :: rest }
  | _ => { s with undoLogs := [] }

/-- Put back what the entries of an undo log say, newest first. -/
def playBack (records : Table String ClaimRecord) (log : List UndoEntry) :
    Table String ClaimRecord :=
  log.foldl (fun t e => t.set? e.key e.previous) records

/-- Close the innermost transaction and take its writes back. -/
def rollback (s : UndoStore) : UndoStore :=
  match s.undoLogs with
  | log :: rest => ⟨playBack s.records log, rest⟩
  | [] => s

@[simp] theorem records_note (s : UndoStore) (key : String) : (s.note key).records = s.records := by
  unfold note
  split <;> rfl

/-- A fingerprint is claimed when there is a claim on it. -/
theorem contains_eq (s : UndoStore) (f : Fingerprint) : s.contains f = (s.get? f).isSome := rfl

/-- Setting a claim shows at its fingerprint and nowhere else. -/
@[simp] theorem get?_insert (s : UndoStore) (f g : Fingerprint) (r : ClaimRecord) :
    (s.insert f r).get? g = if g = f then some r else s.get? g := by
  simp [get?, insert, StorageKey.hexOfFingerprint_inj]

/-- Removing a claim shows at its fingerprint and nowhere else. -/
@[simp] theorem get?_remove (s : UndoStore) (f g : Fingerprint) :
    (s.remove f).get? g = if g = f then none else s.get? g := by
  by_cases h : s.records.contains (StorageKey.hexOfFingerprint f) = true
  · simp [remove, h, get?, StorageKey.hexOfFingerprint_inj]
  · have habsent : s.get? f = none := by
      simpa [Table.contains, get?] using h
    by_cases hg : g = f
    · simp [remove, h, hg, habsent]
    · simp [remove, h, hg]

/-- Opening a transaction shows nowhere. -/
@[simp] theorem get?_openTransaction (s : UndoStore) (g : Fingerprint) :
    s.openTransaction.get? g = s.get? g := rfl

/-- Keeping the writes of a transaction shows nowhere. -/
@[simp] theorem get?_commit (s : UndoStore) (g : Fingerprint) : s.commit.get? g = s.get? g := by
  unfold commit
  split <;> rfl

variable {σ α : Type}

/-- Run a computation between opening a transaction and closing it. -/
def transaction (cell : Cell σ UndoStore) (body : Run σ α) : Run σ α := do
  cell.modify openTransaction
  match ← Run.observe body with
  | .ok a =>
    cell.modify commit
    return a
  | .error e =>
    cell.modify rollback
    throw e

/-- A transaction keeps the state that its computation left, with the writes of that computation
kept or taken back, and ends with the same outcome. -/
theorem exec_transaction (cell : Cell σ UndoStore) (body : Run σ α) (w : σ) :
    (transaction cell body).exec w =
      match body.exec (cell.set (cell.get w).openTransaction w) with
      | (.ok a, w') => (.ok a, cell.set (cell.get w').commit w')
      | (.error e, w') => (.error e, cell.set (cell.get w').rollback w') := by
  unfold transaction
  simp only [Run.exec_bind, Cell.exec_modify, Run.exec_observe]
  rcases body.exec (cell.set (cell.get w).openTransaction w) with ⟨outcome, w'⟩
  cases outcome <;> simp [Run.exec_bind, Except.map]

/-- The claim store that keeps its claims in a cell. -/
def store (cell : Cell σ UndoStore) : ClaimStore σ where
  get f := do return (← cell.read).get? f
  contains f := do return (← cell.read).contains f
  insert f r := cell.modify fun s => s.insert f r
  remove f := cell.modify fun s => s.remove f
  transaction body := transaction cell body

end UndoStore

end ProofOfExistence
