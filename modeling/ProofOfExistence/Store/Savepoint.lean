import ProofOfExistence.Store.Basic
import ProofOfExistence.Table

/-! # The durable store with savepoints

A durable store has contents that outlive it.  Opening a transaction copies the claims as they are,
and all operations act on the innermost copy.  A transaction that fails drops its copy; one that
succeeds hands it to the enclosing transaction, or makes it durable if it is an outermost one that
has written.  A write outside all transactions is durable at once.  To remove a claim that is not
there is no write.  The durable contents are numbered by their revision, which goes up each time
they are written.

Closing the store drops all copies, so whatever belongs to a transaction that is still open is lost.
Every later operation raises a fault, the end of that transaction included; closing again does
nothing. -/

namespace ProofOfExistence

/-- What a durable store keeps: claims by storage key. -/
abbrev DurableClaims := Table Bytes ClaimRecord

/-- The open transactions of an open store. -/
structure StoreSession where
  /-- The copy of each transaction, innermost first. -/
  copies : List DurableClaims
  /-- Whether anything was written since the outermost transaction began. -/
  wrote : Bool

/-- A store without transactions. -/
def StoreSession.idle : StoreSession := ⟨[], false⟩

/-- A durable store. -/
structure SavepointStore where
  /-- What another opening would find. -/
  durable : DurableClaims
  /-- How often the durable contents have been written. -/
  revision : Nat
  /-- The open transactions, none once the store is closed. -/
  session : Option StoreSession

namespace SavepointStore

/-- A store opened on durable contents. -/
def ofDurable (durable : DurableClaims) : SavepointStore := ⟨durable, 0, some .idle⟩

instance : Inhabited SavepointStore := ⟨ofDurable .empty⟩

/-- The claims as an operation of a session sees them. -/
def visible (s : SavepointStore) (o : StoreSession) : DurableClaims := o.copies.headD s.durable

/-- The number of claims, none when the store is closed. -/
def count? (s : SavepointStore) : Option Nat := s.session.map fun o => (s.visible o).size

/-- The store with new claims, in the innermost copy if there is one. -/
def put (s : SavepointStore) (o : StoreSession) (claims : DurableClaims) : SavepointStore :=
  match o.copies with
  | [] => ⟨claims, s.revision + 1, some o⟩
  | _ :: outer => { s with session := some ⟨claims :: outer, true⟩ }

/-- Close the store. -/
def close (s : SavepointStore) : SavepointStore := { s with session := none }

/-- The session of a store that must be open. -/
def opened (s : SavepointStore) : Except Fault StoreSession :=
  match s.session with
  | some o => .ok o
  | none => .error .storeClosed

/-- Whether the durable contents can hold a claim: its time must be a number. -/
def storable (r : ClaimRecord) : Bool := r.registeredAt ≠ .nan

/-- Set the claim on a fingerprint. -/
def insert (s : SavepointStore) (f : Fingerprint) (r : ClaimRecord) :
    Except Fault SavepointStore := do
  let o ← s.opened
  if storable r then
    return s.put o ((s.visible o).insert (StorageKey.ofFingerprint f) r)
  else throw .missingTimestamp

/-- Remove the claim on a fingerprint, if there is one. -/
def remove (s : SavepointStore) (f : Fingerprint) : Except Fault SavepointStore := do
  let o ← s.opened
  let key := StorageKey.ofFingerprint f
  if (s.visible o).contains key then return s.put o ((s.visible o).erase key) else return s

/-- Open a transaction. -/
def openTransaction (s : SavepointStore) : Except Fault SavepointStore := do
  let o ← s.opened
  return { s with session := some { o with copies := s.visible o :: o.copies } }

/-- Close the innermost transaction and keep its writes. -/
def commit (s : SavepointStore) : Except Fault SavepointStore := do
  let o ← s.opened
  match o.copies with
  | [] => return s
  | [copy] =>
    if o.wrote then return ⟨copy, s.revision + 1, some .idle⟩
    else return { s with session := some .idle }
  | copy :: _ :: outer => return { s with session := some { o with copies := copy :: outer } }

/-- Close the innermost transaction and take its writes back; a closed store has none to close. -/
def rollback (s : SavepointStore) : SavepointStore :=
  match s.session with
  | none => s
  | some o =>
    match o.copies.drop 1 with
    | [] => { s with session := some .idle }
    | outer => { s with session := some { o with copies := outer } }

variable {σ α : Type}

/-- Change the store in a cell, or raise the fault and leave it. -/
def update (cell : Cell σ SavepointStore)
    (f : SavepointStore → Except Fault SavepointStore) : Run σ Unit := do
  cell.write (← Run.ofExcept (f (← cell.read)))

/-- A change that succeeds is written, one that fails leaves the state as it was. -/
theorem exec_update (cell : Cell σ SavepointStore)
    (f : SavepointStore → Except Fault SavepointStore) (w : σ) :
    (update cell f).exec w =
      match f (cell.get w) with
      | .ok s => (.ok (), cell.set s w)
      | .error e => (.error e, w) := by
  unfold update
  simp only [Run.exec_bind, Cell.exec_read, Run.exec_ofExcept]
  cases f (cell.get w) <;> simp

/-- The claims of the store in a cell. -/
def claims (cell : Cell σ SavepointStore) : Run σ DurableClaims := do
  let s ← cell.read
  return s.visible (← Run.ofExcept s.opened)

/-- Run a computation between opening a transaction and closing it.  If the store is closed
meanwhile, a computation that succeeds still ends with a fault, and one that fails keeps its own. -/
def transaction (cell : Cell σ SavepointStore) (body : Run σ α) : Run σ α := do
  update cell openTransaction
  match ← Run.observe body with
  | .ok a =>
    update cell commit
    return a
  | .error e =>
    cell.modify rollback
    throw e

/-- The claim store that keeps its claims in the durable store in a cell. -/
def store (cell : Cell σ SavepointStore) : ClaimStore σ where
  get f := do return (← claims cell).get? (StorageKey.ofFingerprint f)
  contains f := do return (← claims cell).contains (StorageKey.ofFingerprint f)
  insert f r := update cell fun s => s.insert f r
  remove f := update cell fun s => s.remove f
  transaction body := transaction cell body

end SavepointStore

end ProofOfExistence
