import ProofOfExistence.Store.Savepoint

/-! # Several stores on one file

Each store on a file has transactions of its own.  Outside them it sees what the others have made
durable.  Its outermost transaction begins to see the file when it first looks at it: all that it
reads from then on, up to its end, is the file of that moment with its own writes.

Only one store at a time has unfinished writes.  A store in a transaction takes hold of the file
with its first attempt to write, whatever becomes of that attempt, and lets go of it when the
transaction ends or the store is closed.  An attempt to write fails while another store holds the
file (`storeLocked`), and also when the transaction sees a revision of the file that is no longer
the last one (`storeOutdated`), because its writes would undo what it has not seen. -/

namespace ProofOfExistence

/-- A store that is open on a file. -/
structure OpenStore where
  session : StoreSession
  /-- The revision that the open transactions see, none until they look at the file. -/
  seen : Option Nat
  /-- Whether the open transactions hold the file. -/
  holds : Bool

namespace OpenStore

/-- A store that was just opened. -/
def idle : OpenStore := ⟨.idle, none, false⟩

/-- Whether a transaction is open. -/
def isInTransaction (u : OpenStore) : Bool := !u.session.copies.isEmpty

/-- The session that the next operation works on.  Transactions that have not looked at the file yet
are about what the file keeps now. -/
def current (u : OpenStore) (durable : DurableClaims) : StoreSession :=
  if u.seen.isSome then u.session
  else { u.session with copies := u.session.copies.map fun _ => durable }

/-- The store with another session; what it saw and held ends with its transactions. -/
def withSession (u : OpenStore) (session : StoreSession) : OpenStore :=
  if session.copies.isEmpty then { idle with session := session }
  else { u with session := session }

end OpenStore

/-- A file with the stores on it. -/
structure StoreFile where
  /-- What the file keeps. -/
  durable : DurableClaims
  /-- How often that has been written. -/
  revision : Nat
  /-- The stores that were opened on the file, none in place of a closed one. -/
  stores : List (Option OpenStore)

namespace StoreFile

/-- An empty file. -/
def empty : StoreFile := ⟨.empty, 0, []⟩

instance : Inhabited StoreFile := ⟨empty⟩

/-- The file after one more store was opened on it. -/
def addStore (f : StoreFile) : StoreFile := { f with stores := f.stores ++ [some .idle] }

/-- The `i`-th store on a file, unless it is closed. -/
def openStore? (f : StoreFile) (i : Nat) : Option OpenStore := f.stores[i]?.join

/-- The `i`-th store on a file by itself. -/
def store (f : StoreFile) (i : Nat) : SavepointStore :=
  ⟨f.durable, f.revision, (f.openStore? i).map fun u => u.current f.durable⟩

/-- The file after its `i`-th store has changed. -/
def setStore (f : StoreFile) (i : Nat) (s : SavepointStore) : StoreFile :=
  ⟨s.durable, s.revision,
    f.stores.set i (s.session.map ((f.openStore? i).getD .idle).withSession)⟩

/-- Whether another store than the `i`-th holds the file. -/
def isLockedFor (f : StoreFile) (i : Nat) : Bool :=
  (f.stores.eraseIdx i).any fun u => u.any OpenStore.holds

/-- The file after the `i`-th store has looked at it: its transactions see the file of now, unless
they have looked before. -/
def look (f : StoreFile) (i : Nat) : StoreFile :=
  match f.openStore? i with
  | some u =>
    if u.isInTransaction && u.seen.isNone then
      let u := { u with session := u.current f.durable, seen := some f.revision }
      { f with stores := f.stores.set i (some u) }
    else f
  | none => f

/-- The file after the `i`-th store has taken hold of it for a write.  A store outside all
transactions needs no hold, because its write ends at once, and a closed one gets none. -/
def hold (f : StoreFile) (i : Nat) : Except Fault StoreFile :=
  match f.openStore? i with
  | some u =>
    if f.isLockedFor i then .error .storeLocked
    else if u.seen.any (· ≠ f.revision) then .error .storeOutdated
    else if u.isInTransaction then
      let u := ⟨u.current f.durable, some f.revision, true⟩
      .ok { f with stores := f.stores.set i (some u) }
    else .ok f
  | none => .ok f

variable {σ : Type}

/-- The place of the `i`-th store on the file in a cell. -/
def storeCell (file : Cell σ StoreFile) (i : Nat) : Cell σ SavepointStore where
  get w := (file.get w).store i
  set s w := file.set ((file.get w).setStore i s) w

/-- Read from the `i`-th store on the file in a cell. -/
def reading {α : Type} (file : Cell σ StoreFile) (i : Nat) (body : Run σ α) : Run σ α := do
  file.modify fun f => f.look i
  body

/-- Write to the `i`-th store on the file in a cell. -/
def writing (file : Cell σ StoreFile) (i : Nat) (body : Run σ Unit) : Run σ Unit := do
  file.write (← Run.ofExcept ((← file.read).hold i))
  body

/-- A store that cannot take hold of the file writes nothing. -/
theorem exec_writing (file : Cell σ StoreFile) (i : Nat) (body : Run σ Unit) (w : σ) :
    (writing file i body).exec w =
      match (file.get w).hold i with
      | .error e => (.error e, w)
      | .ok f => body.exec (file.set f w) := by
  unfold writing
  simp only [Run.exec_bind, Cell.exec_read, Run.exec_ofExcept]
  cases (file.get w).hold i <;> rfl

/-- The claim store that is the `i`-th one on the file in a cell. -/
def claimStore (file : Cell σ StoreFile) (i : Nat) : ClaimStore σ :=
  let s := SavepointStore.store (storeCell file i)
  { s with
    get := fun f => reading file i (s.get f)
    contains := fun f => reading file i (s.contains f)
    insert := fun f r => writing file i (s.insert f r)
    remove := fun f => writing file i (s.remove f) }

/-- The number of claims in the `i`-th store on the file in a cell. -/
def count (file : Cell σ StoreFile) (i : Nat) : Run σ Nat :=
  reading file i do return (← SavepointStore.claims (storeCell file i)).size

/-- The number of claims in the `i`-th store on the file in a cell, none when it is closed. -/
def count? (file : Cell σ StoreFile) (i : Nat) : Run σ (Option Nat) :=
  reading file i do return (← (storeCell file i).read).count?

/-- The number is told just when counting does not fail. -/
theorem exec_count? (file : Cell σ StoreFile) (i : Nat) (w : σ) :
    (count? file i).exec w =
      (.ok ((count file i).exec w).1.toOption, ((count file i).exec w).2) := by
  unfold count? count reading SavepointStore.claims
  simp only [Run.exec_bind, Cell.exec_modify, Cell.exec_read, Run.exec_ofExcept]
  generalize (storeCell file i).get _ = s
  obtain ⟨durable, revision, _ | o⟩ := s <;> rfl

end StoreFile

end ProofOfExistence
