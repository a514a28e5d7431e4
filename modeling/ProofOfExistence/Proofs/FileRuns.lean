import ProofOfExistence.Proofs.CallSteps
import ProofOfExistence.Proofs.ServiceRuns
import ProofOfExistence.Proofs.SoleStore

/-!
# Runs on a durable file that is closed and opened again

A `FileProgram` uses a file through the stores that were opened on it, which it knows by their
numbers, and through the claim service on each of them.  It writes directly, makes calls, opens
transactions to any depth, closes a store at any point, and opens the file again once all its stores
are closed, also in the middle of a transaction of a closed one.  A clock, a sink and a reporter of
a service are such programs, too, so all this can happen while a call is in progress.

A `FileWorld` notes each deed together with the file that it left.

## Key results

- `FileWorld.respects_run`: what every deed respects, every run respects
-/

namespace ProofOfExistence

variable {κ α : Type}

/-! ## Deeds -/

/-- A single operation on a store. -/
inductive FileOp where
  | get (f : Fingerprint)
  | contains (f : Fingerprint)
  | insert (f : Fingerprint) (r : ClaimRecord)
  | remove (f : Fingerprint)
  | count

/-- What was done to one of the stores on a file. -/
inductive FileDeed where
  /-- An operation was answered, or ended with a fault. -/
  | did (i : Nat) (op : FileOp) (fault : Option Fault)
  /-- A transaction was asked for. -/
  | began (i : Nat)
  /-- The last transaction that was asked for and has not ended did, with a fault or without. -/
  | ended (i : Nat) (fault : Option Fault)
  | closed (i : Nat)
  | opened (i : Nat)

/-- A deed and the file after it. -/
structure FileEntry where
  deed : FileDeed
  file : StoreFile

/-- A file and its surroundings. -/
structure FileWorld (κ : Type) where
  file : StoreFile
  /-- What programs keep for themselves. -/
  own : κ
  /-- What was done so far. -/
  story : List FileEntry

namespace FileWorld

/-- The place of the file. -/
def fileCell : Cell (FileWorld κ) StoreFile := ⟨FileWorld.file, fun f w => { w with file := f }⟩

/-- The place of what programs keep. -/
def ownCell : Cell (FileWorld κ) κ := ⟨FileWorld.own, fun k w => { w with own := k }⟩

/-- A file on which no store was opened yet. -/
def fresh (durable : DurableClaims) (revision : Nat) (own : κ) : FileWorld κ :=
  ⟨⟨durable, revision, []⟩, own, []⟩

/-- The world with one more deed. -/
def noted (w : FileWorld κ) (deed : FileDeed) : FileWorld κ :=
  { w with story := w.story ++ [⟨deed, w.file⟩] }

/-- Note a deed. -/
def note (deed : FileDeed) : Run (FileWorld κ) Unit :=
  modifyThe (FileWorld κ) fun w => w.noted deed

/-- Carry out a computation and note how it ended. -/
def noting (deed : Option Fault → FileDeed) (body : Run (FileWorld κ) α) :
    Run (FileWorld κ) α := do
  match ← Run.observe body with
  | .ok a =>
    note (deed none)
    return a
  | .error e =>
    note (deed (some e))
    throw e

theorem exec_noting (deed : Option Fault → FileDeed) (body : Run (FileWorld κ) α)
    (w : FileWorld κ) :
    (noting deed body).exec w =
      match body.exec w with
      | (.ok a, w') => (.ok a, w'.noted (deed none))
      | (.error e, w') => (.error e, w'.noted (deed (some e))) := by
  unfold noting
  rw [Run.exec_bind, Run.exec_observe]
  rcases body.exec w with ⟨_ | a, w'⟩ <;> rfl

/-! ## The stores on the file -/

/-- The `i`-th store on the file. -/
def storeAt (i : Nat) : ClaimStore (FileWorld κ) :=
  let s := StoreFile.claimStore fileCell i
  { get := fun f => noting (.did i (.get f)) (s.get f)
    contains := fun f => noting (.did i (.contains f)) (s.contains f)
    insert := fun f r => noting (.did i (.insert f r)) (s.insert f r)
    remove := fun f => noting (.did i (.remove f)) (s.remove f)
    transaction := fun body => do
      note (.began i)
      noting (.ended i) (s.transaction body) }

/-- The number of claims in the `i`-th store. -/
def count (i : Nat) : Run (FileWorld κ) Nat :=
  noting (.did i .count) (StoreFile.count fileCell i)

/-- Close the `i`-th store, if there is one. -/
def close (i : Nat) : Run (FileWorld κ) Unit := do
  if i < (← fileCell.read).stores.length then
    (StoreFile.storeCell fileCell i).modify SavepointStore.close
    note (.closed i)

/-- Open a store on the file, unless another one is still open. -/
def reopen : Run (FileWorld κ) Unit := do
  let f ← fileCell.read
  if f.stores.all Option.isNone then
    fileCell.write f.addStore
    note (.opened f.stores.length)

/-- Carry out an operation on the `i`-th store. -/
def perform (i : Nat) : FileOp → Run (FileWorld κ) StepAnswer
  | .get f => .claim <$> (storeAt i).get f
  | .contains f => .claimed <$> (storeAt i).contains f
  | .insert f r => (fun _ => .written) <$> (storeAt i).insert f r
  | .remove f => (fun _ => .written) <$> (storeAt i).remove f
  | .count => (fun n => .size (some n)) <$> count i

end FileWorld

/-! ## Programs -/

/-- A program that uses a file.  It decides with every answer and every fault how it goes on. -/
inductive FileProgram (κ α : Type) where
  | done (outcome : Except Fault α)
  | look (next : κ → FileProgram κ α)
  | keep (own : κ) (next : FileProgram κ α)
  | step (i : Nat) (op : FileOp) (next : Except Fault StepAnswer → FileProgram κ α)
  /-- Have the service on a store answer a request. -/
  | call (i : Nat) (r : ClaimRequest) (next : Except Fault ClaimReply → FileProgram κ α)
  /-- Run `body` in a transaction. -/
  | transaction (i : Nat) (body : FileProgram κ α) (next : Except Fault α → FileProgram κ α)
  | close (i : Nat) (next : FileProgram κ α)
  | reopen (next : FileProgram κ α)

/-- Run a program, with services that answer its requests. -/
def FileProgram.run (serve : Nat → ClaimRequest → Run (FileWorld κ) ClaimReply) :
    FileProgram κ α → Run (FileWorld κ) α
  | done outcome => Run.ofExcept outcome
  | look next => do (next (← FileWorld.ownCell.read)).run serve
  | keep own next => do
    FileWorld.ownCell.write own
    next.run serve
  | step i op next => do (next (← Run.observe (FileWorld.perform i op))).run serve
  | call i r next => do (next (← Run.observe (serve i r))).run serve
  | transaction i body next => do
    (next (← Run.observe ((FileWorld.storeAt i).transaction (body.run serve)))).run serve
  | close i next => do
    FileWorld.close i
    next.run serve
  | reopen next => do
    FileWorld.reopen
    next.run serve

/-- The collaborators of a service on a file. -/
structure FilePartners (κ : Type) where
  now : FileProgram κ Number
  deposit : ClaimEvent → FileProgram κ Unit
  proofLimit : Nat
  count : Utf16 → Tags → FileProgram κ Unit
  log : LogLevel → String → LogContext → FileProgram κ Unit

/-- The service on the `i`-th store, whose collaborators' requests are answered by `serve`. -/
def FilePartners.service (P : FilePartners κ) (i : Nat)
    (serve : Nat → ClaimRequest → Run (FileWorld κ) ClaimReply) : ClaimService (FileWorld κ) where
  store := FileWorld.storeAt i
  now := P.now.run serve
  deposit event := (P.deposit event).run serve
  proofLimit := P.proofLimit
  count name tags := (P.count name tags).run serve
  log level text context := (P.log level text context).run serve

namespace FileWorld

/-- Have the service on a store answer a request, with room for calls within calls to a depth. -/
def serve (P : Nat → FilePartners κ) : Nat → Nat → ClaimRequest → Run (FileWorld κ) ClaimReply
  | 0, _, _ => throw Collaborators.stackFault
  | depth + 1, i, r => ((P i).service i (serve P depth)).serve r

/-! ## What runs respect -/

/-- All deeds respect a relation. -/
structure Respected (R : FileWorld κ → FileWorld κ → Prop) : Prop where
  keep : ∀ own, Run.Respects R (ownCell.write own)
  get : ∀ i f, Run.Respects R ((storeAt i).get f)
  contains : ∀ i f, Run.Respects R ((storeAt i).contains f)
  insert : ∀ i f r, Run.Respects R ((storeAt i).insert f r)
  remove : ∀ i f, Run.Respects R ((storeAt i).remove f)
  count : ∀ i, Run.Respects R (count i)
  transaction : ∀ {α : Type} (i : Nat) (body : Run (FileWorld κ) α), Run.Respects R body →
    Run.Respects R ((storeAt i).transaction body)
  close : ∀ i, Run.Respects R (close i)
  reopen : Run.Respects R reopen

section Respected

variable {R : FileWorld κ → FileWorld κ → Prop} (h : Respected R)
include h

theorem respects_perform (i : Nat) (op : FileOp) : Run.Respects R (perform i op) := by
  cases op with
  | get f => exact Run.respects_map (h.get i f) _
  | contains f => exact Run.respects_map (h.contains i f) _
  | insert f r => exact Run.respects_map (h.insert i f r) _
  | remove f => exact Run.respects_map (h.remove i f) _
  | count => exact Run.respects_map (h.count i) _

variable [IsPreorder (FileWorld κ) R]

theorem respects_program {serve : Nat → ClaimRequest → Run (FileWorld κ) ClaimReply}
    (hserve : ∀ i r, Run.Respects R (serve i r)) (p : FileProgram κ α) :
    Run.Respects R (p.run serve) := by
  -- Induction on the program; what fails is observed, so the program goes on.
  induction p with
  | done outcome => exact Run.respects_ofExcept R outcome
  | look next ih => exact fun w => ih w.own w
  | keep own next ih => exact Run.respects_bind (h.keep own) fun _ => ih
  | step i op next ih =>
    exact Run.respects_bind (Run.respects_observe (respects_perform h i op)) fun answer => ih answer
  | call i r next ih =>
    exact Run.respects_bind (Run.respects_observe (hserve i r)) fun reply => ih reply
  | transaction i body next ihbody ihnext =>
    exact Run.respects_bind (Run.respects_observe (h.transaction i _ ihbody)) fun outcome =>
      ihnext outcome
  | close i next ih => exact Run.respects_bind (h.close i) fun _ => ih
  | reopen next ih => exact Run.respects_bind h.reopen fun _ => ih

theorem respects_serve (P : Nat → FilePartners κ) (depth i : Nat) (r : ClaimRequest) :
    Run.Respects R (serve P depth i r) := by
  -- On a full stack every call fails at once.  Any other call leaves less room for those within it.
  induction depth generalizing i r with
  | zero => exact Run.respects_throw R _
  | succ depth ih =>
    have hservice : ((P i).service i (serve P depth)).Respects R :=
      { get := h.get i
        contains := h.contains i
        insert := h.insert i
        remove := h.remove i
        transaction := h.transaction i
        now := respects_program h ih _
        deposit := fun _ => respects_program h ih _
        count := fun _ _ => respects_program h ih _
        log := fun _ _ _ => respects_program h ih _ }
    exact ClaimService.respects_serve hservice r

/-- What every deed respects, every run respects. -/
theorem respects_run (P : Nat → FilePartners κ) (depth : Nat) (p : FileProgram κ α) :
    Run.Respects R (p.run (serve P depth)) :=
  respects_program h (respects_serve h P depth) p

end Respected

end FileWorld

end ProofOfExistence
