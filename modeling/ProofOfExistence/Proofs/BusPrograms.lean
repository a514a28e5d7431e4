import ProofOfExistence.Proofs.BusRuns

/-!
# Programs on an event bus

An event bus is used by callbacks that are known by their identity: programs that keep things for
themselves, subscribe and unsubscribe whom they like, deposit events themselves, to any depth, and
return or throw.  So the callbacks of a bus may change while an event is delivered, and deliveries
nest.  The error handler of the bus is such a program, too, and so is the user of the bus.

Deposits are numbered in the order in which they begin.  A world around a bus notes what happens on
the bus, and in which deposit.

## Key results

- `BusProgram.respects_run`, `Callbacks.respects_deposit`: programs and deposits of every depth
  respect what their moves and their notes respect
-/

namespace ProofOfExistence

/-! ## What happens on a bus -/

/-- What happens on a bus.  The numbers are those of deposits. -/
inductive BusEntry (ι : Type) where
  /-- A callback is subscribed, which may already be registered. -/
  | joined (k : ι)
  /-- A callback is unsubscribed, which may not be registered. -/
  | left (k : ι)
  /-- A deposit begins while the bus holds some callbacks. -/
  | began (n : Nat) (event : ClaimEvent) (snapshot : List ι)
  /-- A callback is invoked. -/
  | invoked (n : Nat) (k : ι) (event : ClaimEvent)
  /-- A callback returns or throws. -/
  | returned (n : Nat) (k : ι) (outcome : Except Fault Unit)
  /-- The error handler is called. -/
  | reported (n : Nat) (fault : Fault) (event : ClaimEvent)
  /-- The error handler returns or throws. -/
  | handled (n : Nat) (outcome : Except Fault Unit)
  /-- A deposit returns or throws. -/
  | ended (n : Nat) (outcome : Except Fault Unit)

variable {ι θ : Type}

/-! ## Programs on a bus -/

/-- A bus, and what everyone around it keeps. -/
structure BusWorld (ι θ : Type) where
  bus : EventBus ι
  /-- What the callbacks, the error handler and the user keep. -/
  own : θ
  /-- The number of deposits that have begun. -/
  deposits : Nat
  /-- What happened so far. -/
  trace : List (BusEntry ι)

namespace BusWorld

/-- The place of the bus. -/
def busCell : Cell (BusWorld ι θ) (EventBus ι) := ⟨BusWorld.bus, fun b w => { w with bus := b }⟩

/-- A bus that nobody has used. -/
def fresh (own : θ) : BusWorld ι θ := ⟨.empty, own, 0, []⟩

/-- The world with one more entry. -/
def noted (w : BusWorld ι θ) (x : BusEntry ι) : BusWorld ι θ :=
  { w with trace := w.trace ++ [x] }

/-- The world once a deposit has begun. -/
def begun (w : BusWorld ι θ) (event : ClaimEvent) : BusWorld ι θ :=
  { w with deposits := w.deposits + 1 }.noted (.began w.deposits event w.bus.subscribers)

/-- Begin a deposit, and return its number. -/
def begin (event : ClaimEvent) : Run (BusWorld ι θ) Nat := do
  let w ← getThe (BusWorld ι θ)
  set (w.begun event)
  return w.deposits

/-- Do something between two entries, of which the second one tells how it ended. -/
def within (start : BusEntry ι) (finish : Except Fault Unit → BusEntry ι)
    (body : Run (BusWorld ι θ) Unit) : Run (BusWorld ι θ) Unit := do
  modifyThe (BusWorld ι θ) fun w => w.noted start
  let outcome ← Run.observe body
  modifyThe (BusWorld ι θ) fun w => w.noted (finish outcome)
  Run.ofExcept outcome

theorem exec_within (start : BusEntry ι) (finish : Except Fault Unit → BusEntry ι)
    (body : Run (BusWorld ι θ) Unit) (w : BusWorld ι θ) :
    (within start finish body).exec w = ((body.exec (w.noted start)).1,
      (body.exec (w.noted start)).2.noted (finish (body.exec (w.noted start)).1)) :=
  rfl

variable [DecidableEq ι]

/-- The world once a callback has been subscribed. -/
def join (w : BusWorld ι θ) (k : ι) : BusWorld ι θ :=
  { w with bus := w.bus.subscribe k }.noted (.joined k)

/-- The world once a callback has been unsubscribed. -/
def leave (w : BusWorld ι θ) (k : ι) : BusWorld ι θ :=
  { w with bus := w.bus.unsubscribe k }.noted (.left k)

end BusWorld

/-- A program that may subscribe and unsubscribe callbacks and deposit events. -/
inductive BusProgram (ι θ : Type) where
  | done (outcome : Except Fault Unit)
  | look (next : BusWorld ι θ → BusProgram ι θ)
  | keep (own : θ) (next : BusProgram ι θ)
  | subscribe (k : ι) (next : BusProgram ι θ)
  | unsubscribe (k : ι) (next : BusProgram ι θ)
  | deposit (event : ClaimEvent) (next : Except Fault Unit → BusProgram ι θ)

/-- Run a program, whose events are deposited. -/
def BusProgram.run [DecidableEq ι] (deposit : ClaimEvent → Run (BusWorld ι θ) Unit) :
    BusProgram ι θ → Run (BusWorld ι θ) Unit
  | .done outcome => Run.ofExcept outcome
  | .look next => do run deposit (next (← getThe (BusWorld ι θ)))
  | .keep own next => do
    modifyThe (BusWorld ι θ) fun w => { w with own := own }
    run deposit next
  | .subscribe k next => do
    modifyThe (BusWorld ι θ) fun w => w.join k
    run deposit next
  | .unsubscribe k next => do
    modifyThe (BusWorld ι θ) fun w => w.leave k
    run deposit next
  | .deposit event next => do run deposit (next (← Run.observe (deposit event)))

/-- What callbacks do with an event, and the error handler with a fault. -/
structure Callbacks (ι θ : Type) where
  react : ι → ClaimEvent → BusProgram ι θ
  onError : Fault → ClaimEvent → BusProgram ι θ

namespace Callbacks

variable [DecidableEq ι] (c : Callbacks ι θ)

section Turns

variable (deposit : ClaimEvent → Run (BusWorld ι θ) Unit)

/-- Invoke a callback. -/
def invoke (n : Nat) (k : ι) (event : ClaimEvent) : Run (BusWorld ι θ) Unit :=
  BusWorld.within (.invoked n k event) (.returned n k) ((c.react k event).run deposit)

/-- Call the error handler. -/
def report (n : Nat) (fault : Fault) (event : ClaimEvent) : Run (BusWorld ι θ) Unit :=
  BusWorld.within (.reported n fault event) (.handled n) ((c.onError fault event).run deposit)

end Turns

/-- Deposit an event, with room for deposits within deposits to a depth. -/
def deposit : Nat → ClaimEvent → Run (BusWorld ι θ) Unit
  | 0, _ => throw Collaborators.stackFault
  | depth + 1, event => do
    let n ← BusWorld.begin event
    let outcome ← Run.observe (EventBus.deposit BusWorld.busCell (c.invoke (deposit depth) n)
      (c.report (deposit depth) n) event)
    modifyThe (BusWorld ι θ) fun w => w.noted (.ended n outcome)
    Run.ofExcept outcome

end Callbacks

/-! ## What every depth respects -/

section Respects

variable [DecidableEq ι] {R : BusWorld ι θ → BusWorld ι θ → Prop}

/-- What programs do besides deposits respects a relation. -/
structure BusProgram.Moves (R : BusWorld ι θ → BusWorld ι θ → Prop) : Prop where
  keep : ∀ w own, R w { w with own := own }
  join : ∀ w k, R w (w.join k)
  leave : ∀ w k, R w (w.leave k)

variable [IsPreorder (BusWorld ι θ) R] (hmoves : BusProgram.Moves R)
include hmoves

/-- A program respects what its deposits and its own moves respect. -/
theorem BusProgram.respects_run {deposit : ClaimEvent → Run (BusWorld ι θ) Unit}
    (hdeposit : ∀ event, Run.Respects R (deposit event)) (p : BusProgram ι θ) :
    Run.Respects R (p.run deposit) := by
  -- Induction on the program; a deposit that fails is observed, so the program goes on.
  induction p with
  | done outcome => exact Run.respects_ofExcept R outcome
  | look next ih => exact Run.respects_bind (fun w => Std.Refl.refl w) fun w => ih w
  | keep own next ih => exact Run.respects_bind (fun w => hmoves.keep w own) fun _ => ih
  | subscribe k next ih => exact Run.respects_bind (fun w => hmoves.join w k) fun _ => ih
  | unsubscribe k next ih => exact Run.respects_bind (fun w => hmoves.leave w k) fun _ => ih
  | deposit event next ih =>
    exact Run.respects_bind (Run.respects_observe (hdeposit event)) fun outcome => ih outcome

/-- Deposits of every depth respect what their entries and the moves of programs respect. -/
theorem Callbacks.respects_deposit (hbegun : ∀ w event, R w (w.begun event))
    (hnoted : ∀ w x, (∀ k, x ≠ .joined k ∧ x ≠ .left k) →
      (∀ n event snapshot, x ≠ .began n event snapshot) → R w (w.noted x))
    (c : Callbacks ι θ) (depth : Nat) (event : ClaimEvent) :
    Run.Respects R (c.deposit depth event) := by
  induction depth generalizing event with
  -- No room is left for the deposit.
  | zero => exact Run.respects_throw R _
  | succ depth ih =>
    -- What a callback does is noted before and after it, and in between it deposits with less room.
    have hwithin {start : BusEntry ι} {finish : Except Fault Unit → BusEntry ι}
        (hstart : ∀ w, R w (w.noted start)) (hfinish : ∀ w outcome, R w (w.noted (finish outcome)))
        (p : BusProgram ι θ) :
        Run.Respects R (BusWorld.within start finish (p.run (c.deposit depth))) := fun w =>
      IsTrans.trans _ _ _ (hstart w)
        (IsTrans.trans _ _ _ (BusProgram.respects_run hmoves ih p _) (hfinish _ _))
    refine Run.respects_bind (fun w => hbegun w event) fun n => ?_
    refine Run.respects_bind (Run.respects_observe ?_) fun outcome =>
      Run.respects_bind (fun w => hnoted w _ (by simp) (by simp)) fun _ =>
        Run.respects_ofExcept R outcome
    refine Run.respects_bind (fun w => Std.Refl.refl w) fun bus => ?_
    refine EventBus.respects_deliver (fun k _ => ?_) fun fault => ?_
    · -- A subscriber is called.
      exact hwithin (fun w => hnoted w _ (by simp) (by simp))
        (fun w _ => hnoted w _ (by simp) (by simp)) _
    · -- The error handler is called.
      exact hwithin (fun w => hnoted w _ (by simp) (by simp))
        (fun w _ => hnoted w _ (by simp) (by simp)) _

end Respects

end ProofOfExistence
