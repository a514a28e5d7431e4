import ProofOfExistence.Fault

/-! # Computations with faults on a state

`Run σ α` is a computation that reads and writes a state `σ` and ends with a value or a fault.  The
state survives a fault: what was written before it stays written, unless a transaction takes it
back.

The view of a computation is `exec`, the function from a state to an outcome and the next state,
with one equation for each way to build a computation.

A `Cell` is a place in the state that a component keeps for itself.  Components are written against
cells and against the computations that their collaborators are, so they run on any state that has
room for them. -/

namespace ProofOfExistence

/-- A computation on a state that ends with a value or a fault. -/
abbrev Run (σ : Type) := ExceptT Fault (StateM σ)

namespace Run

variable {σ α β : Type}

/-- What a computation does to a state: its outcome and the state after it. -/
def exec (body : Run σ α) (w : σ) : Except Fault α × σ := StateT.run (ExceptT.run body) w

/-- Run a computation and return its outcome, also when that is a fault. -/
def observe (body : Run σ α) : Run σ (Except Fault α) :=
  ExceptT.lift (ExceptT.run body : StateM σ (Except Fault α))

/-- End with a given outcome. -/
def ofExcept (r : Except Fault α) : Run σ α := ExceptT.mk (pure r)

@[simp] theorem exec_pure (a : α) (w : σ) : (pure a : Run σ α).exec w = (.ok a, w) := rfl

@[simp] theorem exec_throw (e : Fault) (w : σ) : (throw e : Run σ α).exec w = (.error e, w) := rfl

@[simp] theorem exec_ofExcept (r : Except Fault α) (w : σ) : (ofExcept r).exec w = (r, w) := rfl

theorem exec_bind (x : Run σ α) (f : α → Run σ β) (w : σ) :
    (x >>= f).exec w =
      match x.exec w with
      | (.ok a, w') => (f a).exec w'
      | (.error e, w') => (.error e, w') := by
  show StateT.run (ExceptT.run (x >>= f)) w = _
  rw [ExceptT.run_bind, StateT.run_bind]
  rcases h : StateT.run (ExceptT.run x) w with ⟨r, w'⟩
  cases r <;> (simp only [exec, h]; rfl)

@[simp] theorem exec_map (f : α → β) (x : Run σ α) (w : σ) :
    (f <$> x).exec w = ((x.exec w).1.map f, (x.exec w).2) := by
  show StateT.run (ExceptT.run (f <$> x)) w = _
  rw [ExceptT.run_map, StateT.run_map]
  rfl

@[simp] theorem exec_observe (x : Run σ α) (w : σ) :
    (observe x).exec w = (.ok (x.exec w).1, (x.exec w).2) := rfl

end Run

/-- A place for a `τ` in a state. -/
structure Cell (σ τ : Type) where
  /-- What the place holds. -/
  get : σ → τ
  /-- The state with something else in the place. -/
  set : τ → σ → σ

namespace Cell

variable {σ τ : Type}

/-- Read a place. -/
def read (c : Cell σ τ) : Run σ τ := do return c.get (← getThe σ)

/-- Write to a place. -/
def write (c : Cell σ τ) (t : τ) : Run σ Unit := modifyThe σ (c.set t)

/-- Change what a place holds. -/
def modify (c : Cell σ τ) (f : τ → τ) : Run σ Unit := modifyThe σ fun w => c.set (f (c.get w)) w

@[simp] theorem exec_read (c : Cell σ τ) (w : σ) : c.read.exec w = (.ok (c.get w), w) := rfl

@[simp] theorem exec_write (c : Cell σ τ) (t : τ) (w : σ) :
    (c.write t).exec w = (.ok (), c.set t w) := rfl

@[simp] theorem exec_modify (c : Cell σ τ) (f : τ → τ) (w : σ) :
    (c.modify f).exec w = (.ok (), c.set (f (c.get w)) w) := rfl

end Cell

end ProofOfExistence
