import ProofOfExistence.Proofs.CallSteps
import ProofOfExistence.Proofs.TransactionalStore

/-!
# Runs of a registry whose collaborators call back

A `World` holds a registry and what its collaborators keep for themselves.  A collaborator is a
`Client`: a program that looks at the world, keeps things for itself, dispatches requests, asks for
nonces, catches or passes on the faults of these calls, and ends with a value or a fault.  So a sink
may dispatch requests while the call that made the event is still in progress, to any depth.

The depth is that of the stack of calls, whose end is a fault like any other.  What holds at every
depth holds of every run.

Each world notes what happens in it, in order: requests, calls handed to the service, events
deposited, and the answers of `nextNonce`.

## Key results

- `Client.respects_run`: a client respects what its calls respect
- `Collaborators.respects_service`: so does the service, if its own writes do not break it
- `Collaborators.respects_gate`: what one level of calls passes on to the next, all depths respect
-/

namespace ProofOfExistence

/-- What happens in a world. -/
inductive Entry where
  /-- A request was dispatched. -/
  | dispatched (r : Request)
  /-- A call was handed to the service. -/
  | handed (origin : Origin) (call : Call)
  /-- An event was deposited in the sink. -/
  | deposited (event : ClaimEvent)
  /-- Someone was told the least nonce that a signer can use. -/
  | told (signer : String) (next : Nat)

/-- A registry and its surroundings. -/
structure World (τ ε η : Type) where
  store : τ
  nonces : Nonces
  audit : AuditLog
  /-- What the sink keeps. -/
  sink : ε
  /-- What the other collaborators keep. -/
  others : η
  /-- What happened so far. -/
  trace : List Entry

variable {τ ε η α β : Type}

namespace World

/-- The place of the store. -/
def storeCell : Cell (World τ ε η) τ := ⟨World.store, fun s w => { w with store := s }⟩

/-- The place of the spent nonces. -/
def noncesCell : Cell (World τ ε η) Nonces := ⟨World.nonces, fun n w => { w with nonces := n }⟩

/-- The place of the audit log. -/
def auditCell : Cell (World τ ε η) AuditLog := ⟨World.audit, fun l w => { w with audit := l }⟩

/-- The world with one more entry. -/
def noted (w : World τ ε η) (e : Entry) : World τ ε η := { w with trace := w.trace ++ [e] }

/-- Note what happens. -/
def note (e : Entry) : Run (World τ ε η) Unit := modifyThe (World τ ε η) fun w => w.noted e

@[simp] theorem exec_note (e : Entry) (w : World τ ε η) : (note e).exec w = (.ok (), w.noted e) :=
  rfl

/-- A world in which nothing has happened. -/
def fresh (store : τ) (audit : AuditLog) (sink : ε) (others : η) : World τ ε η :=
  ⟨store, .empty, audit, sink, others, []⟩

end World

/-! ## Collaborators -/

/-- A program that may call the registry. -/
inductive Client (τ ε η α : Type) where
  | done (outcome : Except Fault α)
  | look (next : World τ ε η → Client τ ε η α)
  | keep (sink : ε) (others : η) (next : Client τ ε η α)
  | dispatch (r : Request) (next : Except Fault (Except DispatchError Unit) → Client τ ε η α)
  | nextNonce (signer : String) (next : Except Fault Nat → Client τ ε η α)

/-- The ways to call a registry. -/
structure Gate (σ : Type) where
  dispatch : Request → Run σ (Except DispatchError Unit)
  nextNonce : String → Run σ Nat

/-- Run a client whose calls go through a gate. -/
def Client.run (g : Gate (World τ ε η)) : Client τ ε η α → Run (World τ ε η) α
  | done outcome => Run.ofExcept outcome
  | look next => do run g (next (← getThe (World τ ε η)))
  | keep sink others next => do
    modifyThe (World τ ε η) fun w => { w with sink := sink, others := others }
    run g next
  | dispatch r next => do run g (next (← Run.observe (g.dispatch r)))
  | nextNonce signer next => do run g (next (← Run.observe (g.nextNonce signer)))

/-- Those who count calls and write log entries. -/
structure Reporters (τ ε η : Type) where
  count : Utf16 → Tags → Client τ ε η Unit
  log : LogLevel → String → LogContext → Client τ ε η Unit

/-- The collaborators of a service and its dispatcher. -/
structure Collaborators (τ ε η : Type) where
  now : Client τ ε η Number
  deposit : ClaimEvent → Client τ ε η Unit
  proofLimit : Nat
  verify : (signer : String) → Call → (signature : String) → Except Fault Bool
  serviceReporters : Reporters τ ε η
  dispatcherReporters : Reporters τ ε η

namespace Collaborators

variable (c : Collaborators τ ε η) (store : ClaimStore (World τ ε η))

/-- The claim service, whose collaborators call through a gate. -/
def service (g : Gate (World τ ε η)) : ClaimService (World τ ε η) where
  store := store
  now := c.now.run g
  deposit event := do
    World.note (.deposited event)
    (c.deposit event).run g
  proofLimit := c.proofLimit
  count name tags := (c.serviceReporters.count name tags).run g
  log level text context := (c.serviceReporters.log level text context).run g

/-- The dispatcher, which hands its calls to the service. -/
def dispatcher (g : Gate (World τ ε η)) : Dispatcher (World τ ε η) where
  handOver origin call := do
    World.note (.handed origin call)
    (c.service store g).carryOut origin call
  verify := c.verify
  nonces := World.noncesCell
  audit := World.auditCell
  count name tags := (c.dispatcherReporters.count name tags).run g
  log level text context := (c.dispatcherReporters.log level text context).run g

/-- The fault of a call that finds the stack of calls full. -/
def stackFault : Fault := .raised "Maximum call stack size exceeded"

/-- The gate whose calls are carried out by collaborators that call through another gate. -/
def gateOver (g : Gate (World τ ε η)) : Gate (World τ ε η) where
  dispatch r := do
    World.note (.dispatched r)
    r.dispatchOn (c.dispatcher store g)
  nextNonce signer := do
    let next ← (c.dispatcher store g).nextNonce signer
    World.note (.told signer next)
    return next

/-- The gate to a registry with room for calls within calls to a depth. -/
def gate : Nat → Gate (World τ ε η)
  | 0 => ⟨fun _ => throw stackFault, fun _ => throw stackFault⟩
  | depth + 1 => c.gateOver store (gate depth)

end Collaborators

/-! ## What every depth respects -/

/-- Whatever is called through the gate, it respects a relation. -/
structure Gate.Respects {σ : Type} (R : σ → σ → Prop) (g : Gate σ) : Prop where
  dispatch : ∀ r, Run.Respects R (g.dispatch r)
  nextNonce : ∀ signer, Run.Respects R (g.nextNonce signer)

section Respects

variable {R : World τ ε η → World τ ε η → Prop} [IsPreorder (World τ ε η) R]

/-- A client respects what its calls respect and what its own notes do not break. -/
theorem Client.respects_run {g : Gate (World τ ε η)} (hg : g.Respects R)
    (hkeep : ∀ w sink others, R w { w with sink := sink, others := others })
    (client : Client τ ε η α) : Run.Respects R (client.run g) := by
  -- Induction on the program; a call that fails is observed, so the program goes on.
  induction client with
  | done outcome => exact Run.respects_ofExcept R outcome
  | look next ih => exact Run.respects_bind (fun w => Std.Refl.refl w) fun w => ih w
  | keep sink others next ih =>
    exact Run.respects_bind (fun w => hkeep w sink others) fun _ => ih
  | dispatch r next ih =>
    exact Run.respects_bind (Run.respects_observe (hg.dispatch r)) fun answer => ih answer
  | nextNonce signer next ih =>
    exact Run.respects_bind (Run.respects_observe (hg.nextNonce signer)) fun answer => ih answer

variable {c : Collaborators τ ε η} {store : ClaimStore (World τ ε η)}

section Gate

variable {g : Gate (World τ ε η)} (hg : g.Respects R)
  (hkeep : ∀ w sink others, R w { w with sink := sink, others := others })
include hg hkeep

/-- The service changes the store, notes events and runs clients, and nothing else. -/
theorem Collaborators.respects_service {ops : StoreOps τ}
    (hset : ∀ w s, R w (World.storeCell.set s w))
    (hdeposited : ∀ w event, R w (w.noted (.deposited event))) :
    (c.service (ops.store World.storeCell) g).Respects R where
  get _ := StoreOps.respects_ask _ _
  contains _ := StoreOps.respects_ask _ _
  insert _ _ := StoreOps.respects_update hset _
  remove _ := StoreOps.respects_update hset _
  transaction _ hbody := ops.respects_transaction hset hbody
  now := Client.respects_run hg hkeep _
  deposit event :=
    Run.respects_bind (fun w => hdeposited w event) fun _ => Client.respects_run hg hkeep _
  count _ _ := Client.respects_run hg hkeep _
  log _ _ _ := Client.respects_run hg hkeep _

/-- The dispatcher reports to the audit log and to clients. -/
theorem Collaborators.respects_reports (haudit : ∀ w log, R w (World.auditCell.set log w)) :
    (c.dispatcher store g).Reports R where
  audit _ := fun w => haudit w _
  count _ _ := Client.respects_run hg hkeep _
  log _ _ _ := Client.respects_run hg hkeep _

end Gate

/-- If one level of calls respects a relation whenever the calls within it do, calls of every depth
respect it. -/
theorem Collaborators.respects_gate
    (hstep : ∀ g : Gate (World τ ε η), g.Respects R → (c.gateOver store g).Respects R)
    (depth : Nat) : (c.gate store depth).Respects R := by
  -- On a full stack every call fails at once and leaves the world as it is.
  induction depth with
  | zero => exact ⟨fun _ => Run.respects_throw R _, fun _ => Run.respects_throw R _⟩
  | succ depth ih => exact hstep _ ih

end Respects

/-! ## Runs -/

/-- One move of whoever uses the registry. -/
inductive Move (ε η : Type) where
  | dispatch (r : Request)
  | nextNonce (signer : String)
  /-- Something happens to what the collaborators keep. -/
  | adjust (sink : ε) (others : η)

namespace Gate

variable (g : Gate (World τ ε η))

/-- The world after a move, which may have ended with a fault. -/
def play (w : World τ ε η) : Move ε η → World τ ε η
  | .dispatch r => ((g.dispatch r).exec w).2
  | .nextNonce signer => ((g.nextNonce signer).exec w).2
  | .adjust sink others => { w with sink := sink, others := others }

/-- The world after a run of moves. -/
def run (w : World τ ε η) (moves : List (Move ε η)) : World τ ε η := moves.foldl g.play w

theorem run_append (w : World τ ε η) (earlier later : List (Move ε η)) :
    g.run w (earlier ++ later) = g.run (g.run w earlier) later :=
  List.foldl_append

variable {g} {R : World τ ε η → World τ ε η → Prop} [IsPreorder (World τ ε η) R]

/-- A run takes its first world to a related one if every call does. -/
theorem rel_run (hg : g.Respects R)
    (hkeep : ∀ w sink others, R w { w with sink := sink, others := others })
    (w : World τ ε η) (moves : List (Move ε η)) : R w (g.run w moves) := by
  induction moves generalizing w with
  | nil => exact Std.Refl.refl w
  | cons move rest ih =>
    have hmove : R w (g.play w move) := by
      cases move with
      | dispatch r => exact hg.dispatch r w
      | nextNonce signer => exact hg.nextNonce signer w
      | adjust sink others => exact hkeep w sink others
    exact IsTrans.trans _ _ _ hmove (ih _)

end Gate

end ProofOfExistence
