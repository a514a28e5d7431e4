import ProofOfExistence.Claim.Basic
import ProofOfExistence.Log

/-! # The event bus

A bus hands each event to its subscribers in the order in which they subscribed.  Subscribers are
kept apart from each other and from the call that deposited the event: the fault of one goes to an
error handler, and the others still receive the event.

A delivery works on the subscribers as they are when it begins; subscribing and unsubscribing take
effect with the next event.  A subscriber is known by its identity, so subscribing twice is the same
as once. -/

namespace ProofOfExistence

/-- The subscribers of a bus, by identity, in the order of their subscription. -/
structure EventBus (κ : Type) where
  subscribers : List κ
  /-- Nobody is subscribed twice. -/
  nodup : subscribers.Nodup

namespace EventBus

variable {σ κ : Type}

/-- The bus without subscribers. -/
def empty : EventBus κ := ⟨[], List.nodup_nil⟩

instance : Inhabited (EventBus κ) := ⟨empty⟩

/-- The number of subscribers. -/
def size (b : EventBus κ) : Nat := b.subscribers.length

variable [DecidableEq κ]

/-- Add a subscriber at the end, unless it is there. -/
def subscribe (b : EventBus κ) (k : κ) : EventBus κ :=
  if h : k ∈ b.subscribers then b
  else ⟨b.subscribers ++ [k], List.nodup_append.2
    ⟨b.nodup, by simp, fun _ ha _ hb hab => h (List.mem_singleton.1 hb ▸ hab ▸ ha)⟩⟩

/-- Remove a subscriber, if it is there. -/
def unsubscribe (b : EventBus κ) (k : κ) : EventBus κ :=
  ⟨b.subscribers.erase k, b.nodup.erase k⟩

/-- A subscription adds its subscriber and nobody else. -/
theorem mem_subscribe (b : EventBus κ) (k j : κ) :
    j ∈ (b.subscribe k).subscribers ↔ j ∈ b.subscribers ∨ j = k := by
  unfold subscribe
  split
  · rename_i h
    exact ⟨Or.inl, fun hj => hj.elim id fun hjk => hjk ▸ h⟩
  · simp

/-- The end of a subscription removes its subscriber and nobody else. -/
theorem mem_unsubscribe (b : EventBus κ) (k j : κ) :
    j ∈ (b.unsubscribe k).subscribers ↔ j ≠ k ∧ j ∈ b.subscribers :=
  b.nodup.mem_erase_iff

omit [DecidableEq κ] in
/-- Hand an event to some subscribers in turn; a fault of one goes to the handler. -/
def deliver (notify : κ → ClaimEvent → Run σ Unit) (onError : Fault → ClaimEvent → Run σ Unit)
    (e : ClaimEvent) : List κ → Run σ Unit
  | [] => return ()
  | k :: rest => do
    match ← Run.observe (notify k e) with
    | .ok () => deliver notify onError e rest
    | .error fault => do
      onError fault e
      deliver notify onError e rest

/-- The error handler that writes a log entry about a fault.  A fault that cannot be put in words is
not kept apart: the handler ends with a fault of its own. -/
def logFailure (output : LogOutput σ) (logger : Logger) (fault : Fault) (e : ClaimEvent) :
    Run σ Unit :=
  if fault.hasMessage then
    logger.log output .error "Subscriber failed"
      [("event", .ofString e.kind.name), ("error", .str fault.message)]
  else throw .noPlainText

omit [DecidableEq κ] in
/-- Deposit an event on the bus in a cell. -/
def deposit (bus : Cell σ (EventBus κ)) (notify : κ → ClaimEvent → Run σ Unit)
    (onError : Fault → ClaimEvent → Run σ Unit) (e : ClaimEvent) : Run σ Unit := do
  deliver notify onError e (← bus.read).subscribers

end EventBus

end ProofOfExistence
