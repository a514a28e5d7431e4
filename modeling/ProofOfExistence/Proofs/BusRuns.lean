import ProofOfExistence.Event.Bus
import ProofOfExistence.Proofs.CallBodies

/-!
# Runs of a claim service over an event bus

A `Forum` holds a store, an event bus and what everyone around a claim service keeps.  Subscribers,
error handlers and users are `Participant`s: programs that look at the forum, keep things for
themselves, call the service, subscribe and unsubscribe, catch or pass on faults, and end with a
value or a fault.  So a subscriber may call the service while the call whose event it handles is
still in progress, to any depth.  A fault of a subscriber goes to the error handler; a fault of the
error handler leaves the bus and ends the call.  The clock and the reporters of the service call
nobody; each of them may fail.

Calls are numbered in the order in which they begin.  A forum notes what happens in it, and in
which call.

## Key results

- `Participant.respects_run`, `Outlet.respects_deposit`: programs and deposits respect what the
  calls respect that they make
- `Host.serve_follows`: calls of every depth leave the transactions of others alone
-/

namespace ProofOfExistence

/-! ## Forums -/

/-- What happens in a forum.  The numbers are those of calls. -/
inductive Happening (ι : Type) where
  /-- A call begins. -/
  | began (n : Nat) (r : ClaimRequest)
  /-- A call reads the clock. -/
  | told (n : Nat) (reading : Except Fault Number)
  /-- A call sets the claim on a fingerprint, or removes it. -/
  | wrote (n : Nat) (proof : Fingerprint) (claim : Option ClaimRecord)
  /-- A call deposits its event while some parties are subscribed. -/
  | deposited (n : Nat) (event : ClaimEvent) (subscribers : List ι)
  /-- A subscriber is offered the event of a call. -/
  | offered (n : Nat) (k : ι) (event : ClaimEvent)
  /-- The transaction of a call is committed, or taken back because of a fault. -/
  | closed (n : Nat) (fault : Option Fault)
  /-- A call ends. -/
  | ended (n : Nat) (r : ClaimRequest) (outcome : Except Fault ClaimReply)
  /-- A subscription ends. -/
  | left (k : ι)

/-- The call in which something happens. -/
def Happening.call? {ι : Type} : Happening ι → Option Nat
  | began n _ | told n _ | wrote n _ _ | deposited n _ _ | offered n _ _ | closed n _
  | ended n _ _ => some n
  | left _ => none

/-- A claim service's store and bus, and their surroundings. -/
structure Forum (τ ι ε η : Type) where
  store : τ
  bus : EventBus ι
  /-- What the participants keep. -/
  own : ε
  /-- What the clock and the reporters keep. -/
  aside : η
  /-- The number of calls that have begun. -/
  calls : Nat
  /-- What happened so far. -/
  trace : List (Happening ι)

variable {τ ι ε η α : Type}

namespace Forum

/-- The place of the store. -/
def storeCell : Cell (Forum τ ι ε η) τ := ⟨Forum.store, fun s w => { w with store := s }⟩

/-- The place of the bus. -/
def busCell : Cell (Forum τ ι ε η) (EventBus ι) := ⟨Forum.bus, fun b w => { w with bus := b }⟩

/-- The place of what the participants keep. -/
def ownCell : Cell (Forum τ ι ε η) ε := ⟨Forum.own, fun k w => { w with own := k }⟩

/-- A forum in which nothing has happened. -/
def fresh (store : τ) (bus : EventBus ι) (own : ε) (aside : η) : Forum τ ι ε η :=
  ⟨store, bus, own, aside, 0, []⟩

/-- The forum with one more happening. -/
def noted (w : Forum τ ι ε η) (h : Happening ι) : Forum τ ι ε η :=
  { w with trace := w.trace ++ [h] }

/-- Note what happens. -/
def note (h : Happening ι) : Run (Forum τ ι ε η) Unit :=
  modifyThe (Forum τ ι ε η) fun w => w.noted h

@[simp] theorem exec_note (h : Happening ι) (w : Forum τ ι ε η) :
    (note h).exec w = (.ok (), w.noted h) :=
  rfl

/-- The forum once a call has begun. -/
def begun (w : Forum τ ι ε η) (r : ClaimRequest) : Forum τ ι ε η :=
  { w with calls := w.calls + 1, trace := w.trace ++ [.began w.calls r] }

/-- Begin a call, and return its number. -/
def begin (r : ClaimRequest) : Run (Forum τ ι ε η) Nat := do
  let w ← getThe (Forum τ ι ε η)
  set (w.begun r)
  return w.calls

/-- Have the clock or a reporter do something, which may fail. -/
def consult (f : ε → η → Except Fault α × η) : Run (Forum τ ι ε η) α := do
  let w ← getThe (Forum τ ι ε η)
  set { w with aside := (f w.own w.aside).2 }
  Run.ofExcept (f w.own w.aside).1

@[simp] theorem exec_consult (f : ε → η → Except Fault α × η) (w : Forum τ ι ε η) :
    (consult f).exec w = ((f w.own w.aside).1, { w with aside := (f w.own w.aside).2 }) :=
  rfl

end Forum

/-! ## Participants -/

/-- A program that may call the service, subscribe and unsubscribe. -/
inductive Participant (τ ι ε η α : Type) where
  | done (outcome : Except Fault α)
  | look (next : Forum τ ι ε η → Participant τ ι ε η α)
  | keep (own : ε) (next : Participant τ ι ε η α)
  | call (r : ClaimRequest) (next : Except Fault ClaimReply → Participant τ ι ε η α)
  | subscribe (k : ι) (next : Participant τ ι ε η α)
  | unsubscribe (k : ι) (next : Participant τ ι ε η α)

/-- Where the service deposits its events. -/
inductive Outlet (τ ι ε η : Type) where
  /-- The event bus: what each subscriber does when it is offered an event, and what the error
  handler does. -/
  | bus (react : ι → ClaimEvent → Participant τ ι ε η Unit)
    (onError : Fault → ClaimEvent → Participant τ ι ε η Unit)
  /-- Some other sink. -/
  | sink (deposit : ClaimEvent → Participant τ ι ε η Unit)

section Programs

variable [DecidableEq ι]

/-- Run a participant, whose calls are served. -/
def Participant.run (serve : ClaimRequest → Run (Forum τ ι ε η) ClaimReply) :
    Participant τ ι ε η α → Run (Forum τ ι ε η) α
  | done outcome => Run.ofExcept outcome
  | look next => do run serve (next (← getThe (Forum τ ι ε η)))
  | keep own next => do
    Forum.ownCell.write own
    run serve next
  | call r next => do run serve (next (← Run.observe (serve r)))
  | subscribe k next => do
    Forum.busCell.modify fun bus => bus.subscribe k
    run serve next
  | unsubscribe k next => do
    Forum.busCell.modify fun bus => bus.unsubscribe k
    Forum.note (.left k)
    run serve next

namespace Outlet

variable (serve : ClaimRequest → Run (Forum τ ι ε η) ClaimReply)

/-- Offer the event of a call to a subscriber. -/
def notify (react : ι → ClaimEvent → Participant τ ι ε η Unit) (n : Nat) (k : ι)
    (event : ClaimEvent) : Run (Forum τ ι ε η) Unit := do
  Forum.note (.offered n k event)
  (react k event).run serve

/-- Run an error handler, which may raise a fault of its own. -/
def handle (onError : Fault → ClaimEvent → Participant τ ι ε η Unit) (fault : Fault)
    (event : ClaimEvent) : Run (Forum τ ι ε η) Unit :=
  (onError fault event).run serve

/-- Deposit the event of a call. -/
def deposit (n : Nat) (event : ClaimEvent) : Outlet τ ι ε η → Run (Forum τ ι ε η) Unit
  | bus react onError =>
    EventBus.deposit Forum.busCell (notify serve react n) (handle serve onError) event
  | sink deposit => (deposit event).run serve

end Outlet

end Programs

/-! ## The service -/

/-- The clock and the reporters of a service, and its limit on fingerprints. -/
structure Host (ε η : Type) extends QuietReporters η where
  /-- Read the clock, which may look at what the participants keep. -/
  tick : ε → η → Except Fault Number × η
  proofLimit : Nat

namespace Host

variable (h : Host ε η)

/-- Read the clock for a call. -/
def now (n : Nat) : Run (Forum τ ι ε η) Number := do
  let reading ← Run.observe (Forum.consult h.tick)
  Forum.note (.told n reading)
  Run.ofExcept reading

/-- The service for a call, which notes what the call does. -/
def service (store : ClaimStore (Forum τ ι ε η)) (n : Nat)
    (deposit : ClaimEvent → Run (Forum τ ι ε η) Unit) : ClaimService (Forum τ ι ε η) where
  store :=
    { get := store.get
      contains := store.contains
      insert := fun f r => do
        store.insert f r
        Forum.note (.wrote n f (some r))
      remove := fun f => do
        store.remove f
        Forum.note (.wrote n f none)
      transaction := fun body => do
        match ← Run.observe (store.transaction body) with
        | .ok a =>
          Forum.note (.closed n none)
          return a
        | .error e =>
          Forum.note (.closed n (some e))
          throw e }
  now := h.now n
  deposit event := do
    Forum.note (.deposited n event (← Forum.busCell.read).subscribers)
    deposit event
  proofLimit := h.proofLimit
  count name tags := Forum.consult fun _ => h.count name tags
  log level text context := Forum.consult fun _ => h.log level text context

/-- Serve a call, with room for calls within calls to a depth. -/
def serve [DecidableEq ι] (store : ClaimStore (Forum τ ι ε η)) (outlet : Outlet τ ι ε η) :
    Nat → ClaimRequest → Run (Forum τ ι ε η) ClaimReply
  | 0, _ => throw Collaborators.stackFault
  | depth + 1, r => do
    let n ← Forum.begin r
    let deposit event := outlet.deposit (serve store outlet depth) n event
    let outcome ← Run.observe ((h.service store n deposit).serve r)
    Forum.note (.ended n r outcome)
    Run.ofExcept outcome

/-- The error handler of a bus raises no fault, whenever it is called. -/
def CalmBus [DecidableEq ι] (store : ClaimStore (Forum τ ι ε η))
    (react : ι → ClaimEvent → Participant τ ι ε η Unit)
    (onError : Fault → ClaimEvent → Participant τ ι ε η Unit) : Prop :=
  ∀ depth fault event,
    Run.Completes (Outlet.handle (h.serve store (.bus react onError) depth) onError fault event)

end Host

/-! ## What every depth respects -/

/-- A subscriber is offered the event, a fault of it goes to the handler, and then the others have
their turn. -/
theorem EventBus.exec_deliver_cons {σ κ : Type} (notify : κ → ClaimEvent → Run σ Unit)
    (onError : Fault → ClaimEvent → Run σ Unit) (event : ClaimEvent) (k : κ) (rest : List κ)
    (w : σ) :
    (EventBus.deliver notify onError event (k :: rest)).exec w =
      match (notify k event).exec w with
      | (.ok (), w') => (EventBus.deliver notify onError event rest).exec w'
      | (.error fault, w') =>
        (onError fault event >>= fun _ => EventBus.deliver notify onError event rest).exec w' := by
  rw [EventBus.deliver, Run.exec_bind, Run.exec_observe]
  rcases (notify k event).exec w with ⟨fault | ⟨⟩, w'⟩ <;> rfl

theorem EventBus.deliver_append {σ κ : Type} (notify : κ → ClaimEvent → Run σ Unit)
    (onError : Fault → ClaimEvent → Run σ Unit) (event : ClaimEvent) (first rest : List κ) :
    EventBus.deliver notify onError event (first ++ rest) = (do
      EventBus.deliver notify onError event first
      EventBus.deliver notify onError event rest) := by
  induction first with
  | nil => rfl
  | cons k first ih =>
    simp only [List.cons_append, EventBus.deliver, bind_assoc]
    refine congrArg (Bind.bind _) (funext fun outcome => ?_)
    cases outcome <;> simp only [ih, bind_assoc]

/-- Delivering an event respects what subscribers and the error handler respect. -/
theorem EventBus.respects_deliver {σ κ : Type} {R : σ → σ → Prop} [IsPreorder σ R]
    {notify : κ → ClaimEvent → Run σ Unit} {onError : Fault → ClaimEvent → Run σ Unit}
    {event : ClaimEvent} {subscribers : List κ}
    (hnotify : ∀ k ∈ subscribers, Run.Respects R (notify k event))
    (hhandler : ∀ fault, Run.Respects R (onError fault event)) :
    Run.Respects R (EventBus.deliver notify onError event subscribers) := by
  induction subscribers with
  | nil => exact Run.respects_pure R ()
  | cons k rest ih =>
    have hrest := ih fun j hj => hnotify j (List.mem_cons_of_mem k hj)
    refine Run.respects_bind (Run.respects_observe (hnotify k List.mem_cons_self)) fun outcome => ?_
    cases outcome with
    -- The rest of the subscribers come next, after the handler if there was a fault.
    | ok _ => exact hrest
    | error fault => exact Run.respects_bind (hhandler fault) fun _ => hrest

/-- No fault leaves a bus whose error handler raises none. -/
theorem EventBus.completes_deliver {σ κ : Type} (notify : κ → ClaimEvent → Run σ Unit)
    {onError : Fault → ClaimEvent → Run σ Unit} {event : ClaimEvent}
    (hcalm : ∀ fault, Run.Completes (onError fault event)) (subscribers : List κ) :
    Run.Completes (EventBus.deliver notify onError event subscribers) := by
  induction subscribers with
  | nil => exact fun w => ⟨(), w, rfl⟩
  | cons k rest ih =>
    intro w
    rw [EventBus.exec_deliver_cons]
    -- The handler completes after a fault, so the rest have their turn in any case.
    rcases (notify k event).exec w with ⟨fault | ⟨⟩, w'⟩
    · exact Run.completes_bind (hcalm fault) (fun _ => ih) w'
    · exact ih w'

section Respects

variable [DecidableEq ι] {R : Forum τ ι ε η → Forum τ ι ε η → Prop}

/-- What participants do besides calls respects a relation. -/
structure Participant.Moves (R : Forum τ ι ε η → Forum τ ι ε η → Prop) : Prop where
  keep : ∀ w own, R w { w with own := own }
  subscribe : ∀ w k, R w { w with bus := w.bus.subscribe k }
  unsubscribe : ∀ w k, R w ({ w with bus := w.bus.unsubscribe k }.noted (.left k))

variable [IsPreorder (Forum τ ι ε η) R] (hmoves : Participant.Moves R)
  {serve : ClaimRequest → Run (Forum τ ι ε η) ClaimReply}
  (hserve : ∀ r, Run.Respects R (serve r))
include hmoves hserve

/-- A participant respects what its calls and its own moves respect. -/
theorem Participant.respects_run (p : Participant τ ι ε η α) : Run.Respects R (p.run serve) := by
  -- Induction on the program; a call that fails is observed, so the program goes on.
  induction p with
  | done outcome => exact Run.respects_ofExcept R outcome
  | look next ih => exact Run.respects_bind (fun w => Std.Refl.refl w) fun w => ih w
  | keep own next ih => exact Run.respects_bind (fun w => hmoves.keep w own) fun _ => ih
  | call r next ih =>
    exact Run.respects_bind (Run.respects_observe (hserve r)) fun answer => ih answer
  | subscribe k next ih => exact Run.respects_bind (fun w => hmoves.subscribe w k) fun _ => ih
  | unsubscribe k next ih =>
    -- The note belongs to the same move.
    intro w
    exact IsTrans.trans _ _ _ (hmoves.unsubscribe w k) (ih _)

/-- An error handler respects what its program does. -/
theorem Outlet.respects_handle (onError : Fault → ClaimEvent → Participant τ ι ε η Unit)
    (fault : Fault) (event : ClaimEvent) :
    Run.Respects R (Outlet.handle serve onError fault event) :=
  Participant.respects_run hmoves hserve (onError fault event)

/-- A deposit respects what the programs of its outlet do, if offers may be noted. -/
theorem Outlet.respects_deposit (hoffered : ∀ w n k event, R w (w.noted (.offered n k event)))
    (n : Nat) (event : ClaimEvent) (outlet : Outlet τ ι ε η) :
    Run.Respects R (outlet.deposit serve n event) := by
  cases outlet with
  | bus react onError =>
    refine Run.respects_bind (fun w => Std.Refl.refl w) fun bus => ?_
    refine EventBus.respects_deliver (fun k _ => ?_) fun fault => ?_
    · exact Run.respects_bind (fun w => hoffered w n k event) fun _ =>
        Participant.respects_run hmoves hserve (react k event)
    · exact Outlet.respects_handle hmoves hserve onError fault event
  | sink deposit => exact Participant.respects_run hmoves hserve (deposit event)

end Respects

/-! ## The store behind the calls -/

section Follows

variable {S : TransactionalStore τ}

/-- A store in order becomes another one by writes and by transactions that were opened and
closed. -/
def Forum.Follows (S : TransactionalStore τ) (w w' : Forum τ ι ε η) : Prop :=
  S.Valid w.store → S.Follows w.store w'.store

instance : IsPreorder (Forum τ ι ε η) (Forum.Follows S) where
  refl _ _ := S.follows_refl _
  trans _ _ _ h h' hvalid :=
    have hfirst := h hvalid
    S.follows_trans hfirst (h' (S.valid_of_follows hfirst hvalid))

private theorem follows_of_store_eq {w w' : Forum τ ι ε η} (h : w'.store = w.store) :
    Forum.Follows S w w' :=
  fun _ => h ▸ S.follows_refl _

private theorem follows_note (e : Happening ι) :
    Run.Respects (Forum.Follows S) (Forum.note (τ := τ) (ε := ε) (η := η) e) :=
  fun _ => follows_of_store_eq rfl

private theorem follows_consult (f : ε → η → Except Fault α × η) :
    Run.Respects (Forum.Follows S) (Forum.consult (τ := τ) (ι := ι) f) :=
  fun _ => follows_of_store_eq rfl

private theorem follows_update {f : τ → Except Fault τ}
    (hf : ∀ s t, f s = .ok t → S.Follows s t) :
    Run.Respects (Forum.Follows S)
      (StoreOps.update (Forum.storeCell (ι := ι) (ε := ε) (η := η)) f) := by
  intro w
  rw [StoreOps.exec_update]
  cases hupdate : f (Forum.storeCell.get w) with
  | error e => exact follows_of_store_eq rfl
  | ok t => exact fun _ => hf _ _ hupdate

/-- Closing a transaction leaves the transactions around it alone. -/
private theorem follows_transaction {body : Run (Forum τ ι ε η) α}
    (hbody : Run.Respects (Forum.Follows S) body) :
    Run.Respects (Forum.Follows S) ((S.store Forum.storeCell).transaction body) := by
  intro w hvalid
  show S.Follows w.store ((S.transaction Forum.storeCell body).exec w).2.store
  rw [StoreOps.exec_transaction]
  cases hopen : S.openTransaction (Forum.storeCell.get w) with
  -- The transaction is not opened, so nothing has happened.
  | error e => exact S.follows_refl _
  | ok s =>
    have hrun := hbody (Forum.storeCell.set s w) ((S.open_ok hopen).1 hvalid)
    dsimp only
    generalize body.exec (Forum.storeCell.set s w) = result at hrun ⊢
    obtain ⟨_ | a, w'⟩ := result
    · -- The body failed, and its changes are taken back.
      exact (S.rollback_ok hopen hrun).1
    · -- The changes are committed.
      obtain ⟨t, hcommit, hfollows, -⟩ := S.commit_ok hvalid hopen hrun
      have hcommit' : S.commit (Forum.storeCell.get w') = .ok t := hcommit
      simp only [hcommit']
      exact hfollows

/-- The service leaves the transactions of others alone if its deposits do. -/
theorem Host.service_follows (h : Host ε η) (n : Nat)
    {deposit : ClaimEvent → Run (Forum τ ι ε η) Unit}
    (hdeposit : ∀ event, Run.Respects (Forum.Follows S) (deposit event)) :
    (h.service (S.store Forum.storeCell) n deposit).Respects (Forum.Follows S) where
  get _ := fun _ => follows_of_store_eq rfl
  contains _ := fun _ => follows_of_store_eq rfl
  insert _ _ :=
    Run.respects_bind (follows_update fun _ _ hinsert => (S.insert_ok hinsert).1) fun _ =>
      follows_note _
  remove _ :=
    Run.respects_bind (follows_update fun _ _ hremove => (S.remove_ok hremove).1) fun _ =>
      follows_note _
  transaction _ hbody := by
    refine Run.respects_bind (Run.respects_observe (follows_transaction hbody)) fun outcome => ?_
    -- The end of the transaction is noted, whatever the outcome.
    cases outcome with
    | ok a => exact Run.respects_bind (follows_note _) fun _ => Run.respects_pure _ a
    | error e => exact Run.respects_bind (follows_note _) fun _ => Run.respects_throw _ e
  now := by
    refine Run.respects_bind (Run.respects_observe (follows_consult _)) fun reading => ?_
    exact Run.respects_bind (follows_note _) fun _ => Run.respects_ofExcept _ reading
  deposit event :=
    Run.respects_bind (fun _ => Std.Refl.refl _) fun bus =>
      Run.respects_bind (follows_note _) fun _ => hdeposit event
  count name tags := follows_consult fun _ => h.count name tags
  log level text context := follows_consult fun _ => h.log level text context

private theorem follows_moves [DecidableEq ι] :
    Participant.Moves (Forum.Follows (ι := ι) (ε := ε) (η := η) S) :=
  ⟨fun _ _ => follows_of_store_eq rfl, fun _ _ => follows_of_store_eq rfl,
    fun _ _ => follows_of_store_eq rfl⟩

/-- Calls of every depth leave the transactions of others alone. -/
theorem Host.serve_follows [DecidableEq ι] (h : Host ε η) (outlet : Outlet τ ι ε η) (depth : Nat)
    (r : ClaimRequest) :
    Run.Respects (Forum.Follows S) (h.serve (S.store Forum.storeCell) outlet depth r) := by
  -- On a full stack every call fails at once.  Any other call is noted before and after its
  -- service.
  induction depth generalizing r with
  | zero => exact Run.respects_throw _ _
  | succ depth ih =>
    refine Run.respects_bind (fun _ => follows_of_store_eq rfl) fun n => ?_
    have hservice := h.service_follows n fun event =>
      outlet.respects_deposit follows_moves ih (fun _ _ _ _ => follows_of_store_eq rfl) n event
    refine Run.respects_bind (Run.respects_observe (ClaimService.respects_serve hservice r))
      fun outcome => ?_
    exact Run.respects_bind (follows_note _) fun _ => Run.respects_ofExcept _ outcome

/-- A deposit leaves the transactions of others alone. -/
theorem Host.deposit_follows [DecidableEq ι] (h : Host ε η) (outlet : Outlet τ ι ε η)
    (depth n : Nat) (event : ClaimEvent) :
    Run.Respects (Forum.Follows S)
      (outlet.deposit (h.serve (S.store Forum.storeCell) outlet depth) n event) :=
  outlet.respects_deposit follows_moves (h.serve_follows outlet depth)
    (fun _ _ _ _ => follows_of_store_eq rfl) n event

end Follows

end ProofOfExistence
