import ProofOfExistence.Event.Log
import ProofOfExistence.Proofs.FailedCalls
import ProofOfExistence.Proofs.OwnershipSteps

/-!
# A sink that records every event

A `Recorder` stands for a clock and reporters that keep to themselves, beside a sink that records
every event.  Between two settings that `Records` relates, the sink recorded what was deposited, in
order.

Calls can be carried out inside transactions that are open around them (`CallBlock`).  If such a
transaction fails, the store takes the changes of these calls back, but no event is taken back.

## Key results

- `serve_records`: a call records what it deposits
- `failed_block_keeps_events`: what a block of calls leaves whose transaction fails
-/

namespace ProofOfExistence

variable {τ η α : Type}

/-! ## Recording -/

/-- What the collaborators keep: the recorded events, and what the clock and the reporters keep. -/
structure Recorded (η : Type) where
  events : EventLog
  others : η

/-- A clock and reporters that keep to themselves and may fail, beside a sink that records every
event. -/
structure Recorder (η : Type) extends QuietReporters η where
  tick : η → Except Fault Number × η
  proofLimit : Nat

/-- A program that works on what the clock and the reporters keep. -/
def ServiceProgram.aside {T : Number → Prop} (f : η → Except Fault α × η) :
    ServiceProgram T (Recorded η) α :=
  .look fun k => .keep { k with others := (f k.others).2 } (.done (f k.others).1)

/-- Read the clock; any time will do. -/
def Recorder.reading (c : Recorder η) (others : η) : Except Fault { t // AnyTime t } × η :=
  ((c.tick others).1.map fun t => ⟨t, trivial⟩, (c.tick others).2)

/-- The collaborators of a service whose events are recorded. -/
def Recorder.partners (c : Recorder η) : Partners AnyTime (Recorded η) where
  now := .aside c.reading
  deposit event := .look fun k => .keep { k with events := k.events.push event } (.done (.ok ()))
  proofLimit := c.proofLimit
  count name tags := .aside (c.count name tags)
  log severity text context := .aside (c.log severity text context)

/-- The event that an occurrence deposits. -/
def Occurrence.event? : Occurrence → Option ClaimEvent
  | deposited event => some event
  | _ => none

/-- The events that were deposited. -/
def depositedIn (trace : List Occurrence) : List ClaimEvent := trace.filterMap Occurrence.event?

/-- Between two settings the sink recorded what was deposited. -/
def Records (w w' : Setting τ (Recorded η)) : Prop :=
  ∃ new, w'.trace = w.trace ++ new ∧ w'.own.events = w.own.events ++ depositedIn new

section Records

variable {w w' : Setting τ (Recorded η)}

theorem records_of_same (htrace : w'.trace = w.trace) (hevents : w'.own.events = w.own.events) :
    Records w w' := by
  refine ⟨[], by rw [htrace, List.append_nil], ?_⟩
  rw [hevents, depositedIn, List.filterMap_nil, List.append_nil]

instance : IsPreorder (Setting τ (Recorded η)) Records where
  refl _ := records_of_same rfl rfl
  trans _ _ _ := by
    rintro ⟨new, htrace, hevents⟩ ⟨new', htrace', hevents'⟩
    refine ⟨new ++ new', by rw [htrace', htrace, List.append_assoc], ?_⟩
    rw [hevents', hevents, List.append_assoc, depositedIn, depositedIn, depositedIn,
      List.filterMap_append]

/-- What becomes of the store does not matter: no event is taken back with the changes. -/
private theorem records_set (w : Setting τ (Recorded η)) (s : τ) :
    Records w (Setting.storeCell.set s w) :=
  records_of_same rfl rfl

/-- Anything but a deposit may be noted by itself. -/
private theorem records_note {o : Occurrence} (h : o.event? = none) :
    Run.Respects Records (Setting.note (τ := τ) (κ := Recorded η) o) := by
  refine fun w => ⟨[o], rfl, ?_⟩
  rw [depositedIn, List.filterMap_cons_none h, List.filterMap_nil, List.append_nil]
  rfl

private theorem records_watched {level : Nat} {body : Run (Setting τ (Recorded η)) α}
    (h : Run.Respects Records body) : Run.Respects Records (Setting.watched level body) := by
  refine Run.respects_bind (Run.respects_observe h) fun outcome => ?_
  cases outcome with
  | ok a => exact Run.respects_pure _ a
  | error e => exact Run.respects_bind (records_note rfl) fun _ => Run.respects_throw _ e

private theorem records_aside {T : Number → Prop} {K : Storage τ (Recorded η)}
    {serve : ClaimRequest → Run (Setting τ (Recorded η)) ClaimReply}
    (f : η → Except Fault α × η) :
    Run.Respects Records ((ServiceProgram.aside (T := T) f).run K serve) :=
  fun _ => records_of_same rfl rfl

variable (c : Recorder η) (S : FaithfulStore τ)

/-- The sink records an event when it is deposited, and nothing else touches the events. -/
private theorem service_records (level : Nat)
    (serve : ClaimRequest → Run (Setting τ (Recorded η)) ClaimReply) :
    (c.partners.service S.storage level serve).Respects Records where
  get _ := records_watched (StoreOps.respects_ask _ _)
  contains _ := records_watched (StoreOps.respects_ask _ _)
  insert _ _ := records_watched (StoreOps.respects_update records_set _)
  remove _ := records_watched (StoreOps.respects_update records_set _)
  transaction _ hbody := StoreOps.respects_transaction _ records_set hbody
  now := Run.respects_map (records_watched (records_aside c.reading)) _
  deposit event := fun _ => ⟨[.deposited event], rfl, rfl⟩
  count _ _ := Run.respects_bind (records_note rfl) fun _ => records_aside _
  log _ _ _ := Run.respects_bind (records_note rfl) fun _ => records_aside _

/-- A call records what it deposits. -/
theorem serve_records (depth : Nat) (r : ClaimRequest) :
    Run.Respects Records (c.partners.serve S.storage depth r) := by
  cases depth with
  | zero => exact Run.respects_throw _ _
  | succ depth => exact ClaimService.respects_serve (service_records c S depth _) r

end Records

/-! ## Calls inside transactions -/

/-- Calls of the service in transactions, nested to any depth.  What comes next may depend on all
answers so far. -/
inductive CallBlock (α : Type) where
  | done (outcome : Except Fault α)
  | call (r : ClaimRequest) (next : Except Fault StepAnswer → CallBlock α)
  | transaction (body : CallBlock α) (next : Except Fault α → CallBlock α)

/-- The program that makes the calls. -/
def CallBlock.program {κ : Type} : CallBlock α → ServiceProgram AnyTime κ α
  | done outcome => .done outcome
  | call r next => .step (.call r) trivial fun answer => (next answer).program
  | transaction body next => .transaction body.program fun outcome => (next outcome).program

/-- Make calls inside a transaction. -/
def Recorder.inTransaction (c : Recorder η) (K : Storage τ (Recorded η)) (depth : Nat)
    (block : CallBlock α) : Run (Setting τ (Recorded η)) α :=
  K.store.transaction (block.program.run K (c.partners.serve K depth))

/-- What a transaction that fails leaves of a block of calls: the claims that it found, and all
events that were deposited. -/
structure OnlyEventsLeft (Keeps : τ → Claims → Prop) (claims : Claims)
    (w w' : Setting τ (Recorded η)) : Prop where
  claims : Keeps w'.store claims
  events : Records w w'

section Blocks

variable (c : Recorder η) (S : FaithfulStore τ) (depth : Nat)

/-- A block records what its calls deposit, also in its transactions that fail. -/
theorem block_records (block : CallBlock α) :
    Run.Respects Records (block.program.run S.storage (c.partners.serve S.storage depth)) := by
  -- Taking a transaction back sets the store only, so it does not matter which of them fail.
  induction block with
  | done outcome => exact Run.respects_ofExcept _ outcome
  -- A call records its own events, and its answer decides how the block goes on.
  | call r next ih =>
    have hcall : Run.Respects Records
        (StoreStep.perform S.storage (c.partners.serve S.storage depth) (.call r)) :=
      Run.respects_map (serve_records c S depth r) _
    refine Run.respects_bind (Run.respects_observe hcall) fun answer => ?_
    refine Run.respects_bind (fun w => Std.Refl.refl w) fun size => ?_
    exact Run.respects_bind (records_note rfl) fun _ => ih answer
  | transaction body next ihbody ihnext =>
    -- A block within the block.
    have htransaction := S.respects_transaction records_set ihbody
    refine Run.respects_bind (Run.respects_observe htransaction) fun outcome => ?_
    refine Run.respects_bind (fun w => Std.Refl.refl w) fun size => ?_
    exact Run.respects_bind (records_note rfl) fun _ => ihnext outcome

private theorem onlyEventsLeft_of_error {block : CallBlock α} {w w' : Setting τ (Recorded η)}
    {claims : Claims} {e : Fault} (hkeeps : S.Keeps w.store claims)
    (h : (c.inTransaction S.storage depth block).exec w = (.error e, w')) :
    OnlyEventsLeft S.Keeps claims w w' := by
  constructor
  · have hpasses := passes_run (S := S) c.partners (Nat.le_refl depth) block.program
    exact keeps_of_transaction_error hpasses hkeeps h
  · have hrecords : Records w ((c.inTransaction S.storage depth block).exec w).2 :=
      S.respects_transaction records_set (block_records c S depth block) w
    rwa [h] at hrecords

end Blocks

/-- A transaction that fails around a block of calls gives back the claims that it found, on both
stores.  The events of the calls that were carried out in it stay recorded: none is taken back with
its change. -/
theorem failed_block_keeps_events (c : Recorder η) (depth : Nat) (block : CallBlock α) :
    (∀ w w' claims e, w.store.Represents claims →
      (c.inTransaction UndoStore.storage depth block).exec w = (.error e, w') →
      OnlyEventsLeft UndoStore.Represents claims w w') ∧
    ∀ w w' claims e, w.store.Keeps claims →
      (c.inTransaction SavepointStore.storage depth block).exec w = (.error e, w') →
      OnlyEventsLeft SavepointStore.Keeps claims w w' := by
  rw [SavepointStore.storage_eq]
  exact ⟨fun _ _ _ _ => onlyEventsLeft_of_error c UndoStore.faithful depth,
    fun _ _ _ _ => onlyEventsLeft_of_error c SavepointStore.faithful depth⟩

/-- A clock that stands still and reporters that report nothing. -/
def Recorder.idle : Recorder Unit where
  tick _ := (.ok 0, ())
  proofLimit := 10
  count _ _ _ := (.ok (), ())
  log _ _ _ _ := (.ok (), ())

/-- A claim is created, and then the block is given up. -/
def CallBlock.givenUp : CallBlock Unit :=
  .call (.create (.signed "alice") [7]) fun _ => .done (.error (.raised "given up"))

/-- The claim is gone, but its event is recorded. -/
theorem failed_block_keeps_events_givenUp :
    let v := (Recorder.idle.inTransaction UndoStore.storage 1 .givenUp).exec
      (.fresh (.ofClaims .empty) ⟨[], ()⟩)
    v.1 = .error (.raised "given up") ∧ v.2.store.Represents .empty ∧
      v.2.own.events = [.created "alice" [7]] := by
  intro v
  have houtcome : v.1 = .error (.raised "given up") := rfl
  have hleft := (failed_block_keeps_events Recorder.idle 1 .givenUp).1 _ v.2 .empty _
    (UndoStore.represents_ofClaims .empty) (Prod.ext houtcome rfl)
  exact ⟨houtcome, hleft.claims, rfl⟩

/-- A transaction that fails does not always leave the recorded events that it found. -/
theorem recorded_events_not_taken_back :
    ¬ ∀ (c : Recorder Unit) (depth : Nat) (block : CallBlock Unit)
      (w w' : Setting UndoStore (Recorded Unit)) (e : Fault),
      (c.inTransaction UndoStore.storage depth block).exec w = (.error e, w') →
        w'.own.events = w.own.events := by
  intro h
  let v := (Recorder.idle.inTransaction UndoStore.storage 1 .givenUp).exec
    (.fresh (.ofClaims .empty) ⟨[], ()⟩)
  have houtcome : v.1 = .error (.raised "given up") := rfl
  have hevents : v.2.own.events = [] := h _ 1 _ _ v.2 _ (Prod.ext houtcome rfl)
  cases hevents

end ProofOfExistence
