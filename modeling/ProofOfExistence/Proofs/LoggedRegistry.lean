import ProofOfExistence.Proofs.DispatcherParts
import ProofOfExistence.Proofs.ServiceRuns
import ProofOfExistence.Registry

/-!
# Registries and their logs

A `Bureau` is a registry with its dispatcher, the log that all loggers write to, and a record of
what happened.  What its collaborators can see of it is the `Desk`: the store, the nonces, the audit
log, the counters, what they keep for themselves, and the threshold of the loggers without one of
their own.  Nobody reads the log, so a log entry can only matter to those who read it afterwards.

A collaborator is a `DeskProgram`: it looks at the desk, does anything to it, sets the threshold,
writes entries with loggers of its own, calls the service, dispatches requests, catches or passes on
the faults of these calls, and ends with a value or a fault.  Whoever uses the registry is such a
program, too.  Calls within calls have room to a depth, and an entry of the service or the
dispatcher bears the room that was left.

## Key results

- `Bureau.exec_log`: what a logger writes
- `DeskProgram.run_related`, `Clerks.doors_related`: programs and calls of every depth are related
  if the few things that they are made of are
- `Clerks.session_eq`: how a registry among these collaborators is opened
-/

namespace ProofOfExistence

variable {τ ι κ α β : Type}

/-! ## Loggers -/

/-- What a logger writes of an entry, if the threshold of the loggers without one of their own is
the given one. -/
def Logger.lines (l : Logger) (threshold : Number) (level : LogLevel) (text : String)
    (context : LogContext) : List LogEntry :=
  if level.isBelow (l.threshold.getD threshold) then [] else [⟨level, l.source, text, context⟩]

/-! ## Bureaus -/

/-- Who writes a log entry. -/
inductive LogAuthor where
  /-- A registry, when it is opened. -/
  | registry
  /-- The service, in a call that has some room for calls within it. -/
  | service (room : Nat)
  /-- The dispatcher, in a dispatch that has some room for calls within it. -/
  | dispatcher (room : Nat)
  /-- Any other logger. -/
  | other
deriving DecidableEq

/-- What everyone but the readers of the log can see. -/
structure Desk (τ ι κ : Type) where
  store : τ
  nonces : Nonces
  audit : AuditLog
  metrics : Metrics ι
  /-- What the collaborators keep. -/
  own : κ
  /-- The threshold of the loggers without one of their own. -/
  threshold : Number

/-- What happens in a bureau. -/
inductive Incident (τ ι κ : Type) where
  /-- The service answered a request or failed, and then the desk was like this. -/
  | served (r : ClaimRequest) (outcome : Except Fault ClaimReply) (desk : Desk τ ι κ)
  /-- A request was dispatched, and then the desk was like this. -/
  | dispatched (r : Request) (outcome : Except Fault (Except DispatchError Unit))
    (desk : Desk τ ι κ)
  /-- An event was deposited in the sink. -/
  | deposited (event : ClaimEvent)
  /-- The threshold was set. -/
  | thresholdSet (threshold : Number)

/-- A registry with its dispatcher, their surroundings and the log. -/
structure Bureau (τ ι κ : Type) where
  desk : Desk τ ι κ
  /-- The entries that were written, with their authors. -/
  log : List (LogAuthor × LogEntry)
  /-- What happened so far. -/
  trace : List (Incident τ ι κ)

namespace Bureau

/-- A bureau in which nothing has happened. -/
def start (desk : Desk τ ι κ) : Bureau τ ι κ := ⟨desk, [], []⟩

/-- Look at the desk. -/
def look : Run (Bureau τ ι κ) (Desk τ ι κ) := do return (← getThe (Bureau τ ι κ)).desk

/-- Do something to the desk, but for the threshold. -/
def alter (f : Desk τ ι κ → Desk τ ι κ) : Run (Bureau τ ι κ) Unit :=
  modifyThe (Bureau τ ι κ) fun w =>
    { w with desk := { f w.desk with threshold := w.desk.threshold } }

/-- Note what happens. -/
def note (i : Incident τ ι κ) : Run (Bureau τ ι κ) Unit :=
  modifyThe (Bureau τ ι κ) fun w => { w with trace := w.trace ++ [i] }

/-- Set the threshold. -/
def setThreshold (threshold : Number) : Run (Bureau τ ι κ) Unit := do
  modifyThe (Bureau τ ι κ) fun w => { w with desk := { w.desk with threshold := threshold } }
  note (.thresholdSet threshold)

/-- Where the loggers of an author write. -/
def output (author : LogAuthor) : LogOutput (Bureau τ ι κ) where
  threshold := Desk.threshold <$> look
  write e := modifyThe (Bureau τ ι κ) fun w => { w with log := w.log ++ [(author, e)] }

/-- The bureau with some more entries of an author. -/
def logged (author : LogAuthor) (entries : List LogEntry) (w : Bureau τ ι κ) : Bureau τ ι κ :=
  { w with log := w.log ++ entries.map (author, ·) }

/-- A logger adds what it writes to the log. -/
theorem exec_log (l : Logger) (author : LogAuthor) (level : LogLevel) (text : String)
    (context : LogContext) (w : Bureau τ ι κ) :
    (l.log (output author) level text context).exec w =
      (.ok (), w.logged author (l.lines w.desk.threshold level text context)) := by
  obtain ⟨source, threshold⟩ := l
  have hrest (t : Number) :
      (if level.isBelow t then return () else
        (output author).write ⟨level, source, text, context⟩ : Run (Bureau τ ι κ) Unit).exec w =
      (.ok (), w.logged author
        (if level.isBelow t then [] else [⟨level, source, text, context⟩])) := by
    -- A line below the threshold is not written.
    by_cases hbelow : level.isBelow t = true
    · rw [if_pos hbelow, if_pos hbelow, logged, List.map_nil, List.append_nil]
      rfl
    · rw [if_neg hbelow, if_neg hbelow]
      rfl
  cases threshold with
  | none => exact hrest w.desk.threshold
  | some t => exact hrest t

/-- A place on the desk, where the threshold is not. -/
def deskCell {γ : Type} (get : Desk τ ι κ → γ) (set : γ → Desk τ ι κ → Desk τ ι κ) :
    Cell (Bureau τ ι κ) γ where
  get w := get w.desk
  set a w := { w with desk := { set a w.desk with threshold := w.desk.threshold } }

/-- The place of the store. -/
def storeCell : Cell (Bureau τ ι κ) τ := deskCell Desk.store fun s desk => { desk with store := s }

/-- The place of the spent nonces. -/
def noncesCell : Cell (Bureau τ ι κ) Nonces :=
  deskCell Desk.nonces fun nonces desk => { desk with nonces := nonces }

/-- The place of the audit log. -/
def auditCell : Cell (Bureau τ ι κ) AuditLog :=
  deskCell Desk.audit fun audit desk => { desk with audit := audit }

/-- The place of the counters. -/
def metricsCell : Cell (Bureau τ ι κ) (Metrics ι) :=
  deskCell Desk.metrics fun metrics desk => { desk with metrics := metrics }

end Bureau

/-! ## Programs -/

/-- A program that uses a registry and its dispatcher. -/
inductive DeskProgram (τ ι κ α : Type) where
  | done (outcome : Except Fault α)
  | look (next : Desk τ ι κ → DeskProgram τ ι κ α)
  | alter (f : Desk τ ι κ → Desk τ ι κ) (next : DeskProgram τ ι κ α)
  | setThreshold (threshold : Number) (next : DeskProgram τ ι κ α)
  | log (l : Logger) (level : LogLevel) (text : String) (context : LogContext)
    (next : DeskProgram τ ι κ α)
  | serve (r : ClaimRequest) (next : Except Fault ClaimReply → DeskProgram τ ι κ α)
  | dispatch (r : Request) (next : Except Fault (Except DispatchError Unit) → DeskProgram τ ι κ α)

/-- The ways to call a registry and its dispatcher. -/
structure Doors (σ : Type) where
  serve : ClaimRequest → Run σ ClaimReply
  dispatch : Request → Run σ (Except DispatchError Unit)

/-- Run a program whose calls go through some doors. -/
def DeskProgram.run (g : Doors (Bureau τ ι κ)) : DeskProgram τ ι κ α → Run (Bureau τ ι κ) α
  | done outcome => Run.ofExcept outcome
  | look next => do (next (← Bureau.look)).run g
  | alter f next => do
    Bureau.alter f
    next.run g
  | setThreshold threshold next => do
    Bureau.setThreshold threshold
    next.run g
  | log l level text context next => do
    l.log (Bureau.output .other) level text context
    next.run g
  | serve r next => do (next (← Run.observe (g.serve r))).run g
  | dispatch r next => do (next (← Run.observe (g.dispatch r))).run g

/-! ## Collaborators -/

/-- The collaborators of a service and its dispatcher, with their loggers. -/
structure Clerks (τ ι κ : Type) where
  ops : StoreOps τ
  now : DeskProgram τ ι κ Number
  deposit : ClaimEvent → DeskProgram τ ι κ Unit
  proofLimit : Nat
  /-- What an adapter of the counters does when it is told of a count. -/
  notify : ι → Utf16 → Number → Option Tags → DeskProgram τ ι κ Unit
  verify : (signer : String) → Call → (signature : String) → Except Fault Bool
  /-- Count a dispatch, in the counters of the service or in others. -/
  countDispatch : Utf16 → Tags → DeskProgram τ ι κ Unit
  serviceLogger : Logger
  dispatcherLogger : Logger

namespace Clerks

variable (c : Clerks τ ι κ)

/-- The same collaborators with another logger of the service. -/
def withLogger (l : Logger) : Clerks τ ι κ := { c with serviceLogger := l }

/-- The claim service, in a call that has some room for calls within it. -/
def service (room : Nat) (g : Doors (Bureau τ ι κ)) : ClaimService (Bureau τ ι κ) where
  store := c.ops.store Bureau.storeCell
  now := c.now.run g
  deposit event := do
    Bureau.note (.deposited event)
    (c.deposit event).run g
  proofLimit := c.proofLimit
  count name tags :=
    Metrics.count Bureau.metricsCell (fun a name amount tags => (c.notify a name amount tags).run g)
      name (some tags) 1
  log := c.serviceLogger.log (Bureau.output (.service room))

/-- The dispatcher, in a dispatch that has some room for calls within it. -/
def dispatcher (room : Nat) (g : Doors (Bureau τ ι κ)) : Dispatcher (Bureau τ ι κ) where
  handOver := (c.service room g).carryOut
  verify := c.verify
  nonces := Bureau.noncesCell
  audit := Bureau.auditCell
  count name tags := (c.countDispatch name tags).run g
  log := c.dispatcherLogger.log (Bureau.output (.dispatcher room))

/-- The doors whose calls are answered by collaborators that call through other doors. -/
def doorsOver (room : Nat) (g : Doors (Bureau τ ι κ)) : Doors (Bureau τ ι κ) where
  serve r := do
    let outcome ← Run.observe ((c.service room g).serve r)
    Bureau.note (.served r outcome (← Bureau.look))
    Run.ofExcept outcome
  dispatch r := do
    let outcome ← Run.observe (r.dispatchOn (c.dispatcher room g))
    Bureau.note (.dispatched r outcome (← Bureau.look))
    Run.ofExcept outcome

/-- The doors to a bureau with room for calls within calls to a depth. -/
def doors : Nat → Doors (Bureau τ ι κ)
  | 0 => ⟨fun _ => throw Collaborators.stackFault, fun _ => throw Collaborators.stackFault⟩
  | depth + 1 => c.doorsOver depth (doors depth)

/-! ### The registry -/

/-- The collaborators that work for a registry: its limit holds, and the service has a logger of the
registry. -/
def under {κ' : Type} (r : Registry κ') : Clerks τ ι κ :=
  { c with proofLimit := r.proofLimit, serviceLogger := r.logger.child "service" }

-- Their service is that of the registry.
example {κ' : Type} (r : Registry κ') (room : Nat) (g : Doors (Bureau τ ι κ)) :
    (c.under r).service room g =
      let own := c.service room g
      r.service own.store own.now own.deposit own.count (Bureau.output (.service room)) :=
  rfl

/-- Open a registry, whose store takes its place on the desk, and run a program on it. -/
def session (opens : StoreKind → τ → Except Fault τ) (depth : Nat) (configuration : Configuration)
    (p : DeskProgram τ ι κ α) : Run (Bureau τ ι κ) α := do
  let r ← Registry.create (fun kind => StoreOps.update Bureau.storeCell (opens kind))
    (Bureau.output .registry) configuration
  p.run ((c.under r).doors depth)

end Clerks

/-- A session opens the store, checks the limit, says that the registry is ready and then runs its
program. -/
theorem Clerks.session_eq (c : Clerks τ ι κ) (opens : StoreKind → τ → Except Fault τ) (depth : Nat)
    {configuration : Configuration} {level : LogLevel}
    (hlevel : LogLevel.ofName? configuration.logLevel = some level) (p : DeskProgram τ ι κ α) :
    let logger : Logger := ⟨Registry.logSource, some level.threshold⟩
    c.session opens depth configuration p = (do
      StoreOps.update Bureau.storeCell (opens configuration.storeKind)
      let limit ← Run.ofExcept (ClaimService.checkLimit configuration.proofLimit)
      logger.log (Bureau.output .registry) .info "Registry ready"
        [("storage", .ofString configuration.storage),
          ("proofLimit", .num configuration.proofLimit)]
      let clerks := { c with proofLimit := limit }
      p.run ((clerks.withLogger (logger.child "service")).doors depth)) := by
  simp only [session, Registry.create, hlevel, bind_assoc, pure_bind]
  rfl

/-! ## What programs and calls are made of -/

/-- The things that programs and calls are made of are related, for calls with less than some room,
when the loggers of the service are `l` and `l'`. -/
structure Bureau.Related (Ψ : (α : Type) → Run (Bureau τ ι κ) α → Run (Bureau τ ι κ) α → Prop)
    (c : Clerks τ ι κ) (l l' : Logger) (bound : Nat) : Prop extends Run.Composes Ψ where
  ofExcept : ∀ {α : Type} (r : Except Fault α), Ψ α (Run.ofExcept r) (Run.ofExcept r)
  observe : ∀ {α : Type} {x y : Run (Bureau τ ι κ) α}, Ψ α x y →
    Ψ _ (Run.observe x) (Run.observe y)
  look : Ψ _ Bureau.look Bureau.look
  alter : ∀ f, Ψ _ (Bureau.alter f) (Bureau.alter f)
  note : ∀ i, (∀ t, i ≠ .thresholdSet t) → Ψ _ (Bureau.note i) (Bureau.note i)
  setThreshold : ∀ t, Ψ _ (Bureau.setThreshold t) (Bureau.setThreshold t)
  logOther : ∀ (own : Logger) level text context,
    Ψ _ (own.log (Bureau.output .other) level text context)
      (own.log (Bureau.output .other) level text context)
  logService : ∀ room < bound, ∀ level text context, level ≠ .silent →
    Ψ _ (l.log (Bureau.output (.service room)) level text context)
      (l'.log (Bureau.output (.service room)) level text context)
  logDispatcher : ∀ room < bound, ∀ level text context,
    Ψ _ (c.dispatcherLogger.log (Bureau.output (.dispatcher room)) level text context)
      (c.dispatcherLogger.log (Bureau.output (.dispatcher room)) level text context)

section Related

variable {Ψ : (α : Type) → Run (Bureau τ ι κ) α → Run (Bureau τ ι κ) α → Prop}
  {c : Clerks τ ι κ} {l l' : Logger} {bound : Nat} (h : Bureau.Related Ψ c l l' bound)
include h

theorem Bureau.Related.throw (e : Fault) : Ψ α (throw e) (throw e) := h.ofExcept (.error e)

/-- Two doors answer alike. -/
structure Doors.Related (Ψ : (α : Type) → Run (Bureau τ ι κ) α → Run (Bureau τ ι κ) α → Prop)
    (g g' : Doors (Bureau τ ι κ)) : Prop where
  serve : ∀ r, Ψ _ (g.serve r) (g'.serve r)
  dispatch : ∀ r, Ψ _ (g.dispatch r) (g'.dispatch r)

/-! ### The desk and the store -/

section Desk

variable {γ : Type} {get : Desk τ ι κ → γ} {set : γ → Desk τ ι κ → Desk τ ι κ}

private theorem read_related :
    Ψ _ (Bureau.deskCell get set).read (Bureau.deskCell get set).read :=
  h.map h.look get

private theorem write_related (a : γ) :
    Ψ _ ((Bureau.deskCell get set).write a) ((Bureau.deskCell get set).write a) :=
  h.alter (set a)

private theorem modify_related (f : γ → γ) :
    Ψ _ ((Bureau.deskCell get set).modify f) ((Bureau.deskCell get set).modify f) :=
  h.alter fun desk => set (f (get desk)) desk

end Desk

private theorem ask_related (f : τ → Except Fault α) :
    Ψ _ (StoreOps.ask Bureau.storeCell f) (StoreOps.ask Bureau.storeCell f) :=
  h.bind (read_related h) fun s => h.ofExcept (f s)

/-- Changing the store does alike. -/
theorem Bureau.Related.update (f : τ → Except Fault τ) :
    Ψ _ (StoreOps.update Bureau.storeCell f) (StoreOps.update Bureau.storeCell f) :=
  h.bind (read_related h) fun s => h.bind (h.ofExcept (f s)) fun t => write_related h t

/-- A transaction does alike if what runs in it does. -/
theorem Bureau.Related.transaction {x y : Run (Bureau τ ι κ) α} (hxy : Ψ α x y) :
    Ψ α (c.ops.transaction Bureau.storeCell x) (c.ops.transaction Bureau.storeCell y) := by
  refine h.bind (h.update _) fun _ => ?_
  refine h.bind (h.observe hxy) fun outcome => ?_
  cases outcome with
  | ok a => exact h.bind (h.update _) fun _ => h.pure a
  | error e => exact h.bind (modify_related h _) fun _ => h.throw e

/-! ### Programs and calls -/

variable {g g' : Doors (Bureau τ ι κ)} (hg : Doors.Related Ψ g g')
include hg

/-- A program runs alike through doors that answer alike. -/
theorem DeskProgram.run_related (p : DeskProgram τ ι κ α) : Ψ _ (p.run g) (p.run g') := by
  -- Induction on the program; a call that fails is observed, so the program goes on.
  induction p with
  | done outcome => exact h.ofExcept outcome
  | look next ih => exact h.bind h.look fun desk => ih desk
  | alter f next ih => exact h.bind (h.alter f) fun _ => ih
  | setThreshold t next ih => exact h.bind (h.setThreshold t) fun _ => ih
  | log own level text context next ih =>
    exact h.bind (h.logOther own level text context) fun _ => ih
  | serve r next ih => exact h.bind (h.observe (hg.serve r)) fun answer => ih answer
  | dispatch r next ih => exact h.bind (h.observe (hg.dispatch r)) fun answer => ih answer

private theorem tell_related (name : Utf16) (tags : Option Tags) (amount : Number)
    (adapters : List ι) :
    Ψ _ (Metrics.tell (fun a name amount tags => (c.notify a name amount tags).run g) name tags
        amount adapters)
      (Metrics.tell (fun a name amount tags => (c.notify a name amount tags).run g') name tags
        amount adapters) := by
  induction adapters with
  | nil => exact h.pure ()
  | cons a rest ih => exact h.bind ((c.notify a name amount tags).run_related h hg) fun _ => ih

theorem Clerks.count_related (room : Nat) (name : Utf16) (tags : Tags) :
    Ψ _ (((c.withLogger l).service room g).count name tags)
      (((c.withLogger l').service room g').count name tags) := by
  refine h.bind (modify_related h _) fun _ => ?_
  exact h.bind (read_related h) fun metrics => tell_related h hg _ _ _ metrics.adapters

/-- What the service does inside its transactions does alike. -/
theorem Clerks.parts_related (room : Nat) :
    ((c.withLogger l).service room g).PartsRelated Ψ ((c.withLogger l').service room g') where
  get _ := ask_related h _
  contains _ := ask_related h _
  remove _ := h.update _
  stamp _ _ := h.bind (c.now.run_related h hg) fun _ => h.update _
  deposit event := h.bind (h.note _ nofun) fun _ => (c.deposit event).run_related h hg
  proofLimit := rfl

/-- The service does alike in calls with less than the room. -/
theorem Clerks.service_related {room : Nat} (hroom : room < bound) :
    ((c.withLogger l).service room g).Related Ψ ((c.withLogger l').service room g') where
  toPartsRelated := c.parts_related h hg room
  transaction := h.transaction
  count := c.count_related h hg room
  log := h.logService room hroom

theorem Clerks.serve_related {room : Nat} (hroom : room < bound) (r : ClaimRequest) :
    Ψ _ (((c.withLogger l).service room g).serve r)
      (((c.withLogger l').service room g').serve r) := by
  have hservice := c.service_related h hg hroom
  cases r with
  | create origin proof => exact h.map (ClaimService.create_related h.toComposes hservice _ _) _
  | revoke origin proof => exact h.map (ClaimService.revoke_related h.toComposes hservice _ _) _
  | transfer origin proof dest =>
    exact h.map (ClaimService.transfer_related h.toComposes hservice _ _ _) _
  | claim proof => exact h.map (hservice.get proof) _

/-- Handing a call over is a call of the service, if its fingerprint can be decoded. -/
theorem Clerks.carryOut_related {room : Nat} (hroom : room < bound) (origin : Origin)
    (call : Call) :
    Ψ _ (((c.withLogger l).service room g).carryOut origin call)
      (((c.withLogger l').service room g').carryOut origin call) := by
  have hservice := c.service_related h hg hroom
  unfold ClaimService.carryOut
  cases Hex.decode? call.proof with
  -- The text is no fingerprint, which is the same fault on both sides.
  | none => exact h.throw _
  | some proof =>
    cases call.action with
    | create => exact ClaimService.create_related h.toComposes hservice _ _
    | revoke => exact ClaimService.revoke_related h.toComposes hservice _ _
    | transfer dest => exact ClaimService.transfer_related h.toComposes hservice _ _ _

theorem Clerks.dispatcher_related {room : Nat} (hroom : room < bound) :
    ((c.withLogger l).dispatcher room g).Related Ψ ((c.withLogger l').dispatcher room g') where
  handOver := c.carryOut_related h hg hroom
  verify := rfl
  nonces := by
    show Ψ _ Bureau.noncesCell.read Bureau.noncesCell.read
    exact read_related h
  spend nonces := by
    show Ψ _ (Bureau.noncesCell.write nonces) (Bureau.noncesCell.write nonces)
    exact write_related h nonces
  audit f := by
    show Ψ _ (Bureau.auditCell.modify f) (Bureau.auditCell.modify f)
    exact modify_related h f
  count name tags := (c.countDispatch name tags).run_related h hg
  log := h.logDispatcher room hroom

/-- Doors answer alike if the doors behind them do. -/
theorem Clerks.doorsOver_related {room : Nat} (hroom : room < bound) :
    Doors.Related Ψ ((c.withLogger l).doorsOver room g) ((c.withLogger l').doorsOver room g') where
  serve r := by
    refine h.bind (h.observe (c.serve_related h hg hroom r)) fun outcome => ?_
    refine h.bind h.look fun desk => ?_
    exact h.bind (h.note _ nofun) fun _ => h.ofExcept outcome
  dispatch r := by
    have hdispatch := Dispatcher.dispatchOn_related h.toComposes
      (c.dispatcher_related h hg hroom) h.ofExcept r
    refine h.bind (h.observe hdispatch) fun outcome => ?_
    refine h.bind h.look fun desk => ?_
    exact h.bind (h.note _ nofun) fun _ => h.ofExcept outcome

end Related

/-- Doors of every depth answer alike, up to the room. -/
theorem Clerks.doors_related
    {Ψ : (α : Type) → Run (Bureau τ ι κ) α → Run (Bureau τ ι κ) α → Prop} {c : Clerks τ ι κ}
    {l l' : Logger} {bound : Nat} (h : Bureau.Related Ψ c l l' bound) {depth : Nat}
    (hdepth : depth ≤ bound) :
    Doors.Related Ψ ((c.withLogger l).doors depth) ((c.withLogger l').doors depth) := by
  -- On a full stack every call fails at once.
  induction depth with
  | zero => exact ⟨fun _ => h.throw _, fun _ => h.throw _⟩
  | succ depth ih => exact c.doorsOver_related h (ih (Nat.le_of_succ_le hdepth)) hdepth

end ProofOfExistence
