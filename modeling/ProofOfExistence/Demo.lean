import ProofOfExistence.Clock
import ProofOfExistence.Event.Log
import ProofOfExistence.Registry
import ProofOfExistence.Store.Savepoint

/-! # A walk through the life of a claim

Alice claims the proof of `abc`, Bob fails to claim it too, Alice transfers it to Carol, fails to
revoke it afterwards, and Carol revokes it.  The scenario runs on a registry with a private durable
store, a clock that advances by one after each call, and an event log. -/

namespace ProofOfExistence.Demo

/-- The state that the scenario runs on. -/
structure World where
  store : SavepointStore
  clock : ManualClock
  events : EventLog
  metrics : Metrics Empty

namespace World

/-- The place of the store. -/
def storeCell : Cell World SavepointStore := ⟨World.store, fun s w => { w with store := s }⟩

/-- The place of the clock. -/
def clockCell : Cell World ManualClock := ⟨World.clock, fun c w => { w with clock := c }⟩

/-- The place of the event log. -/
def eventsCell : Cell World EventLog := ⟨World.events, fun l w => { w with events := l }⟩

/-- The place of the counters. -/
def metricsCell : Cell World (Metrics Empty) :=
  ⟨World.metrics, fun m w => { w with metrics := m }⟩

/-- Nothing claimed, deposited or counted yet, at time one. -/
def initial : World := ⟨.ofDurable .empty, ⟨1⟩, [], .empty⟩

end World

/-- The configuration of the scenario's registry. -/
def configuration : Configuration where
  proofLimit := 10
  storage := Configuration.durableStorage
  databasePath := Configuration.privatePath
  logLevel := LogLevel.silent.name

/-- A log that drops everything. -/
def silence : LogOutput World := ⟨return LogLevel.silent.threshold, fun _ => return ()⟩

/-- One call of the scenario, what became of it and the claim after it. -/
structure Step where
  label : String
  error : Option ClaimError
  claim : Option ClaimRecord

/-- What happened in the scenario. -/
structure Report where
  steps : List Step
  events : EventLog

/-- The fingerprint that the scenario is about. -/
def proof : Fingerprint := Bytes.ofString "abc"

/-- The calls of the scenario, with their labels. -/
def calls (s : ClaimService World) : List (String × Run World (Except ClaimError Unit)) :=
  [("Alice claims \"abc\"", s.create (.signed "alice") proof),
    ("Bob claims \"abc\"", s.create (.signed "bob") proof),
    ("Alice transfers \"abc\" to Carol", s.transfer (.signed "alice") proof "carol"),
    ("Alice revokes \"abc\"", s.revoke (.signed "alice") proof),
    ("Carol revokes \"abc\"", s.revoke (.signed "carol") proof)]

/-- Make one call, look at the claim and advance the clock. -/
def step (s : ClaimService World) (label : String) (call : Run World (Except ClaimError Unit)) :
    Run World Step := do
  let answer ← call
  let claim ← s.claim proof
  let clock ← World.clockCell.read
  World.clockCell.write (← Run.ofExcept (clock.advance 1))
  return ⟨label, match answer with | .ok () => none | .error e => some e, claim⟩

/-- The scenario. -/
def scenario : Run World Report := do
  let registry ← Registry.create (fun _ => return ()) silence configuration
  let service := registry.service (SavepointStore.store World.storeCell)
    (do return (← World.clockCell.read).current) (EventLog.deposit World.eventsCell)
    (fun name tags => Metrics.count World.metricsCell nofun name (some tags) 1) silence
  let steps ← (calls service).mapM fun c => step service c.1 c.2
  World.storeCell.modify SavepointStore.close
  return ⟨steps, ← World.eventsCell.read⟩

/-- The report of the scenario, or the fault that ended it. -/
def report : Except Fault Report := (scenario.exec World.initial).1

/-- A text filled up with spaces to a width. -/
def padRight (text : String) (width : Nat) : String :=
  String.ofList (text.toList ++ List.replicate (width - text.length) ' ')

/-- A text repeated. -/
def repeated (c : Char) (n : Nat) : String := String.ofList (List.replicate n c)

/-- A title between two rules, as lines of output. -/
def banner (title : String) : List String :=
  ["\n" ++ repeated '═' 60, "  " ++ title, repeated '═' 60]

/-- The heading of a section. -/
def sectionHeading (title : String) : String :=
  "\n── " ++ title ++ " " ++ repeated '─' (50 - title.length)

/-- The line of a step. -/
def Step.line (s : Step) : String :=
  let status := match s.error with
    | some e => "✗ " ++ e.description
    | none => "✓"
  let owner := match s.claim with
    | some r => "owner=" ++ r.owner ++ " @" ++ r.registeredAt.toText
    | none => "unclaimed"
  "  " ++ padRight s.label 34 ++ " " ++ padRight status 40 ++ " " ++ owner

/-- The line of an event. -/
def eventLine (e : ClaimEvent) : String :=
  let dest := match e.dest with
    | some d => " → " ++ d
    | none => ""
  "  " ++ padRight e.kind.name 18 ++ " " ++ e.who ++ " 0x" ++ Hex.encode e.proof ++ dest

/-- The report as lines of output. -/
def Report.lines (r : Report) : List String :=
  banner "Proof Registry — Claim Lifecycle Demo" ++ [sectionHeading "Calls"] ++
    r.steps.map Step.line ++ [sectionHeading "Events"] ++ r.events.map eventLine

end ProofOfExistence.Demo
