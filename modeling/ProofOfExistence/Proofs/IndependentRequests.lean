import ProofOfExistence.Event.Log
import ProofOfExistence.Proofs.DispatchOutcome
import ProofOfExistence.Proofs.WellFormedRegistry

/-!
# Independent requests commute

Among calm collaborators all that a request does to a registry is told by a `RequestEffect`: the
answer and its entry in the audit log, the nonce that is spent, the claim that changes, the event,
and what is reported.  It depends on the claim on the request's fingerprint and on the last nonce of
its signer, and on nothing else in the registry (`Request.effect_congr`).

So two requests without a common signer and a common fingerprint do the same in either order.  They
leave the same claims, nonces and counters.  Only what is written one after the other tells the
order: the audit log, the log and the events.

## Key results

- `exec_dispatch_effect`: a dispatch does what its effect says
- `Request.effect_congr`: what an effect depends on
- `independent_requests_commute`: two requests in either order, on both stores
-/

namespace ProofOfExistence

variable {τ θ ε μ κ ρ : Type}

/-! ## Effects -/

/-- What a request does to a registry. -/
structure RequestEffect where
  judgement : Judgement
  /-- The nonce that is spent, and its signer. -/
  spent : Option (String × Nat)
  /-- A fingerprint and the claim that is left on it, if any. -/
  change : Option (Fingerprint × Option ClaimRecord)
  events : List ClaimEvent
  /-- What the service reports. -/
  notes : List Note

namespace RequestEffect

variable (x : RequestEffect)

/-- The claims after an effect. -/
def onClaims (claims : Claims) : Claims :=
  match x.change with
  | some (f, r) => claims.set? f r
  | none => claims

/-- The nonces after an effect. -/
def onNonces (nonces : Nonces) : Nonces :=
  match x.spent with
  | some (signer, nonce) => nonces.insert signer nonce
  | none => nonces

end RequestEffect

namespace Request

/-- What a request does to a registry that keeps some claims and nonces at some time. -/
def effect (limit : Nat) (time : Number) (claims : Claims) (nonces : Nonces) (r : Request) :
    RequestEffect :=
  match r.admission nonces with
  | .error j => ⟨j, none, none, [], []⟩
  | .ok e =>
    let proof := (Hex.decode? e.call.proof).getD []
    let spent := e.credentials.map fun k => (k.signer, e.call.nonce)
    match Lifecycle.firstFailure limit claims (e.call.action.request e.origin proof) with
    | some error =>
      ⟨⟨.error (.claim error), some e.call, e.signer⟩, spent, none, [],
        ClaimService.notes e.call.method proof (.error error)⟩
    | none =>
      ⟨⟨.ok (), some e.call, e.signer⟩, spent,
        e.signer.map fun who => (proof, e.call.action.claimAfter who time),
        e.signer.toList.map fun who => e.call.action.event who proof,
        ClaimService.notes e.call.method proof (.ok ())⟩

end Request

/-! ## A dispatch does what its effect says -/

/-- Whoever a call comes from has signed its envelope. -/
theorem Envelope.signer_of_origin {e : Envelope} {who : String} (h : e.origin = .signed who) :
    e.signer = some who := by
  unfold Envelope.origin at h
  unfold Envelope.signer
  cases hk : e.credentials with
  | none =>
    rw [hk] at h
    cases h
  | some k =>
    rw [hk] at h
    exact congrArg some (Origin.signed.inj h)

/-- What an effect leaves of a registry that kept some claims. -/
structure Enacts (c : CalmCollaborators θ ε μ) (S : FaithfulStore τ) (x : RequestEffect)
    (claims : Claims) (w w' : World τ ε (CalmState θ μ)) : Prop where
  keeps : S.Keeps w'.store (x.onClaims claims)
  nonces : w'.nonces = x.onNonces w.nonces
  audit : w'.audit = w.audit ++ [x.judgement.entry]
  sink : w'.sink = x.events.foldl c.deposit w.sink
  records : w'.others.records = c.dispatcherReporters.enterAll
    (c.serviceReporters.enterAll w.others.records x.notes) x.judgement.notes

theorem exec_dispatch_effect (c : CalmCollaborators θ ε μ) {S : FaithfulStore τ}
    (g : Gate (World τ ε (CalmState θ μ))) {w : World τ ε (CalmState θ μ)} {claims : Claims}
    (hkeeps : S.Keeps w.store claims) (hclock : S.Accepts (c.tick w.others.clock).1)
    (r : Request) :
    let x := r.effect c.proofLimit (c.tick w.others.clock).1 claims w.nonces
    ∃ w', (r.dispatchOn (c.dispatcher (S.store World.storeCell) g)).exec w =
      (.ok x.judgement.answer, w') ∧ Enacts c S x claims w w' := by
  intro x
  have hexec : (r.dispatchOn (c.dispatcher (S.store World.storeCell) g)).exec w = _ :=
    c.exec_dispatchOn r w
  have hx : x = r.effect c.proofLimit (c.tick w.others.clock).1 claims w.nonces := rfl
  clear_value x
  unfold Request.effect at hx
  cases hadmission : r.admission w.nonces with
  -- The request is turned away, and nothing but its entry is left.
  | error j =>
    simp only [hadmission] at hexec hx
    subst hx
    exact ⟨_, hexec, hkeeps, rfl, rfl, rfl, rfl⟩
  | ok e =>
    obtain ⟨-, proof, hproof⟩ := Request.decode?_of_admission hadmission
    simp only [hadmission, hproof, Option.getD_some] at hexec hx
    let w₁ : World τ ε (CalmState θ μ) :=
      World.noted { w with nonces := e.spend w.nonces } (.handed e.origin e.call)
    -- A nonce is spent just if somebody has signed.
    have hnonces : e.spend w.nonces = match e.credentials.map fun k => (k.signer, e.call.nonce) with
        | some (signer, nonce) => w.nonces.insert signer nonce
        | none => w.nonces := by
      unfold Envelope.spend
      cases e.credentials <;> rfl
    cases hfailure :
        Lifecycle.firstFailure c.proofLimit claims (e.call.action.request e.origin proof) with
    -- The service refuses, so there is neither a change nor an event.
    | some error =>
      have hcall := c.exec_call_of_firstFailure (g := g) (w := w₁) hkeeps hfailure
      simp only [hfailure] at hx
      subst hx
      exact ⟨_, hexec.trans (c.exec_carry hproof hcall e.signer), hkeeps, hnonces, rfl, rfl, rfl⟩
    | none =>
      -- All preconditions hold, so somebody has signed, and their claim changes.
      obtain ⟨who, u, horigin, hu, hcall⟩ := c.exists_change (g := g) hclock hkeeps hfailure
      have hsigner : e.signer = some who := Envelope.signer_of_origin horigin
      simp only [hfailure, hsigner] at hx
      subst hx
      refine ⟨_, hexec.trans (c.exec_carry hproof (hcall w₁ rfl rfl) e.signer), hu, hnonces, ?_,
        rfl, ?_⟩
      · rw [hsigner]
        rfl
      · rw [hsigner]
        rfl

/-! ## What an effect depends on -/

/-- The first failing precondition of a call depends on the claim on its fingerprint only. -/
theorem Lifecycle.firstFailure_congr {limit : Nat} {claims claims' : Claims} {origin : Origin}
    {proof : Fingerprint} {action : CallAction} (h : claims'.get? proof = claims.get? proof) :
    firstFailure limit claims' (action.request origin proof) =
      firstFailure limit claims (action.request origin proof) := by
  have hcontains : claims'.contains proof = claims.contains proof := by
    rw [Table.contains_eq, h, Table.contains_eq]
  have howner : owner? claims' proof = owner? claims proof := by rw [owner?, h, owner?]
  have hconditions :
      ownerConditions claims' origin proof = ownerConditions claims origin proof := by
    rw [ownerConditions, hcontains, howner, ownerConditions]
  unfold firstFailure
  cases action with
  | create => rw [CallAction.request, preconditions, hcontains, preconditions]
  | revoke | transfer => rw [CallAction.request, preconditions, hconditions, preconditions]

namespace Request

variable {limit : Nat} {time : Number} {claims claims' : Claims} {nonces nonces' : Nonces}
  {r : Request}

theorem envelope?_of_admission {e : Envelope} (h : r.admission nonces = .ok e) :
    r.envelope? = some e := by
  rw [envelope?_eq, (decode?_of_admission h).1]
  rfl

theorem admission_congr (h : ∀ e signer, r.envelope? = some e → e.signer = some signer →
    nonces'.get? signer = nonces.get? signer) : r.admission nonces' = r.admission nonces := by
  unfold admission
  cases hreading : r.reading with
  | error cause => rfl
  | ok e =>
    have henvelope : r.envelope? = some e := by rw [envelope?_eq, hreading]; rfl
    have hlast : e.lastNonce? nonces' = e.lastNonce? nonces := by
      unfold Envelope.lastNonce?
      cases hsigner : e.signer with
      | none => rfl
      | some signer => exact h e signer henvelope hsigner
    simp only [Envelope.checks, hlast]

/-- An effect depends on the claim on the fingerprint and on the last nonce of the signer only. -/
theorem effect_congr
    (hclaims : ∀ e proof, r.envelope? = some e → Hex.decode? e.call.proof = some proof →
      claims'.get? proof = claims.get? proof)
    (hnonces : ∀ e signer, r.envelope? = some e → e.signer = some signer →
      nonces'.get? signer = nonces.get? signer) :
    r.effect limit time claims' nonces' = r.effect limit time claims nonces := by
  unfold effect
  rw [admission_congr hnonces]
  cases hadmission : r.admission nonces with
  | error j => rfl
  | ok e =>
    obtain ⟨-, proof, hproof⟩ := decode?_of_admission hadmission
    have hclaim := hclaims e proof (envelope?_of_admission hadmission) hproof
    simp only [hproof, Option.getD_some, Lifecycle.firstFailure_congr hclaim]

/-- A request changes the claim on its own fingerprint, if any. -/
theorem change_effect {f : Fingerprint} {claim : Option ClaimRecord}
    (h : (r.effect limit time claims nonces).change = some (f, claim)) :
    ∃ e, r.envelope? = some e ∧ Hex.decode? e.call.proof = some f := by
  unfold effect at h
  cases hadmission : r.admission nonces with
  | error j =>
    simp only [hadmission] at h
    cases h
  | ok e =>
    obtain ⟨-, proof, hproof⟩ := decode?_of_admission hadmission
    refine ⟨e, envelope?_of_admission hadmission, ?_⟩
    simp only [hadmission, hproof, Option.getD_some] at h ⊢
    split at h
    · cases h
    · obtain ⟨who, -, hchange⟩ := Option.map_eq_some_iff.1 h
      rw [(Prod.mk.inj hchange).1]

/-- A request spends a nonce of its own signer, if any. -/
theorem spent_effect {signer : String} {nonce : Nat}
    (h : (r.effect limit time claims nonces).spent = some (signer, nonce)) :
    ∃ e, r.envelope? = some e ∧ e.signer = some signer := by
  unfold effect at h
  cases hadmission : r.admission nonces with
  | error j =>
    simp only [hadmission] at h
    cases h
  | ok e =>
    have hspent : (e.credentials.map fun k => (k.signer, e.call.nonce)) = some (signer, nonce) := by
      simp only [hadmission] at h
      split at h <;> exact h
    obtain ⟨k, hk, hkey⟩ := Option.map_eq_some_iff.1 hspent
    refine ⟨e, envelope?_of_admission hadmission, ?_⟩
    rw [Envelope.signer, hk, Option.map_some, (Prod.mk.inj hkey).1]

/-! ## Independent requests -/

/-- Two requests whose envelopes, as far as they can be read, name no common signer and no common
fingerprint. -/
def Independent (r r' : Request) : Prop :=
  ∀ e e', r.envelope? = some e → r'.envelope? = some e' →
    (∀ who, e.signer = some who → e'.signer ≠ some who) ∧
      Hex.decode? e.call.proof ≠ Hex.decode? e'.call.proof

theorem Independent.symm {r r' : Request} (h : r.Independent r') : r'.Independent r := by
  intro e e' he he'
  obtain ⟨hsigner, hproof⟩ := h e' e he' he
  exact ⟨fun who hwho hwho' => hsigner who hwho' hwho, hproof.symm⟩

/-- A request has the same effect after an independent one. -/
theorem effect_of_independent {r' : Request} (h : r.Independent r') :
    let x := r.effect limit time claims nonces
    r'.effect limit time (x.onClaims claims) (x.onNonces nonces) =
      r'.effect limit time claims nonces := by
  intro x
  refine effect_congr (fun e' proof he' hproof => ?_) fun e' signer he' hsigner => ?_
  · -- The claim that the other request changes is on another fingerprint.
    unfold RequestEffect.onClaims
    cases hchange : x.change with
    | none => rfl
    | some change =>
      obtain ⟨e, he, hproof'⟩ := change_effect hchange
      have hne : proof ≠ change.1 := fun heq =>
        (h e e' he he').2 (by rw [hproof', hproof, heq])
      rw [Table.get?_set?, if_neg hne]
  · -- The nonce that the other request spends is of another signer.
    unfold RequestEffect.onNonces
    cases hspent : x.spent with
    | none => rfl
    | some spent =>
      obtain ⟨e, he, hwho⟩ := spent_effect hspent
      have hne : signer ≠ spent.1 := fun heq =>
        (h e e' he he').1 spent.1 hwho (heq ▸ hsigner)
      rw [Table.get?_insert, if_neg hne]

end Request

/-- Changes of different claims and spendings of different signers' nonces may be made in either
order. -/
private theorem effects_comm {r r' : Request} (h : r.Independent r') (limit : Nat)
    (time : Number) (claims : Claims) (nonces : Nonces) :
    let x := r.effect limit time claims nonces
    let x' := r'.effect limit time claims nonces
    (∀ f, (x'.onClaims (x.onClaims claims)).get? f = (x.onClaims (x'.onClaims claims)).get? f) ∧
      ∀ signer, (x'.onNonces (x.onNonces nonces)).get? signer =
        (x.onNonces (x'.onNonces nonces)).get? signer := by
  intro x x'
  constructor
  · intro f
    unfold RequestEffect.onClaims
    cases hchange : x.change with
    -- The first request leaves the claims as they are.
    | none => rfl
    | some change =>
      cases hchange' : x'.change with
      -- Only the first request changes a claim.
      | none => rfl
      | some change' =>
        -- They change the claims of two fingerprints.
        obtain ⟨e, he, hproof⟩ := Request.change_effect hchange
        obtain ⟨e', he', hproof'⟩ := Request.change_effect hchange'
        have hne : change.1 ≠ change'.1 := fun heq =>
          (h e e' he he').2 (by rw [hproof, hproof', heq])
        simp only [Table.get?_set?]
        grind
  · intro signer
    unfold RequestEffect.onNonces
    cases hspent : x.spent with
    -- The first request spends no nonce.
    | none => rfl
    | some spent =>
      cases hspent' : x'.spent with
      -- Only the first one spends a nonce.
      | none => rfl
      | some spent' =>
        -- They spend nonces of two signers.
        obtain ⟨e, he, hwho⟩ := Request.spent_effect hspent
        obtain ⟨e', he', hwho'⟩ := Request.spent_effect hspent'
        have hne : spent.1 ≠ spent'.1 := fun heq => (h e e' he he').1 spent.1 hwho (heq ▸ hwho')
        simp only [Table.get?_insert]
        grind

/-! ## Counters and log entries -/

/-- What counters, adapters and loggers keep. -/
structure Journal (κ ρ : Type) where
  metrics : Metrics κ
  /-- What the adapters keep. -/
  told : ρ
  entries : List LogEntry

/-- The place of the counters. -/
def Journal.metricsCell : Cell (Journal κ ρ) (Metrics κ) :=
  ⟨Journal.metrics, fun m j => { j with metrics := m }⟩

/-- A registry that counts in metrics and keeps log entries and events. -/
structure CalmOffice (θ κ ρ : Type) where
  tick : θ → Number × θ
  proofLimit : Nat
  /-- An adapter is told of a count. -/
  told : κ → Utf16 → Number → Option Tags → ρ → ρ
  /-- The threshold of loggers without one of their own. -/
  threshold : Number
  serviceLogger : Logger
  dispatcherLogger : Logger

namespace CalmOffice

variable (o : CalmOffice θ κ ρ) (l : Logger)

/-- Tell an adapter of a count. -/
def notify : Metrics.Notify (Journal κ ρ) κ := fun adapter name amount tags =>
  modifyThe (Journal κ ρ) fun j => { j with told := o.told adapter name amount tags j.told }

/-- Where loggers write. -/
def output : LogOutput (Journal κ ρ) where
  threshold := return o.threshold
  write e := modifyThe (Journal κ ρ) fun j => { j with entries := j.entries ++ [e] }

/-- Those who count in the metrics and write with a logger. -/
def reporters : CalmReporters (Journal κ ρ) where
  count name tags j :=
    ((Metrics.count Journal.metricsCell o.notify name (some tags) 1).exec j).2
  log level text context j := ((l.log o.output level text context).exec j).2

/-- The collaborators of the registry. -/
def collaborators : CalmCollaborators θ EventLog (Journal κ ρ) where
  tick := o.tick
  deposit := EventLog.push
  proofLimit := o.proofLimit
  serviceReporters := o.reporters o.serviceLogger
  dispatcherReporters := o.reporters o.dispatcherLogger

/-- The dispatcher of the registry. -/
abbrev dispatcher (store : ClaimStore (World τ EventLog (CalmState θ (Journal κ ρ))))
    (g : Gate (World τ EventLog (CalmState θ (Journal κ ρ)))) :
    Dispatcher (World τ EventLog (CalmState θ (Journal κ ρ))) :=
  o.collaborators.dispatcher store g

end CalmOffice

namespace Note

/-- The name and the tags of a count. -/
def count? : Note → Option (Utf16 × Tags)
  | counted name tags => some (name, tags)
  | logged .. => none

/-- The entries that a note makes. -/
def written (o : CalmOffice θ κ ρ) (l : Logger) : Note → List LogEntry
  | counted .. => []
  | logged level text context =>
    if level.isBelow (l.threshold.getD o.threshold) then []
    else [⟨level, l.source, text, context⟩]

end Note

section Journal

variable (o : CalmOffice θ κ ρ) (l : Logger)

/-- The adapters touch neither the metrics nor the log. -/
private theorem exec_tell_journal (name : Utf16) (tags : Option Tags) (adapters : List κ)
    (j : Journal κ ρ) :
    ∃ told, (Metrics.tell o.notify name tags 1 adapters).exec j =
      (.ok (), { j with told := told }) := by
  induction adapters generalizing j with
  | nil => exact ⟨j.told, rfl⟩
  | cons a rest ih => exact ih { j with told := o.told a name 1 tags j.told }

private theorem enter_metrics (n : Note) (j : Journal κ ρ) :
    ((o.reporters l).enter j n).metrics = j.metrics.recordAll n.count?.toList ∧
      ((o.reporters l).enter j n).entries = j.entries ++ n.written o l := by
  cases n with
  -- A count goes to the metrics, and the adapters leave these alone.
  | counted name tags =>
    let j' : Journal κ ρ := { j with metrics := j.metrics.record name (some tags) 1 }
    obtain ⟨told, htell⟩ := exec_tell_journal o name (some tags) j'.metrics.adapters j'
    have hcount : (Metrics.count Journal.metricsCell o.notify name (some tags) 1).exec j =
      (.ok (), { j' with told := told }) := htell
    show Journal.metrics (((Metrics.count Journal.metricsCell o.notify name (some tags) 1).exec
      j).2) = _ ∧ Journal.entries (((Metrics.count Journal.metricsCell o.notify name (some tags)
      1).exec j).2) = _
    rw [hcount]
    exact ⟨rfl, (List.append_nil _).symm⟩
  | logged level text context =>
    -- An entry is written, if it is not below the threshold.
    have hlog : (l.log o.output level text context).exec j =
        (.ok (), { j with
          entries := j.entries ++ (Note.logged level text context).written o l }) := by
      have hwrite (threshold : Number) :
          (if level.isBelow threshold then pure ()
            else o.output.write ⟨level, l.source, text, context⟩ : Run (Journal κ ρ) Unit).exec j =
          (.ok (), { j with entries := j.entries ++
            if level.isBelow threshold then [] else [⟨level, l.source, text, context⟩] }) := by
        split
        · rw [List.append_nil]
          rfl
        · rfl
      unfold Logger.log Note.written
      cases l.threshold with
      | none => exact hwrite o.threshold
      | some threshold => exact hwrite threshold
    show Journal.metrics ((l.log o.output level text context).exec j).2 = _ ∧
      Journal.entries ((l.log o.output level text context).exec j).2 = _
    rw [hlog]
    exact ⟨rfl, rfl⟩

/-- Notes are counted and written in order. -/
private theorem enterAll_journal (notes : List Note) (j : Journal κ ρ) :
    ((o.reporters l).enterAll j notes).metrics =
        j.metrics.recordAll (notes.filterMap Note.count?) ∧
      ((o.reporters l).enterAll j notes).entries =
        j.entries ++ notes.flatMap (Note.written o l) := by
  induction notes generalizing j with
  | nil => exact ⟨rfl, (List.append_nil _).symm⟩
  | cons n rest ih =>
    obtain ⟨hmetrics, hentries⟩ := enter_metrics o l n j
    obtain ⟨hmetrics', hentries'⟩ := ih ((o.reporters l).enter j n)
    have hcounts : (n :: rest).filterMap Note.count? =
        n.count?.toList ++ rest.filterMap Note.count? := by
      rw [List.filterMap_cons]
      cases n.count? <;> rfl
    refine ⟨hmetrics'.trans ?_, hentries'.trans ?_⟩
    · rw [hmetrics, hcounts, Metrics.recordAll_append]
    · rw [hentries, List.flatMap_cons, List.append_assoc]

end Journal

namespace RequestEffect

variable (x : RequestEffect)

/-- What is counted for a request. -/
def counts : List (Utf16 × Tags) :=
  x.notes.filterMap Note.count? ++ x.judgement.notes.filterMap Note.count?

/-- The log entries of a request. -/
def written (o : CalmOffice θ κ ρ) : List LogEntry :=
  x.notes.flatMap (Note.written o o.serviceLogger) ++
    x.judgement.notes.flatMap (Note.written o o.dispatcherLogger)

end RequestEffect

/-- The service and the dispatcher count a request once each at most, in counters of their own. -/
private theorem counts_nodup (limit : Nat) (time : Number) (claims : Claims) (nonces : Nonces)
    (r : Request) : ((r.effect limit time claims nonces).counts.map Prod.fst).Nodup := by
  have hjudged (j : Judgement) :
      (j.notes.filterMap Note.count?).map Prod.fst = [Dispatcher.callCounter] := by
    obtain ⟨error | _, call, signer⟩ := j <;> rfl
  have hreported (call : ClaimCall) (proof : Fingerprint) (answer : Except ClaimError Unit) :
      ((ClaimService.notes call proof answer).filterMap Note.count?).map Prod.fst =
        [ClaimService.callCounter] := by
    cases answer <;> rfl
  unfold RequestEffect.counts
  rw [List.map_append, hjudged]
  unfold Request.effect
  split
  · exact List.nodup_singleton _
  · dsimp only
    split <;> rw [hreported] <;> decide

/-! ## Both orders -/

section Orders

variable (o : CalmOffice θ κ ρ) (S : FaithfulStore τ)
  (g : Gate (World τ EventLog (CalmState θ (Journal κ ρ)))) {time : Number}
  {w w' : World τ EventLog (CalmState θ (Journal κ ρ))} {claims : Claims}

/-- What an effect leaves in the records. -/
private theorem enacts_records {x : RequestEffect} (h : Enacts o.collaborators S x claims w w') :
    w'.others.records.metrics = w.others.records.metrics.recordAll x.counts ∧
      w'.others.records.entries = w.others.records.entries ++ x.written o ∧
      w'.sink = w.sink ++ x.events := by
  obtain ⟨hmetrics, hentries⟩ :=
    enterAll_journal o o.serviceLogger x.notes w.others.records
  obtain ⟨hmetrics', hentries'⟩ := enterAll_journal o o.dispatcherLogger x.judgement.notes
    ((o.reporters o.serviceLogger).enterAll w.others.records x.notes)
  have hrecords : w'.others.records = (o.reporters o.dispatcherLogger).enterAll
    ((o.reporters o.serviceLogger).enterAll w.others.records x.notes) x.judgement.notes := h.records
  -- Events are recorded one after the other.
  have hpush (events : List ClaimEvent) (log : EventLog) :
      events.foldl EventLog.push log = log ++ events := by
    induction events generalizing log with
    | nil => exact (List.append_nil _).symm
    | cons e rest ih =>
      rw [List.foldl_cons, ih, EventLog.push, List.append_assoc]
      rfl
  -- The service notes first, and then the dispatcher.
  refine ⟨?_, ?_, h.sink.trans (hpush _ _)⟩
  · rw [hrecords, hmetrics', hmetrics, RequestEffect.counts, Metrics.recordAll_append]
  · rw [hrecords, hentries', hentries, RequestEffect.written, List.append_assoc]

variable (htime : ∀ clock, (o.tick clock).1 = time) (hclock : S.Accepts time)
include htime hclock

/-- Of two independent requests, one after the other, each has the effect that it has alone. -/
private theorem exec_both (hkeeps : S.Keeps w.store claims) {r r' : Request}
    (h : r.Independent r') :
    let d := o.dispatcher (S.store World.storeCell) g
    let x := r.effect o.proofLimit time claims w.nonces
    let x' := r'.effect o.proofLimit time claims w.nonces
    ∃ w₁ w₂, (r.dispatchOn d).exec w = (.ok x.judgement.answer, w₁) ∧
      (r'.dispatchOn d).exec w₁ = (.ok x'.judgement.answer, w₂) ∧
      Enacts o.collaborators S x claims w w₁ ∧
      Enacts o.collaborators S x' (x.onClaims claims) w₁ w₂ := by
  intro d x x'
  -- Whenever it is asked, the clock tells the same time.
  have heffect {w : World τ EventLog (CalmState θ (Journal κ ρ))} {claims : Claims}
      (hkeeps : S.Keeps w.store claims) (r : Request) :
      let x := r.effect o.proofLimit time claims w.nonces
      ∃ w', (r.dispatchOn d).exec w = (.ok x.judgement.answer, w') ∧
        Enacts o.collaborators S x claims w w' := by
    have htime' : (o.collaborators.tick w.others.clock).1 = time := htime w.others.clock
    have hexec := exec_dispatch_effect o.collaborators g hkeeps (htime'.symm ▸ hclock) r
    rwa [htime'] at hexec
  obtain ⟨w₁, hexec, henacts⟩ := heffect hkeeps r
  obtain ⟨w₂, hexec', henacts'⟩ := heffect henacts.keeps r'
  rw [henacts.nonces, Request.effect_of_independent h] at hexec' henacts'
  exact ⟨w₁, w₂, hexec, hexec', henacts, henacts'⟩

end Orders

/-- The state in which two requests leave a registry. -/
def Dispatcher.afterBoth {σ : Type} (d : Dispatcher σ) (r r' : Request) (w : σ) : σ :=
  ((r'.dispatchOn d).exec ((r.dispatchOn d).exec w).2).2

/-- In a world it makes no difference which of two requests is dispatched first, but for the order
of what is written one after the other. -/
structure CommuteAt (store : ClaimStore (World τ EventLog (CalmState θ (Journal κ ρ))))
    (d : Dispatcher (World τ EventLog (CalmState θ (Journal κ ρ)))) (r r' : Request)
    (w : World τ EventLog (CalmState θ (Journal κ ρ))) : Prop where
  answers : ∃ answer answer',
    ((r.dispatchOn d).exec w).1 = .ok answer ∧
      ((r'.dispatchOn d).exec ((r.dispatchOn d).exec w).2).1 = .ok answer' ∧
      ((r'.dispatchOn d).exec w).1 = .ok answer' ∧
      ((r.dispatchOn d).exec ((r'.dispatchOn d).exec w).2).1 = .ok answer
  claims : ∀ f, ∃ claim, ((store.get f).exec (d.afterBoth r r' w)).1 = .ok claim ∧
    ((store.get f).exec (d.afterBoth r' r w)).1 = .ok claim
  nonces : ∀ signer,
    (d.afterBoth r r' w).nonces.next signer = (d.afterBoth r' r w).nonces.next signer
  counters : ∀ name tags, (d.afterBoth r r' w).others.records.metrics.total name tags =
    (d.afterBoth r' r w).others.records.metrics.total name tags
  audit : ∃ entry entry', (d.afterBoth r r' w).audit = w.audit ++ [entry, entry'] ∧
    (d.afterBoth r' r w).audit = w.audit ++ [entry', entry]
  entries : ∃ entries entries',
    (d.afterBoth r r' w).others.records.entries =
        w.others.records.entries ++ (entries ++ entries') ∧
      (d.afterBoth r' r w).others.records.entries =
        w.others.records.entries ++ (entries' ++ entries)
  events : ∃ events events', (d.afterBoth r r' w).sink = w.sink ++ (events ++ events') ∧
    (d.afterBoth r' r w).sink = w.sink ++ (events' ++ events)

/-- Independent requests commute wherever a faithful store keeps some claims. -/
private theorem commuteAt (o : CalmOffice θ κ ρ) (S : FaithfulStore τ)
    (g : Gate (World τ EventLog (CalmState θ (Journal κ ρ)))) {time : Number}
    (htime : ∀ clock, (o.tick clock).1 = time) (hclock : S.Accepts time)
    {w : World τ EventLog (CalmState θ (Journal κ ρ))} {claims : Claims}
    (hkeeps : S.Keeps w.store claims) {r r' : Request} (h : r.Independent r') :
    CommuteAt (S.store World.storeCell) (o.dispatcher (S.store World.storeCell) g) r r' w := by
  obtain ⟨w₁, w₂, hr, hr', h₁, h₂⟩ := exec_both o S g htime hclock hkeeps h
  obtain ⟨v₁, v₂, hs', hs, k₁, k₂⟩ := exec_both o S g htime hclock hkeeps h.symm
  have hw : (o.dispatcher (S.store World.storeCell) g).afterBoth r r' w = w₂ := by
    rw [Dispatcher.afterBoth, hr, hr']
  have hv : (o.dispatcher (S.store World.storeCell) g).afterBoth r' r w = v₂ := by
    rw [Dispatcher.afterBoth, hs', hs]
  obtain ⟨hclaims, hnonces⟩ := effects_comm h o.proofLimit time claims w.nonces
  obtain ⟨hmetrics₁, hentries₁, hsink₁⟩ := enacts_records o S h₁
  obtain ⟨hmetrics₂, hentries₂, hsink₂⟩ := enacts_records o S h₂
  obtain ⟨kmetrics₁, kentries₁, ksink₁⟩ := enacts_records o S k₁
  obtain ⟨kmetrics₂, kentries₂, ksink₂⟩ := enacts_records o S k₂
  -- Each order ends in a world that the effects of the two requests describe.
  constructor
  · exact ⟨_, _, by rw [hr], by rw [hr, hr'], by rw [hs'], by rw [hs', hs]⟩
  · intro f
    have hfound : S.get w₂.store f = .ok _ := S.get_eq h₂.keeps f
    have hfound' : S.get v₂.store f = .ok _ := S.get_eq k₂.keeps f
    rw [hw, hv]
    exact ⟨_, hfound, by rw [hclaims]; exact hfound'⟩
  · -- The next nonces are those of the nonces that both orders leave.
    intro signer
    rw [hw, hv, h₂.nonces, h₁.nonces, k₂.nonces, k₁.nonces]
    unfold Nonces.next
    rw [hnonces]
  · intro name tags
    rw [hw, hv, hmetrics₂, hmetrics₁, kmetrics₂, kmetrics₁]
    exact Metrics.total_recordAll_comm _ (counts_nodup _ _ _ _ r) (counts_nodup _ _ _ _ r') name
      tags
  · -- The audit log, the log and the events tell the order.
    refine ⟨(r.effect o.proofLimit time claims w.nonces).judgement.entry,
      (r'.effect o.proofLimit time claims w.nonces).judgement.entry, ?_, ?_⟩
    · rw [hw, h₂.audit, h₁.audit, List.append_assoc]
      rfl
    · rw [hv, k₂.audit, k₁.audit, List.append_assoc]
      rfl
  · refine ⟨(r.effect o.proofLimit time claims w.nonces).written o,
      (r'.effect o.proofLimit time claims w.nonces).written o, ?_, ?_⟩
    · rw [hw, hentries₂, hentries₁, List.append_assoc]
    · rw [hv, kentries₂, kentries₁, List.append_assoc]
  · refine ⟨(r.effect o.proofLimit time claims w.nonces).events,
      (r'.effect o.proofLimit time claims w.nonces).events, ?_, ?_⟩
    · rw [hw, hsink₂, hsink₁, List.append_assoc]
    · rw [hv, ksink₂, ksink₁, List.append_assoc]

/-- On both stores, in every state that a registry without claims reaches, whatever its
collaborators did until then: among calm collaborators with a clock that stands at one time, two
independent requests commute.  The durable store needs the time to be a number. -/
theorem independent_requests_commute (o : CalmOffice θ κ ρ) {time : Number}
    (htime : ∀ clock, (o.tick clock).1 = time) {r r' : Request} (h : r.Independent r')
    (depth : Nat) (audit : AuditLog) (events : EventLog) (others : CalmState θ (Journal κ ρ))
    (moves : List (Move EventLog (CalmState θ (Journal κ ρ)))) :
    (∀ (c : Collaborators UndoStore EventLog (CalmState θ (Journal κ ρ)))
        (g : Gate (World UndoStore EventLog (CalmState θ (Journal κ ρ)))),
      let store := UndoStore.store World.storeCell
      CommuteAt store (o.dispatcher store g) r r'
        ((c.gate store depth).run (.fresh (.ofClaims .empty) audit events others) moves)) ∧
    (time ≠ .nan → ∀ (c : Collaborators SavepointStore EventLog (CalmState θ (Journal κ ρ)))
        (g : Gate (World SavepointStore EventLog (CalmState θ (Journal κ ρ)))),
      let store := SavepointStore.store World.storeCell
      CommuteAt store (o.dispatcher store g) r r'
        ((c.gate store depth).run (.fresh (.ofClaims .empty) audit events others) moves)) := by
  refine ⟨fun c g => ?_, fun hnumber c g => ?_⟩
  · obtain ⟨claims, hkeeps⟩ := exists_keeps_of_run UndoStore.faithful c depth
      (UndoStore.represents_ofClaims .empty) audit events others moves
    exact commuteAt o UndoStore.faithful g htime (UndoStore.accepts time) hkeeps h
  · obtain ⟨claims, hkeeps⟩ := exists_keeps_of_run SavepointStore.faithful c depth
      (SavepointStore.keeps_ofClaims .empty) audit events others moves
    rw [SavepointStore.store_eq]
    exact commuteAt o SavepointStore.faithful g htime (SavepointStore.accepts hnumber) hkeeps h

/-- A registry whose clock stands still and whose adapters keep nothing. -/
def CalmOffice.standing : CalmOffice Unit Unit Unit where
  tick _ := (0, ())
  proofLimit := 10
  told _ _ _ _ _ := ()
  threshold := LogLevel.info.threshold
  serviceLogger := ⟨"claims", none⟩
  dispatcherLogger := ⟨"dispatch", none⟩

/-- The key of zeros has claimed a byte.  Its call to hand the claim to another key and the call of
that key for another byte commute on both stores, and both are carried out. -/
theorem independent_requests_commute_of_signers :
    let giver := "O2onvM62pC1io6jQKm8Nc2UyFXcd4kOmOsBIoYtZ2ik"
    let taker := "TLWr9q15-_WrvMr8wmnYXNJlHtS4hbWGnyQa7fCluik"
    let create : Envelope := ⟨⟨.create, "07", 0⟩, some ⟨giver,
      "M_GpGhc69yDv4vyOPnTcgvWeCe84vdu-M2D0T9fQQ2Ym0f7EZ0XaNYkqiYrvWaijDd_rqwd_wzAwHIFUwnjBBg"⟩⟩
    let give : Envelope := ⟨⟨.transfer taker, "07", 1⟩, some ⟨giver,
      "mdvK7bKGzvY_ozzr0rxpD7jkS-IZ5Prek_eWhN8fudSPmwElElxl5jcCwuwt1AeeQlweBwPAQlPzQ3in0oxlDQ"⟩⟩
    let claim : Envelope := ⟨⟨.create, "08", 0⟩, some ⟨taker,
      "BJU7HUJj6jCfUh-9P50isrGwdxulU92Z6Z8n2y8w4EVDSkcTra57zx8n5AvPQ2gnMaT2rroiFW74nh1G1s_lBA"⟩⟩
    let r := Request.data give.toJson
    let r' := Request.data claim.toJson
    let o := CalmOffice.standing
    let others : CalmState Unit (Journal Unit Unit) := ⟨(), ⟨.empty, (), []⟩⟩
    let undo := UndoStore.store World.storeCell
    let savepoints := SavepointStore.store World.storeCell
    let w := (o.collaborators.toCollaborators.gate undo 1).run
      (.fresh (.ofClaims .empty) [] [] others) [.dispatch (.data create.toJson)]
    let v := (o.collaborators.toCollaborators.gate savepoints 1).run
      (.fresh (.ofClaims .empty) [] [] others) [.dispatch (.data create.toJson)]
    let d := o.dispatcher undo (o.collaborators.toCollaborators.gate undo 0)
    let d' := o.dispatcher savepoints (o.collaborators.toCollaborators.gate savepoints 0)
    (∀ clock, (o.tick clock).1 = 0) ∧ r.Independent r' ∧ (0 : Number) ≠ .nan ∧
      CommuteAt undo d r r' w ∧ CommuteAt savepoints d' r r' v ∧
      (d.afterBoth r r' w).sink =
        [.created giver [7], .transferred giver [7] taker, .created taker [8]] := by
  intro giver taker create give claim r r' o others undo savepoints w v d d'
  have htime : ∀ clock, (o.tick clock).1 = 0 := fun _ => rfl
  have hread : r.envelope? = some give := by decide +kernel
  have hread' : r'.envelope? = some claim := by decide +kernel
  -- Two signers, two fingerprints.
  have hindependent : r.Independent r' := by
    intro e e' he he'
    cases hread.symm.trans he
    cases hread'.symm.trans he'
    refine ⟨fun who hwho => ?_, by decide⟩
    cases hwho
    decide
  obtain ⟨hundo, hsavepoints⟩ := independent_requests_commute o htime hindependent 1 [] [] others
    [.dispatch (.data create.toJson)]
  exact ⟨htime, hindependent, nofun, hundo o.collaborators.toCollaborators _,
    hsavepoints nofun o.collaborators.toCollaborators _, by decide +kernel⟩

end ProofOfExistence
