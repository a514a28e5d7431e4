import ProofOfExistence.Proofs.AlikeEnvelopes
import ProofOfExistence.Proofs.LoggedRegistry

/-!
# What the log tells of a rejected call

A call that the service refuses leaves one entry of the service, and a rejected dispatch one of the
dispatcher after it.  These entries name the method, the signer, the kind of the error and the
length of the fingerprint, and nothing else of the call.

So two calls that differ in the fingerprint and the signature leave the same entries if they are
rejected with an error of the same kind, whatever else is different in their surroundings: the
store, the nonces, the counters, the collaborators.  A collaborator may call the registry while it
is told of the rejection.  What such a call writes is its own, and its entries tell that it had less
room.  Without room for calls within it, a call has all entries of the service and the dispatcher.

## Key results

- `Clerks.doors_quiet`: calls with less room add nothing to the entries of a call
- `Clerks.refused_adds`, `Clerks.rejected_adds`: the entries of a refused call and of a rejected
  dispatch
- `rejections_hide_fingerprints`: they depend on the fingerprint only through its length
-/

namespace ProofOfExistence

variable {τ ι κ τ' ι' κ' : Type}

/-! ## The entries of a call -/

/-- Whether an author writes in a call or a dispatch with that room. -/
def LogAuthor.isAt (room : Nat) : LogAuthor → Bool
  | service k => k = room
  | dispatcher k => k = room
  | registry => false
  | other => false

namespace Bureau

/-- What the service and the dispatcher wrote in calls with that room, in the order of writing. -/
def entriesAt (room : Nat) (w : Bureau τ ι κ) : List LogEntry :=
  (w.log.filter fun x => x.1.isAt room).map Prod.snd

/-- The thresholds that were set for the loggers without one of their own. -/
def thresholdsSet (w : Bureau τ ι κ) : List Number :=
  w.trace.filterMap fun
    | .thresholdSet t => some t
    | _ => none

theorem entriesAt_logged (room : Nat) (author : LogAuthor) (entries : List LogEntry)
    (w : Bureau τ ι κ) :
    (w.logged author entries).entriesAt room =
      w.entriesAt room ++ if author.isAt room then entries else [] := by
  -- The entries have one author, so all of them are in the room or none is.
  have hmap : (entries.map (author, ·)).filter (fun x => x.1.isAt room) =
      if author.isAt room then entries.map (author, ·) else [] := by
    cases hauthor : author.isAt room with
    | true =>
      rw [if_pos rfl, List.filter_eq_self]
      rintro x hx
      obtain ⟨e, -, rfl⟩ := List.mem_map.1 hx
      exact hauthor
    | false =>
      rw [if_neg Bool.false_ne_true, List.filter_eq_nil_iff]
      rintro x hx
      obtain ⟨e, -, rfl⟩ := List.mem_map.1 hx
      rw [hauthor]
      exact Bool.false_ne_true
  rw [entriesAt, logged, List.filter_append, List.map_append, hmap]
  cases author.isAt room with
  | true => rw [if_pos rfl, if_pos rfl, List.map_map]; simp [entriesAt, Function.comp_def]
  | false => rfl

end Bureau

/-- Nobody sets the threshold between two moments. -/
def Bureau.Steady (w w' : Bureau τ ι κ) : Prop := w'.thresholdsSet = w.thresholdsSet

/-- A bureau became another one, and the entries of calls with that room became more by lines that
depend on the threshold, if nobody set it meanwhile.  It may be set if all loggers have their own
(`fixed`). -/
structure Adds (room : Nat) (fixed : Prop) (lines : Number → List LogEntry)
    (w w' : Bureau τ ι κ) : Prop where
  sets : w.thresholdsSet <+: w'.thresholdsSet
  threshold : w.Steady w' → w'.desk.threshold = w.desk.threshold
  const : fixed → ∀ t t', lines t = lines t'
  entries : w.Steady w' ∨ fixed →
    w'.entriesAt room = w.entriesAt room ++ lines w.desk.threshold

section Adds

variable {room : Nat} {fixed : Prop} {lines lines' : Number → List LogEntry}
  {w w₁ w₂ : Bureau τ ι κ}

theorem Adds.trans (h : Adds room fixed lines w w₁) (h' : Adds room fixed lines' w₁ w₂) :
    Adds room fixed (fun t => lines t ++ lines' t) w w₂ := by
  -- If none was set in the whole, none was set in the parts.
  have hsteady (hsame : w.Steady w₂) : w.Steady w₁ ∧ w₁.Steady w₂ := by
    have hsame₁ : w₁.thresholdsSet = w.thresholdsSet :=
      (hsame ▸ h'.sets).eq_of_length_le h.sets.length_le
    exact ⟨hsame₁, hsame.trans hsame₁.symm⟩
  refine ⟨h.sets.trans h'.sets, fun hsame => ?_, fun hfixed t t' => ?_, ?_⟩
  · -- The threshold stayed in both parts.
    obtain ⟨hsame₁, hsame₂⟩ := hsteady hsame
    exact (h'.threshold hsame₂).trans (h.threshold hsame₁)
  · -- With thresholds of their own, the loggers write the same under any threshold.
    exact congrArg₂ (· ++ ·) (h.const hfixed t t') (h'.const hfixed t t')
  · -- The second part begins with the threshold that the first one has left, which is still the
    -- same.
    rintro (hsame | hfixed)
    · obtain ⟨hsame₁, hsame₂⟩ := hsteady hsame
      rw [h'.entries (.inl hsame₂), h.entries (.inl hsame₁), h.threshold hsame₁,
        List.append_assoc]
    · rw [h'.entries (.inr hfixed), h.entries (.inr hfixed),
        h'.const hfixed w₁.desk.threshold w.desk.threshold, List.append_assoc]

/-- Nothing was added to the entries of calls with that room. -/
def Quiet (room : Nat) (fixed : Prop) : Bureau τ ι κ → Bureau τ ι κ → Prop :=
  Adds room fixed fun _ => []

theorem quiet_of_same (hlog : w₁.entriesAt room = w.entriesAt room)
    (hsets : w₁.thresholdsSet = w.thresholdsSet)
    (hthreshold : w₁.desk.threshold = w.desk.threshold) : Quiet room fixed w w₁ :=
  ⟨hsets ▸ List.prefix_refl _, fun _ => hthreshold, fun _ _ _ => rfl,
    fun _ => by rw [hlog, List.append_nil]⟩

instance : IsPreorder (Bureau τ ι κ) (Quiet room fixed) where
  refl _ := quiet_of_same rfl rfl rfl
  trans _ _ _ h h' := h.trans h'

/-- What happens before something is added may be left out. -/
theorem Quiet.adds (h : Quiet room fixed w w₁) (h' : Adds room fixed lines w₁ w₂) :
    Adds room fixed lines w w₂ :=
  h.trans h'

/-- What a logger with its own threshold writes does not depend on that of the others. -/
theorem Logger.lines_of_threshold {l : Logger} (hown : l.threshold.isSome) (t t' : Number)
    (level : LogLevel) (text : String) (context : LogContext) :
    l.lines t level text context = l.lines t' level text context := by
  obtain ⟨own, hown⟩ := Option.isSome_iff_exists.1 hown
  rw [Logger.lines, Logger.lines, hown, Option.getD_some, Option.getD_some]

/-- A logger that writes in the call adds its lines. -/
theorem adds_of_log {l : Logger} (hown : fixed → l.threshold.isSome) {author : LogAuthor}
    (hauthor : author.isAt room = true) {level : LogLevel} {text : String} {context : LogContext}
    {outcome : Except Fault Unit}
    (h : (l.log (Bureau.output author) level text context).exec w = (outcome, w₁)) :
    Adds room fixed (fun t => l.lines t level text context) w w₁ := by
  rw [Bureau.exec_log] at h
  obtain rfl : _ = w₁ := congrArg Prod.snd h
  refine ⟨List.prefix_refl _, fun _ => rfl, fun hfixed t t' => ?_, fun _ => ?_⟩
  · exact Logger.lines_of_threshold (hown hfixed) t t' level text context
  · rw [Bureau.entriesAt_logged, if_pos hauthor]

/-- Any other logger adds nothing. -/
theorem respects_quiet_log (l : Logger) {author : LogAuthor} (hauthor : author.isAt room = false)
    (level : LogLevel) (text : String) (context : LogContext) :
    let out : LogOutput (Bureau τ ι κ) := Bureau.output author
    Run.Respects (Quiet room fixed) (l.log out level text context) := by
  intro out w
  rw [Bureau.exec_log]
  refine quiet_of_same ?_ rfl rfl
  rw [Bureau.entriesAt_logged, hauthor, if_neg Bool.false_ne_true, List.append_nil]

end Adds

/-! ## Calls within a call -/

/-- Programs add nothing to the entries of a call with some room, if the calls that they make have
less. -/
theorem quiet_related (c : Clerks τ ι κ) (room : Nat) (fixed : Prop) :
    Bureau.Related (fun _ x _ => Run.Respects (Quiet room fixed) x) c c.serviceLogger
      c.serviceLogger room where
  toComposes := Run.composes_respects (Quiet room fixed)
  ofExcept r := Run.respects_ofExcept (Quiet room fixed) r
  observe h := Run.respects_observe h
  look := fun _ => quiet_of_same rfl rfl rfl
  alter _ := fun _ => quiet_of_same rfl rfl rfl
  note i hi := fun w => by
    refine quiet_of_same rfl ?_ rfl
    show List.filterMap _ (w.trace ++ [i]) = _
    rw [List.filterMap_append]
    -- Only a change of the threshold is one that counts.
    cases i with
    | thresholdSet t => exact absurd rfl (hi t)
    | _ => exact List.append_nil _
  setThreshold t := fun w => by
    have hsets : ((Bureau.setThreshold t).exec w).2.thresholdsSet = w.thresholdsSet ++ [t] := by
      show List.filterMap _ (w.trace ++ [.thresholdSet t]) = _
      rw [List.filterMap_append]
      rfl
    refine ⟨hsets ▸ List.prefix_append _ _, fun hsame => ?_, fun _ _ _ => rfl,
      fun _ => (List.append_nil _).symm⟩
    -- After a change the threshold is not steady, so nothing is promised.
    rw [Bureau.Steady, hsets] at hsame
    exact absurd hsame (by simp)
  logOther own := respects_quiet_log own rfl
  -- An author within a call is in a deeper room.
  logService k hk level text context _ := by
    have hauthor : LogAuthor.isAt room (.service k) = false := decide_eq_false (Nat.ne_of_lt hk)
    exact respects_quiet_log c.serviceLogger hauthor level text context
  logDispatcher k hk := by
    have hauthor : LogAuthor.isAt room (.dispatcher k) = false :=
      decide_eq_false (Nat.ne_of_lt hk)
    exact respects_quiet_log c.dispatcherLogger hauthor

namespace Clerks

variable (c : Clerks τ ι κ) (room : Nat) (fixed : Prop)

/-- Calls with less room add nothing to the entries of a call. -/
theorem doors_quiet :
    Doors.Related (fun _ x _ => Run.Respects (Quiet room fixed) x) (c.doors room) (c.doors room) :=
  doors_related (quiet_related c room fixed) (Nat.le_refl room)

/-- The service whose collaborators call with less room. -/
abbrev serviceAt : ClaimService (Bureau τ ι κ) := c.service room (c.doors room)

/-- The dispatcher whose collaborators call with less room. -/
abbrev dispatcherAt : Dispatcher (Bureau τ ι κ) := c.dispatcher room (c.doors room)

/-- Nor do their collaborators, whatever they do when they are told of something. -/
theorem respects_quiet_run (p : DeskProgram τ ι κ α) :
    Run.Respects (Quiet room fixed) (p.run (c.doors room)) :=
  p.run_related (quiet_related c room fixed) (c.doors_quiet room fixed)

variable {c room fixed} {w w' : Bureau τ ι κ}

/-! ## Refused calls -/

/-- What a call does inside its transaction adds nothing. -/
private theorem body_quiet (origin : Origin) (proof : Fingerprint) (action : CallAction) :
    Run.Respects (Quiet room fixed) ((c.serviceAt room).body origin proof action) := by
  have hΨ := (quiet_related c room fixed).toComposes
  have hparts : (c.serviceAt room).PartsRelated (fun _ x _ => Run.Respects (Quiet room fixed) x)
      (c.serviceAt room) :=
    c.parts_related (quiet_related c room fixed) (c.doors_quiet room fixed) room
  cases action with
  | create => exact ClaimService.createBody_related hΨ hparts origin proof
  | revoke => exact ClaimService.revokeBody_related hΨ hparts origin proof
  | transfer dest => exact ClaimService.transferBody_related hΨ hparts origin proof dest

/-- What a logger of the service writes of a refused call. -/
def refusalLines (l : Logger) (call : ClaimCall) (length : Nat) (kind : String) (t : Number) :
    List LogEntry :=
  l.lines t .debug "Call rejected"
    [("call", .ofString call.name), ("proofLength", .num (.ofNat length)),
      ("error", .ofString kind)]

/-- A refused call adds the entry of its refusal. -/
theorem refused_adds (hown : fixed → c.serviceLogger.threshold.isSome) {origin : Origin}
    {proof : Fingerprint} {action : CallAction} {cause : ClaimError}
    (h : ((c.serviceAt room).call origin proof action).exec w = (.ok (.error cause), w')) :
    Adds room fixed (refusalLines c.serviceLogger action.method proof.length cause.kind) w w' := by
  -- A refusal logs one line, after all that may be logged by others.
  have hrelated := quiet_related c room fixed
  rw [ClaimService.call_eq, ClaimService.perform] at h
  obtain ⟨answer, w₁, htransaction, h⟩ := Run.exec_bind_eq_ok h
  obtain ⟨_, w₂, hreport, h⟩ := Run.exec_bind_eq_ok h
  obtain ⟨rfl, rfl⟩ : answer = .error cause ∧ w₂ = w' := by
    cases h
    exact ⟨rfl, rfl⟩
  obtain ⟨_, w₃, hcount, hlog⟩ := Run.exec_bind_eq_ok hreport
  have hbody : Run.Respects (Quiet room fixed) ((c.serviceAt room).body origin proof action) :=
    body_quiet origin proof action
  have hquiet : Quiet room fixed w w₁ :=
    (hrelated.transaction (y := (c.serviceAt room).body origin proof action) hbody).rel_of_exec
      htransaction
  have hquiet' : Quiet room fixed w₁ w₃ :=
    (c.count_related hrelated (c.doors_quiet room fixed) room _ _).rel_of_exec hcount
  have hauthor : LogAuthor.isAt room (.service room) = true := decide_eq_true rfl
  exact hquiet.adds (hquiet'.adds (adds_of_log hown hauthor hlog))

end Clerks

/-! ## Rejected dispatches -/

/-- The kind of a refusal of the service. -/
def DispatchError.claimKind? : DispatchError → Option String
  | claim cause => some cause.kind
  | _ => none

/-- The kind of an error tells whether the service refused: it has no error of the dispatcher's own
kinds. -/
theorem DispatchError.claimKind?_eq (error : DispatchError) :
    error.claimKind? =
      if error.kind ∈ ["MalformedCall", "BadSignature", "StaleNonce"] then none
      else some error.kind := by
  cases error with
  | claim cause => cases cause <;> simp [claimKind?, kind, ClaimError.kind]
  | _ => simp [claimKind?, kind]

namespace Dispatcher

variable {σ : Type} {d : Dispatcher σ} {w w' : σ}

/-- An envelope that is not admitted is not refused by the service. -/
theorem authenticate_claimKind? {e : Envelope} {error : DispatchError}
    (h : (d.authenticate e).exec w = (.ok (.error error), w')) : error.claimKind? = none := by
  unfold authenticate at h
  cases hcredentials : e.credentials with
  -- Nobody has signed, so no check fails.
  | none =>
    rw [hcredentials] at h
    cases h
  | some k =>
    rw [hcredentials] at h
    obtain ⟨verified, w₁, -, h⟩ := Run.exec_bind_eq_ok h
    cases verified with
    -- The signature is wrong.
    | false =>
      cases h
      rfl
    -- The signature is right, so the nonce has to be stale.
    | true =>
      obtain ⟨spent, w₂, hspent, h⟩ := Run.exec_bind_eq_ok h
      cases spent with
      | ok _ => cases h
      | error stale =>
        cases h
        rcases Nat.lt_or_ge e.call.nonce ((d.nonces.get w₁).next k.signer) with hstale | hfresh
        · rw [d.exec_spendNonce_of_lt_next hstale] at hspent
          cases hspent
          rfl
        · rw [d.exec_spendNonce_of_next_le hfresh] at hspent
          cases hspent

end Dispatcher

/-- What the dispatcher's logger writes of a rejected call. -/
def rejectionLines (l : Logger) (method : Option ClaimCall) (signer : Option String)
    (kind : String) (t : Number) : List LogEntry :=
  l.lines t .warn "Call rejected"
    [("method", .ofString? (method.map ClaimCall.name)), ("signer", .ofString? signer),
      ("error", .ofString kind)]

namespace Envelope

variable {e e' : Envelope}

/-- The signer that is named when an envelope is rejected. -/
def namedSigner (e : Envelope) : Option String :=
  match Dispatcher.checkIds e with
  | .error (_, signer) => signer
  | .ok () => e.signer

/-- The length of the fingerprint. -/
def proofLength (e : Envelope) : Nat := ((Hex.decode? e.call.proof).getD []).length

theorem Alike.method (h : e.Alike e') : e'.call.method = e.call.method :=
  congrArg CallAction.method h.call.action

theorem Alike.namedSigner (h : e.Alike e') : e'.namedSigner = e.namedSigner := by
  rw [Envelope.namedSigner, Envelope.namedSigner, Dispatcher.checkIds_eq, Dispatcher.checkIds_eq,
    h.signer, h.call.action]

theorem Alike.proofLength (h : e.Alike e') : e'.proofLength = e.proofLength := by
  obtain ⟨bytes, bytes', hbytes, hbytes', hlength⟩ := h.call.proof
  rw [Envelope.proofLength, Envelope.proofLength, hbytes, hbytes']
  exact hlength

/-- What the loggers of the service and the dispatcher write when an envelope is rejected. -/
def rejectionLines (service dispatcher : Logger) (e : Envelope) (error : DispatchError)
    (t : Number) : List LogEntry :=
  (match error.claimKind? with
    | some kind => Clerks.refusalLines service e.call.method e.proofLength kind t
    | none => []) ++
    ProofOfExistence.rejectionLines dispatcher (some e.call.method) e.namedSigner error.kind t

end Envelope

/-- What they write when a request is rejected. -/
def Request.rejectionLines (service dispatcher : Logger) (r : Request) (error : DispatchError)
    (t : Number) : List LogEntry :=
  match r.reading with
  | .error _ => ProofOfExistence.rejectionLines dispatcher none none error.kind t
  | .ok e => e.rejectionLines service dispatcher error t

/-- Alike requests that are rejected with errors of one kind leave the same lines. -/
theorem Request.Alike.rejectionLines {r r' : Request} (h : r.Alike r')
    {error error' : DispatchError} (hkind : error'.kind = error.kind)
    (service dispatcher : Logger) :
    r'.rejectionLines service dispatcher error' = r.rejectionLines service dispatcher error := by
  funext t
  unfold Request.rejectionLines
  have hreading := h.reading
  generalize r.reading = reading, r'.reading = reading' at hreading
  cases hreading with
  | error _ _ => rw [hkind]
  | ok he =>
    simp only [Envelope.rejectionLines]
    rw [DispatchError.claimKind?_eq, DispatchError.claimKind?_eq, hkind, he.method, he.namedSigner,
      he.proofLength]

namespace Clerks

variable {c : Clerks τ ι κ} {room : Nat} {fixed : Prop} {w w' : Bureau τ ι κ}
  (hservice : fixed → c.serviceLogger.threshold.isSome)
  (hdispatcher : fixed → c.dispatcherLogger.threshold.isSome)

include hdispatcher in
/-- A rejection adds the entry of the dispatcher. -/
private theorem reject_adds {error : DispatchError} {call : Option Call} {signer : Option String}
    {answer : Except DispatchError Unit}
    (h : ((c.dispatcherAt room).reject error call signer).exec w = (.ok answer, w')) :
    Adds room fixed
      (rejectionLines c.dispatcherLogger (call.map Call.method) signer error.kind) w w' := by
  unfold Dispatcher.reject at h
  obtain ⟨_, w₁, haudit, h⟩ := Run.exec_bind_eq_ok h
  obtain ⟨_, w₂, hcount, h⟩ := Run.exec_bind_eq_ok h
  obtain ⟨_, w₃, hlog, h⟩ := Run.exec_bind_eq_ok h
  cases h
  have hquiet : Quiet room fixed w w₁ := by
    cases haudit
    exact quiet_of_same rfl rfl rfl
  have hquiet' : Quiet room fixed w₁ w₂ :=
    (c.respects_quiet_run room fixed _).rel_of_exec hcount
  have hauthor : LogAuthor.isAt room (.dispatcher room) = true := decide_eq_true rfl
  have hadded := adds_of_log hdispatcher hauthor hlog
  cases call <;> exact hquiet.adds (hquiet'.adds hadded)

/-- Admitting an envelope adds nothing. -/
private theorem authenticate_quiet {e : Envelope} {admission : Except DispatchError Origin}
    (h : ((c.dispatcherAt room).authenticate e).exec w = (.ok admission, w')) :
    Quiet room fixed w w' := by
  rcases (c.dispatcherAt room).authenticate_cases e w with ⟨k, -, -, -, hspent⟩ | ⟨hsame, -⟩
  · cases hspent.symm.trans h
    exact quiet_of_same rfl rfl rfl
  · rw [h] at hsame
    cases hsame
    exact quiet_of_same rfl rfl rfl

include hservice hdispatcher

/-- A rejected envelope adds the entry of the refusal, if the service refused it, and then that of
the rejection. -/
private theorem envelope_adds {e : Envelope} {error : DispatchError}
    (h : ((c.dispatcherAt room).dispatchEnvelope e).exec w = (.ok (.error error), w')) :
    Adds room fixed (e.rejectionLines c.serviceLogger c.dispatcherLogger error) w w' := by
  unfold Dispatcher.dispatchEnvelope at h
  unfold Envelope.rejectionLines Envelope.namedSigner
  cases hids : Dispatcher.checkIds e with
  -- An id is malformed, so only the dispatcher has something to say.
  | error reason =>
    obtain ⟨cause, signer⟩ := reason
    rw [hids] at h
    obtain rfl : error = .malformedCall cause :=
      Except.error.inj ((c.dispatcherAt room).reject_answer h)
    exact reject_adds hdispatcher h
  | ok _ =>
    rw [hids] at h
    obtain ⟨admission, w₁, hadmission, h⟩ := Run.exec_bind_eq_ok h
    refine (authenticate_quiet hadmission).adds ?_
    cases admission with
    -- A check fails, and again only the dispatcher has something to say.
    | error reason =>
      obtain rfl : error = reason := Except.error.inj ((c.dispatcherAt room).reject_answer h)
      rw [Dispatcher.authenticate_claimKind? hadmission]
      exact reject_adds hdispatcher h
    | ok origin =>
      obtain ⟨answer, w₂, hhandOver, h⟩ := Run.exec_bind_eq_ok h
      cases answer with
      -- The service accepts, which is no rejection.
      | ok _ =>
        unfold Dispatcher.accept at h
        obtain ⟨_, w₃, -, h⟩ := Run.exec_bind_eq_ok h
        obtain ⟨_, w₄, -, h⟩ := Run.exec_bind_eq_ok h
        cases h
      -- The service refuses: it logs first, and then the dispatcher.
      | error cause =>
        obtain rfl : error = .claim cause :=
          Except.error.inj ((c.dispatcherAt room).reject_answer h)
        have hcarry : ((c.serviceAt room).carryOut origin e.call).exec w₁ =
          (.ok (.error cause), w₂) := hhandOver
        cases hproof : Hex.decode? e.call.proof with
        -- A call that cannot be decoded gives no answer.
        | none =>
          rw [ClaimService.carryOut, hproof] at hcarry
          cases hcarry
        | some proof =>
          rw [ClaimService.carryOut_of_decode _ _ hproof] at hcarry
          have hrefused := refused_adds hservice hcarry
          have hlength : proof.length = e.proofLength := by
            rw [Envelope.proofLength, hproof, Option.getD_some]
          rw [hlength] at hrefused
          exact hrefused.trans (reject_adds hdispatcher h)

/-- A rejected dispatch adds these entries. -/
theorem rejected_adds {r : Request} {error : DispatchError}
    (h : (r.dispatchOn (c.dispatcherAt room)).exec w = (.ok (.error error), w')) :
    Adds room fixed (r.rejectionLines c.serviceLogger c.dispatcherLogger error) w w' := by
  rw [Request.dispatchOn_eq] at h
  unfold Request.rejectionLines
  cases hreading : r.reading with
  | error cause =>
    rw [hreading] at h
    obtain rfl : error = .malformedCall cause :=
      Except.error.inj ((c.dispatcherAt room).reject_answer h)
    exact reject_adds hdispatcher h
  | ok e =>
    rw [hreading] at h
    exact envelope_adds hservice hdispatcher h

end Clerks

/-! ## The statement -/

/-- Nothing disturbs what the loggers write between two moments: nobody sets the threshold, or each
of them has its own. -/
def Bureau.Undisturbed (loggers : List Logger) (w w' : Bureau τ ι κ) : Prop :=
  w.Steady w' ∨ ∀ l ∈ loggers, l.threshold.isSome

/-- The same lines are the same entries under the same threshold. -/
private theorem exists_entries {room room' : Nat} {fixed : Prop} {lines : Number → List LogEntry}
    {w v : Bureau τ ι κ} {w' v' : Bureau τ' ι' κ'} (h : Adds room fixed lines w v)
    (h' : Adds room' fixed lines w' v') (hthreshold : w'.desk.threshold = w.desk.threshold)
    (hv : w.Steady v ∨ fixed) (hv' : w'.Steady v' ∨ fixed) :
    ∃ entries, v.entriesAt room = w.entriesAt room ++ entries ∧
      v'.entriesAt room' = w'.entriesAt room' ++ entries :=
  ⟨lines w.desk.threshold, h.entries hv, hthreshold ▸ h'.entries hv'⟩

/-- In any two surroundings with the same loggers and threshold: alike requests that are rejected
with errors of one kind leave the same entries.  So do two calls of the service with the same method
on fingerprints of one length that are refused with errors of one kind.  The stores, the nonces, the
counters, the limits and what the collaborators do may differ, but the collaborators leave the
threshold alone unless the loggers do not look at it. -/
theorem rejections_hide_fingerprints (c : Clerks τ ι κ) (c' : Clerks τ' ι' κ') (room room' : Nat)
    (w : Bureau τ ι κ) (w' : Bureau τ' ι' κ') (hservice : c'.serviceLogger = c.serviceLogger)
    (hdispatcher : c'.dispatcherLogger = c.dispatcherLogger)
    (hthreshold : w'.desk.threshold = w.desk.threshold) :
    (∀ {r r' : Request} {error error' : DispatchError} {v : Bureau τ ι κ} {v' : Bureau τ' ι' κ'},
        let loggers := [c.serviceLogger, c.dispatcherLogger]
        r.Alike r' → error'.kind = error.kind →
        (r.dispatchOn (c.dispatcherAt room)).exec w = (.ok (.error error), v) →
        (r'.dispatchOn (c'.dispatcherAt room')).exec w' = (.ok (.error error'), v') →
        w.Undisturbed loggers v → w'.Undisturbed loggers v' →
        ∃ entries, v.entriesAt room = w.entriesAt room ++ entries ∧
          v'.entriesAt room' = w'.entriesAt room' ++ entries) ∧
      ∀ {origin origin' : Origin} {proof proof' : Fingerprint} {action action' : CallAction}
        {cause cause' : ClaimError} {v : Bureau τ ι κ} {v' : Bureau τ' ι' κ'},
        let loggers := [c.serviceLogger]
        action'.method = action.method → proof'.length = proof.length →
        cause'.kind = cause.kind →
        ((c.serviceAt room).call origin proof action).exec w = (.ok (.error cause), v) →
        ((c'.serviceAt room').call origin' proof' action').exec w' = (.ok (.error cause'), v') →
        w.Undisturbed loggers v → w'.Undisturbed loggers v' →
        ∃ entries, v.entriesAt room = w.entriesAt room ++ entries ∧
          v'.entriesAt room' = w'.entriesAt room' ++ entries := by
  constructor
  · -- Rejections by the dispatcher.
    intro r r' error error' v v' loggers halike hkind h h' hv hv'
    have hown : (∀ l ∈ loggers, l.threshold.isSome) → c.serviceLogger.threshold.isSome :=
      fun hall => hall _ List.mem_cons_self
    have hown' : (∀ l ∈ loggers, l.threshold.isSome) → c.dispatcherLogger.threshold.isSome :=
      fun hall => hall _ (List.mem_cons_of_mem _ List.mem_cons_self)
    have hadded := Clerks.rejected_adds hown hown' h
    have hadded' := Clerks.rejected_adds (hservice ▸ hown) (hdispatcher ▸ hown') h'
    rw [hservice, hdispatcher, halike.rejectionLines hkind] at hadded'
    exact exists_entries hadded hadded' hthreshold hv hv'
  · -- Rejections by the service alone.
    intro origin origin' proof proof' action action' cause cause' v v' loggers hmethod hlength hkind
      h h' hv hv'
    have hown : (∀ l ∈ loggers, l.threshold.isSome) → c.serviceLogger.threshold.isSome :=
      fun hall => hall _ List.mem_cons_self
    have hadded := Clerks.refused_adds hown h
    have hadded' := Clerks.refused_adds (hservice ▸ hown) h'
    rw [hservice, hmethod, hlength, hkind] at hadded'
    exact exists_entries hadded hadded' hthreshold hv hv'

/-- Two unsigned envelopes with fingerprints of one byte are dispatched at different times under
different limits, and two such calls are made.  All are refused for want of a signer. -/
theorem rejections_hide_fingerprints_unsigned :
    let clerks (now : Number) (limit : Nat) : Clerks UndoStore Unit Unit :=
      { ops := UndoStore.transactional.toStoreOps
        now := .done (.ok now)
        deposit := fun _ => .done (.ok ())
        proofLimit := limit
        notify := fun _ _ _ _ => .done (.ok ())
        verify := Call.verifySignature
        countDispatch := fun _ _ => .done (.ok ())
        serviceLogger := ⟨"service", some LogLevel.debug.threshold⟩
        dispatcherLogger := ⟨"dispatcher", none⟩ }
    let w : Bureau UndoStore Unit Unit :=
      .start ⟨.empty, .empty, [], .empty, (), LogLevel.info.threshold⟩
    let dispatched (c : Clerks UndoStore Unit Unit) (proof : String) :=
      ((Request.data (Envelope.toJson ⟨⟨.create, proof, 0⟩, none⟩)).dispatchOn
        (c.dispatcherAt 0)).exec w
    let called (c : Clerks UndoStore Unit Unit) (proof : Fingerprint) :=
      ((c.serviceAt 0).call .none proof .create).exec w
    ((dispatched (clerks 1 2) "07").1 = .ok (.error (.claim .badOrigin)) ∧
        (dispatched (clerks 3 4) "0x0A").1 = .ok (.error (.claim .badOrigin)) ∧
        ((dispatched (clerks 1 2) "07").2.entriesAt 0).map LogEntry.level = [.debug, .warn] ∧
        (dispatched (clerks 3 4) "0x0A").2.entriesAt 0 =
          (dispatched (clerks 1 2) "07").2.entriesAt 0) ∧
      (called (clerks 1 2) [7]).1 = .ok (.error .badOrigin) ∧
      (called (clerks 3 4) [10]).1 = .ok (.error .badOrigin) ∧
      (called (clerks 3 4) [10]).2.entriesAt 0 = (called (clerks 1 2) [7]).2.entriesAt 0 := by
  intro clerks w dispatched called
  obtain ⟨hdispatches, hcalls⟩ :=
    rejections_hide_fingerprints (clerks 1 2) (clerks 3 4) 0 0 w w rfl rfl rfl
  constructor
  · -- Two unsigned calls for different bytes, dispatched in registries of their own.
    have hrejected : (dispatched (clerks 1 2) "07").1 = .ok (.error (.claim .badOrigin)) := rfl
    have hrejected' : (dispatched (clerks 3 4) "0x0A").1 = .ok (.error (.claim .badOrigin)) := rfl
    have hlevels : ((dispatched (clerks 1 2) "07").2.entriesAt 0).map LogEntry.level =
        [.debug, .warn] := by
      decide +kernel
    have hsteady : (dispatched (clerks 1 2) "07").2.thresholdsSet = [] := by decide +kernel
    have hsteady' : (dispatched (clerks 3 4) "0x0A").2.thresholdsSet = [] := by decide +kernel
    have hproofs : Hex.SameLength "07" "0x0A" :=
      ⟨[7], [10], by decide +kernel, by decide +kernel, rfl⟩
    have halike : Envelope.Alike ⟨⟨.create, "07", 0⟩, none⟩ ⟨⟨.create, "0x0A", 0⟩, none⟩ :=
      ⟨⟨rfl, rfl, hproofs⟩, rfl⟩
    obtain ⟨entries, hentries, hentries'⟩ := hdispatches
      (.inr ⟨_, _, rfl, rfl, halike.toJson nofun nofun⟩) rfl (Prod.ext hrejected rfl)
      (Prod.ext hrejected' rfl) (.inl hsteady) (.inl hsteady')
    exact ⟨hrejected, hrejected', hlevels, hentries'.trans hentries.symm⟩
  · -- The same two calls, made to the services.
    have hrefused : (called (clerks 1 2) [7]).1 = .ok (.error .badOrigin) := rfl
    have hrefused' : (called (clerks 3 4) [10]).1 = .ok (.error .badOrigin) := rfl
    have hsteady : (called (clerks 1 2) [7]).2.thresholdsSet = [] := by decide +kernel
    have hsteady' : (called (clerks 3 4) [10]).2.thresholdsSet = [] := by decide +kernel
    have hlength : ([10] : Fingerprint).length = ([7] : Fingerprint).length := rfl
    obtain ⟨entries, hentries, hentries'⟩ := hcalls rfl hlength rfl (Prod.ext hrefused rfl)
      (Prod.ext hrefused' rfl) (.inl hsteady) (.inl hsteady')
    exact ⟨hrefused, hrefused', hentries'.trans hentries.symm⟩

end ProofOfExistence
