import ProofOfExistence.Proofs.ServiceParts
import ProofOfExistence.Wire.Dispatcher

/-!
# What a call does, step by step

The dispatcher admits an envelope before it hands its call over: `Dispatcher.authenticate_cases`
says when, and what is written then.  Any other step of the dispatcher is a report.  So a property
of all calls needs one argument about the admission and one about the service
(`Dispatcher.rel_dispatchEnvelope`), and for the service one about each collaborator
(`ClaimService.respects_carryOut`).
-/

namespace ProofOfExistence

/-- A request to a dispatcher. -/
inductive Request where
  /-- Loosely typed data. -/
  | data (v : Value)
  /-- A JSON text. -/
  | text (t : String)

variable {σ : Type}

namespace Request

/-- The envelope that a request carries, if it can be read. -/
def envelope? : Request → Option Envelope
  | data v => (Envelope.ofValue v).toOption
  | text t => (Value.parse t).bind fun v => (Envelope.ofValue v).toOption

/-- The envelope of a request was read from some data. -/
theorem exists_of_envelope? {r : Request} {e : Envelope} (h : r.envelope? = some e) :
    ∃ v, Envelope.ofValue v = .ok e := by
  have hdata (v : Value) (h : (Envelope.ofValue v).toOption = some e) :
      Envelope.ofValue v = .ok e := by
    cases hread : Envelope.ofValue v with
    | error violations =>
      rw [hread] at h
      cases h
    | ok e' =>
      rw [hread] at h
      cases h
      rfl
  cases r with
  | data v => exact ⟨v, hdata v h⟩
  | text t =>
    obtain ⟨v, -, hv⟩ := Option.bind_eq_some_iff.1 h
    exact ⟨v, hdata v hv⟩

/-- Dispatch a request. -/
def dispatchOn (d : Dispatcher σ) : Request → Run σ (Except DispatchError Unit)
  | data v => d.dispatch v
  | text t => d.dispatchText t

end Request

/-! ## The dispatcher -/

namespace Dispatcher

variable (d : Dispatcher σ)

/-- A request dispatches its envelope, and one without an envelope is rejected. -/
theorem dispatchOn_cases (r : Request) :
    (∃ e, r.envelope? = some e ∧ r.dispatchOn d = d.dispatchEnvelope e) ∨
      r.envelope? = none ∧ ∃ cause, r.dispatchOn d = d.reject cause none none := by
  have hdata (v : Value) :
      -- A value that was handed over is read as it is.
      (∃ e, (Envelope.ofValue v).toOption = some e ∧ d.dispatch v = d.dispatchEnvelope e) ∨
        (Envelope.ofValue v).toOption = none ∧
          -- A text has to be JSON first.
          ∃ cause, d.dispatch v = d.reject cause none none := by
    unfold dispatch
    cases Envelope.ofValue v with
    | error violations => exact .inr ⟨rfl, _, rfl⟩
    | ok e => exact .inl ⟨e, rfl, rfl⟩
  cases r with
  | data v => exact hdata v
  | text t =>
    simp only [Request.dispatchOn, Request.envelope?, dispatchText]
    cases Value.parse t with
    -- The text is no JSON, which is one more way to be malformed.
    | none => exact .inr ⟨rfl, _, rfl⟩
    | some v => exact hdata v

/-- A nonce is spent if it is not below the next one of its signer. -/
theorem exec_spendNonce (signer : String) (nonce : Nat) (w : σ) :
    (d.spendNonce signer nonce).exec w =
        (.ok (.ok ()), d.nonces.set ((d.nonces.get w).insert signer nonce) w) ∧
      (d.nonces.get w).next signer ≤ nonce ∨
    ∃ error, (d.spendNonce signer nonce).exec w = (.ok (.error error), w) := by
  unfold spendNonce Nonces.next
  simp only [Run.exec_bind, Cell.exec_read]
  cases hlast : (d.nonces.get w).get? signer with
  | none => exact .inl ⟨rfl, Nat.zero_le nonce⟩
  | some last =>
    by_cases hstale : nonce ≤ last
    · refine .inr ⟨.staleNonce nonce last, ?_⟩
      simp only [if_pos hstale]
      rfl
    -- Below the next nonce means at most the last one.
    · refine .inl ⟨?_, Nat.not_le.1 hstale⟩
      simp only [if_neg hstale]
      rfl

/-- An envelope is admitted with the origin of its signer once its signature verifies and its nonce
was spent.  Otherwise nothing is written, and an envelope that is admitted has no signer. -/
theorem authenticate_cases (e : Envelope) (w : σ) :
    (∃ c, e.credentials = some c ∧ d.verify c.signer e.call c.signature = .ok true ∧
      (d.nonces.get w).next c.signer ≤ e.call.nonce ∧
      (d.authenticate e).exec w = (.ok (.ok (.signed c.signer)),
        d.nonces.set ((d.nonces.get w).insert c.signer e.call.nonce) w)) ∨
    ((d.authenticate e).exec w).2 = w ∧
      ∀ origin, ((d.authenticate e).exec w).1 = .ok (.ok origin) →
        e.credentials = none ∧ origin = .none := by
  unfold authenticate
  cases hcredentials : e.credentials with
  -- Nobody has signed, so no nonce is spent.
  | none => exact .inr ⟨rfl, fun origin h => ⟨rfl, by cases h; rfl⟩⟩
  | some c =>
    simp only [Run.exec_bind, Run.exec_ofExcept]
    cases hverify : d.verify c.signer e.call c.signature with
    -- The check of the signature failed.
    | error fault => exact .inr ⟨rfl, fun origin h => by cases h⟩
    | ok verified =>
      cases verified with
      | false => exact .inr ⟨rfl, fun origin h => by cases h⟩
      | true =>
        simp only [if_true, Run.exec_bind]
        -- The signature is right, and the nonce is fresh or stale.
        rcases d.exec_spendNonce c.signer e.call.nonce w with ⟨hspent, hnext⟩ | ⟨error, hstale⟩
        · rw [hspent]
          exact .inl ⟨c, rfl, hverify, hnext, rfl⟩
        · rw [hstale]
          exact .inr ⟨rfl, fun origin h => by cases h⟩

variable {d} {R : σ → σ → Prop}

/-- What the dispatcher reports respects a relation. -/
structure Reports (d : Dispatcher σ) (R : σ → σ → Prop) : Prop where
  audit : ∀ f, Run.Respects R (d.audit.modify f)
  count : ∀ name tags, Run.Respects R (d.count name tags)
  log : ∀ level text context, Run.Respects R (d.log level text context)

section Reports

variable [IsPreorder σ R] (hd : d.Reports R)
include hd

theorem respects_reject (error : DispatchError) (call : Option Call) (signer : Option String) :
    Run.Respects R (d.reject error call signer) := by
  refine Run.respects_bind (hd.audit _) fun _ => ?_
  refine Run.respects_bind (hd.count _ _) fun _ => ?_
  exact Run.respects_bind (hd.log _ _ _) fun _ => Run.respects_pure R _

theorem respects_accept (call : Call) (signer : Option String) :
    Run.Respects R (d.accept call signer) := by
  refine Run.respects_bind (hd.audit _) fun _ => ?_
  exact Run.respects_bind (hd.count _ _) fun _ => Run.respects_pure R _

/-- Dispatching an envelope leads to a state related to `w₀` if handing its call over does: for its
signer, once the signature verified and the nonce was spent, or for nobody if it has no signer. -/
theorem rel_dispatchEnvelope {e : Envelope} {w₀ w : σ} (hw : R w₀ w)
    (hsigned : ∀ c, e.credentials = some c → d.verify c.signer e.call c.signature = .ok true →
      (d.nonces.get w).next c.signer ≤ e.call.nonce →
      R w₀ ((d.handOver (.signed c.signer) e.call).exec
        (d.nonces.set ((d.nonces.get w).insert c.signer e.call.nonce) w)).2)
    (hunsigned : e.credentials = none → R w₀ ((d.handOver .none e.call).exec w).2) :
    R w₀ ((d.dispatchEnvelope e).exec w).2 := by
  have hreport {w' : σ} (hw' : R w₀ w') {body : Run σ (Except DispatchError Unit)}
      (hbody : Run.Respects R body) : R w₀ (body.exec w').2 :=
    IsTrans.trans _ _ _ hw' (hbody w')
  unfold dispatchEnvelope
  cases checkIds e with
  -- An id is malformed, and nothing but the report is done.
  | error reason => exact hreport hw (respects_reject hd _ _ _)
  | ok _ =>
    -- The admission ends in one of three ways, and only one of them hands the call over.
    have hafter : ∀ origin w', (d.authenticate e).exec w = (.ok (.ok origin), w') →
        R w₀ ((d.handOver origin e.call).exec w').2 := by
      intro origin w' h
      rcases d.authenticate_cases e w with ⟨c, hc, hverify, hnext, hexec⟩ | ⟨hsame, hnobody⟩
      · -- It was signed, and the nonce was spent.
        obtain ⟨horigin, rfl⟩ := Prod.mk.inj (hexec.symm.trans h)
        obtain rfl := Except.ok.inj (Except.ok.inj horigin)
        exact hsigned c hc hverify hnext
      · -- Nobody has signed it, and nothing was spent.
        rw [h] at hsame hnobody
        obtain ⟨hnone, rfl⟩ := hnobody origin rfl
        obtain rfl : w' = w := hsame
        exact hunsigned hnone
    have hrefused : ∀ r w', (d.authenticate e).exec w = (r, w') →
        (∀ origin, r ≠ .ok (.ok origin)) → R w₀ w' := by
      intro r w' h hr
      rcases d.authenticate_cases e w with ⟨c, -, -, -, hexec⟩ | ⟨hsame, -⟩
      · exact absurd (Prod.mk.inj (h.symm.trans hexec)).1 (hr _)
      · rw [h] at hsame
        obtain rfl : w' = w := hsame
        exact hw
    refine Run.rel_bind_from (fun fault w' h => hrefused _ w' h nofun) fun admission w' h => ?_
    cases admission with
    | error error => exact hreport (hrefused _ w' h nofun) (respects_reject hd _ _ _)
    | ok origin =>
      -- The state in which the service ends counts, also if it ends with a fault.
      have hhanded := hafter origin w' h
      refine Run.rel_bind_from (fun fault w'' h' => ?_) fun answer w'' h' => ?_
      · rwa [h'] at hhanded
      · rw [h'] at hhanded
        cases answer with
        | error cause => exact hreport hhanded (respects_reject hd _ _ _)
        | ok _ => exact hreport hhanded (respects_accept hd _ _)

/-- A request that carries an envelope dispatches it; any other one is only reported. -/
theorem rel_dispatchOn (r : Request) {w₀ w : σ} (hw : R w₀ w)
    (henvelope : ∀ e, r.envelope? = some e → R w₀ ((d.dispatchEnvelope e).exec w).2) :
    R w₀ ((r.dispatchOn d).exec w).2 := by
  rcases d.dispatchOn_cases r with ⟨e, he, hdispatch⟩ | ⟨-, cause, hdispatch⟩
  · rw [hdispatch]
    exact henvelope e he
  · rw [hdispatch]
    exact IsTrans.trans _ _ _ hw (respects_reject hd _ _ _ w)

end Reports

end Dispatcher

/-! ## The service -/

namespace ClaimService

variable {s : ClaimService σ} {R : σ → σ → Prop}

/-- All collaborators of a service respect a relation. -/
structure Respects (s : ClaimService σ) (R : σ → σ → Prop) : Prop where
  get : ∀ f, Run.Respects R (s.store.get f)
  contains : ∀ f, Run.Respects R (s.store.contains f)
  insert : ∀ f r, Run.Respects R (s.store.insert f r)
  remove : ∀ f, Run.Respects R (s.store.remove f)
  transaction : ∀ {α : Type} (body : Run σ α), Run.Respects R body →
    Run.Respects R (s.store.transaction body)
  now : Run.Respects R s.now
  deposit : ∀ event, Run.Respects R (s.deposit event)
  count : ∀ name tags, Run.Respects R (s.count name tags)
  log : ∀ level text context, Run.Respects R (s.log level text context)

variable [IsPreorder σ R]

theorem respects_report (hcount : ∀ name tags, Run.Respects R (s.count name tags))
    (hlog : ∀ level text context, Run.Respects R (s.log level text context)) (call : ClaimCall)
    (proof : Fingerprint) (answer : Except ClaimError Unit) :
    Run.Respects R (s.report call proof answer) :=
  report_related (t := s) (Run.composes_respects R) hcount (fun _ _ _ _ => hlog _ _ _) call proof
    answer

variable (hs : s.Respects R)
include hs

/-- To respect a relation is a property that composes. -/
theorem Respects.related : Related (fun _ x _ => Run.Respects R x) s s where
  get := hs.get
  contains := hs.contains
  remove := hs.remove
  stamp _ _ := Run.respects_bind hs.now fun _ => hs.insert _ _
  deposit := hs.deposit
  proofLimit := rfl
  transaction := hs.transaction _
  count := hs.count
  log _ _ _ _ := hs.log _ _ _

/-- Carrying out a call respects what all collaborators respect. -/
theorem respects_carryOut (origin : Origin) (call : Call) :
    Run.Respects R (s.carryOut origin call) := by
  unfold carryOut
  split
  · exact Run.respects_throw R _
  · split
    · exact create_related (Run.composes_respects R) hs.related _ _
    · exact revoke_related (Run.composes_respects R) hs.related _ _
    · exact transfer_related (Run.composes_respects R) hs.related _ _ _

end ClaimService

end ProofOfExistence
