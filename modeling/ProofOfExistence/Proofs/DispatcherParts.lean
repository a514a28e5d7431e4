import ProofOfExistence.Proofs.CallSteps

/-!
# What holds of a dispatcher when it holds of its collaborators

A dispatch is put together from steps of the dispatcher's collaborators, and which steps these are
depends only on what the earlier ones answered.  A relation between computations that composes
(`Run.Composes`) therefore holds of the dispatches of two dispatchers when it holds of their
collaborators, one by one (`Dispatcher.dispatchOn_related`).
-/

namespace ProofOfExistence.Dispatcher

variable {σ σ' : Type} {Ψ : (α : Type) → Run σ α → Run σ' α → Prop} {d : Dispatcher σ}
  {d' : Dispatcher σ'}

/-- All collaborators of two dispatchers are related. -/
structure Related (Ψ : (α : Type) → Run σ α → Run σ' α → Prop) (d : Dispatcher σ)
    (d' : Dispatcher σ') : Prop where
  handOver : ∀ origin call, Ψ _ (d.handOver origin call) (d'.handOver origin call)
  verify : d.verify = d'.verify
  nonces : Ψ _ d.nonces.read d'.nonces.read
  spend : ∀ nonces, Ψ _ (d.nonces.write nonces) (d'.nonces.write nonces)
  audit : ∀ f, Ψ _ (d.audit.modify f) (d'.audit.modify f)
  count : ∀ name tags, Ψ _ (d.count name tags) (d'.count name tags)
  log : ∀ level text context, Ψ _ (d.log level text context) (d'.log level text context)

section Related

variable (hΨ : Run.Composes Ψ) (h : Related Ψ d d')
include hΨ h

private theorem reject_related (error : DispatchError) (call : Option Call)
    (signer : Option String) :
    Ψ _ (d.reject error call signer) (d'.reject error call signer) := by
  refine hΨ.bind (h.audit _) fun _ => ?_
  refine hΨ.bind (h.count _ _) fun _ => ?_
  exact hΨ.bind (h.log _ _ _) fun _ => hΨ.pure _

private theorem accept_related (call : Call) (signer : Option String) :
    Ψ _ (d.accept call signer) (d'.accept call signer) := by
  refine hΨ.bind (h.audit _) fun _ => ?_
  exact hΨ.bind (h.count _ _) fun _ => hΨ.pure _

private theorem spendNonce_related (signer : String) (nonce : Nat) :
    Ψ _ (d.spendNonce signer nonce) (d'.spendNonce signer nonce) := by
  refine hΨ.bind h.nonces fun nonces => ?_
  have hspend : Ψ (Except DispatchError Unit)
      (do d.nonces.write (nonces.insert signer nonce); return .ok ())
      (do d'.nonces.write (nonces.insert signer nonce); return .ok ()) :=
    hΨ.bind (h.spend _) fun _ => hΨ.pure _
  cases nonces.get? signer with
  | none => exact hspend
  | some last =>
    dsimp only
    split
    · exact hΨ.pure _
    · exact hspend

variable (hexcept : ∀ {α : Type} (r : Except Fault α), Ψ α (Run.ofExcept r) (Run.ofExcept r))
include hexcept

private theorem authenticate_related (e : Envelope) :
    Ψ _ (d.authenticate e) (d'.authenticate e) := by
  unfold authenticate
  rw [← h.verify]
  cases e.credentials with
  | none => exact hΨ.pure _
  | some c =>
    refine hΨ.bind (hexcept _) fun verified => ?_
    cases verified with
    | false => exact hΨ.pure _
    | true =>
      refine hΨ.bind (spendNonce_related hΨ h _ _) fun spent => ?_
      cases spent <;> exact hΨ.pure _

theorem dispatchEnvelope_related (e : Envelope) :
    Ψ _ (d.dispatchEnvelope e) (d'.dispatchEnvelope e) := by
  unfold dispatchEnvelope
  cases checkIds e with
  | error reason => exact reject_related hΨ h _ _ _
  | ok _ =>
    refine hΨ.bind (authenticate_related hΨ h hexcept e) fun admission => ?_
    cases admission with
    | error error => exact reject_related hΨ h _ _ _
    | ok origin =>
      refine hΨ.bind (h.handOver origin e.call) fun answer => ?_
      cases answer with
      | error cause => exact reject_related hΨ h _ _ _
      | ok _ => exact accept_related hΨ h _ _

/-- Dispatches of the same request are related. -/
theorem dispatchOn_related (r : Request) : Ψ _ (r.dispatchOn d) (r.dispatchOn d') := by
  have hdata (v : Value) : Ψ _ (d.dispatch v) (d'.dispatch v) := by
    unfold dispatch
    cases Envelope.ofValue v with
    | error violations => exact reject_related hΨ h _ _ _
    | ok e => exact dispatchEnvelope_related hΨ h hexcept e
  cases r with
  | data v => exact hdata v
  | text t =>
    simp only [Request.dispatchOn, dispatchText]
    cases Value.parse t with
    | none => exact reject_related hΨ h _ _ _
    | some v => exact hdata v

end Related

end ProofOfExistence.Dispatcher
