import ProofOfExistence.ClaimService
import ProofOfExistence.Proofs.RunRelations

/-!
# What holds of a service when it holds of its collaborators

A call of the claim service is put together from calls of its collaborators.  A relation between
computations that composes (`Run.Composes`) therefore holds of the calls of two services when it
holds of their collaborators, one by one.

`ClaimService.PartsRelated` is about what a call does inside its transaction, and
`ClaimService.Related` about whole calls, with the transaction and the reports.
-/

namespace ProofOfExistence.ClaimService

variable {σ σ' : Type} {Ψ : (α : Type) → Run σ α → Run σ' α → Prop} {s : ClaimService σ}
  {t : ClaimService σ'}

/-- The collaborators that two services use inside their transactions are related. -/
structure PartsRelated (Ψ : (α : Type) → Run σ α → Run σ' α → Prop) (s : ClaimService σ)
    (t : ClaimService σ') : Prop where
  get : ∀ f, Ψ _ (s.store.get f) (t.store.get f)
  contains : ∀ f, Ψ _ (s.store.contains f) (t.store.contains f)
  remove : ∀ f, Ψ _ (s.store.remove f) (t.store.remove f)
  stamp : ∀ proof owner, Ψ _ (s.stamp proof owner) (t.stamp proof owner)
  deposit : ∀ event, Ψ _ (s.deposit event) (t.deposit event)
  proofLimit : s.proofLimit = t.proofLimit

/-- All collaborators of two services are related, and transactions relate what runs in them.  No
entry is written at the silent level, so nothing is asked of it. -/
structure Related (Ψ : (α : Type) → Run σ α → Run σ' α → Prop) (s : ClaimService σ)
    (t : ClaimService σ') : Prop extends PartsRelated Ψ s t where
  transaction : ∀ {α : Type} {x : Run σ α} {y : Run σ' α}, Ψ α x y →
    Ψ α (s.store.transaction x) (t.store.transaction y)
  count : ∀ name tags, Ψ _ (s.count name tags) (t.count name tags)
  log : ∀ level text context, level ≠ .silent →
    Ψ _ (s.log level text context) (t.log level text context)

/-! ## Inside the transaction -/

section Bodies

variable (hΨ : Run.Composes Ψ) (h : PartsRelated Ψ s t)
include hΨ h

private theorem checkOwner_related (proof : Fingerprint) (caller : Identity) :
    Ψ _ (s.checkOwner proof caller) (t.checkOwner proof caller) := by
  refine hΨ.bind (h.get proof) fun claim => ?_
  cases claim <;> exact hΨ.pure _

theorem createBody_related (origin : Origin) (proof : Fingerprint) :
    Ψ _ (s.createBody origin proof) (t.createBody origin proof) := by
  unfold createBody
  rw [← h.proofLimit]
  cases origin.caller with
  | error e => exact hΨ.pure _
  | ok who =>
    dsimp only
    split
    · exact hΨ.pure _
    · refine hΨ.bind (h.contains proof) fun claimed => ?_
      cases claimed with
      | true => exact hΨ.pure _
      | false =>
        refine hΨ.bind (h.stamp proof who) fun _ => ?_
        exact hΨ.bind (h.deposit _) fun _ => hΨ.pure _

theorem revokeBody_related (origin : Origin) (proof : Fingerprint) :
    Ψ _ (s.revokeBody origin proof) (t.revokeBody origin proof) := by
  unfold revokeBody
  cases origin.caller with
  | error e => exact hΨ.pure _
  | ok who =>
    refine hΨ.bind (checkOwner_related hΨ h proof who) fun check => ?_
    cases check with
    | error e => exact hΨ.pure _
    | ok _ =>
      refine hΨ.bind (h.remove proof) fun _ => ?_
      exact hΨ.bind (h.deposit _) fun _ => hΨ.pure _

theorem transferBody_related (origin : Origin) (proof : Fingerprint) (dest : Identity) :
    Ψ _ (s.transferBody origin proof dest) (t.transferBody origin proof dest) := by
  unfold transferBody
  cases origin.caller with
  | error e => exact hΨ.pure _
  | ok who =>
    refine hΨ.bind (checkOwner_related hΨ h proof who) fun check => ?_
    cases check with
    | error e => exact hΨ.pure _
    | ok _ =>
      refine hΨ.bind (h.stamp proof dest) fun _ => ?_
      exact hΨ.bind (h.deposit _) fun _ => hΨ.pure _

end Bodies

/-! ## Whole calls -/

theorem report_related (hΨ : Run.Composes Ψ)
    (hcount : ∀ name tags, Ψ _ (s.count name tags) (t.count name tags))
    (hlog : ∀ level text context, level ≠ .silent →
      Ψ _ (s.log level text context) (t.log level text context))
    (call : ClaimCall) (proof : Fingerprint) (answer : Except ClaimError Unit) :
    Ψ _ (s.report call proof answer) (t.report call proof answer) := by
  cases answer with
  | error e => exact hΨ.bind (hcount _ _) fun _ => hlog .debug _ _ nofun
  | ok _ => exact hΨ.bind (hcount _ _) fun _ => hlog .info _ _ nofun

section Calls

variable (hΨ : Run.Composes Ψ) (h : Related Ψ s t)
include hΨ h

private theorem perform_related {x : Run σ (Except ClaimError Unit)}
    {y : Run σ' (Except ClaimError Unit)} (hbody : Ψ _ x y) (call : ClaimCall)
    (proof : Fingerprint) : Ψ _ (s.perform call proof x) (t.perform call proof y) := by
  refine hΨ.bind (h.transaction hbody) fun answer => ?_
  exact hΨ.bind (report_related hΨ h.count h.log call proof answer) fun _ => hΨ.pure _

theorem create_related (origin : Origin) (proof : Fingerprint) :
    Ψ _ (s.create origin proof) (t.create origin proof) :=
  perform_related hΨ h (createBody_related hΨ h.toPartsRelated origin proof) _ _

theorem revoke_related (origin : Origin) (proof : Fingerprint) :
    Ψ _ (s.revoke origin proof) (t.revoke origin proof) :=
  perform_related hΨ h (revokeBody_related hΨ h.toPartsRelated origin proof) _ _

theorem transfer_related (origin : Origin) (proof : Fingerprint) (dest : Identity) :
    Ψ _ (s.transfer origin proof dest) (t.transfer origin proof dest) :=
  perform_related hΨ h (transferBody_related hΨ h.toPartsRelated origin proof dest) _ _

end Calls

end ProofOfExistence.ClaimService
