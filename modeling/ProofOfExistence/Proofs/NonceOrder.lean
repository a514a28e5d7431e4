import ProofOfExistence.Proofs.RegistryRuns

/-!
# Every nonce is handed over at most once

A signer's nonce is spent before the call is handed over, so whatever happens during the call finds
it spent: requests from within a sink, a fault of a collaborator, a transaction that is rolled back.

An entry of the trace that concerns the nonces of a signer leaves a mark: the nonce that it is about
and the least one that may follow.  The marks of a trace are in order and below the next nonce
(`OrderedNonces`), and every call keeps them so, at every depth (`gate_noncesRise`).

## Key results

- `run_noncesRise`: every run keeps the nonces in order
- `run_lastNonce`: the nonce recorded for a signer is the last one that was handed over
- `nonces_handed_once`: no nonce of a signer is handed over twice
-/

namespace ProofOfExistence

namespace Entry

/-- The mark that an entry leaves for a signer: the nonce that it is about, and the least one that
may follow. -/
def mark? (signer : String) : Entry → Option (Nat × Nat)
  | handed (.signed who) call => if who = signer then some (call.nonce, call.nonce + 1) else none
  | told who next => if who = signer then some (next, next) else none
  | _ => none

/-- The signer and the call of an entry that hands over a signed call. -/
def signedCall? : Entry → Option (String × Call)
  | handed (.signed who) call => some (who, call)
  | _ => none

/-- What an entry tells of the next nonce of a signer. -/
def toldOf? (signer : String) : Entry → Option Nat
  | told who next => if who = signer then some next else none
  | _ => none

theorem mark?_of_signedCall? {e : Entry} {who : String} {call : Call}
    (h : e.signedCall? = some (who, call)) : e.mark? who = some (call.nonce, call.nonce + 1) := by
  unfold signedCall? at h
  split at h
  · cases h
    simp [mark?]
  · cases h

theorem mark?_of_toldOf? {e : Entry} {signer : String} {next : Nat}
    (h : e.toldOf? signer = some next) : e.mark? signer = some (next, next) := by
  unfold toldOf? at h
  split at h
  · split at h
    · rename_i hwho
      cases h
      simp [mark?, hwho]
    · cases h
  · cases h

end Entry

/-- The signed calls that were handed to the service, in order. -/
def signedHandovers (trace : List Entry) : List (String × Call) := trace.filterMap Entry.signedCall?

/-- The nonces of the calls of a signer that were handed to the service, in order. -/
def noncesHanded (trace : List Entry) (signer : String) : List Nat :=
  ((signedHandovers trace).filter fun h => h.1 = signer).map fun h => h.2.nonce

/-- What was told of the next nonce of a signer, in order. -/
def noncesTold (trace : List Entry) (signer : String) : List Nat :=
  trace.filterMap (Entry.toldOf? signer)

theorem noncesHanded_append (earlier later : List Entry) (signer : String) :
    noncesHanded (earlier ++ later) signer =
      noncesHanded earlier signer ++ noncesHanded later signer := by
  simp only [noncesHanded, signedHandovers, List.filterMap_append, List.filter_append,
    List.map_append]

theorem noncesHanded_signed (who signer : String) (call : Call) :
    noncesHanded [.handed (.signed who) call] signer =
      if who = signer then [call.nonce] else [] := by
  by_cases h : who = signer <;> simp [noncesHanded, signedHandovers, Entry.signedCall?, h]

/-- An entry without marks hands no signed call over. -/
theorem noncesHanded_of_mark?_eq_none {e : Entry} (h : ∀ signer, e.mark? signer = none)
    (signer : String) : noncesHanded [e] signer = [] := by
  cases hsigned : e.signedCall? with
  | none => simp [noncesHanded, signedHandovers, hsigned]
  | some handover =>
    have hmark := Entry.mark?_of_signedCall? hsigned
    rw [h] at hmark
    cases hmark

/-! ## Marks in order -/

/-- The first entry precedes the second one in the order of nonces. -/
def Entry.Precedes (e e' : Entry) : Prop :=
  ∀ signer m m', e.mark? signer = some m → e'.mark? signer = some m' → m.2 ≤ m'.1

variable {τ ε η : Type}

/-- The marks of a trace are in order, those of a signer are below the signer's next nonce, and the
recorded nonce is the last one handed over. -/
structure OrderedNonces (w : World τ ε η) : Prop where
  precedes : w.trace.Pairwise Entry.Precedes
  below : ∀ e ∈ w.trace, ∀ signer m, e.mark? signer = some m → m.2 ≤ w.nonces.next signer
  last : ∀ signer, w.nonces.get? signer = (noncesHanded w.trace signer).getLast?

/-- Next nonces have not decreased, and the marks stay in order. -/
structure NoncesRise (w w' : World τ ε η) : Prop where
  next_le : ∀ signer, w.nonces.next signer ≤ w'.nonces.next signer
  ordered : OrderedNonces w → OrderedNonces w'

instance : IsPreorder (World τ ε η) NoncesRise where
  refl _ := ⟨fun _ => Nat.le_refl _, id⟩
  trans _ _ _ h h' :=
    ⟨fun signer => Nat.le_trans (h.next_le signer) (h'.next_le signer), h'.ordered ∘ h.ordered⟩

variable {w w' : World τ ε η}

theorem noncesRise_of_same (hnonces : w'.nonces = w.nonces) (htrace : w'.trace = w.trace) :
    NoncesRise w w' := by
  refine ⟨fun signer => Nat.le_of_eq (by rw [hnonces]), fun h => ⟨?_, ?_, ?_⟩⟩
  · rw [htrace]
    exact h.precedes
  · rw [htrace, hnonces]
    exact h.below
  · rw [htrace, hnonces]
    exact h.last

/-- An entry may be noted if its marks are not below the next nonces before it nor above those after
it, and if the nonce that it hands over is recorded. -/
theorem noncesRise_of_entry {e : Entry} (htrace : w'.trace = w.trace ++ [e])
    (hnext : ∀ signer, w.nonces.next signer ≤ w'.nonces.next signer)
    (hmark : ∀ signer m, e.mark? signer = some m →
      w.nonces.next signer ≤ m.1 ∧ m.2 ≤ w'.nonces.next signer)
    (hlast : ∀ signer, w'.nonces.get? signer =
      (noncesHanded [e] signer).getLast?.or (w.nonces.get? signer)) : NoncesRise w w' := by
  refine ⟨hnext, fun h => ⟨?_, fun e' he' signer m hm => ?_, fun signer => ?_⟩⟩
  · rw [htrace, List.pairwise_append]
    refine ⟨h.precedes, List.pairwise_singleton _ _, fun e' he' e'' he'' signer m m' hm hm' => ?_⟩
    -- Older marks are below the next nonce, and the new one is not.
    obtain rfl := List.mem_singleton.1 he''
    exact Nat.le_trans (h.below e' he' signer m hm) (hmark signer m' hm').1
  · rw [htrace, List.mem_append, List.mem_singleton] at he'
    rcases he' with hold | rfl
    · exact Nat.le_trans (h.below e' hold signer m hm) (hnext signer)
    · exact (hmark signer m hm).2
  · rw [htrace, noncesHanded_append, List.getLast?_append, ← h.last]
    exact hlast signer

/-- An entry without marks may always be noted. -/
theorem noncesRise_note {e : Entry} (h : ∀ signer, e.mark? signer = none) :
    Run.Respects NoncesRise (World.note (τ := τ) (ε := ε) (η := η) e) := by
  refine fun w => noncesRise_of_entry rfl (fun _ => Nat.le_refl _) (fun signer m hm => ?_)
    fun signer => ?_
  · rw [h signer] at hm
    cases hm
  · rw [noncesHanded_of_mark?_eq_none h]
    rfl

/-! ## Every call keeps the order -/

theorem noncesRise_keep (w : World τ ε η) (sink : ε) (others : η) :
    NoncesRise w { w with sink := sink, others := others } :=
  noncesRise_of_same rfl rfl

/-- What becomes of the store does not matter: a nonce is not given back when its writes are. -/
private theorem noncesRise_set (w : World τ ε η) (s : τ) : NoncesRise w (World.storeCell.set s w) :=
  noncesRise_of_same rfl rfl

variable (ops : StoreOps τ) (c : Collaborators τ ε η)

section Gate

variable {g : Gate (World τ ε η)} (hg : g.Respects NoncesRise)
include hg

private theorem noncesRise_service :
    (c.service (ops.store World.storeCell) g).Respects NoncesRise :=
  Collaborators.respects_service hg noncesRise_keep noncesRise_set fun w _ =>
    noncesRise_note (fun _ => rfl) w

private theorem noncesRise_reports :
    (c.dispatcher (ops.store World.storeCell) g).Reports NoncesRise :=
  Collaborators.respects_reports hg noncesRise_keep fun _ _ => noncesRise_of_same rfl rfl

/-- Spending a nonce and handing the call over is one step of the order: the nonce is not below the
next one before, and above it is the next one after. -/
private theorem noncesRise_handOver {w : World τ ε η} {who : String} {call : Call}
    (hnext : w.nonces.next who ≤ call.nonce) :
    NoncesRise w (((c.dispatcher (ops.store World.storeCell) g).handOver (.signed who) call).exec
      { w with nonces := w.nonces.insert who call.nonce }).2 := by
  have hspent : NoncesRise w
      (World.noted { w with nonces := w.nonces.insert who call.nonce }
        (.handed (.signed who) call)) := by
    refine noncesRise_of_entry rfl (fun signer => ?_) (fun signer m hm => ?_) fun signer => ?_
    · -- No signer's next nonce goes down.
      show _ ≤ Nonces.next (w.nonces.insert who call.nonce) signer
      rw [Nonces.next_insert]
      split
      · rename_i hsigner
        rw [hsigner]
        omega
      · exact Nat.le_refl _
    · -- The nonce that is handed over lies between the next nonces before and after.
      show _ ∧ _ ≤ Nonces.next (w.nonces.insert who call.nonce) signer
      by_cases hsigner : who = signer
      · subst hsigner
        simp only [Entry.mark?, if_true, Option.some.injEq] at hm
        subst hm
        rw [Nonces.next_insert, if_pos rfl]
        exact ⟨hnext, Nat.le_refl _⟩
      · simp [Entry.mark?, hsigner] at hm
    · -- The trace records the nonce for its signer, and for nobody else.
      show Table.get? (w.nonces.insert who call.nonce) signer = _
      rw [Table.get?_insert, noncesHanded_signed]
      by_cases hsigner : who = signer
      · rw [if_pos hsigner.symm, if_pos hsigner]
        rfl
      · rw [if_neg (Ne.symm hsigner), if_neg hsigner]
        rfl
  -- The nonce is recorded already when the service takes over.
  have hcarried := ClaimService.respects_carryOut (noncesRise_service ops c hg) (.signed who) call
  exact IsTrans.trans _ _ _ hspent (hcarried _)

private theorem noncesRise_gateOver : (c.gateOver (ops.store World.storeCell) g).Respects
    NoncesRise where
  dispatch r := by
    refine Run.respects_bind (noncesRise_note fun _ => rfl) fun _ w => ?_
    have hreports := noncesRise_reports ops c hg
    refine Dispatcher.rel_dispatchOn hreports r (Std.Refl.refl w) fun e _ => ?_
    refine Dispatcher.rel_dispatchEnvelope hreports (Std.Refl.refl w) (fun k _ _ hnext => ?_)
      fun _ => ?_
    · -- A signed call.
      exact noncesRise_handOver ops c hg hnext
    · -- A call from nobody is handed over as well, and it has no nonce to spend.
      have hnote : Run.Respects NoncesRise (World.note (τ := τ) (ε := ε) (η := η)
          (.handed .none e.call)) := noncesRise_note fun _ => rfl
      have hcarried :=
        ClaimService.respects_carryOut (noncesRise_service ops c hg) .none e.call
      exact Run.respects_bind hnote (fun _ => hcarried) w
  nextNonce signer := by
    intro w
    -- What is told is the next nonce before and after.
    refine noncesRise_of_entry (e := .told signer (w.nonces.next signer)) rfl
      (fun _ => Nat.le_refl _) (fun who m hm => ?_) fun _ => rfl
    by_cases hwho : signer = who
    · subst hwho
      simp only [Entry.mark?, if_true, Option.some.injEq] at hm
      subst hm
      exact ⟨Nat.le_refl _, Nat.le_refl _⟩
    · simp [Entry.mark?, hwho] at hm

end Gate

/-- At every depth every call keeps the nonces in order. -/
theorem gate_noncesRise (depth : Nat) :
    (c.gate (ops.store World.storeCell) depth).Respects NoncesRise :=
  Collaborators.respects_gate (fun _ hg => noncesRise_gateOver ops c hg) depth

/-! ## Runs -/

theorem run_noncesRise (depth : Nat) (w : World τ ε η) (moves : List (Move ε η)) :
    NoncesRise w ((c.gate (ops.store World.storeCell) depth).run w moves) :=
  Gate.rel_run (gate_noncesRise ops c depth) noncesRise_keep w moves

theorem orderedNonces_fresh (store : τ) (audit : AuditLog) (sink : ε) (others : η) :
    OrderedNonces (World.fresh store audit sink others) :=
  ⟨List.Pairwise.nil, nofun, fun _ => rfl⟩

/-- The nonce recorded for a signer is the last one that was handed over: what is spent is handed
over at once. -/
theorem run_lastNonce (depth : Nat) (store : τ) (audit : AuditLog) (sink : ε) (others : η)
    (moves : List (Move ε η)) (signer : String) :
    let world := (c.gate (ops.store World.storeCell) depth).run
      (.fresh store audit sink others) moves
    world.nonces.get? signer = (noncesHanded world.trace signer).getLast? :=
  ((run_noncesRise ops c depth _ moves).ordered
    (orderedNonces_fresh store audit sink others)).last signer

/-- Of two signed calls of one signer, the one that was handed over first has the lower nonce. -/
theorem OrderedNonces.signedHandovers {w : World τ ε η} (h : OrderedNonces w) :
    (signedHandovers w.trace).Pairwise fun a b => a.1 = b.1 → a.2.nonce < b.2.nonce := by
  refine List.Pairwise.filterMap Entry.signedCall? (fun e e' hprecedes a ha b hb hab => ?_)
    h.precedes
  have hmark := Entry.mark?_of_signedCall? ha
  rw [hab] at hmark
  exact hprecedes b.1 _ _ hmark (Entry.mark?_of_signedCall? hb)

/-- On every store, with collaborators that may fail and call back at any time, over any run: the
nonces of each signer's calls are handed over in strictly increasing order, so no nonce of a signer
and no signed call is handed over twice; and the next nonce of a signer never decreases, as it is
told to anybody and from any point of the run to any later one. -/
theorem nonces_handed_once (ops : StoreOps τ) (c : Collaborators τ ε η) (depth : Nat) (store : τ)
    (audit : AuditLog) (sink : ε) (others : η) (earlier later : List (Move ε η)) :
    let start := World.fresh store audit sink others
    let before := (c.gate (ops.store World.storeCell) depth).run start earlier
    let after := (c.gate (ops.store World.storeCell) depth).run start (earlier ++ later)
    (∀ signer, (noncesHanded after.trace signer).Pairwise (· < ·)) ∧
      ((signedHandovers after.trace).map fun h => (h.1, h.2.nonce)).Nodup ∧
      (signedHandovers after.trace).Nodup ∧
      (∀ signer, (noncesTold after.trace signer).Pairwise (· ≤ ·)) ∧
      ∀ signer, before.nonces.next signer ≤ after.nonces.next signer := by
  intro start before after
  have hordered : OrderedNonces after :=
    (run_noncesRise ops c depth start (earlier ++ later)).ordered
      (orderedNonces_fresh store audit sink others)
  have hpairs := hordered.signedHandovers
  -- All but the last part read the order of the trace at the end of the run.
  refine ⟨fun signer => ?_, ?_, ?_, fun signer => ?_, fun signer => ?_⟩
  · -- Of one signer, the nonces that were handed over rise.
    unfold noncesHanded
    rw [List.pairwise_map]
    refine (hpairs.filter _).imp_of_mem fun {a b} ha hb h => h ?_
    have ha' : a.1 = signer := of_decide_eq_true (List.mem_filter.1 ha).2
    have hb' : b.1 = signer := of_decide_eq_true (List.mem_filter.1 hb).2
    rw [ha', hb']
  · -- Two calls of one signer have different nonces.
    refine List.pairwise_map.2 (hpairs.imp fun {a b} h hab => ?_)
    obtain ⟨hwho, hnonce⟩ := Prod.mk.inj hab
    exact absurd hnonce (Nat.ne_of_lt (h hwho))
  · -- So no call is handed over twice.
    refine hpairs.imp fun {a b} h hab => ?_
    exact Nat.lt_irrefl _ (hab ▸ h (congrArg Prod.fst hab))
  · -- What a signer is told never goes down.
    refine List.Pairwise.filterMap (Entry.toldOf? signer) (fun e e' hprecedes m hm m' hm' => ?_)
      hordered.precedes
    exact hprecedes signer _ _ (Entry.mark?_of_toldOf? hm) (Entry.mark?_of_toldOf? hm')
  · -- The later moves go on from the state that the earlier ones left.
    have hafter : after = (c.gate (ops.store World.storeCell) depth).run before later :=
      Gate.run_append _ start earlier later
    rw [hafter]
    exact (run_noncesRise ops c depth before later).next_le signer

end ProofOfExistence
