import ProofOfExistence.Proofs.FileRuns
import ProofOfExistence.Proofs.TableLookup

/-!
# Which writes a file keeps

A `Ledger` is kept of what was done to the stores on a file.  It tells the writes that count for
good from those of transactions that have not ended.  A write outside all transactions of its store
counts at once.  A transaction that ends without a fault hands its writes on, to the transaction
around it or, if it was an outermost one, to those that count.  One that ends with a fault loses
them.  The ledger takes no notice of a store that is closed, except through the faults that its
transactions end with.

The durable store agrees with the ledger (`SavepointStore.Agrees`): its durable claims are what the
writes that count make of those of the start, and the copy of each transaction is what its writes
make of the claims around it.
-/

namespace ProofOfExistence

/-! ## Writes -/

/-- A write to a store: a fingerprint and the claim on it, none if its claim is removed. -/
abbrev StoreWrite := Fingerprint × Option ClaimRecord

/-- The write that an operation makes. -/
def FileOp.write? : FileOp → Option StoreWrite
  | insert f r => some (f, some r)
  | remove f => some (f, none)
  | get _ | contains _ | count => none

/-- Durable claims after writes. -/
def DurableClaims.replay (claims : DurableClaims) (writes : List StoreWrite) : DurableClaims :=
  writes.foldl (fun t w => t.set? (StorageKey.ofFingerprint w.1) w.2) claims

theorem DurableClaims.replay_append (claims : DurableClaims) (writes writes' : List StoreWrite) :
    claims.replay (writes ++ writes') = (claims.replay writes).replay writes' :=
  List.foldl_append

/-! ## The ledger -/

/-- The writes to a file. -/
structure Ledger where
  /-- The writes that count for good, in the order in which they came to. -/
  kept : List StoreWrite
  /-- The writes of each transaction that has not ended, with the number of its store, innermost
  first. -/
  pending : List (Nat × List StoreWrite)

namespace Ledger

/-- Enter writes to the `i`-th store: in its innermost transaction, or for good if there is none.
Where the innermost transaction is one of another store, that one was closed before this store was
opened. -/
def enter (l : Ledger) (i : Nat) (writes : List StoreWrite) : Ledger :=
  match l.pending with
  | (j, earlier) :: outer =>
    if j = i then ⟨l.kept, (i, earlier ++ writes) :: outer⟩
    else ⟨l.kept ++ writes, (j, earlier) :: outer⟩
  | [] => ⟨l.kept ++ writes, []⟩

/-- End the innermost transaction, with a fault or without. -/
def leave (l : Ledger) (fault : Option Fault) : Ledger :=
  match l.pending, fault with
  | (i, writes) :: outer, none => enter ⟨l.kept, outer⟩ i writes
  | _ :: outer, some _ => ⟨l.kept, outer⟩
  | [], _ => l

/-- Enter a deed. -/
def record (l : Ledger) : FileDeed → Ledger
  | .did i op none => l.enter i op.write?.toList
  | .began i => ⟨l.kept, (i, []) :: l.pending⟩
  | .ended _ fault => l.leave fault
  | .did _ _ (some _) | .closed _ | .opened _ => l

/-- The ledger of all that was done. -/
def ofStory (story : List FileEntry) : Ledger := story.foldl (fun l e => l.record e.deed) ⟨[], []⟩

theorem ofStory_concat (story : List FileEntry) (e : FileEntry) :
    ofStory (story ++ [e]) = (ofStory story).record e.deed := by
  rw [ofStory, List.foldl_append]
  rfl

variable {l l' l'' : Ledger} {i : Nat} {writes : List StoreWrite}

/-- Other stores' transactions do not hold a write back. -/
theorem enter_of_ne (h : ∀ p ∈ l.pending, p.1 ≠ i) : l.enter i writes =
    ⟨l.kept ++ writes, l.pending⟩ := by
  obtain ⟨kept, _ | ⟨⟨j, earlier⟩, outer⟩⟩ := l
  · rfl
  · exact if_neg (h (j, earlier) List.mem_cons_self)

theorem enter_of_pending {earlier : List StoreWrite} {outer : List (Nat × List StoreWrite)}
    (h : l.pending = (i, earlier) :: outer) :
    l.enter i writes = ⟨l.kept, (i, earlier ++ writes) :: outer⟩ := by
  rw [enter, h]
  exact if_pos rfl

theorem enter_nil (l : Ledger) (i : Nat) : l.enter i [] = l := by
  obtain ⟨kept, _ | ⟨⟨j, earlier⟩, outer⟩⟩ := l
  · simp [enter]
  · by_cases hji : j = i
    · simp [enter, hji]
    · simp [enter, hji]

/-- The same transactions are pending, and at most the innermost one has written. -/
structure Steady (l l' : Ledger) : Prop where
  stores : l'.pending.map Prod.fst = l.pending.map Prod.fst
  outer : l'.pending.tail = l.pending.tail

theorem Steady.refl (l : Ledger) : l.Steady l := ⟨rfl, rfl⟩

theorem Steady.trans (h : l.Steady l') (h' : l'.Steady l'') : l.Steady l'' :=
  ⟨h'.stores.trans h.stores, h'.outer.trans h.outer⟩

/-- If all that was pending was pending in the first `n` stores, it still is. -/
theorem Steady.known (h : l.Steady l') {n : Nat} (hl : ∀ p ∈ l.pending, p.1 < n) :
    ∀ p ∈ l'.pending, p.1 < n := by
  intro p hp
  have hmem : p.1 ∈ l.pending.map Prod.fst := h.stores ▸ List.mem_map_of_mem hp
  obtain ⟨q, hq, hqp⟩ := List.mem_map.1 hmem
  exact hqp ▸ hl q hq

theorem steady_enter (l : Ledger) (i : Nat) (writes : List StoreWrite) :
    l.Steady (l.enter i writes) := by
  obtain ⟨kept, _ | ⟨⟨j, earlier⟩, outer⟩⟩ := l
  · exact ⟨rfl, rfl⟩
  · by_cases hji : j = i
    · subst hji
      rw [enter_of_pending rfl]
      exact ⟨rfl, rfl⟩
    · simp only [enter, if_neg hji]
      exact ⟨rfl, rfl⟩

/-- What runs in a transaction leaves it the innermost one. -/
theorem Steady.exists_pending (h : (l.record (.began i)).Steady l') :
    ∃ writes, l'.pending = (i, writes) :: l.pending := by
  obtain ⟨hstores, houter⟩ := h
  rcases hpending : l'.pending with _ | ⟨⟨j, writes⟩, outer⟩
  · rw [hpending] at hstores
    cases hstores
  · rw [hpending] at hstores houter
    obtain ⟨rfl, -⟩ := List.cons.inj hstores
    obtain rfl : outer = l.pending := houter
    exact ⟨writes, rfl⟩

theorem leave_error {e : Fault} {outer : List (Nat × List StoreWrite)}
    (h : l.pending = (i, writes) :: outer) : l.leave (some e) = ⟨l.kept, outer⟩ := by
  obtain ⟨kept, pending⟩ := l
  subst h
  rfl

theorem leave_ok {outer : List (Nat × List StoreWrite)} (h : l.pending = (i, writes) :: outer) :
    l.leave none = enter ⟨l.kept, outer⟩ i writes := by
  obtain ⟨kept, pending⟩ := l
  subst h
  rfl

/-- When a transaction has ended, those around it are pending as they were before it. -/
theorem steady_leave (h : l'.pending = (i, writes) :: l.pending) (fault : Option Fault) :
    l.Steady (l'.leave fault) := by
  cases fault with
  | some e =>
    rw [leave_error h]
    exact ⟨rfl, rfl⟩
  | none =>
    rw [leave_ok h]
    obtain ⟨hstores, houter⟩ := steady_enter ⟨l'.kept, l.pending⟩ i writes
    exact ⟨hstores, houter⟩

end Ledger

/-! ## The durable store and the ledger -/

namespace SavepointStore

variable {start : DurableClaims} {i : Nat} {s t : SavepointStore} {o : StoreSession} {l : Ledger}

/-- Each copy is what the writes of its transaction make of the claims around it, and no other
transaction of the `i`-th store is pending. -/
def Layered (i : Nat) (durable : DurableClaims) :
    List DurableClaims → List (Nat × List StoreWrite) → Prop
  | [], pending => ∀ p ∈ pending, p.1 < i
  | copy :: copies, (j, writes) :: pending =>
    j = i ∧ copy = (copies.headD durable).replay writes ∧ Layered i durable copies pending
  | _ :: _, [] => False

/-- The `i`-th store is as the ledger says. -/
structure Agrees (start : DurableClaims) (i : Nat) (s : SavepointStore) (l : Ledger) : Prop where
  durable : s.durable = start.replay l.kept
  valid : s.Valid
  layered : ∀ o, s.session = some o → Layered i s.durable o.copies l.pending

/-- A store that was just opened agrees if the transactions of others only are pending. -/
theorem agrees_idle {revision : Nat} {durable : DurableClaims}
    (hdurable : durable = start.replay l.kept) (hpending : ∀ p ∈ l.pending, p.1 < i) :
    Agrees start i ⟨durable, revision, some .idle⟩ l where
  durable := hdurable
  valid _ ho := Option.some.inj ho ▸ sessionValid_idle durable
  layered _ ho := Option.some.inj ho ▸ hpending

/-- With one session to look at. -/
private theorem agrees_of_session {o' : StoreSession} (hdurable : t.durable = start.replay l.kept)
    (hsession : t.session = some o') (hvalid : SessionValid t.durable o')
    (hlayered : Layered i t.durable o'.copies l.pending) : Agrees start i t l := by
  refine ⟨hdurable, fun o ho => ?_, fun o ho => ?_⟩
  · rwa [← Option.some.inj (hsession.symm.trans ho)]
  · rwa [← Option.some.inj (hsession.symm.trans ho)]

/-- In a transaction writes may be pending. -/
private theorem sessionValid_of_ne_nil {durable : DurableClaims} (hne : o.copies ≠ [])
    (h : o.wrote = false → ∀ copy ∈ o.copies, copy = durable) : SessionValid durable o :=
  ⟨fun hnil => absurd hnil hne, h⟩

/-- The top copy belongs to the innermost pending transaction. -/
private theorem pending_of_layered {copy durable : DurableClaims} {copies : List DurableClaims}
    {pending : List (Nat × List StoreWrite)} (h : Layered i durable (copy :: copies) pending) :
    ∃ writes outer, pending = (i, writes) :: outer ∧
      copy = (copies.headD durable).replay writes ∧ Layered i durable copies outer := by
  obtain _ | ⟨⟨j, writes⟩, outer⟩ := pending
  · exact h.elim
  · obtain ⟨rfl, hcopy, hlayered⟩ := h
    exact ⟨writes, outer, rfl, hcopy, hlayered⟩

/-! Inside a transaction nothing becomes durable. -/

private theorem visible_eq (s : SavepointStore) (o : StoreSession) :
    s.visible o = s.durable ∨ s.visible o ∈ o.copies := by
  unfold visible
  cases o.copies with
  | nil => exact .inl rfl
  | cons copy copies => exact .inr List.mem_cons_self

theorem openTransaction_inside (ht : s.openTransaction = .ok t) (ho : s.session = some o)
    {o' : StoreSession} (ho' : t.session = some o') :
    t.revision = s.revision ∧ t.durable = s.durable ∧
      ∀ copy ∈ o'.copies, copy = s.durable ∨ copy ∈ o.copies := by
  obtain ⟨o₁, ho₁, rfl⟩ := openTransaction_cases ht
  obtain rfl := Option.some.inj (ho.symm.trans ho₁)
  obtain rfl := Option.some.inj ho'
  refine ⟨rfl, rfl, fun copy hcopy => ?_⟩
  rcases List.mem_cons.1 hcopy with rfl | hcopy
  · exact visible_eq s o
  · exact .inr hcopy

private theorem put_inside {claims : DurableClaims} {o' : StoreSession}
    (ho : (s.put o claims).session = some o') (hne : o'.copies ≠ []) :
    (s.put o claims).revision = s.revision ∧ o.copies ≠ [] := by
  unfold put at ho ⊢
  split at ho
  · rename_i hcopies
    obtain rfl := Option.some.inj ho
    exact absurd hcopies hne
  · rename_i hcopies
    rw [hcopies]
    exact ⟨rfl, List.cons_ne_nil _ _⟩

theorem insert_inside {f : Fingerprint} {r : ClaimRecord} (ht : s.insert f r = .ok t)
    (ho : s.session = some o) {o' : StoreSession} (ho' : t.session = some o')
    (hne : o'.copies ≠ []) : t.revision = s.revision ∧ o.copies ≠ [] := by
  obtain ⟨o₁, ho₁, rfl⟩ := insert_cases ht
  obtain rfl := Option.some.inj (ho.symm.trans ho₁)
  exact put_inside ho' hne

theorem remove_inside {f : Fingerprint} (ht : s.remove f = .ok t) (ho : s.session = some o)
    {o' : StoreSession} (ho' : t.session = some o') (hne : o'.copies ≠ []) :
    t.revision = s.revision ∧ o.copies ≠ [] := by
  obtain ⟨o₁, ho₁, ⟨-, rfl⟩ | ⟨-, rfl⟩⟩ := remove_cases ht
  · obtain rfl := Option.some.inj (ho.symm.trans ho₁)
    exact put_inside ho' hne
  · obtain rfl := Option.some.inj (ho.symm.trans ho')
    exact ⟨rfl, hne⟩

theorem commit_inside (ht : s.commit = .ok t) (ho : s.session = some o) {o' : StoreSession}
    (ho' : t.session = some o') (hne : o'.copies ≠ []) :
    t.revision = s.revision ∧ t.durable = s.durable ∧ o'.copies ⊆ o.copies := by
  simp only [SavepointStore.commit, opened_eq_ok.2 ho, bind, Except.bind, pure, Except.pure] at ht
  rcases hcopies : o.copies with _ | ⟨copy, _ | ⟨below, outer⟩⟩ <;> rw [hcopies] at ht
  · cases ht
    obtain rfl := Option.some.inj (ho.symm.trans ho')
    exact absurd hcopies hne
  · have hidle : t.session = some .idle := by
      dsimp only at ht
      split at ht <;> cases ht <;> rfl
    obtain rfl := Option.some.inj (hidle.symm.trans ho')
    exact absurd rfl hne
  · cases ht
    obtain rfl := Option.some.inj ho'
    exact ⟨rfl, rfl, List.cons_subset_cons copy (List.subset_cons_self below outer)⟩

theorem rollback_inside (ho : s.session = some o) {o' : StoreSession}
    (ho' : s.rollback.session = some o') (hne : o'.copies ≠ []) :
    s.rollback.revision = s.revision ∧ s.rollback.durable = s.durable ∧ o'.copies ⊆ o.copies := by
  simp only [SavepointStore.rollback, ho] at ho' ⊢
  split at ho'
  · obtain rfl := Option.some.inj ho'
    exact absurd rfl hne
  · obtain rfl := Option.some.inj ho'
    exact ⟨rfl, rfl, List.drop_subset 1 _⟩

namespace Agrees

variable (h : Agrees start i s l)
include h

theorem write (ho : s.session = some o) (w : StoreWrite) :
    Agrees start i (s.put o ((s.visible o).replay [w])) (l.enter i [w]) := by
  have hvalid : (s.put o ((s.visible o).replay [w])).Valid := (follows_put ho _).valid h.valid
  have hlayered := h.layered o ho
  revert hvalid
  unfold put visible
  rcases hcopies : o.copies with _ | ⟨copy, copies⟩ <;> intro hvalid
  · -- Outside all transactions the write is durable at once.
    rw [hcopies] at hlayered
    rw [Ledger.enter_of_ne fun p hp => Nat.ne_of_lt (hlayered p hp)]
    refine agrees_of_session ?_ rfl (hvalid _ rfl) ?_
    · rw [DurableClaims.replay_append, ← h.durable]
      rfl
    · rw [hcopies]
      exact hlayered
  · -- Within a transaction it goes to the newest copy.
    rw [hcopies] at hlayered
    obtain ⟨writes, outer, hpending, hcopy, hrest⟩ := pending_of_layered hlayered
    rw [Ledger.enter_of_pending hpending]
    refine agrees_of_session h.durable rfl (hvalid _ rfl) ⟨rfl, ?_, hrest⟩
    rw [DurableClaims.replay_append, ← hcopy]
    rfl

/-- A write that changes nothing may be made or not. -/
private theorem idle_write (ho : s.session = some o) {w : StoreWrite}
    (hw : (s.visible o).replay [w] = s.visible o) : Agrees start i s (l.enter i [w]) := by
  have hlayered := h.layered o ho
  unfold visible at hw
  rcases hcopies : o.copies with _ | ⟨copy, copies⟩
  · -- Outside all transactions the durable claims do not change, in the ledger as in the store.
    rw [hcopies] at hlayered hw
    rw [Ledger.enter_of_ne fun p hp => Nat.ne_of_lt (hlayered p hp)]
    refine agrees_of_session ?_ ho (h.valid o ho) ?_
    · rw [DurableClaims.replay_append, ← h.durable]
      exact hw.symm
    · rw [hcopies]
      exact hlayered
  · -- Within a transaction the newest copy does not change.
    rw [hcopies] at hlayered hw
    obtain ⟨writes, outer, hpending, hcopy, hrest⟩ := pending_of_layered hlayered
    rw [Ledger.enter_of_pending hpending]
    refine agrees_of_session h.durable ho (h.valid o ho) ?_
    rw [hcopies]
    refine ⟨rfl, ?_, hrest⟩
    rw [DurableClaims.replay_append, ← hcopy]
    exact hw.symm

theorem insert {f : Fingerprint} {r : ClaimRecord} (ht : s.insert f r = .ok t) :
    Agrees start i t (l.enter i [(f, some r)]) := by
  obtain ⟨o, ho, rfl⟩ := insert_cases ht
  exact h.write ho (f, some r)

theorem remove {f : Fingerprint} (ht : s.remove f = .ok t) :
    Agrees start i t (l.enter i [(f, none)]) := by
  obtain ⟨o, ho, ⟨-, rfl⟩ | ⟨habsent, rfl⟩⟩ := remove_cases ht
  · exact h.write ho (f, none)
  · exact h.idle_write ho (Table.erase_of_not_contains habsent)

theorem openTransaction (ho : s.session = some o) :
    ∃ t, s.openTransaction = .ok t ∧ Agrees start i t (l.record (.began i)) := by
  have hopen : s.openTransaction =
      .ok { s with session := some { o with copies := s.visible o :: o.copies } } := by
    simp [SavepointStore.openTransaction, opened_eq_ok.2 ho, bind, Except.bind, pure, Except.pure]
  have hvalid := (open_ok hopen).1 h.valid
  exact ⟨_, hopen, agrees_of_session h.durable rfl (hvalid _ rfl) ⟨rfl, rfl, h.layered o ho⟩⟩

/-- Committing a transaction hands its writes on. -/
theorem commit {copy : DurableClaims} {copies : List DurableClaims} (ho : s.session = some o)
    (hcopies : o.copies = copy :: copies) :
    ∃ t, s.commit = .ok t ∧ Agrees start i t (l.leave none) := by
  have hopened : s.opened = .ok o := opened_eq_ok.2 ho
  have hvalid := h.valid o ho
  have hlayered := h.layered o ho
  rw [hcopies] at hlayered
  obtain ⟨writes, outer, hpending, hcopy, hrest⟩ := pending_of_layered hlayered
  rw [Ledger.leave_ok hpending]
  rcases copies with _ | ⟨below, copies⟩
  · -- An outermost transaction, whose copy becomes durable.
    rw [Ledger.enter_of_ne fun p hp => Nat.ne_of_lt (hrest p hp)]
    have hkept : copy = start.replay (l.kept ++ writes) := by
      rw [DurableClaims.replay_append, ← h.durable]
      exact hcopy
    cases hwrote : o.wrote with
    | true =>
      refine ⟨⟨copy, s.revision + 1, some .idle⟩, ?_, agrees_idle hkept hrest⟩
      simp [SavepointStore.commit, hopened, hcopies, hwrote, bind, Except.bind, pure, Except.pure]
    | false =>
      -- Nothing was written, so the copy is of the durable claims.
      have hsame : copy = s.durable := hvalid.copies hwrote copy (by simp [hcopies])
      refine ⟨{ s with session := some .idle }, ?_, agrees_idle (hsame ▸ hkept) hrest⟩
      simp [SavepointStore.commit, hopened, hcopies, hwrote, bind, Except.bind, pure, Except.pure]
  · -- An inner transaction, whose copy takes the place of the one below it.
    obtain ⟨earlier, outer', hpending', hbelow, hrest'⟩ := pending_of_layered hrest
    rw [Ledger.enter_of_pending hpending']
    refine ⟨{ s with session := some { o with copies := copy :: copies } }, ?_,
      agrees_of_session h.durable rfl (sessionValid_of_ne_nil (List.cons_ne_nil _ _)
        fun hwrote c hc => ?_) ⟨rfl, ?_, hrest'⟩⟩
    · simp [SavepointStore.commit, hopened, hcopies, bind, Except.bind, pure, Except.pure]
    · refine hvalid.copies hwrote c ?_
      rw [hcopies]
      exact List.cons_subset_cons copy (List.subset_cons_self below copies) hc
    · rw [DurableClaims.replay_append, ← hbelow]
      exact hcopy

/-- Rolling a transaction back loses its writes. -/
theorem rollback {copy : DurableClaims} {copies : List DurableClaims} (ho : s.session = some o)
    (hcopies : o.copies = copy :: copies) (e : Fault) :
    Agrees start i s.rollback (l.leave (some e)) := by
  have hvalid := h.valid o ho
  have hlayered := h.layered o ho
  rw [hcopies] at hlayered
  obtain ⟨writes, outer, hpending, -, hrest⟩ := pending_of_layered hlayered
  rw [Ledger.leave_error hpending]
  simp only [SavepointStore.rollback, ho, hcopies, List.drop_one, List.tail_cons]
  rcases copies with _ | ⟨below, copies⟩
  · exact agrees_idle h.durable hrest
  · refine agrees_of_session h.durable rfl (sessionValid_of_ne_nil (List.cons_ne_nil _ _)
      fun hwrote c hc => ?_) hrest
    exact hvalid.copies hwrote c (hcopies ▸ List.mem_cons_of_mem copy hc)

/-- The end of a transaction of another store is no concern of this one. -/
theorem leave_other {j : Nat} {writes : List StoreWrite} {outer : List (Nat × List StoreWrite)}
    (hpending : l.pending = (j, writes) :: outer) (hj : j ≠ i) (e : Fault) :
    Agrees start i s (l.leave (some e)) := by
  rw [Ledger.leave_error hpending]
  refine ⟨h.durable, h.valid, fun o ho => ?_⟩
  have hlayered := h.layered o ho
  rw [hpending] at hlayered
  rcases hcopies : o.copies with _ | ⟨copy, copies⟩
  · rw [hcopies] at hlayered
    exact fun p hp => hlayered p (List.mem_cons_of_mem _ hp)
  · rw [hcopies] at hlayered
    exact absurd hlayered.1 hj

end Agrees

end SavepointStore

end ProofOfExistence
