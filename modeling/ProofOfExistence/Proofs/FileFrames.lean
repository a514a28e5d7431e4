import Mathlib.Logic.Function.Basic
import ProofOfExistence.Proofs.SoleStore
import ProofOfExistence.Proofs.StoreFrames

/-!
# What the stores on a file keep elsewhere

Several stores on one file see each other's durable writes.  The view `elsewhere p` of a file is all
that its stores keep for other fingerprints than `p`.  Looking at the file and taking hold of it
change no view.  A change of one store shows in its own view only, as long as it makes nothing
durable elsewhere, and a transaction that wrote on `p` only shows in none, whatever the other stores
are doing.

## Key results

- `elsewhere_setStore`: how a change of one store shows
- `elsewhere_rolledBack`, `elsewhere_committed`: a transaction that wrote on `p` only shows nowhere
  else
- `elsewhere_rollBack`: what a store puts back elsewhere depends on what was kept elsewhere
-/

namespace ProofOfExistence

namespace StoreFile

variable {p : Fingerprint} {f g : StoreFile} {i j : Nat} {u : OpenStore} {s t : SavepointStore}

/-- What each store on a file keeps for other fingerprints than one. -/
def elsewhere (p : Fingerprint) (f : StoreFile) : Nat → SavepointStore.View :=
  fun i => (f.store i).elsewhere p

/-- The file after the `i`-th store has taken back its innermost transaction. -/
def rollBack (i : Nat) (f : StoreFile) : StoreFile := f.setStore i (f.store i).rollback

/-! ## Looking at the file and taking hold of it -/

theorem store_look (f : StoreFile) (i j : Nat) : (f.look i).store j = f.store j := by
  unfold look
  split
  · rename_i u hu
    split
    · exact store_looked hu u.holds j
    · rfl
  · rfl

theorem store_of_hold (h : f.hold i = .ok g) (j : Nat) : g.store j = f.store j := by
  unfold hold at h
  split at h
  · rename_i u hu
    split at h
    · -- Another store holds the lock.
      cases h
    · split at h
      · -- The file has changed since the transaction saw it.
        cases h
      · split at h
        · -- The first look of a transaction is noted.
          cases h
          exact store_looked hu true j
        · -- Outside a transaction nothing is noted.
          cases h
          rfl
  · -- A closed store is not looked at.
    cases h
    rfl

/-! ## Changes of a store -/

/-- Transactions that have not looked at the file are about the durable claims. -/
theorem map_elsewhere_current (key : Bytes) (u : OpenStore) (durable : DurableClaims) :
    (u.current durable).copies.map (Table.elsewhere key) =
      if u.seen.isSome then u.session.copies.map (Table.elsewhere key)
      else u.session.copies.map fun _ => durable.elsewhere key := by
  unfold OpenStore.current
  split
  · rfl
  · rw [List.map_map]
    rfl

theorem unwritten_of_unseen (hu : f.openStore? i = some u) (hseen : u.seen = none) :
    (f.elsewhere p i).Unwritten := by
  rw [elsewhere, store_of_openStore? hu]
  rintro copies hcopies copy hcopy
  obtain rfl := Option.some.inj hcopies
  dsimp only at hcopy
  rw [map_elsewhere_current, hseen] at hcopy
  obtain ⟨-, -, rfl⟩ := List.mem_map.1 hcopy
  rfl

theorem session_withSession (u : OpenStore) (o : StoreSession) :
    (u.withSession o).session = o := by
  unfold OpenStore.withSession
  split <;> rfl

/-- A store keeps what it has seen as long as it is in a transaction. -/
theorem seen_withSession {o : StoreSession} (ho : o.copies ≠ []) (u : OpenStore) :
    (u.withSession o).seen = u.seen := by
  have hnot : ¬ o.copies.isEmpty = true := fun hnil => ho (List.isEmpty_iff.1 hnil)
  rw [OpenStore.withSession, if_neg hnot]

/-- The store that is put back on the file is about its own copies, if they are as they should be
where the file was not looked at. -/
private theorem map_elsewhere_withSession {o : StoreSession} {durable : DurableClaims} {key : Bytes}
    (h : u.seen = none → ∀ copy ∈ o.copies, copy.elsewhere key = durable.elsewhere key) :
    ((u.withSession o).current durable).copies.map (Table.elsewhere key) =
      o.copies.map (Table.elsewhere key) := by
  rw [map_elsewhere_current, session_withSession]
  split
  · rfl
  · rename_i hseen
    refine List.map_congr_left fun copy hcopy => ?_
    rw [seen_withSession (List.ne_nil_of_mem hcopy), Option.not_isSome_iff_eq_none] at hseen
    exact (h hseen copy hcopy).symm

/-- A store shows elsewhere what was put on the file, if transactions that have not looked at the
file are not written. -/
theorem elsewhere_setStore_self (hclosed : f.openStore? i = none → s.session = none)
    (hunwritten : (f.elsewhere p i).Unwritten → (s.elsewhere p).Unwritten) :
    (f.setStore i s).elsewhere p i = s.elsewhere p := by
  rw [elsewhere, store]
  cases hu : f.openStore? i with
  -- The store is closed, so it has no session that could show anything.
  | none =>
    have hopen : (f.setStore i s).openStore? i = none := by
      rw [openStore?, setStore, hclosed hu, Option.map_none, List.getElem?_set_self']
      cases f.stores[i]? <;> rfl
    rw [hopen, SavepointStore.elsewhere, SavepointStore.elsewhere, hclosed hu]
    rfl
  | some u =>
    rw [openStore?_setStore_self hu, SavepointStore.elsewhere, Option.map_map]
    refine congrArg (SavepointStore.View.mk _) ?_
    cases ho : s.session with
    | none => rfl
    -- The store is open, and all it shows is in the file and in its copies.
    | some o =>
      refine congrArg some (map_elsewhere_withSession fun hseen copy hcopy => ?_)
      have hcopies : (s.elsewhere p).copies =
          some (o.copies.map (Table.elsewhere (StorageKey.ofFingerprint p))) := by
        rw [SavepointStore.elsewhere, ho]
        rfl
      exact hunwritten (unwritten_of_unseen hu hseen) _ hcopies _ (List.mem_map_of_mem hcopy)

/-- A change of one store that makes nothing durable elsewhere shows in no other store elsewhere. -/
theorem elsewhere_setStore_of_ne (hdurable : (s.elsewhere p).durable = (f.elsewhere p i).durable)
    (hji : j ≠ i) : (f.setStore i s).elsewhere p j = f.elsewhere p j := by
  have hfile : s.durable.elsewhere (StorageKey.ofFingerprint p) =
      f.durable.elsewhere (StorageKey.ofFingerprint p) := hdurable
  have hopen : (f.setStore i s).openStore? j = f.openStore? j := by
    rw [openStore?, openStore?, setStore, List.getElem?_set_ne (Ne.symm hji)]
  rw [elsewhere, elsewhere, store, store, hopen]
  simp only [SavepointStore.elsewhere, setStore, Option.map_map, Function.comp_def,
    map_elsewhere_current, hfile]

theorem elsewhere_setStore (hdurable : (s.elsewhere p).durable = (f.elsewhere p i).durable)
    (hclosed : f.openStore? i = none → s.session = none)
    (hunwritten : (f.elsewhere p i).Unwritten → (s.elsewhere p).Unwritten) :
    (f.setStore i s).elsewhere p = Function.update (f.elsewhere p) i (s.elsewhere p) :=
  Function.eq_update_iff.2 ⟨elsewhere_setStore_self hclosed hunwritten,
    fun _ hji => elsewhere_setStore_of_ne hdurable hji⟩

/-- A change of one store that shows nowhere elsewhere in it shows in no store elsewhere. -/
theorem elsewhere_setStore_same (h : s.elsewhere p = f.elsewhere p i) :
    (f.setStore i s).elsewhere p = f.elsewhere p := by
  have hclosed : f.openStore? i = none → s.session = none := by
    intro hi
    have hcopies := congrArg SavepointStore.View.copies h
    rw [elsewhere, store, hi] at hcopies
    exact Option.map_eq_none_iff.1 hcopies
  rw [elsewhere_setStore (congrArg _ h) hclosed (h ▸ id), h, Function.update_eq_self]

/-! ## Transactions -/

/-- What is put back elsewhere depends on what was kept elsewhere. -/
theorem elsewhere_rollBack (p : Fingerprint) (i : Nat) (f : StoreFile) :
    (f.rollBack i).elsewhere p =
      Function.update (f.elsewhere p) i (f.elsewhere p i).rolledBack := by
  have hview := SavepointStore.elsewhere_rollback_eq p (f.store i)
  rw [rollBack, elsewhere_setStore, hview]
  · rfl
  · rw [hview]
    rfl
  · -- A closed store has no copies to drop.
    intro hi
    rw [store, hi]
    rfl
  · rw [hview]
    exact SavepointStore.View.Unwritten.rolledBack

theorem elsewhere_rollBack_congr (h : g.elsewhere p = f.elsewhere p) (i : Nat) :
    (g.rollBack i).elsewhere p = (f.rollBack i).elsewhere p := by
  rw [elsewhere_rollBack, elsewhere_rollBack, h]

/-- What is visible elsewhere is still so after a rollback that takes back nothing there. -/
theorem shown_rollBack (h : (f.store i).UndoesOnly p) (j : Nat) :
    ((f.rollBack i).elsewhere p j).shown = (f.elsewhere p j).shown := by
  rw [elsewhere_rollBack]
  by_cases hji : j = i
  · subst hji
    have hview := SavepointStore.elsewhere_rollback_eq p (f.store j)
    rw [Function.update_self, elsewhere, ← hview, SavepointStore.shown_rollback h]
  · rw [Function.update_of_ne hji]

/-- Opening a transaction shows elsewhere in its own store only. -/
theorem elsewhere_openTransaction (hopen : (f.store i).openTransaction = .ok s) :
    (f.setStore i s).elsewhere p =
      Function.update (f.elsewhere p) i (f.elsewhere p i).begun := by
  have hview := SavepointStore.elsewhere_openTransaction (p := p) hopen
  rw [elsewhere_setStore, hview]
  · rfl
  · rw [hview]
    rfl
  · -- A closed store opens no transaction.
    intro hi
    rw [SavepointStore.openTransaction, opened_store_of_closed hi] at hopen
    cases hopen
  · rw [hview]
    exact SavepointStore.View.unwritten_begun.2

variable (hopen : (f.store i).openTransaction = .ok s)
  (h : g.elsewhere p = (f.setStore i s).elsewhere p)
include hopen h

/-- A transaction that fails shows nowhere but where it wrote. -/
theorem elsewhere_rolledBack : (g.rollBack i).elsewhere p = f.elsewhere p := by
  rw [elsewhere_rollBack, h, elsewhere_openTransaction hopen, Function.update_self,
    Function.update_idem, SavepointStore.View.rolledBack_begun, Function.update_eq_self]

/-- A transaction that succeeds shows nowhere but where it wrote. -/
theorem elsewhere_committed :
    ∃ t, (g.store i).commit = .ok t ∧ (g.setStore i t).elsewhere p = f.elsewhere p := by
  have hg := h.trans (elsewhere_openTransaction hopen)
  have hbody : g.elsewhere p i = (f.elsewhere p i).begun := by rw [hg, Function.update_self]
  have hopened := SavepointStore.elsewhere_openTransaction (p := p) hopen
  obtain ⟨t, hcommit, ht⟩ := SavepointStore.elsewhere_commit hopen (hbody.trans hopened.symm)
  refine ⟨t, hcommit, ?_⟩
  rw [elsewhere_setStore, hg, Function.update_idem, ht]
  · exact Function.update_eq_self i (f.elsewhere p)
  · rw [ht, hbody]
    rfl
  · -- A closed store commits nothing.
    intro hi
    rw [SavepointStore.commit, opened_store_of_closed hi] at hcommit
    cases hcommit
  · rw [ht, hbody]
    exact SavepointStore.View.unwritten_begun.1

end StoreFile

end ProofOfExistence
