import ProofOfExistence.Proofs.TransactionalStore
import ProofOfExistence.Store.File

/-!
# A store that is alone on its file

While all other stores on a file are closed, the one that is open is like a durable store by
itself: it can always look at the file and take hold of it, and what it sees after that is what it
saw before (`Becomes.look`, `exists_hold`).  Whatever change it makes then is the change that
the durable store makes (`becomes_setStore`).

A closed store changes nothing.
-/

namespace ProofOfExistence.StoreFile

variable {f g h : StoreFile} {i j : Nat} {u : OpenStore} {s : SavepointStore}

/-- A store was opened on the file and is closed. -/
def HasClosed (f : StoreFile) (i : Nat) : Prop := f.stores[i]? = some none

theorem openStore?_eq_some : f.openStore? i = some u ↔ f.stores[i]? = some (some u) := by
  rw [openStore?, Option.join_eq_some_iff]

theorem HasClosed.openStore? (h : f.HasClosed i) : f.openStore? i = none := by
  rw [StoreFile.openStore?, show f.stores[i]? = some none from h]
  rfl

theorem HasClosed.lt_length (h : f.HasClosed i) : i < f.stores.length :=
  (List.getElem?_eq_some_iff.1 h).1

/-- A store that was opened and is not open is closed. -/
theorem hasClosed_of_lt (hi : i < f.stores.length) (h : f.openStore? i = none) :
    f.HasClosed i := by
  obtain ⟨o, ho⟩ : ∃ o, f.stores[i]? = some o := ⟨_, List.getElem?_eq_getElem hi⟩
  cases o with
  | none => exact ho
  | some u => cases h.symm.trans (openStore?_eq_some.2 ho)

theorem lt_length_of_openStore? (h : f.openStore? i = some u) : i < f.stores.length :=
  (List.getElem?_eq_some_iff.1 (openStore?_eq_some.1 h)).1

/-- Only the last store may be open, and its transactions have seen what the file keeps now. -/
structure Sole (f : StoreFile) : Prop where
  last : ∀ i u, f.openStore? i = some u → i + 1 = f.stores.length
  seen : ∀ i u, f.openStore? i = some u → ∀ r, u.seen = some r → r = f.revision

/-! ## Changes of the open store -/

theorem openStore?_setStore_self (hu : f.openStore? i = some u) :
    (f.setStore i s).openStore? i = s.session.map u.withSession := by
  rw [openStore?, setStore, hu, Option.getD_some,
    List.getElem?_set_self (lt_length_of_openStore? hu)]
  rfl

/-- A store on the file changed, and no other one. -/
structure Becomes (f : StoreFile) (i : Nat) (s : SavepointStore) (g : StoreFile) : Prop where
  store : g.store i = s
  sole : g.Sole
  length : g.stores.length = f.stores.length
  others : ∀ j, j ≠ i → g.stores[j]? = f.stores[j]?

theorem Becomes.refl (hf : f.Sole) : f.Becomes i (f.store i) f := ⟨rfl, hf, rfl, fun _ _ => rfl⟩

theorem Becomes.trans (h₁ : f.Becomes i s g) {t : SavepointStore} (h₂ : g.Becomes i t h) :
    f.Becomes i t h :=
  ⟨h₂.store, h₂.sole, h₂.length.trans h₁.length,
    fun j hj => (h₂.others j hj).trans (h₁.others j hj)⟩

/-- A change of one store leaves the others as they are. -/
private theorem becomes_of_set (hf : f.Sole) (hu : f.openStore? i = some u)
    {o : Option OpenStore} (hstores : g.stores = f.stores.set i o) (hstore : g.store i = s)
    (hseen : ∀ u', o = some u' → ∀ r, u'.seen = some r → r = g.revision) : f.Becomes i s g := by
  have hlength : g.stores.length = f.stores.length := by rw [hstores, List.length_set]
  have hothers : ∀ j, j ≠ i → g.stores[j]? = f.stores[j]? := fun j hj => by
    rw [hstores, List.getElem?_set_ne hj.symm]
  -- The open store was the last one, so no other one is open.
  have hself : ∀ j u', g.openStore? j = some u' → j = i ∧ o = some u' := by
    intro j u' hu'
    by_cases hji : j = i
    · subst hji
      rw [openStore?, hstores, List.getElem?_set_self (lt_length_of_openStore? hu)] at hu'
      exact ⟨rfl, hu'⟩
    · rw [openStore?, hothers j hji] at hu'
      have hj := hf.last j u' hu'
      have hi := hf.last i u hu
      omega
  -- What the new store has seen is the revision of the file, as for any store.
  refine ⟨hstore, ⟨fun j u' hu' => ?_, fun j u' hu' => hseen u' (hself j u' hu').2⟩, hlength,
    hothers⟩
  rw [(hself j u' hu').1, hlength]
  exact hf.last i u hu

/-- A store that writes nothing durable inside a transaction can be put back. -/
theorem becomes_setStore (hf : f.Sole) (hu : f.openStore? i = some u)
    (hs : ∀ o, s.session = some o → o.copies ≠ [] →
      s.revision = f.revision ∧ (u.seen = none → ∀ copy ∈ o.copies, copy = s.durable)) :
    f.Becomes i s (f.setStore i s) := by
  have hopen := openStore?_setStore_self (s := s) hu
  refine becomes_of_set hf hu (o := s.session.map u.withSession) ?_ ?_ ?_
  · -- In this place there is a store with the session of `s`.
    rw [setStore, hu, Option.getD_some]
  · -- Transactions that have not looked are about the durable claims, and so are their copies.
    have hcurrent : ∀ o, s.session = some o → (u.withSession o).current s.durable = o := by
      intro o ho
      unfold OpenStore.withSession OpenStore.current
      rcases o with ⟨_ | ⟨copy, outer⟩, wrote⟩
      · rfl
      · obtain ⟨-, hcopies⟩ := hs _ ho (List.cons_ne_nil _ _)
        cases hseen : u.seen with
        | some r => rfl
        | none =>
          have hmap : (copy :: outer).map (fun _ => s.durable) = copy :: outer :=
            List.map_congr_left (fun c hc => (hcopies hseen c hc).symm) |>.trans (List.map_id _)
          simpa [hseen] using hmap
    rw [store, hopen]
    obtain ⟨durable, revision, session⟩ := s
    cases session with
    | none => rfl
    | some o => exact congrArg (SavepointStore.mk durable revision ∘ some) (hcurrent o rfl)
  · -- A store that has seen a revision is in a transaction, and has seen this one.
    intro u' hu' r hr
    obtain ⟨o, ho, rfl⟩ := Option.map_eq_some_iff.1 hu'
    unfold OpenStore.withSession at hr
    split at hr
    · cases hr
    · rename_i hcopies
      have hne : o.copies ≠ [] := fun hnil => hcopies (List.isEmpty_iff.2 hnil)
      rw [hf.seen i u hu r hr]
      exact (hs o ho hne).1.symm

/-! ## Looking at the file and taking hold of it -/

theorem store_of_openStore? (hu : f.openStore? i = some u) :
    f.store i = ⟨f.durable, f.revision, some (u.current f.durable)⟩ := by
  rw [store, hu]
  rfl

/-- A store whose transactions look at the file sees what it saw, and so do the others. -/
theorem store_looked (hu : f.openStore? i = some u) (holds : Bool) (j : Nat) :
    StoreFile.store ⟨f.durable, f.revision,
      f.stores.set i (some ⟨u.current f.durable, some f.revision, holds⟩)⟩ j = f.store j := by
  by_cases hji : j = i
  · subst hji
    rw [store_of_openStore? hu, store, openStore?,
      List.getElem?_set_self (lt_length_of_openStore? hu)]
    rfl
  · rw [store, store, openStore?, openStore?, List.getElem?_set_ne (Ne.symm hji)]

private theorem becomes_looked (hf : f.Sole) (hu : f.openStore? i = some u) (holds : Bool) :
    f.Becomes i (f.store i) ⟨f.durable, f.revision,
      f.stores.set i (some ⟨u.current f.durable, some f.revision, holds⟩)⟩ := by
  refine becomes_of_set hf hu rfl (store_looked hu holds i) ?_
  rintro u' ⟨⟩ r ⟨⟩
  rfl

theorem Becomes.look (hf : f.Sole) : f.Becomes i (f.store i) (f.look i) := by
  unfold StoreFile.look
  split
  · rename_i u hu
    split
    · exact becomes_looked hf hu u.holds
    · exact .refl hf
  · exact .refl hf

/-- A store that is alone on its file can take hold of it, and has seen it then. -/
theorem exists_hold (hf : f.Sole) (hu : f.openStore? i = some u) :
    ∃ g u', f.hold i = .ok g ∧ f.Becomes i (f.store i) g ∧ g.openStore? i = some u' ∧
      (u'.isInTransaction = true → u'.seen ≠ none) := by
  -- There is no other open store that could hold the lock.
  have hlocked : f.isLockedFor i = false := by
    refine List.any_eq_false.2 fun o ho => ?_
    obtain ⟨j, hj, hget⟩ := List.mem_eraseIdx_iff_getElem?.1 ho
    cases o with
    | none => exact Bool.false_ne_true
    | some u' =>
      have hlast := hf.last j u' (openStore?_eq_some.2 hget)
      have hlast' := hf.last i u hu
      omega
  -- What the store has seen is still current.
  have hcurrent : u.seen.any (· ≠ f.revision) = false := by
    cases hseen : u.seen with
    | none => rfl
    | some r => simp [hf.seen i u hu r hseen]
  unfold hold
  simp only [hu, hlocked, hcurrent, Bool.false_eq_true, if_false]
  cases htransaction : u.isInTransaction with
  -- The first look of a transaction is noted, with the revision that it sees.
  | true =>
    refine ⟨_, ⟨u.current f.durable, some f.revision, true⟩, rfl, becomes_looked hf hu true, ?_,
      fun _ => nofun⟩
    rw [openStore?, List.getElem?_set_self (lt_length_of_openStore? hu)]
    rfl
  -- Outside a transaction nothing is noted.
  | false => exact ⟨f, u, rfl, .refl hf, hu, fun h => absurd (htransaction.symm.trans h) nofun⟩

/-- A change that copies nothing but what the store saw can be put back without a look. -/
theorem becomes_of_copies (hf : f.Sole) (hu : f.openStore? i = some u)
    (hs : ∀ o, s.session = some o → o.copies ≠ [] →
      s.revision = f.revision ∧ s.durable = f.durable ∧
        ∀ copy ∈ o.copies, copy = f.durable ∨ copy ∈ (u.current f.durable).copies) :
    f.Becomes i s (f.setStore i s) := by
  refine becomes_setStore hf hu fun o ho hne => ?_
  obtain ⟨hrevision, hdurable, hcopies⟩ := hs o ho hne
  refine ⟨hrevision, fun hseen copy hcopy => hdurable ▸ ?_⟩
  rcases hcopies copy hcopy with rfl | hmem
  · rfl
  · simp only [OpenStore.current, hseen, Option.isSome_none, Bool.false_eq_true, if_false] at hmem
    obtain ⟨-, -, rfl⟩ := List.mem_map.1 hmem
    rfl

/-- After it has taken hold of the file, a store can make any change inside its transactions. -/
theorem exists_hold_becomes (hf : f.Sole) (hu : f.openStore? i = some u) :
    ∃ g, f.hold i = .ok g ∧ f.Becomes i (f.store i) g ∧
      ∀ s : SavepointStore, (∀ o, s.session = some o → o.copies ≠ [] →
        s.revision = f.revision ∧ (u.current f.durable).copies ≠ []) →
          f.Becomes i s (g.setStore i s) := by
  obtain ⟨g, u', hhold, hbecomes, hu', hseen⟩ := exists_hold hf hu
  refine ⟨g, hhold, hbecomes, fun s hs => hbecomes.trans ?_⟩
  have hstore := hbecomes.store
  rw [store_of_openStore? hu', store_of_openStore? hu] at hstore
  obtain ⟨-, hrevision, hsession⟩ := SavepointStore.mk.inj hstore
  refine becomes_setStore hbecomes.sole hu' fun o ho hne => ?_
  obtain ⟨hrevision', hcopies⟩ := hs o ho hne
  refine ⟨hrevision'.trans hrevision.symm, fun hnone => absurd hnone (hseen ?_)⟩
  -- The store is in a transaction now, because it was in one before.
  rw [← Option.some.inj hsession] at hcopies
  unfold OpenStore.isInTransaction
  cases hlist : u'.session.copies with
  -- If it were in none, neither would it have been before.
  | nil =>
    refine absurd ?_ hcopies
    unfold OpenStore.current
    split <;> simp [hlist]
  | cons copy outer => rfl

/-! ## Closed stores -/

theorem opened_store_of_closed (hi : f.openStore? i = none) :
    (f.store i).opened = .error .storeClosed := by
  rw [store, hi]
  rfl

theorem look_of_closed (hi : f.openStore? i = none) : f.look i = f := by
  simp only [look, hi]

theorem hold_of_closed (hi : f.openStore? i = none) : f.hold i = .ok f := by
  simp only [hold, hi]

/-- Without a session there is nothing to change. -/
theorem setStore_of_closed (hi : f.openStore? i = none) : f.setStore i (f.store i) = f := by
  have hstores : f.stores.set i none = f.stores := by
    refine List.ext_getElem? fun j => ?_
    rw [List.getElem?_set]
    split
    · rename_i hij
      -- In its own place there was no open store, and so there is none now.
      subst hij
      rw [openStore?] at hi
      cases hget : f.stores[i]? with
      | none => simp [List.getElem?_eq_none_iff.1 hget]
      | some o =>
        rw [hget] at hi
        obtain rfl : o = none := hi
        simp [(List.getElem?_eq_some_iff.1 hget).1]
    · rfl
  rw [store, setStore, hi]
  exact congrArg (StoreFile.mk f.durable f.revision) hstores

theorem hasClosed_setStore_close (hi : i < f.stores.length) :
    (f.setStore i s.close).HasClosed i :=
  List.getElem?_set_self hi

/-! ## Opening a store -/

theorem store_addStore (f : StoreFile) :
    f.addStore.store f.stores.length = ⟨f.durable, f.revision, some .idle⟩ := by
  rw [store, openStore?, addStore, List.getElem?_concat_length]
  rfl

theorem getElem?_addStore_of_lt (hi : i < f.stores.length) :
    f.addStore.stores[i]? = f.stores[i]? :=
  List.getElem?_append_left hi

/-- A store may be opened on a file whose stores are all closed. -/
theorem sole_addStore (hf : ∀ i, f.openStore? i = none) : f.addStore.Sole := by
  have hlast : ∀ i u, f.addStore.openStore? i = some u → i = f.stores.length ∧ u = .idle := by
    intro i u hu
    have hget := openStore?_eq_some.1 hu
    rcases Nat.lt_trichotomy i f.stores.length with hi | hi | hi
    · -- The stores that were there before are closed.
      rw [getElem?_addStore_of_lt hi] at hget
      cases (hf i).symm.trans (openStore?_eq_some.2 hget)
    · -- The new store is the last one.
      subst hi
      rw [addStore, List.getElem?_concat_length] at hget
      cases hget
      exact ⟨rfl, rfl⟩
    · -- There are no further stores.
      rw [addStore, List.getElem?_eq_none (by simpa using Nat.succ_le_of_lt hi)] at hget
      cases hget
  refine ⟨fun i u hu => ?_, fun i u hu r hr => ?_⟩
  · rw [(hlast i u hu).1, addStore, List.length_append]
    rfl
  · rw [(hlast i u hu).2] at hr
    cases hr

/-! ## Later files -/

/-- How a file can differ from what it was: stores that were closed still are, and while all stores
are closed nothing that the file keeps changes. -/
structure Later (f g : StoreFile) : Prop where
  closed : ∀ i, f.HasClosed i → g.HasClosed i
  length : f.stores.length ≤ g.stores.length
  durable : (∀ i, f.openStore? i = none) → g.stores.length = f.stores.length →
    g.durable = f.durable

theorem Later.refl (f : StoreFile) : f.Later f := ⟨fun _ => id, Nat.le_refl _, fun _ _ => rfl⟩

theorem Later.trans (h₁ : f.Later g) (h₂ : g.Later h) : f.Later h := by
  refine ⟨fun i hi => h₂.closed i (h₁.closed i hi), Nat.le_trans h₁.length h₂.length,
    fun hf hlength => ?_⟩
  have hg : g.stores.length = f.stores.length :=
    Nat.le_antisymm (hlength ▸ h₂.length) h₁.length
  have hclosed : ∀ i, g.openStore? i = none := by
    intro i
    by_cases hi : i < f.stores.length
    · exact (h₁.closed i (hasClosed_of_lt hi (hf i))).openStore?
    · rw [openStore?, List.getElem?_eq_none (by omega)]
      rfl
  rw [h₂.durable hclosed (hlength.trans hg.symm), h₁.durable hf hg]

/-- A change of a store that was open. -/
theorem Becomes.later (h : f.Becomes i s g) (hu : f.openStore? i = some u) : f.Later g := by
  refine ⟨fun j hj => ?_, Nat.le_of_eq h.length.symm, fun hf => ?_⟩
  · have hji : j ≠ i := fun heq => by cases (heq ▸ hj.openStore?).symm.trans hu
    exact (h.others j hji).trans hj
  · cases (hf i).symm.trans hu

theorem later_addStore (f : StoreFile) : f.Later f.addStore := by
  have hlength : f.addStore.stores.length = f.stores.length + 1 := by
    rw [addStore, List.length_append]
    rfl
  refine ⟨fun i hi => ?_, by omega, fun _ h => by omega⟩
  exact (getElem?_addStore_of_lt (List.getElem?_eq_some_iff.1 hi).1).trans hi

end ProofOfExistence.StoreFile
