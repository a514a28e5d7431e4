import ProofOfExistence.Proofs.ServiceRuns

/-!
# The two stores are interchangeable

A program that uses a store directly and calls the service on it, with collaborators that do the
same, runs alike on any two faithful stores: `RunsAlike` relates computations on settings whose
stores keep the same claims.  Every step gets the same answer, every call and transaction ends with
the same outcome, the same events are deposited, and the stores always have the same size.  All
times must be valid, because a durable store refuses a claim that has no time.

## Key results

- `runsAlike_storage`: what programs are made of runs alike on two faithful stores
- `stores_interchangeable`: every program runs alike on the store with undo logs and on the durable
  store
-/

namespace ProofOfExistence

variable {τ τ' κ α β : Type}

/-- The times that a clock may tell. -/
def ValidTime (t : Number) : Prop := checkTimestamp t = .ok ()

section RunsAlike

variable (S : FaithfulStore τ) (S' : FaithfulStore τ')

/-- Two settings with stores that keep the same claims, in which the same happened. -/
structure Alike (w : Setting τ κ) (w' : Setting τ' κ) : Prop where
  claims : ∃ claims, S.Keeps w.store claims ∧ S'.Keeps w'.store claims
  own : w.own = w'.own
  trace : w.trace = w'.trace

/-- Two settings became two others that are alike, by computations that closed their
transactions. -/
structure StayAlike (w v : Setting τ κ) (w' v' : Setting τ' κ) : Prop where
  alike : Alike S S' v v'
  follows : S.Follows w.store v.store
  follows' : S'.Follows w'.store v'.store

/-- From settings that are alike, two computations end with the same outcome in such settings. -/
def RunsAlike (x : Run (Setting τ κ) α) (y : Run (Setting τ' κ) α) : Prop :=
  ∀ w w', Alike S S' w w' → ∃ outcome v v', x.exec w = (outcome, v) ∧ y.exec w' = (outcome, v') ∧
    StayAlike S S' w v w' v'

variable {S S'} {w v u : Setting τ κ} {w' v' u' : Setting τ' κ}

theorem Alike.refl (h : Alike S S' w w') : StayAlike S S' w w w' w' :=
  ⟨h, S.follows_refl _, S'.follows_refl _⟩

theorem StayAlike.trans (h : StayAlike S S' w v w' v') (h' : StayAlike S S' v u v' u') :
    StayAlike S S' w u w' u' :=
  ⟨h'.alike, S.follows_trans h.follows h'.follows, S'.follows_trans h.follows' h'.follows'⟩

private theorem runsAlike_pure (a : α) :
    RunsAlike S S' (pure a : Run (Setting τ κ) α) (pure a) :=
  fun w w' h => ⟨.ok a, w, w', rfl, rfl, h.refl⟩

private theorem runsAlike_bind {x : Run (Setting τ κ) α} {y : Run (Setting τ' κ) α}
    {f : α → Run (Setting τ κ) β} {g : α → Run (Setting τ' κ) β} (hxy : RunsAlike S S' x y)
    (hfg : ∀ a, RunsAlike S S' (f a) (g a)) : RunsAlike S S' (x >>= f) (y >>= g) := by
  intro w w' h
  obtain ⟨outcome, v, v', hx, hy, hstay⟩ := hxy w w' h
  rw [Run.exec_bind, Run.exec_bind, hx, hy]
  cases outcome with
  | error e => exact ⟨.error e, v, v', rfl, rfl, hstay⟩
  | ok a =>
    obtain ⟨outcome, u, u', hf, hg, hstay'⟩ := hfg a v v' hstay.alike
    exact ⟨outcome, u, u', hf, hg, hstay.trans hstay'⟩

/-- Asking both stores gets the same answer. -/
private theorem runsAlike_ask {f : τ → Except Fault α} {g : τ' → Except Fault α}
    (hfg : ∀ s s' claims, S.Keeps s claims → S'.Keeps s' claims → f s = g s') :
    RunsAlike S S' (StoreOps.ask (Setting.storeCell (κ := κ)) f)
      (StoreOps.ask (Setting.storeCell (κ := κ)) g) := by
  intro w w' h
  obtain ⟨claims, hkeeps, hkeeps'⟩ := h.claims
  refine ⟨f w.store, w, w', rfl, ?_, h.refl⟩
  rw [hfg _ _ claims hkeeps hkeeps']
  rfl

/-- Both stores can be changed, and then keep the same claims. -/
private theorem runsAlike_update {f : τ → Except Fault τ} {g : τ' → Except Fault τ'}
    (hfg : ∀ s s' claims, S.Keeps s claims → S'.Keeps s' claims → ∃ t t' claims',
      f s = .ok t ∧ g s' = .ok t' ∧ S.Follows s t ∧ S'.Follows s' t' ∧
        S.Keeps t claims' ∧ S'.Keeps t' claims') :
    RunsAlike S S' (StoreOps.update (Setting.storeCell (κ := κ)) f)
      (StoreOps.update (Setting.storeCell (κ := κ)) g) := by
  intro w w' h
  obtain ⟨claims, hkeeps, hkeeps'⟩ := h.claims
  obtain ⟨t, t', claims', hf, hg, hfollows, hfollows', ht, ht'⟩ :=
    hfg _ _ claims hkeeps hkeeps'
  refine ⟨.ok (), Setting.storeCell.set t w, Setting.storeCell.set t' w', ?_, ?_,
    ⟨⟨claims', ht, ht'⟩, h.own, h.trace⟩, hfollows, hfollows'⟩
  · rw [StoreOps.exec_update]
    simp only [show f (Setting.storeCell.get w) = .ok t from hf]
  · rw [StoreOps.exec_update]
    simp only [show g (Setting.storeCell.get w') = .ok t' from hg]

private theorem runsAlike_transaction {x : Run (Setting τ κ) α} {y : Run (Setting τ' κ) α}
    (hxy : RunsAlike S S' x y) : RunsAlike S S' (S.transaction Setting.storeCell x)
      (S'.transaction Setting.storeCell y) := by
  intro w w' h
  obtain ⟨claims, hkeeps, hkeeps'⟩ := h.claims
  obtain ⟨t, hopen, ht⟩ := S.open_keeps hkeeps
  obtain ⟨t', hopen', ht'⟩ := S'.open_keeps hkeeps'
  obtain ⟨outcome, v, v', hx, hy, hstay⟩ :=
    hxy (Setting.storeCell.set t w) (Setting.storeCell.set t' w')
      ⟨⟨claims, ht, ht'⟩, h.own, h.trace⟩
  obtain ⟨halike, hbody, hbody'⟩ := hstay
  cases outcome with
  -- Both transactions are taken back to the same claims.
  | error e =>
    obtain ⟨u, hexec, hfollows, hu⟩ :=
      S.transaction_error Setting.storeCell hkeeps hopen hx hbody
    obtain ⟨u', hexec', hfollows', hu'⟩ :=
      S'.transaction_error Setting.storeCell hkeeps' hopen' hy hbody'
    exact ⟨.error e, _, _, hexec, hexec', ⟨⟨claims, hu, hu'⟩, halike.own, halike.trace⟩, hfollows,
      hfollows'⟩
  | ok a =>
    -- Both transactions keep the same claims.
    obtain ⟨claims', hv, hv'⟩ := halike.claims
    obtain ⟨u, hexec, hfollows, hu⟩ :=
      S.transaction_ok Setting.storeCell hkeeps hopen hx hbody
    obtain ⟨u', hexec', hfollows', hu'⟩ :=
      S'.transaction_ok Setting.storeCell hkeeps' hopen' hy hbody'
    exact ⟨.ok a, _, _, hexec, hexec',
      ⟨⟨claims', hu _ hv, hu' _ hv'⟩, halike.own, halike.trace⟩, hfollows, hfollows'⟩

/-- What programs are made of runs alike on two faithful stores. -/
theorem runsAlike_storage :
    S.storage.Related ValidTime (fun _ => True)
      (fun _ x y => RunsAlike (κ := κ) S S' x y) S'.storage where
  pure a := runsAlike_pure a
  bind := runsAlike_bind
  throw e := fun w w' h => ⟨.error e, w, w', rfl, rfl, h.refl⟩
  observe hxy := fun w w' h => by
    obtain ⟨outcome, v, v', hx, hy, hstay⟩ := hxy w w' h
    refine ⟨.ok outcome, v, v', ?_, ?_, hstay⟩
    · rw [Run.exec_observe, hx]
    · rw [Run.exec_observe, hy]
  look := fun w w' h => ⟨.ok w.own, w, w', rfl, by rw [h.own]; rfl, h.refl⟩
  keep own := fun w w' h => ⟨.ok (), _, _, rfl, rfl,
    ⟨h.claims, rfl, h.trace⟩, S.follows_refl _, S'.follows_refl _⟩
  note o _ := fun w w' h => ⟨.ok (), _, _, rfl, rfl,
    ⟨h.claims, h.own, congrArg (· ++ [o]) h.trace⟩, S.follows_refl _, S'.follows_refl _⟩
  measure := fun w w' h => by
    -- Stores that keep the same claims have the same size.
    obtain ⟨claims, hkeeps, hkeeps'⟩ := h.claims
    have hsize : S.size? w.store = S'.size? w'.store :=
      (S.size_eq hkeeps).trans (S'.size_eq hkeeps').symm
    exact ⟨.ok (S.size? w.store), w, w', rfl, by rw [hsize]; rfl, h.refl⟩
  get f := runsAlike_ask fun s s' claims hkeeps hkeeps' => by
    rw [S.get_eq hkeeps, S'.get_eq hkeeps']
  contains f := runsAlike_ask fun s s' claims hkeeps hkeeps' => by
    rw [S.contains_eq hkeeps, S'.contains_eq hkeeps']
  insert f r htime := runsAlike_update fun s s' claims hkeeps hkeeps' => by
    -- Both stores take a claim with a valid time.
    obtain ⟨t, hinsert⟩ := S.insert_valid hkeeps htime (f := f)
    obtain ⟨t', hinsert'⟩ := S'.insert_valid hkeeps' htime (f := f)
    exact ⟨t, t', claims.insert f r, hinsert, hinsert', (S.insert_ok hinsert).1,
      (S'.insert_ok hinsert').1, S.insert_keeps hkeeps hinsert, S'.insert_keeps hkeeps' hinsert'⟩
  remove f := runsAlike_update fun s s' claims hkeeps hkeeps' => by
    obtain ⟨t, hremove, ht⟩ := S.remove_keeps hkeeps (f := f)
    obtain ⟨t', hremove', ht'⟩ := S'.remove_keeps hkeeps' (f := f)
    exact ⟨t, t', claims.erase f, hremove, hremove', (S.remove_ok hremove).1,
      (S'.remove_ok hremove').1, ht, ht'⟩
  transaction := runsAlike_transaction

/-- A program with calls of any depth runs alike on two faithful stores. -/
theorem runsAlike_run (P : Partners ValidTime κ) (depth : Nat) (p : ServiceProgram ValidTime κ α) :
    RunsAlike S S' (p.run S.storage (P.serve S.storage depth))
      (p.run S'.storage (P.serve S'.storage depth)) :=
  P.run_related runsAlike_storage depth (fun _ _ => trivial) p

end RunsAlike

/-- From the same claims, a program runs alike on the store with undo logs and on the durable store:
it ends with the same outcome, all steps, calls and transactions get the same answers, the same
events are deposited, the stores have the same size after each step, and in the end they hold the
same claims. -/
theorem stores_interchangeable (P : Partners ValidTime κ) (depth : Nat)
    (p : ServiceProgram ValidTime κ α) (claims : Claims) (own : κ) :
    let u := (p.run UndoStore.storage (P.serve UndoStore.storage depth)).exec
      (.fresh (.ofClaims claims) own)
    let v := (p.run SavepointStore.storage (P.serve SavepointStore.storage depth)).exec
      (.fresh (.ofClaims claims) own)
    u.1 = v.1 ∧ u.2.own = v.2.own ∧ u.2.trace = v.2.trace ∧
      some u.2.store.size = v.2.store.count? ∧ ∀ f, u.2.store.get? f = v.2.store.claim? f := by
  have hstart : Alike UndoStore.faithful SavepointStore.faithful
      (.fresh (.ofClaims claims) own) (.fresh (.ofClaims claims) own) :=
    ⟨⟨claims, UndoStore.represents_ofClaims claims, SavepointStore.keeps_ofClaims claims⟩, rfl, rfl⟩
  intro u v
  obtain ⟨outcome, u', v', hu, hv, halike, -, -⟩ := runsAlike_run P depth p _ _ hstart
  obtain ⟨claims', hkeeps, hkeeps'⟩ := halike.claims
  have hu' : u = (outcome, u') := hu
  have hv' : v = (outcome, v') := by
    rw [← hv, ← SavepointStore.storage_eq]
  rw [hu', hv']
  refine ⟨rfl, halike.own, halike.trace, ?_, fun f => ?_⟩
  · exact (UndoStore.faithful.size_eq hkeeps).trans (SavepointStore.faithful.size_eq hkeeps').symm
  · exact (UndoStore.faithful.claim_eq hkeeps f).trans
      (SavepointStore.faithful.claim_eq hkeeps' f).symm

end ProofOfExistence
