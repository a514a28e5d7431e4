import ProofOfExistence.Proofs.TransactionalStore

/-!
# What a store keeps elsewhere

The view `elsewhere p` of a store is all that it keeps for other fingerprints than `p`: in its
records and in its undo logs, or in its durable claims and in every copy.  A write on `p` leaves the
view as it is, and so does a transaction in which nothing else was written, however it ends.  What a
rollback puts back elsewhere depends on the view alone, so stores that are alike elsewhere still are
after enclosing transactions were taken back.

Stores undo by key.  The views are about keys, and only the distinctness of keys
(`StorageKey.ofFingerprint_inj`) makes them say something about every other fingerprint.

## Key results

- `elsewhere_insert`, `elsewhere_remove`: a write on a fingerprint shows nowhere else
- `elsewhere_commit`, `elsewhere_rollback`: nor does a transaction that wrote nothing else
- `elsewhere_rollback_congr`: what is put back elsewhere depends on what was kept elsewhere
- `UndoStore.get?_of_elsewhere_eq`, `SavepointStore.get_congr`: what a view tells
- `UndoStore.get?_rollback`, `SavepointStore.shown_rollback`: what a rollback leaves alone
-/

namespace ProofOfExistence

/-! ## Tables -/

namespace Table

variable {κ ν : Type} [DecidableEq κ]

/-- What a table holds at all keys but one. -/
def elsewhere (key : κ) (t : Table κ ν) : κ → Option ν :=
  fun k => if k = key then none else t.get? k

variable {t u : Table κ ν} {key k : κ}

/-- Tables that are alike elsewhere answer alike elsewhere. -/
theorem get?_of_elsewhere_eq (h : u.elsewhere key = t.elsewhere key) (hk : k ≠ key) :
    u.get? k = t.get? k := by
  have hview := congrFun h k
  rwa [elsewhere, elsewhere, if_neg hk, if_neg hk] at hview

theorem elsewhere_eq_of_get?_eq (h : ∀ k, k ≠ key → u.get? k = t.get? k) :
    u.elsewhere key = t.elsewhere key := by
  funext k
  by_cases hk : k = key
  · rw [elsewhere, elsewhere, if_pos hk, if_pos hk]
  · rw [elsewhere, elsewhere, if_neg hk, if_neg hk, h k hk]

@[simp] theorem elsewhere_insert (t : Table κ ν) (key : κ) (v : ν) :
    (t.insert key v).elsewhere key = t.elsewhere key :=
  elsewhere_eq_of_get?_eq fun k hk => by rw [get?_insert, if_neg hk]

@[simp] theorem elsewhere_erase (t : Table κ ν) (key : κ) :
    (t.erase key).elsewhere key = t.elsewhere key :=
  elsewhere_eq_of_get?_eq fun k hk => by rw [get?_erase, if_neg hk]

end Table

/-! ## The store with undo logs -/

namespace UndoStore

/-- The entries of an undo log for other keys than one. -/
def entriesElsewhere (key : String) (log : List UndoEntry) : List UndoEntry :=
  log.filter fun e => e.key ≠ key

/-- A view of the records and of the entries in each undo log. -/
structure View where
  records : String → Option ClaimRecord
  undoLogs : List (List UndoEntry)

/-- What a store keeps for other fingerprints than one. -/
def elsewhere (p : Fingerprint) (s : UndoStore) : View :=
  let key := StorageKey.hexOfFingerprint p
  ⟨s.records.elsewhere key, s.undoLogs.map (entriesElsewhere key)⟩

variable {p q : Fingerprint} {s t u : UndoStore}

private theorem hexOfFingerprint_ne (hq : q ≠ p) :
    StorageKey.hexOfFingerprint q ≠ StorageKey.hexOfFingerprint p :=
  fun heq => hq (StorageKey.hexOfFingerprint_inj.1 heq)

/-- Stores that are alike elsewhere answer alike about every other fingerprint. -/
theorem get?_of_elsewhere_eq (h : t.elsewhere p = s.elsewhere p) (hq : q ≠ p) :
    t.get? q = s.get? q :=
  Table.get?_of_elsewhere_eq (congrArg View.records h) (hexOfFingerprint_ne hq)

/-! ### Writes -/

/-- What is noted for a key is no entry for another one. -/
theorem elsewhere_note (p : Fingerprint) (s : UndoStore) :
    (s.note (StorageKey.hexOfFingerprint p)).elsewhere p = s.elsewhere p := by
  obtain ⟨records, _ | ⟨log, outer⟩⟩ := s
  · rfl
  · simp [elsewhere, note, entriesElsewhere]

theorem elsewhere_insert (p : Fingerprint) (s : UndoStore) (r : ClaimRecord) :
    (s.insert p r).elsewhere p = s.elsewhere p := by
  rw [← elsewhere_note p s]
  simp only [insert, elsewhere, Table.elsewhere_insert]

theorem elsewhere_remove (p : Fingerprint) (s : UndoStore) :
    (s.remove p).elsewhere p = s.elsewhere p := by
  by_cases hclaimed : s.records.contains (StorageKey.hexOfFingerprint p) = true
  · rw [← elsewhere_note p s]
    simp only [remove, hclaimed, if_true, elsewhere, Table.elsewhere_erase]
  · simp only [remove, hclaimed, Bool.false_eq_true, if_false]

/-! ### Transactions -/

/-- At a key, playing back an undo log depends on its entries for other keys than a given one. -/
theorem get?_playBack_entriesElsewhere {key k : String} (hk : k ≠ key)
    (t : Table String ClaimRecord) (log : List UndoEntry) :
    (playBack t (entriesElsewhere key log)).get? k = (playBack t log).get? k := by
  -- Induction on the log, newest entry first.
  induction log generalizing t with
  | nil => rfl
  | cons e rest ih =>
    have hcons : playBack t (e :: rest) = playBack (t.set? e.key e.previous) rest := rfl
    rw [hcons, ← ih]
    by_cases hkey : e.key = key
    · -- What the entry puts back is not at `k`.
      have hdrop : entriesElsewhere key (e :: rest) = entriesElsewhere key rest := by
        simp [entriesElsewhere, hkey]
      rw [hdrop]
      refine get?_playBack_congr ?_ _
      rw [Table.get?_set?, if_neg fun heq => hk (heq.trans hkey)]
    · -- The entry is kept, and both sides put back the same.
      have hkeep : entriesElsewhere key (e :: rest) = e :: entriesElsewhere key rest := by
        simp [entriesElsewhere, hkey]
      rw [hkeep]
      rfl

/-- What is put back elsewhere depends on what was kept elsewhere. -/
theorem elsewhere_rollback_congr (h : t.elsewhere p = s.elsewhere p) :
    t.rollback.elsewhere p = s.rollback.elsewhere p := by
  obtain ⟨records, logs⟩ := s
  obtain ⟨records', logs'⟩ := t
  obtain ⟨hrecords, hlogs⟩ := View.mk.inj h
  rcases logs with _ | ⟨log, outer⟩
  · -- Without a transaction there is nothing to roll back.
    obtain rfl : logs' = [] := List.map_eq_nil_iff.1 hlogs
    exact h
  · -- The newest logs differ in entries for `p` only.
    obtain ⟨log', outer', rfl, hlog, houter⟩ := List.map_eq_cons_iff.1 hlogs
    refine congrArg₂ View.mk (Table.elsewhere_eq_of_get?_eq fun k hk => ?_) houter
    let entries := entriesElsewhere (StorageKey.hexOfFingerprint p)
    calc (playBack records' log').get? k
        = (playBack records' (entries log')).get? k :=
          (get?_playBack_entriesElsewhere hk records' log').symm
      _ = (playBack records' (entries log)).get? k :=
          congrArg (fun l => (playBack records' l).get? k) hlog
      _ = (playBack records (entries log)).get? k :=
          get?_playBack_congr (Table.get?_of_elsewhere_eq hrecords hk) _
      _ = (playBack records log).get? k := get?_playBack_entriesElsewhere hk records log

/-- A transaction that fails shows nowhere but where it wrote. -/
theorem elsewhere_rollback (h : u.elsewhere p = s.openTransaction.elsewhere p) :
    u.rollback.elsewhere p = s.elsewhere p :=
  elsewhere_rollback_congr h

/-- A transaction that succeeds shows nowhere but where it wrote. -/
theorem elsewhere_commit (h : u.elsewhere p = s.openTransaction.elsewhere p) :
    u.commit.elsewhere p = s.elsewhere p := by
  obtain ⟨records, logs⟩ := s
  obtain ⟨records', logs'⟩ := u
  obtain ⟨hrecords, hlogs⟩ := View.mk.inj h
  -- The log of the transaction has no entries elsewhere, so none go to the enclosing log.
  obtain ⟨log', outer', rfl, hlog, houter⟩ := List.map_eq_cons_iff.1 hlogs
  have hnil : entriesElsewhere (StorageKey.hexOfFingerprint p) log' = [] := hlog
  refine congrArg₂ View.mk ((congrArg (Table.elsewhere _) (records_commit _)).trans hrecords) ?_
  rcases logs with _ | ⟨enclosing, rest⟩
  · obtain rfl : outer' = [] := List.map_eq_nil_iff.1 houter
    rfl
  · obtain ⟨enclosing', rest', rfl, henclosing, hrest⟩ := List.map_eq_cons_iff.1 houter
    refine congrArg₂ List.cons ?_ hrest
    rw [entriesElsewhere, List.filter_append, ← entriesElsewhere, hnil]
    exact henclosing

/-- The undo log that a rollback plays back names no other key than that of `p`. -/
def UndoesOnly (p : Fingerprint) (s : UndoStore) : Prop :=
  ∀ e ∈ s.undoLogs.headD [], e.key = StorageKey.hexOfFingerprint p

/-- A rollback that puts back nothing but what was at one fingerprint shows nowhere else. -/
theorem get?_rollback (h : s.UndoesOnly p) (hq : q ≠ p) : s.rollback.get? q = s.get? q := by
  obtain ⟨records, _ | ⟨log, outer⟩⟩ := s
  · rfl
  · have hnil : entriesElsewhere (StorageKey.hexOfFingerprint p) log = [] :=
      List.filter_eq_nil_iff.2 fun e he hne => of_decide_eq_true hne (h e he)
    show (playBack records log).get? _ = records.get? _
    rw [← get?_playBack_entriesElsewhere (hexOfFingerprint_ne hq), hnil]
    rfl

end UndoStore

/-! ## The durable store with savepoints -/

namespace SavepointStore

/-- A view of the durable claims and, unless the store is closed, of the copy of each open
transaction. -/
structure View where
  durable : Bytes → Option ClaimRecord
  copies : Option (List (Bytes → Option ClaimRecord))

namespace View

variable {v : View}

/-- What is visible: the top copy, or the durable claims outside all transactions. -/
def shown (v : View) : Option (Bytes → Option ClaimRecord) :=
  v.copies.map fun copies => copies.headD v.durable

/-- The view after a transaction was opened. -/
def begun (v : View) : View := { v with copies := v.copies.map fun cs => cs.headD v.durable :: cs }

/-- The view after a transaction was taken back. -/
def rolledBack (v : View) : View := { v with copies := v.copies.map (List.drop 1) }

theorem rolledBack_begun (v : View) : v.begun.rolledBack = v := by
  obtain ⟨durable, _ | copies⟩ := v <;> rfl

/-- All copies are of the durable claims. -/
def Unwritten (v : View) : Prop :=
  ∀ copies, v.copies = some copies → ∀ copy ∈ copies, copy = v.durable

theorem Unwritten.rolledBack (h : v.Unwritten) : v.rolledBack.Unwritten := by
  intro copies hcopies copy hcopy
  obtain ⟨copies', hcopies', rfl⟩ := Option.map_eq_some_iff.1 hcopies
  exact h copies' hcopies' copy (List.mem_of_mem_drop hcopy)

theorem unwritten_begun : v.begun.Unwritten ↔ v.Unwritten := by
  refine ⟨fun h => rolledBack_begun v ▸ h.rolledBack, fun h copies hcopies copy hcopy => ?_⟩
  obtain ⟨below, hbelow, rfl⟩ := Option.map_eq_some_iff.1 hcopies
  have hold := h below hbelow
  rcases List.mem_cons.1 hcopy with rfl | hcopy
  · -- The new copy is of the one below it, or of the durable claims.
    cases below with
    | nil => rfl
    | cons top rest => exact hold top List.mem_cons_self
  · exact hold copy hcopy

end View

/-- What a store keeps for other fingerprints than one. -/
def elsewhere (p : Fingerprint) (s : SavepointStore) : View :=
  let key := StorageKey.ofFingerprint p
  ⟨s.durable.elsewhere key, s.session.map fun o => o.copies.map (Table.elsewhere key)⟩

variable {p q : Fingerprint} {s t u : SavepointStore} {o : StoreSession}

/-- What is visible elsewhere is what the top copy keeps there. -/
theorem elsewhere_visible (key : Bytes) (s : SavepointStore) (o : StoreSession) :
    (s.visible o).elsewhere key =
      (o.copies.map (Table.elsewhere key)).headD (s.durable.elsewhere key) := by
  unfold visible
  cases o.copies <;> rfl

theorem session_of_elsewhere_eq (h : t.elsewhere p = s.elsewhere p) (ho : s.session = some o) :
    ∃ o', t.session = some o' ∧
      o'.copies.map (Table.elsewhere (StorageKey.ofFingerprint p)) =
        o.copies.map (Table.elsewhere (StorageKey.ofFingerprint p)) := by
  have hcopies := congrArg View.copies h
  simp only [elsewhere, ho, Option.map_some] at hcopies
  exact Option.map_eq_some_iff.1 hcopies

theorem shown_elsewhere (p : Fingerprint) (s : SavepointStore) :
    (s.elsewhere p).shown =
      s.session.map fun o => (s.visible o).elsewhere (StorageKey.ofFingerprint p) := by
  simp only [elsewhere, View.shown, Option.map_map, Function.comp_def, elsewhere_visible]

/-- What depends on the visible claims elsewhere is answered alike by stores that show the same
there. -/
private theorem visible_congr {α : Type} {value : DurableClaims → α}
    (hvalue : ∀ claims claims' : DurableClaims,
      claims'.elsewhere (StorageKey.ofFingerprint p) =
        claims.elsewhere (StorageKey.ofFingerprint p) → value claims' = value claims)
    (h : (t.elsewhere p).shown = (s.elsewhere p).shown) :
    (do return value (t.visible (← t.opened)) : Except Fault α) =
      (do return value (s.visible (← s.opened))) := by
  rw [shown_elsewhere, shown_elsewhere] at h
  cases ho : s.session with
  | none =>
    rw [ho, Option.map_none, Option.map_eq_none_iff] at h
    simp only [SavepointStore.opened, ho, h]
    rfl
  | some o =>
    rw [ho, Option.map_some] at h
    obtain ⟨o', ho', hvisible⟩ := Option.map_eq_some_iff.1 h
    rw [opened_eq_ok.2 ho, opened_eq_ok.2 ho']
    exact congrArg Except.ok (hvalue _ _ hvisible)

private theorem ofFingerprint_ne (hq : q ≠ p) :
    StorageKey.ofFingerprint q ≠ StorageKey.ofFingerprint p :=
  fun heq => hq (StorageKey.ofFingerprint_inj.1 heq)

/-- Stores that show the same elsewhere answer alike about every other fingerprint. -/
theorem get_congr (h : (t.elsewhere p).shown = (s.elsewhere p).shown) (hq : q ≠ p) :
    transactional.get t q = transactional.get s q :=
  visible_congr (fun _ _ => fun hclaims =>
    Table.get?_of_elsewhere_eq hclaims (ofFingerprint_ne hq)) h

theorem contains_congr (h : (t.elsewhere p).shown = (s.elsewhere p).shown) (hq : q ≠ p) :
    transactional.contains t q = transactional.contains s q :=
  visible_congr (fun _ _ => fun hclaims => congrArg Option.isSome
    (Table.get?_of_elsewhere_eq hclaims (ofFingerprint_ne hq))) h

/-! ### Writes -/

theorem elsewhere_put (ho : s.session = some o) {claims : DurableClaims}
    (hclaims : claims.elsewhere (StorageKey.ofFingerprint p) =
      (s.visible o).elsewhere (StorageKey.ofFingerprint p)) :
    (s.put o claims).elsewhere p = s.elsewhere p := by
  rw [elsewhere_visible] at hclaims
  unfold put
  split
  · rename_i hcopies
    simp only [hcopies, List.map_nil, List.headD_nil] at hclaims
    simp only [elsewhere, ho, hclaims]
  · rename_i hcopies
    simp only [hcopies, List.map_cons, List.headD_cons] at hclaims
    simp only [elsewhere, ho, hcopies, Option.map_some, List.map_cons, hclaims]

theorem elsewhere_insert {r : ClaimRecord} (h : s.insert p r = .ok t) :
    t.elsewhere p = s.elsewhere p := by
  obtain ⟨o, ho, rfl⟩ := insert_cases h
  exact elsewhere_put ho (Table.elsewhere_insert _ _ _)

theorem elsewhere_remove (h : s.remove p = .ok t) : t.elsewhere p = s.elsewhere p := by
  obtain ⟨o, ho, ⟨-, rfl⟩ | ⟨-, rfl⟩⟩ := remove_cases h
  · exact elsewhere_put ho (Table.elsewhere_erase _ _)
  · rfl

/-! ### Transactions -/

theorem elsewhere_openTransaction (h : s.openTransaction = .ok t) :
    t.elsewhere p = (s.elsewhere p).begun := by
  obtain ⟨o, ho, rfl⟩ := openTransaction_cases h
  simp only [elsewhere, View.begun, ho, Option.map_some, List.map_cons, elsewhere_visible]

theorem elsewhere_rollback_eq (p : Fingerprint) (s : SavepointStore) :
    s.rollback.elsewhere p = (s.elsewhere p).rolledBack := by
  unfold rollback
  split
  · rename_i ho
    simp only [elsewhere, View.rolledBack, ho, Option.map_none]
  · rename_i o ho
    simp only [elsewhere, View.rolledBack, ho, Option.map_some, ← List.map_drop]
    -- Without an enclosing transaction no copy is left.
    split
    · rename_i hcopies
      simp only [Option.map_some, hcopies, StoreSession.idle]
    · rfl

/-- What is put back elsewhere depends on what was kept elsewhere. -/
theorem elsewhere_rollback_congr (h : t.elsewhere p = s.elsewhere p) :
    t.rollback.elsewhere p = s.rollback.elsewhere p := by
  rw [elsewhere_rollback_eq, elsewhere_rollback_eq, h]

/-- A transaction that fails shows nowhere but where it wrote. -/
theorem elsewhere_rollback (hopen : s.openTransaction = .ok t)
    (h : u.elsewhere p = t.elsewhere p) : u.rollback.elsewhere p = s.elsewhere p := by
  rw [elsewhere_rollback_eq, h, elsewhere_openTransaction hopen, View.rolledBack_begun]

/-- The copy that a rollback drops is, at all keys but that of `p`, the same as what it is on. -/
def UndoesOnly (p : Fingerprint) (s : SavepointStore) : Prop :=
  ∀ o, s.session = some o → ∀ k, k ≠ StorageKey.ofFingerprint p →
    (s.visible o).get? k = ((o.copies.drop 1).headD s.durable).get? k

/-- A rollback that takes back nothing but what was written on one fingerprint shows nowhere
else. -/
theorem shown_rollback (h : s.UndoesOnly p) :
    (s.rollback.elsewhere p).shown = (s.elsewhere p).shown := by
  rw [elsewhere_rollback_eq, shown_elsewhere]
  simp only [elsewhere, View.rolledBack, View.shown, Option.map_map, Function.comp_def]
  refine Option.map_congr fun o ho => ?_
  rw [Table.elsewhere_eq_of_get?_eq (h o ho), ← List.map_drop]
  cases o.copies.drop 1 <;> rfl

/-- A transaction that succeeds shows nowhere but where it wrote. -/
theorem elsewhere_commit (hopen : s.openTransaction = .ok t) (h : u.elsewhere p = t.elsewhere p) :
    ∃ u', u.commit = .ok u' ∧ u'.elsewhere p = s.elsewhere p := by
  obtain ⟨o, ho, rfl⟩ := openTransaction_cases hopen
  obtain ⟨⟨copies, wrote⟩, ho', hcopies⟩ := session_of_elsewhere_eq h rfl
  have hdurable : u.durable.elsewhere _ = s.durable.elsewhere _ := congrArg View.durable h
  obtain ⟨copy, outer, rfl, hcopy, houter⟩ := List.map_eq_cons_iff.1 hcopies
  rw [elsewhere_visible] at hcopy
  simp only [commit, opened_eq_ok.2 ho', bind, Except.bind, pure, Except.pure]
  rcases outer with _ | ⟨below, outer⟩
  · -- The transaction was an outermost one, so its copy was made of the durable claims.
    have hnil : o.copies = [] := List.map_eq_nil_iff.1 houter.symm
    rw [hnil, List.map_nil, List.headD_nil] at hcopy
    cases wrote with
    -- The copy becomes durable.
    | true =>
      refine ⟨_, rfl, ?_⟩
      simp only [elsewhere, ho, Option.map_some, hnil, hcopy, StoreSession.idle]
    -- The copy is dropped, and the durable claims were alike before.
    | false =>
      refine ⟨_, rfl, ?_⟩
      simp only [elsewhere, ho, Option.map_some, hnil, hdurable, StoreSession.idle]
  · -- The copy was made of the one below it, and takes its place.
    rw [← houter, List.map_cons, List.headD_cons] at hcopy
    refine ⟨_, rfl, ?_⟩
    simp only [elsewhere, ho, hdurable, Option.map_some, ← houter, List.map_cons, hcopy]

end SavepointStore

end ProofOfExistence
