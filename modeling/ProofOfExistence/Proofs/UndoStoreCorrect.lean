import ProofOfExistence.Proofs.TableLookup
import ProofOfExistence.Store.Undo

/-!
# Undo logs lead back

`UndoStore.Follows s t` says that `t` comes from `s` by operations whose transactions are all closed
again: the enclosing undo logs are those of `s` with newer entries on the innermost one, and playing
these entries back on `t` gives the records of `s`.  It is a preorder that every write keeps, so it
holds between the start and the end of whatever runs inside a transaction, and rolling back is then
exact.

## Key results

- `follows_insert`, `follows_remove`, `follows_commit`, `follows_rollback`: what each step keeps
- `get?_rollback_of_follows`: a transaction that fails leaves the records that it found
- `Represents`: the store as the text-keyed image of a finite map from fingerprints to claims
-/

namespace ProofOfExistence

/-- The claims on fingerprints, as a finite map. -/
abbrev Claims := Table Fingerprint ClaimRecord

namespace UndoStore

/-! ## Playing back -/

/-- What is played back at a key depends on the lookup of that key only. -/
theorem get?_playBack_congr {t u : Table String ClaimRecord} {k : String}
    (h : t.get? k = u.get? k) (log : List UndoEntry) :
    (playBack t log).get? k = (playBack u log).get? k := by
  -- Each entry sets the same key to the same value in both tables.
  induction log generalizing t u with
  | nil => exact h
  | cons e rest ih =>
    apply ih
    rw [Table.get?_set?, Table.get?_set?, h]

theorem playBack_append (t : Table String ClaimRecord) (newer older : List UndoEntry) :
    playBack t (newer ++ older) = playBack (playBack t newer) older :=
  List.foldl_append

/-! ## Enclosing undo logs -/

/-- The undo logs with newer entries on the innermost one.  Outside all transactions entries are
noted nowhere. -/
def noteAll (newer : List UndoEntry) : List (List UndoEntry) → List (List UndoEntry)
  | [] => []
  | log :: outer => (newer ++ log) :: outer

theorem noteAll_nil (logs : List (List UndoEntry)) : noteAll [] logs = logs := by
  cases logs <;> rfl

theorem noteAll_noteAll (newest newer : List UndoEntry) (logs : List (List UndoEntry)) :
    noteAll newest (noteAll newer logs) = noteAll (newest ++ newer) logs := by
  cases logs with
  | nil => rfl
  | cons log outer => simp only [noteAll, List.append_assoc]

theorem undoLogs_note (s : UndoStore) (key : String) :
    (s.note key).undoLogs = noteAll [⟨key, s.records.get? key⟩] s.undoLogs := by
  rcases s with ⟨records, logs⟩
  cases logs <;> rfl

/-! ## States between the start and the end of a computation -/

/-- `t` comes from `s` by operations whose transactions are all closed again. -/
def Follows (s t : UndoStore) : Prop :=
  ∃ log, t.undoLogs = noteAll log s.undoLogs ∧
    ∀ k, (playBack t.records log).get? k = s.records.get? k

theorem Follows.refl (s : UndoStore) : Follows s s :=
  ⟨[], (noteAll_nil _).symm, fun _ => rfl⟩

theorem Follows.trans {s t u : UndoStore} (hst : Follows s t) (htu : Follows t u) :
    Follows s u := by
  obtain ⟨older, holder, hback⟩ := hst
  obtain ⟨newer, hnewer, hback'⟩ := htu
  -- The newer entries stand in front and are played back first.
  refine ⟨newer ++ older, ?_, ?_⟩
  · rw [hnewer, holder, noteAll_noteAll]
  · intro k
    rw [playBack_append, get?_playBack_congr (hback' k) older, hback k]

/-- A write to a key whose old value is noted can be played back. -/
private theorem follows_of_write {s t : UndoStore} (key : String) (value : Option ClaimRecord)
    (hlogs : t.undoLogs = (s.note key).undoLogs)
    (hrecords : ∀ k, t.records.get? k = if k = key then value else s.records.get? k) :
    Follows s t := by
  refine ⟨[⟨key, s.records.get? key⟩], by rw [hlogs, undoLogs_note], ?_⟩
  -- Playing the one entry back overwrites what was written.
  intro k
  show (t.records.set? key (s.records.get? key)).get? k = s.records.get? k
  rw [Table.get?_set?, hrecords]
  by_cases hk : k = key
  · rw [if_pos hk, hk]
  · rw [if_neg hk, if_neg hk]

theorem follows_insert (s : UndoStore) (f : Fingerprint) (r : ClaimRecord) :
    Follows s (s.insert f r) := by
  refine follows_of_write (StorageKey.hexOfFingerprint f) (some r) rfl ?_
  intro k
  simp only [insert, records_note, Table.get?_insert]

theorem follows_remove (s : UndoStore) (f : Fingerprint) : Follows s (s.remove f) := by
  by_cases h : s.records.contains (StorageKey.hexOfFingerprint f) = true
  · simp only [remove, h, if_true]
    refine follows_of_write (StorageKey.hexOfFingerprint f) none rfl ?_
    intro k
    simp only [records_note, Table.get?_erase]
  · -- There is nothing to remove, so nothing is written and nothing noted.
    simp only [remove, h]
    exact Follows.refl s

theorem records_commit (s : UndoStore) : s.commit.records = s.records := by
  unfold commit
  split <;> rfl

/-- Whatever ran inside a transaction left its own undo log on top of those that were open. -/
private theorem undoLogs_of_follows_open {s t : UndoStore} {log : List UndoEntry}
    (h : t.undoLogs = noteAll log s.openTransaction.undoLogs) :
    t.undoLogs = log :: s.undoLogs := by
  rw [h]
  simp only [openTransaction, noteAll, List.append_nil]

/-- A transaction that succeeds hands its undo log to the enclosing one. -/
theorem follows_commit {s t : UndoStore} (h : Follows s.openTransaction t) :
    Follows s t.commit := by
  obtain ⟨log, hlogs, hback⟩ := h
  have hopen := undoLogs_of_follows_open hlogs
  -- The log goes in front of the entries of the enclosing transaction, as `noteAll` puts it.
  refine ⟨log, ?_, ?_⟩
  · unfold commit
    rw [hopen]
    rcases s with ⟨records, logs⟩
    cases logs <;> rfl
  · intro k
    rw [records_commit]
    exact hback k

/-- Rolling back what ran inside a transaction gives back every record. -/
theorem get?_records_rollback {s t : UndoStore} (h : Follows s.openTransaction t) (k : String) :
    t.rollback.records.get? k = s.records.get? k := by
  obtain ⟨log, hlogs, hback⟩ := h
  unfold rollback
  rw [undoLogs_of_follows_open hlogs]
  exact hback k

/-- Rolling back what ran inside a transaction gives back the enclosing undo logs. -/
theorem undoLogs_rollback {s t : UndoStore} (h : Follows s.openTransaction t) :
    t.rollback.undoLogs = s.undoLogs := by
  obtain ⟨log, hlogs, -⟩ := h
  unfold rollback
  rw [undoLogs_of_follows_open hlogs]

/-- A transaction that fails leaves no trace. -/
theorem follows_rollback {s t : UndoStore} (h : Follows s.openTransaction t) :
    Follows s t.rollback :=
  ⟨[], by rw [undoLogs_rollback h, noteAll_nil], get?_records_rollback h⟩

/-- A transaction that fails leaves the claims that it found. -/
theorem get?_rollback_of_follows {s t : UndoStore} (h : Follows s.openTransaction t)
    (f : Fingerprint) : t.rollback.get? f = s.get? f :=
  get?_records_rollback h _

/-! ## The finite map that a store stands for -/

private theorem hexOfFingerprint_injective : Function.Injective StorageKey.hexOfFingerprint :=
  fun _ _ h => StorageKey.hexOfFingerprint_inj.1 h

/-- Claims under the texts of their storage keys. -/
def byKey (claims : Claims) : Table String ClaimRecord :=
  claims.mapKeys StorageKey.hexOfFingerprint hexOfFingerprint_injective

/-- A store with given claims and no open transaction. -/
def ofClaims (claims : Claims) : UndoStore := ⟨byKey claims, []⟩

/-- The store keeps exactly these claims: at every key it holds what the claims say. -/
def Represents (s : UndoStore) (claims : Claims) : Prop :=
  ∀ key, s.records.get? key = (byKey claims).get? key

theorem represents_ofClaims (claims : Claims) : (ofClaims claims).Represents claims :=
  fun _ => rfl

variable {s t : UndoStore} {claims : Claims}

theorem Represents.get?_eq (h : s.Represents claims) (f : Fingerprint) :
    s.get? f = claims.get? f := by
  unfold get?
  rw [h, byKey, Table.get?_mapKeys]

theorem Represents.contains_eq (h : s.Represents claims) (f : Fingerprint) :
    s.contains f = claims.contains f := by
  rw [UndoStore.contains_eq, h.get?_eq, Table.contains_eq]

/-- The store keeps as many records as there are claims. -/
theorem Represents.size_eq (h : s.Represents claims) : s.size = claims.size := by
  unfold size
  rw [Table.size_eq_of_get?_eq h, byKey, Table.size_mapKeys]

/-- Only the records matter. -/
theorem Represents.of_records (h : s.Represents claims)
    (hrecords : ∀ key, t.records.get? key = s.records.get? key) : t.Represents claims :=
  fun key => (hrecords key).trans (h key)

theorem Represents.insert (h : s.Represents claims) (f : Fingerprint) (r : ClaimRecord) :
    (s.insert f r).Represents (claims.insert f r) := by
  intro key
  rw [byKey, Table.get?_mapKeys_insert, ← byKey, ← h key]
  simp only [UndoStore.insert, records_note, Table.get?_insert]

theorem Represents.remove (h : s.Represents claims) (f : Fingerprint) :
    (s.remove f).Represents (claims.erase f) := by
  intro key
  rw [byKey, Table.get?_mapKeys_erase, ← byKey, ← h key]
  by_cases hf : s.records.contains (StorageKey.hexOfFingerprint f) = true
  · simp only [UndoStore.remove, hf, if_true, records_note, Table.get?_erase]
  · simp only [UndoStore.remove, hf]
    -- Nothing was there to remove, so the key held nothing before either.
    have hnone : s.records.get? (StorageKey.hexOfFingerprint f) = none := by
      simpa [Table.contains_eq] using hf
    by_cases hkey : key = StorageKey.hexOfFingerprint f
    · rw [if_pos hkey, hkey]
      exact hnone
    · rw [if_neg hkey]
      rfl

theorem Represents.commit (h : s.Represents claims) : s.commit.Represents claims :=
  h.of_records fun _ => by rw [records_commit]

/-- A transaction that fails gives back the claims of its start. -/
theorem Represents.rollback (h : s.Represents claims) (ht : Follows s.openTransaction t) :
    t.rollback.Represents claims :=
  h.of_records (get?_records_rollback ht)

end UndoStore

end ProofOfExistence
