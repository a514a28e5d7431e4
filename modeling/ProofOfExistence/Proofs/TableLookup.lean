import Mathlib.Data.List.Perm.Basic
import Mathlib.Data.List.Nodup
import ProofOfExistence.Table

/-!
# Tables that answer every lookup alike

Two tables with the same lookup function have the same entries up to their order, so they have the
same size.  `Table.mapKeys` renames the keys of a table along an injective function.

## Key results

- `size_eq_of_get?_eq`: tables that answer alike have the same size
- `size_insert`, `size_erase`: how writes change the size
- `get?_mapKeys`, `get?_mapKeys_insert`, `get?_mapKeys_erase`: lookups in a renamed table
-/

namespace ProofOfExistence.Table

variable {κ ν : Type}

/-! ## Same lookups, same size -/

theorem length_keys (t : Table κ ν) : t.keys.length = t.size := by
  simp only [keys, size, List.length_map]

section Size

variable [DecidableEq κ]

/-- A value is found at its key. -/
theorem mem_entries_iff (t : Table κ ν) (k : κ) (v : ν) :
    (k, v) ∈ t.entries ↔ t.get? k = some v := by
  obtain ⟨entries, hnodup⟩ := t
  show (k, v) ∈ entries ↔ valueAt k entries = some v
  induction entries with
  | nil => simp [valueAt]
  | cons e rest ih =>
    obtain ⟨he, hrest⟩ := List.nodup_cons.1 hnodup
    rw [List.mem_cons, valueAt, ih hrest]
    by_cases hk : e.1 = k
    · -- No later entry has this key.
      have hnone : valueAt k rest = none := by
        rw [← Option.not_isSome_iff_eq_none, isSome_valueAt]
        exact fun h => he (hk ▸ h)
      rw [if_pos hk, hnone, ← hk, Prod.ext_iff, Option.some.injEq]
      simp [eq_comm]
    · -- The entry has another key, so the search goes on.
      rw [if_neg hk, Prod.ext_iff]
      simp [Ne.symm hk]

/-- The keys of a table are those at which a value is found. -/
theorem mem_keys_iff (t : Table κ ν) (k : κ) : k ∈ t.keys ↔ (t.get? k).isSome = true :=
  (isSome_valueAt k t.entries).symm

/-- Tables that hold values at the same keys have the same size. -/
theorem size_eq_of_contains_eq {ν' : Type} {t : Table κ ν} {u : Table κ ν'}
    (h : ∀ k, t.contains k = u.contains k) : t.size = u.size := by
  have hmem : ∀ k, k ∈ t.keys ↔ k ∈ u.keys := by
    intro k
    rw [mem_keys_iff, mem_keys_iff, ← contains_eq, ← contains_eq, h]
  -- Neither list of keys has duplicates, so the same members make them permutations.
  have hperm : t.keys.Perm u.keys := (List.perm_ext_iff_of_nodup t.nodup u.nodup).2 hmem
  rw [← length_keys, ← length_keys]
  exact hperm.length_eq

/-- Tables that answer every lookup alike have the same size. -/
theorem size_eq_of_get?_eq {t u : Table κ ν} (h : ∀ k, t.get? k = u.get? k) :
    t.size = u.size :=
  size_eq_of_contains_eq fun k => congrArg Option.isSome (h k)

/-- Only a new key makes a table longer. -/
theorem size_insert (t : Table κ ν) (k : κ) (v : ν) :
    (t.insert k v).size = if t.contains k then t.size else t.size + 1 := by
  have hkeys : (t.insert k v).keys = if k ∈ t.keys then t.keys else t.keys ++ [k] :=
    map_fst_putEntry k v t.entries
  rw [← length_keys, hkeys]
  by_cases hmem : k ∈ t.keys
  · have hcontains : t.contains k = true := (mem_keys_iff t k).1 hmem
    rw [if_pos hmem, length_keys, if_pos hcontains]
  · have hcontains : ¬ t.contains k = true := fun h => hmem ((mem_keys_iff t k).2 h)
    rw [if_neg hmem, if_neg hcontains, List.length_append, length_keys, List.length_singleton]

/-- A key that is removed makes a table shorter by one. -/
theorem size_erase {t : Table κ ν} {k : κ} (h : t.contains k = true) :
    (t.erase k).size + 1 = t.size := by
  obtain ⟨v, hv⟩ := Option.isSome_iff_exists.1 h
  -- The key was the only one to go: writing its value again gives the old lookups.
  have hback : ((t.erase k).insert k v).size = t.size := by
    refine size_eq_of_get?_eq fun j => ?_
    rw [get?_insert, get?_erase]
    by_cases hj : j = k
    · rw [if_pos hj, hj, hv]
    · rw [if_neg hj, if_neg hj]
  have hgone : (t.erase k).contains k = false := by simp [contains_eq]
  rw [← hback, size_insert, hgone, if_neg Bool.false_ne_true]

/-- A key that is not there is removed without a change. -/
theorem erase_of_not_contains {t : Table κ ν} {k : κ} (h : t.contains k = false) :
    t.erase k = t := by
  have hentries : t.entries.filter (fun e => e.1 ≠ k) = t.entries := by
    refine List.filter_eq_self.2 fun e he => decide_eq_true fun heq => ?_
    have hmem : k ∈ t.keys := heq ▸ List.mem_map_of_mem he
    cases h.symm.trans ((mem_keys_iff t k).1 hmem)
  obtain ⟨entries, nodup⟩ := t
  simp only [erase, hentries]

end Size

/-! ## Renamed keys -/

section MapKeys

variable {κ' : Type} {g : κ → κ'}

/-- The table with its keys renamed along an injective function. -/
def mapKeys (g : κ → κ') (hg : Function.Injective g) (t : Table κ ν) : Table κ' ν where
  entries := t.entries.map fun e => (g e.1, e.2)
  nodup := by
    have hkeys : (t.entries.map fun e => (g e.1, e.2)).map Prod.fst = t.keys.map g := by
      simp only [keys, List.map_map, Function.comp_def]
    rw [hkeys]
    exact List.Nodup.map hg t.nodup

@[simp] theorem size_mapKeys (hg : Function.Injective g) (t : Table κ ν) :
    (t.mapKeys g hg).size = t.size := by
  simp only [size, mapKeys, List.length_map]

variable [DecidableEq κ] [DecidableEq κ']

private theorem valueAt_map (hg : Function.Injective g) (k : κ) (es : List (κ × ν)) :
    valueAt (g k) (es.map fun e => (g e.1, e.2)) = valueAt k es := by
  -- An entry matches under its new name exactly when it matched under the old one.
  induction es with
  | nil => rfl
  | cons e rest ih =>
    simp only [List.map_cons, valueAt, ih, hg.eq_iff]

omit [DecidableEq κ] in
private theorem valueAt_map_eq_none {j : κ'} (hj : ∀ k, g k ≠ j) (es : List (κ × ν)) :
    valueAt j (es.map fun e => (g e.1, e.2)) = none := by
  induction es with
  | nil => rfl
  | cons e rest ih =>
    simp only [List.map_cons, valueAt, hj, if_false, ih]

/-- A renamed key holds what the key held. -/
theorem get?_mapKeys (hg : Function.Injective g) (t : Table κ ν) (k : κ) :
    (t.mapKeys g hg).get? (g k) = t.get? k :=
  valueAt_map hg k t.entries

omit [DecidableEq κ] in
/-- A key that is no new name of any key holds nothing. -/
theorem get?_mapKeys_eq_none (hg : Function.Injective g) (t : Table κ ν) {j : κ'}
    (hj : ∀ k, g k ≠ j) : (t.mapKeys g hg).get? j = none :=
  valueAt_map_eq_none hj t.entries

/-- Lookups in a renamed table after a write. -/
theorem get?_mapKeys_insert (hg : Function.Injective g) (t : Table κ ν) (k : κ) (v : ν) (j : κ') :
    ((t.insert k v).mapKeys g hg).get? j =
      if j = g k then some v else (t.mapKeys g hg).get? j := by
  by_cases hj : ∃ i, g i = j
  · obtain ⟨i, rfl⟩ := hj
    simp only [get?_mapKeys, get?_insert, hg.eq_iff]
  · -- No key is renamed to `j`, the one that was written included.
    have hne : ∀ i, g i ≠ j := fun i hi => hj ⟨i, hi⟩
    rw [get?_mapKeys_eq_none hg _ hne, get?_mapKeys_eq_none hg _ hne,
      if_neg fun h => hne k h.symm]

/-- Lookups in a renamed table after a key was removed. -/
theorem get?_mapKeys_erase (hg : Function.Injective g) (t : Table κ ν) (k : κ) (j : κ') :
    ((t.erase k).mapKeys g hg).get? j =
      if j = g k then none else (t.mapKeys g hg).get? j := by
  by_cases hj : ∃ i, g i = j
  · obtain ⟨i, rfl⟩ := hj
    simp only [get?_mapKeys, get?_erase, hg.eq_iff]
  · have hne : ∀ i, g i ≠ j := fun i hi => hj ⟨i, hi⟩
    rw [get?_mapKeys_eq_none hg _ hne, get?_mapKeys_eq_none hg _ hne, ite_self]

end MapKeys

end ProofOfExistence.Table
