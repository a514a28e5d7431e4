/-! # Finite maps that remember the order of arrival

A `Table κ ν` maps keys to values and lists its entries in the order in which their keys first
arrived: writing to a key that is present keeps its place, erasing a key and writing it again moves
it to the end.  Claims, spent nonces, counters and the members of an object are tables.

The view of a table is its lookup function `get?`; each operation has one equation on it:

* `get?_empty`    `empty.get? k = none`
* `get?_insert`   `(t.insert k v).get? j = if j = k then some v else t.get? j`
* `get?_erase`    `(t.erase k).get? j = if j = k then none else t.get? j`

The invariant that no key occurs twice is carried as a proof field. -/

namespace ProofOfExistence

namespace Table

/-- Replace the value at `k`, or add the pair at the end if `k` does not occur. -/
def putEntry {κ ν : Type} [DecidableEq κ] (k : κ) (v : ν) : List (κ × ν) → List (κ × ν)
  | [] => [(k, v)]
  | e :: rest => if e.1 = k then (k, v) :: rest else e :: putEntry k v rest

/-- The value paired with `k`, if there is one. -/
def valueAt {κ ν : Type} [DecidableEq κ] (k : κ) : List (κ × ν) → Option ν
  | [] => none
  | e :: rest => if e.1 = k then some e.2 else valueAt k rest

end Table

/-- A finite map whose entries are listed in the order in which their keys first arrived. -/
structure Table (κ ν : Type) where
  /-- The pairs, oldest key first. -/
  entries : List (κ × ν)
  /-- No key is listed twice. -/
  nodup : (entries.map Prod.fst).Nodup

namespace Table

section Entries

variable {κ ν : Type} [DecidableEq κ]

theorem map_fst_putEntry (k : κ) (v : ν) (es : List (κ × ν)) :
    (putEntry k v es).map Prod.fst =
      if k ∈ es.map Prod.fst then es.map Prod.fst else es.map Prod.fst ++ [k] := by
  induction es with
  | nil => simp [putEntry]
  | cons e rest ih =>
    by_cases h : e.1 = k
    · simp [putEntry, h]
    · have h' : ¬ k = e.1 := fun hk => h hk.symm
      simp only [putEntry, h, if_false, List.map_cons, ih, List.mem_cons, h', false_or]
      split <;> simp

theorem nodup_putEntry {k : κ} {v : ν} {es : List (κ × ν)} (h : (es.map Prod.fst).Nodup) :
    ((putEntry k v es).map Prod.fst).Nodup := by
  rw [map_fst_putEntry]
  split
  · exact h
  · rename_i hk
    rw [List.nodup_append]
    refine ⟨h, by simp, ?_⟩
    intro a ha b hb hab
    rw [List.mem_singleton] at hb
    exact hk (hb ▸ hab ▸ ha)

theorem valueAt_putEntry (k j : κ) (v : ν) (es : List (κ × ν)) :
    valueAt j (putEntry k v es) = if j = k then some v else valueAt j es := by
  induction es with
  | nil => simp [putEntry, valueAt, eq_comm]
  | cons e rest ih => grind [putEntry, valueAt]

theorem valueAt_filter_ne (k j : κ) (es : List (κ × ν)) :
    valueAt j (es.filter fun e => e.1 ≠ k) = if j = k then none else valueAt j es := by
  induction es with
  | nil => simp [valueAt]
  | cons e rest ih => grind [valueAt]

/-- A value is found exactly at the keys that occur. -/
theorem isSome_valueAt (k : κ) (es : List (κ × ν)) :
    (valueAt k es).isSome = true ↔ k ∈ es.map Prod.fst := by
  induction es with
  | nil => simp [valueAt]
  | cons e rest ih => grind [valueAt]

end Entries

variable {κ ν : Type}

/-- The table without entries. -/
def empty : Table κ ν := ⟨[], by simp⟩

instance : Inhabited (Table κ ν) := ⟨empty⟩

/-- The number of entries. -/
def size (t : Table κ ν) : Nat := t.entries.length

/-- The keys, oldest first. -/
def keys (t : Table κ ν) : List κ := t.entries.map Prod.fst

/-- The values, in the order of their keys. -/
def values (t : Table κ ν) : List ν := t.entries.map Prod.snd

variable [DecidableEq κ]

/-- The value at a key. -/
def get? (t : Table κ ν) (k : κ) : Option ν := valueAt k t.entries

/-- Whether a key has a value. -/
def contains (t : Table κ ν) (k : κ) : Bool := (t.get? k).isSome

/-- Set the value at a key; a new key goes to the end, a known one keeps its place. -/
def insert (t : Table κ ν) (k : κ) (v : ν) : Table κ ν :=
  ⟨putEntry k v t.entries, nodup_putEntry t.nodup⟩

/-- Remove a key. -/
def erase (t : Table κ ν) (k : κ) : Table κ ν :=
  ⟨t.entries.filter fun e => e.1 ≠ k, (List.filter_sublist.map Prod.fst).nodup t.nodup⟩

/-- Set the value at a key when one is given, remove the key when none is. -/
def set? (t : Table κ ν) (k : κ) : Option ν → Table κ ν
  | some v => t.insert k v
  | none => t.erase k

@[simp] theorem get?_empty (k : κ) : (empty : Table κ ν).get? k = none := rfl

@[simp] theorem get?_insert (t : Table κ ν) (k j : κ) (v : ν) :
    (t.insert k v).get? j = if j = k then some v else t.get? j :=
  valueAt_putEntry k j v t.entries

@[simp] theorem get?_erase (t : Table κ ν) (k j : κ) :
    (t.erase k).get? j = if j = k then none else t.get? j :=
  valueAt_filter_ne k j t.entries

@[simp] theorem get?_set? (t : Table κ ν) (k j : κ) (v : Option ν) :
    (t.set? k v).get? j = if j = k then v else t.get? j := by
  cases v <;> simp [set?]

theorem contains_eq (t : Table κ ν) (k : κ) : t.contains k = (t.get? k).isSome := rfl

end Table

end ProofOfExistence
