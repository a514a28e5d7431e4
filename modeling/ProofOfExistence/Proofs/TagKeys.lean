import Mathlib.Data.List.Lex
import Mathlib.Data.List.Sort
import ProofOfExistence.Metrics

/-!
# Tag keys and sets of tags

A tag key stands for a set of tags if it tells which tags are in the set, and if it does not depend
on the order in which they were written.  Neither holds of all tags.  A comma in a value reads like
the comma between two tags, and names that the dictionary takes for the same, such as names that
differ in a character that is never shown, keep the order in which they were written.

Both hold of plain tags (`Tags.IsPlain`): the dictionary tells their names apart, no name or value
has a comma and no name has an equals sign.

## Key results

- `Collation.lt_iff`: the dictionary order compares the keys of names as lists of lists of numbers
- `Tags.sorted_eq_of_perm`: sorting forgets the order of tags whose names are told apart
- `Tags.IsPlain.key_eq_iff`: plain tags have the same key exactly when they are the same set
-/

namespace ProofOfExistence

namespace Collation

/-! ## The dictionary order -/

theorem before_iff (as bs : List Nat) : before as bs = true ↔ as < bs := by
  induction as generalizing bs with
  | nil => cases bs <;> simp [before]
  | cons a as ih =>
    cases bs with
    | nil => simp [before]
    | cons b bs =>
      simp only [before, Bool.or_eq_true, Bool.and_eq_true, decide_eq_true_eq, ih,
        List.cons_lt_cons_iff]

theorem keysBefore_iff {as bs : List (List Nat)} (h : as.length = bs.length) :
    keysBefore as bs = true ↔ as < bs := by
  induction as generalizing bs with
  | nil =>
    obtain rfl := List.eq_nil_of_length_eq_zero h.symm
    simp [keysBefore]
  | cons a as ih =>
    cases bs with
    | nil => cases h
    | cons b bs =>
      have hlength : as.length = bs.length := Nat.succ.inj h
      simp only [keysBefore, Bool.or_eq_true, Bool.and_eq_true, decide_eq_true_eq, before_iff,
        ih hlength, List.cons_lt_cons_iff]

/-- A name comes before another when its keys do, as lists of lists of numbers. -/
theorem lt_iff (a b : Utf16) : lt a b = true ↔ keys a < keys b :=
  keysBefore_iff rfl

end Collation

namespace Tags

/-! ## Sorting -/

/-- The first name does not come after the second one. -/
def InOrder (t u : Utf16 × Utf16) : Prop := Collation.keys t.1 ≤ Collation.keys u.1

instance : DecidableRel InOrder :=
  fun t u => inferInstanceAs (Decidable (Collation.keys t.1 ≤ Collation.keys u.1))

instance : Std.Total InOrder := ⟨fun _ _ => le_total _ _⟩

instance : IsTrans (Utf16 × Utf16) InOrder := ⟨fun _ _ _ => le_trans⟩

theorem sorted_eq_insertionSort (tags : Tags) : tags.sorted = tags.insertionSort InOrder := by
  have hinsert (t : Utf16 × Utf16) (us : Tags) :
      insertByName t us = us.orderedInsert InOrder t := by
    induction us with
    | nil => rfl
    | cons u us ih =>
      rw [insertByName, List.orderedInsert, ih]
      by_cases hlt : Collation.lt u.1 t.1 = true
      · -- The new tag comes after this one.
        have hnot : ¬ InOrder t u := not_le.2 ((Collation.lt_iff _ _).1 hlt)
        rw [if_pos hlt, if_neg hnot]
      · -- The new tag goes before it.
        have hle : InOrder t u := not_lt.1 fun h => hlt ((Collation.lt_iff _ _).2 h)
        rw [if_neg hlt, if_pos hle]
  induction tags with
  | nil => rfl
  | cons t tags ih =>
    show insertByName t (Tags.sorted tags) =
      (List.insertionSort InOrder tags).orderedInsert InOrder t
    rw [ih, hinsert]

theorem sorted_perm (tags : Tags) : tags.sorted.Perm tags := by
  rw [sorted_eq_insertionSort]
  exact List.perm_insertionSort _ _

/-- The dictionary tells the names of the tags apart. -/
def ToldApart (tags : Tags) : Prop := (tags.map fun t => Collation.keys t.1).Nodup

instance (tags : Tags) : Decidable tags.ToldApart := inferInstanceAs (Decidable (List.Nodup _))

/-- Sorting forgets the order of tags whose names are told apart. -/
theorem sorted_eq_of_perm {tags tags' : Tags} (h : tags.ToldApart) (hperm : tags.Perm tags') :
    tags.sorted = tags'.sorted := by
  rw [sorted_eq_insertionSort, sorted_eq_insertionSort]
  refine List.Perm.eq_of_pairwise (fun t u ht hu htu hut => ?_) (List.pairwise_insertionSort _ _)
    (List.pairwise_insertionSort _ _)
    ((List.perm_insertionSort _ _).trans (hperm.trans (List.perm_insertionSort _ _).symm))
  have ht : t ∈ tags := (List.perm_insertionSort _ _).subset ht
  have hu : u ∈ tags := hperm.symm.subset ((List.perm_insertionSort _ _).subset hu)
  exact List.inj_on_of_nodup_map h ht hu (le_antisymm htu hut)

/-! ## Reading a key back -/

/-- The code unit of a comma. -/
def comma : UInt16 := 0x2C

/-- The code unit of an equals sign. -/
def equals : UInt16 := 0x3D

/-- Tags whose key can be read back. -/
structure IsPlain (tags : Tags) : Prop where
  toldApart : tags.ToldApart
  names : ∀ t ∈ tags, comma ∉ t.1.units ∧ equals ∉ t.1.units
  values : ∀ t ∈ tags, comma ∉ t.2.units

/-- The tags are the same set, whatever the order in which it was written. -/
def SameSet (tags tags' : Tags) : Prop := (∀ t ∈ tags, t ∈ tags') ∧ ∀ t ∈ tags', t ∈ tags

instance (tags tags' : Tags) : Decidable (tags.SameSet tags') := inferInstanceAs (Decidable (_ ∧ _))

theorem ToldApart.nodup {tags : Tags} (h : tags.ToldApart) : tags.Nodup :=
  List.Nodup.of_map _ h

theorem ToldApart.perm_iff {tags tags' : Tags} (h : tags.ToldApart) (h' : tags'.ToldApart) :
    tags.Perm tags' ↔ tags.SameSet tags' := by
  rw [List.perm_ext_iff_of_nodup h.nodup h'.nodup, SameSet, ← forall_and]
  exact forall_congr' fun t => iff_iff_implies_and_implies

theorem units_entryText (t : Utf16 × Utf16) :
    (entryText t).units = t.1.units ++ equals :: t.2.units :=
  List.append_assoc _ _ _

theorem units_key (tags : Tags) :
    tags.key.units = [comma].intercalate (tags.sorted.map fun t => (entryText t).units) := by
  show [comma].intercalate ((tags.sorted.map entryText).map Utf16.units) = _
  rw [List.map_map]
  rfl

/-- The tag that stands in a key. -/
def ofEntryUnits (units : List UInt16) : Utf16 × Utf16 :=
  (⟨units.takeWhile (· ≠ equals)⟩, ⟨(units.dropWhile (· ≠ equals)).tail⟩)

theorem ofEntryUnits_entryText {t : Utf16 × Utf16} (h : equals ∉ t.1.units) :
    ofEntryUnits (entryText t).units = t := by
  have hname : ∀ u ∈ t.1.units, decide (u ≠ equals) = true :=
    fun u hu => decide_eq_true fun heq => h (heq ▸ hu)
  rw [ofEntryUnits, units_entryText, List.takeWhile_append_of_pos hname,
    List.dropWhile_append_of_pos hname]
  simp

/-- The tags that a key spells. -/
def readKey (key : Utf16) : Tags :=
  if key.units = [] then [] else (key.units.splitOn comma).map ofEntryUnits

namespace IsPlain

variable {tags tags' : Tags}

/-- Reading a key gives the tags in the order of the dictionary. -/
theorem readKey_key (h : tags.IsPlain) : readKey tags.key = tags.sorted := by
  have hmem {t : Utf16 × Utf16} (ht : t ∈ tags.sorted) : t ∈ tags := tags.sorted_perm.subset ht
  have hunits := tags.units_key
  cases hsorted : tags.sorted with
  -- Without tags the key is empty.
  | nil =>
    have hempty : tags.key.units = [] := by
      rw [hunits, hsorted]
      rfl
    rw [readKey, if_pos hempty]
  | cons u us =>
    -- With tags it is not, since every tag has an equals sign.
    have hne : tags.key.units ≠ [] := by
      intro hempty
      rw [hempty, hsorted, List.map_cons, units_entryText] at hunits
      cases us <;> simp [List.intercalate] at hunits
    -- The commas of the key are those between its tags.
    have hsplit : tags.key.units.splitOn comma = tags.sorted.map fun t => (entryText t).units := by
      rw [hunits]
      refine List.splitOn_intercalate comma (fun text htext => ?_) (by simp [hsorted])
      obtain ⟨t, ht, rfl⟩ := List.mem_map.1 htext
      simp only [units_entryText, List.mem_append, List.mem_cons, not_or]
      exact ⟨(h.names t (hmem ht)).1, by decide, h.values t (hmem ht)⟩
    rw [readKey, if_neg hne, hsplit, ← hsorted, List.map_map]
    refine (List.map_congr_left fun t ht => ?_).trans (List.map_id _)
    exact ofEntryUnits_entryText (h.names t (hmem ht)).2

/-- Plain tags have the same key exactly when they are the same set. -/
theorem key_eq_iff (h : tags.IsPlain) (h' : tags'.IsPlain) :
    tags.key = tags'.key ↔ tags.SameSet tags' := by
  rw [← h.toldApart.perm_iff h'.toldApart]
  constructor
  · intro hkey
    have hsorted : tags.sorted = tags'.sorted := by
      rw [← h.readKey_key, hkey, h'.readKey_key]
    exact tags.sorted_perm.symm.trans (hsorted ▸ tags'.sorted_perm)
  · intro hperm
    rw [key, key, sorted_eq_of_perm h.toldApart hperm]

end IsPlain

end Tags

end ProofOfExistence
