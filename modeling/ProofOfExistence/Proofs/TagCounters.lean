import Mathlib.Algebra.BigOperators.Group.List.Basic
import Mathlib.Algebra.Order.BigOperators.Group.List
import Mathlib.Algebra.Order.Group.Nat
import Mathlib.Algebra.Ring.Int.Defs
import Mathlib.Algebra.Ring.Nat
import Mathlib.Data.List.Induction
import ProofOfExistence.Proofs.RunRelations
import ProofOfExistence.Proofs.TableLookup
import ProofOfExistence.Proofs.TagKeys

/-!
# Counters add up the counts of each set of tags

Counters are raised under names and tags, dropped and raised again, while adapters are told of each
count and may fail.  What a counter shows depends on the counts since the last reset only
(`CounterMove.standing`): under tags it is the sum of the counts with the same name and tag key,
added up in the order in which they were made and rounded as binary64 numbers are.

The sums are exact as long as the magnitudes add up to at most `2 ^ 53`, and where tags are plain a
key stands for a set of tags (`Tags.IsPlain`), so that the samples of a counter are the sums of the
sets of tags it was raised with (`Metrics.ShowsSets`).

## Key results

- `Metrics.get?_recordAllCalls`: the sample of a name and a tag key after some counts
- `CounterMove.sums_by_tag_set`: what counters show after any moves
- `CounterMove.comma_counted_with_set`: tags with a comma are counted with other tags
-/

namespace ProofOfExistence

/-! ## Sums -/

namespace Number

/-- The number that adding up integers gives, one after the other. -/
def runningSum : List Int → Number
  | [] => 0
  | n :: rest => rest.foldl (fun sum k => sum + ofInt k) (ofInt n)

/-- A running sum is exact while the magnitudes add up to at most `2 ^ 53`. -/
theorem foldl_add_ofInt {start : Int} {ns : List Int}
    (h : start.natAbs + (ns.map Int.natAbs).sum ≤ maxSafeInteger + 1) :
    ns.foldl (fun sum k => sum + ofInt k) (ofInt start) = ofInt (start + ns.sum) := by
  induction ns generalizing start with
  | nil => rw [List.foldl_nil, List.sum_nil, Int.add_zero]
  | cons n rest ih =>
    rw [List.map_cons, List.sum_cons] at h
    rw [List.foldl_cons, ofInt_add (by omega), ih (by omega), List.sum_cons, Int.add_assoc]

theorem runningSum_eq {ns : List Int} (h : (ns.map Int.natAbs).sum ≤ maxSafeInteger + 1) :
    runningSum ns = ofInt ns.sum := by
  cases ns with
  | nil => rfl
  | cons n rest =>
    rw [List.map_cons, List.sum_cons] at h
    rw [runningSum, foldl_add_ofInt h, List.sum_cons]

end Number

/-- A sum is the sum of the sums of its groups. -/
private theorem sum_groups {α κ M : Type} [DecidableEq κ] [AddCommMonoid M] (key : α → κ)
    (f : α → M) {ks : List κ} (hks : ks.Nodup) {as : List α} (h : ∀ a ∈ as, key a ∈ ks) :
    (ks.map fun k => ((as.filter fun a => key a = k).map f).sum).sum = (as.map f).sum := by
  induction as with
  | nil => simp
  | cons a as ih =>
    obtain ⟨ha, has⟩ := List.forall_mem_cons.1 h
    have hgroup (k : κ) : (((a :: as).filter fun a => key a = k).map f).sum =
        (if key a = k then f a else 0) + ((as.filter fun a => key a = k).map f).sum := by
      by_cases hk : key a = k <;> simp [hk]
    -- The first item is in one group.
    have hone : (ks.map fun k => if key a = k then f a else 0).sum = f a := by
      rw [List.sum_map_eq_nsmul_single (key a) _ fun k hk _ => if_neg hk.symm,
        List.count_eq_one_of_mem hks ha, if_pos rfl, one_nsmul]
    simp only [hgroup]
    rw [List.sum_map_add, hone, ih has, List.map_cons, List.sum_cons]

/-! ## Counts and their samples -/

/-- A count as it is asked for. -/
structure CountCall where
  name : Utf16
  tags : Option Tags
  amount : Int

/-- The set of tags of a sample, which is empty if it has none. -/
def Sample.tagSet (s : Sample) : Tags := s.tags.getD []

namespace CountCall

/-- The set of tags of a count, which is empty if it has none. -/
def tagSet (c : CountCall) : Tags := c.tags.getD []

/-- The sample that counts with one name and one tag key make: their running sum, with the tags of
the first one. -/
def sample? : List CountCall → Option Sample
  | [] => none
  | c :: rest => some ⟨Number.runningSum ((c :: rest).map amount), c.tags⟩

theorem of_sample? {calls : List CountCall} {s : Sample} (h : sample? calls = some s) :
    s.value = Number.runningSum (calls.map amount) ∧ ∃ c ∈ calls, s.tags = c.tags := by
  cases calls with
  | nil => cases h
  | cons c rest =>
    rw [← Option.some.inj h]
    exact ⟨rfl, c, List.mem_cons_self, rfl⟩

theorem exists_sample? {calls : List CountCall} {c : CountCall} (h : c ∈ calls) :
    ∃ s, sample? calls = some s := by
  cases calls with
  | nil => cases h
  | cons first rest => exact ⟨_, rfl⟩

/-- One more count raises the sample, or makes one. -/
private theorem sample?_concat (calls : List CountCall) (c : CountCall) :
    sample? (calls ++ [c]) = some (match sample? calls with
      | some s => { s with value := s.value + .ofInt c.amount }
      | none => ⟨.ofInt c.amount, c.tags⟩) := by
  cases calls with
  | nil => rfl
  | cons first rest => simp [sample?, Number.runningSum, List.foldl_append]

/-- The counts with one name. -/
def ofName (name : Utf16) (calls : List CountCall) : List CountCall :=
  calls.filter fun c => c.name = name

/-- The counts with one tag key. -/
def ofKey (key : Utf16) (calls : List CountCall) : List CountCall :=
  calls.filter fun c => c.tagSet.key = key

/-- The counts with one set of tags. -/
def ofSet (tags : Tags) (calls : List CountCall) : List CountCall :=
  calls.filter fun c => c.tagSet.SameSet tags

/-- The sum of some counts. -/
def sum (calls : List CountCall) : Int := (calls.map amount).sum

/-- The magnitudes of some counts, added up. -/
def magnitude (calls : List CountCall) : Nat := (calls.map fun c => c.amount.natAbs).sum

theorem natAbs_sum_le (calls : List CountCall) : (sum calls).natAbs ≤ magnitude calls := by
  induction calls with
  | nil => rfl
  | cons c rest ih =>
    rw [sum, magnitude, List.map_cons, List.map_cons, List.sum_cons, List.sum_cons]
    rw [sum, magnitude] at ih
    omega

theorem magnitude_filter_le (p : CountCall → Bool) (calls : List CountCall) :
    magnitude (calls.filter p) ≤ magnitude calls :=
  (List.filter_sublist.map _).sum_le_sum fun _ _ => Nat.zero_le _

theorem runningSum_amounts {calls : List CountCall} (h : magnitude calls ≤ maxSafeInteger + 1) :
    Number.runningSum (calls.map amount) = .ofInt (sum calls) := by
  refine Number.runningSum_eq ?_
  rwa [List.map_map]

end CountCall

open CountCall

namespace Metrics

variable {κ : Type}

/-- Record a count. -/
def recordCall (m : Metrics κ) (c : CountCall) : Metrics κ :=
  m.record c.name c.tags (.ofInt c.amount)

/-- The sample of a name and a tag key. -/
def sampleAt (m : Metrics κ) (name key : Utf16) : Option Sample :=
  (m.counters.get? name).bind (·.get? key)

/-- A count raises the sample of its name and tag key and leaves all others. -/
theorem sampleAt_recordCall (m : Metrics κ) (c : CountCall) (name key : Utf16) :
    (m.recordCall c).sampleAt name key =
      if name = c.name ∧ key = c.tagSet.key then
        some (match m.sampleAt name key with
          | some s => { s with value := s.value + .ofInt c.amount }
          | none => ⟨.ofInt c.amount, c.tags⟩)
      else m.sampleAt name key := by
  unfold sampleAt recordCall record tagKey tagSet
  by_cases hname : name = c.name
  · subst hname
    rw [Table.get?_insert, if_pos rfl, Option.bind_some, Table.get?_insert]
    by_cases hkey : key = Tags.key (c.tags.getD [])
    · rw [if_pos hkey, if_pos ⟨rfl, hkey⟩, hkey]
      cases m.counters.get? c.name <;> rfl
    · rw [if_neg hkey, if_neg fun h => hkey h.2]
      cases m.counters.get? c.name <;> rfl
  · rw [Table.get?_insert, if_neg hname, if_neg fun h => hname h.1]

/-- There are counters under the names of the counts. -/
theorem isSome_get?_recordCall (m : Metrics κ) (c : CountCall) (name : Utf16) :
    ((m.recordCall c).counters.get? name).isSome =
      (decide (name = c.name) || (m.counters.get? name).isSome) := by
  unfold recordCall record
  by_cases hname : name = c.name <;> simp [hname]

/-- The counters after some counts. -/
def recordAllCalls (calls : List CountCall) : Metrics κ := calls.foldl recordCall .empty

theorem recordAllCalls_concat (calls : List CountCall) (c : CountCall) :
    (recordAllCalls (calls ++ [c]) : Metrics κ) = (recordAllCalls calls).recordCall c := by
  simp [recordAllCalls]

/-- The sample of a name and a tag key after some counts is that of the counts with both. -/
theorem sampleAt_recordAllCalls (calls : List CountCall) (name key : Utf16) :
    (recordAllCalls calls : Metrics κ).sampleAt name key =
      sample? (ofKey key (ofName name calls)) := by
  induction calls using List.reverseRecOn with
  | nil => rfl
  | append_singleton calls c ih =>
    rw [recordAllCalls_concat, sampleAt_recordCall, ih]
    by_cases hboth : name = c.name ∧ key = c.tagSet.key
    · obtain ⟨rfl, rfl⟩ := hboth
      rw [if_pos ⟨rfl, rfl⟩, ← sample?_concat]
      simp [ofKey, ofName]
    · rw [if_neg hboth]
      by_cases hname : c.name = name
      · have hkey : c.tagSet.key ≠ key := fun hkey => hboth ⟨hname.symm, hkey.symm⟩
        simp [ofKey, ofName, hname, hkey]
      · simp [ofKey, ofName, hname]

theorem isSome_get?_recordAllCalls (calls : List CountCall) (name : Utf16) :
    ((recordAllCalls calls : Metrics κ).counters.get? name).isSome = true ↔
      ofName name calls ≠ [] := by
  induction calls using List.reverseRecOn with
  | nil => simp [recordAllCalls, ofName, empty]
  | append_singleton calls c ih =>
    rw [recordAllCalls_concat, isSome_get?_recordCall, Bool.or_eq_true, ih]
    by_cases hname : name = c.name
    · simp [ofName, hname]
    · simp [ofName, hname, Ne.symm hname]

/-! ## What counters show -/

/-- Under tags a counter shows the running sum of the counts with its name and their key. -/
theorem total_recordAllCalls (calls : List CountCall) (name : Utf16) (tags : Tags) :
    (recordAllCalls calls : Metrics κ).total name (some tags) =
      Number.runningSum ((ofKey tags.key (ofName name calls)).map amount) := by
  have htotal (m : Metrics κ) :
      m.total name (some tags) = ((m.sampleAt name tags.key).map Sample.value).getD 0 := by
    unfold total sampleAt
    cases m.counters.get? name <;> rfl
  rw [htotal, sampleAt_recordAllCalls]
  cases ofKey tags.key (ofName name calls) <;> rfl

theorem mem_snapshot_iff (m : Metrics κ) (name : Utf16) (samples : List Sample) :
    (name, samples) ∈ m.snapshot ↔ name ≠ unshownName ∧
      ∃ table, m.counters.get? name = some table ∧ samples = table.values := by
  simp only [snapshot, List.mem_map, List.mem_filter, decide_eq_true_eq, Prod.mk.injEq]
  constructor
  · rintro ⟨e, ⟨he, hshown⟩, rfl, rfl⟩
    exact ⟨hshown, e.2, (Table.mem_entries_iff _ _ _).1 he, rfl⟩
  · rintro ⟨hshown, table, htable, rfl⟩
    exact ⟨(name, table), ⟨(Table.mem_entries_iff _ _ _).2 htable, hshown⟩, rfl, rfl⟩

section Entries

variable {calls : List CountCall} {name : Utf16} {table : Table Utf16 Sample}
  (htable : (recordAllCalls calls : Metrics κ).counters.get? name = some table)
include htable

/-- The samples of a snapshot are those of the tag keys that were used. -/
theorem mem_entries_recordAllCalls (key : Utf16) (s : Sample) :
    (key, s) ∈ table.entries ↔ sample? (ofKey key (ofName name calls)) = some s := by
  rw [Table.mem_entries_iff, ← sampleAt_recordAllCalls (κ := κ), sampleAt, htable, Option.bind_some]

/-- Every count has a sample under its own key. -/
theorem exists_entry_of_mem {c : CountCall} (hc : c ∈ ofName name calls) :
    ∃ s, (c.tagSet.key, s) ∈ table.entries := by
  have hmem : c ∈ ofKey c.tagSet.key (ofName name calls) :=
    List.mem_filter.2 ⟨hc, decide_eq_true rfl⟩
  obtain ⟨s, hs⟩ := exists_sample? hmem
  exact ⟨s, (mem_entries_recordAllCalls htable _ s).2 hs⟩

/-- A sample shows the sum of the counts with its key. -/
theorem value_of_mem_entries (hsmall : magnitude (ofName name calls) ≤ maxSafeInteger + 1)
    {e : Utf16 × Sample} (he : e ∈ table.entries) :
    e.2.value = .ofInt (sum (ofKey e.1 (ofName name calls))) := by
  have hsample := (mem_entries_recordAllCalls htable e.1 e.2).1 he
  have hgroup : magnitude (ofKey e.1 (ofName name calls)) ≤ maxSafeInteger + 1 :=
    (magnitude_filter_le _ _).trans hsmall
  rw [← runningSum_amounts hgroup]
  exact (of_sample? hsample).1

end Entries

/-- Without tags a counter shows the sum of all counts with its name. -/
theorem total_none_recordAllCalls {calls : List CountCall} {name : Utf16}
    (hsmall : magnitude (ofName name calls) ≤ maxSafeInteger + 1) :
    (recordAllCalls calls : Metrics κ).total name none = .ofInt (sum (ofName name calls)) := by
  have hused := isSome_get?_recordAllCalls (κ := κ) calls name
  unfold total
  cases htable : (recordAllCalls calls : Metrics κ).counters.get? name with
  | none =>
    -- The counter was never raised, so the sum is empty.
    rw [htable] at hused
    have hnone : ofName name calls = [] := not_not.1 fun h => Bool.false_ne_true (hused.2 h)
    rw [hnone]
    rfl
  | some table =>
    -- One sample for each tag key, which shows the sum of its group.
    have hvalues : table.values.map Sample.value =
        (table.keys.map fun key => sum (ofKey key (ofName name calls))).map Number.ofInt := by
      rw [Table.values, Table.keys, List.map_map, List.map_map, List.map_map]
      exact List.map_congr_left fun e he => value_of_mem_entries htable hsmall he
    -- Every count is in the group of its own key.
    have hkeys : ∀ c ∈ ofName name calls, c.tagSet.key ∈ table.keys := by
      intro c hc
      obtain ⟨s, hs⟩ := exists_entry_of_mem htable hc
      exact List.mem_map_of_mem hs
    -- The sums of the groups add up to the whole sum.
    have hsum : (table.keys.map fun key => sum (ofKey key (ofName name calls))).sum =
        sum (ofName name calls) :=
      sum_groups (fun c : CountCall => c.tagSet.key) amount table.nodup hkeys
    -- None of the sums on the way is too large to be exact.
    have hbound : (0 : Int).natAbs + ((table.keys.map fun key =>
        sum (ofKey key (ofName name calls))).map Int.natAbs).sum ≤ maxSafeInteger + 1 := by
      have hgroups := sum_groups (fun c : CountCall => c.tagSet.key) (fun c => c.amount.natAbs)
        table.nodup hkeys
      rw [List.map_map, Int.natAbs_zero, Nat.zero_add]
      exact (List.sum_le_sum fun key _ => natAbs_sum_le _).trans (hgroups.trans_le hsmall)
    show table.values.foldl (fun sum s => sum + s.value) 0 = _
    rw [← List.foldl_map (f := Sample.value) (g := fun x y => x + y), hvalues, List.foldl_map]
    refine (Number.foldl_add_ofInt hbound).trans ?_
    rw [hsum, Int.zero_add]

/-! ## Sets of tags -/

variable {calls : List CountCall} {name : Utf16}

/-- Plain tags with one key are one set of tags. -/
theorem ofKey_eq_ofSet (hplain : ∀ c ∈ calls, c.tagSet.IsPlain) {tags : Tags}
    (htags : tags.IsPlain) : ofKey tags.key calls = ofSet tags calls := by
  refine List.filter_congr fun c hc => ?_
  rw [decide_eq_decide]
  exact (hplain c hc).key_eq_iff htags

/-- Each sample of a list shows the sum of the counts with its set of tags, and each set of tags
that was counted with has one sample. -/
structure SumsSets (samples : List Sample) (calls : List CountCall) : Prop where
  distinct : samples.Pairwise fun s t => ¬ s.tagSet.SameSet t.tagSet
  used : ∀ c ∈ calls, ∃ s ∈ samples, s.tagSet.SameSet c.tagSet
  carried : ∀ s ∈ samples, ∃ c ∈ calls, s.tags = c.tags
  value : ∀ s ∈ samples, s.value = .ofInt (sum (ofSet s.tagSet calls))

/-- A counter shows the sums of the sets of tags that it was raised with. -/
structure ShowsSets (m : Metrics κ) (name : Utf16) (calls : List CountCall) : Prop where
  all : m.total name none = .ofInt (sum calls)
  ofTags : ∀ tags : Tags, tags.IsPlain →
    m.total name (some tags) = .ofInt (sum (ofSet tags calls))
  samples : ∀ samples, (name, samples) ∈ m.snapshot → SumsSets samples calls

/-- A sample of a counter has tags that it was raised with, with the key of the sample. -/
private theorem key_of_mem_entries {table : Table Utf16 Sample}
    (htable : (recordAllCalls calls : Metrics κ).counters.get? name = some table)
    {e : Utf16 × Sample} (he : e ∈ table.entries) :
    ∃ c ∈ ofName name calls, e.2.tags = c.tags ∧ e.1 = c.tagSet.key := by
  obtain ⟨-, c, hc, htags⟩ := of_sample? ((mem_entries_recordAllCalls htable e.1 e.2).1 he)
  obtain ⟨hc, hkey⟩ := List.mem_filter.1 hc
  exact ⟨c, hc, htags, (of_decide_eq_true hkey).symm⟩

private theorem sumsSets_recordAllCalls (hplain : ∀ c ∈ ofName name calls, c.tagSet.IsPlain)
    (hsmall : magnitude (ofName name calls) ≤ maxSafeInteger + 1) {table : Table Utf16 Sample}
    (htable : (recordAllCalls calls : Metrics κ).counters.get? name = some table) :
    SumsSets table.values (ofName name calls) := by
  -- Each key of the table is that of the tags of its sample.
  have hsample {e : Utf16 × Sample} (he : e ∈ table.entries) :
      e.2.tagSet.IsPlain ∧ e.1 = e.2.tagSet.key := by
    obtain ⟨c, hc, htags, hkey⟩ := key_of_mem_entries htable he
    have htagSet : e.2.tagSet = c.tagSet := congrArg (Option.getD · []) htags
    rw [htagSet]
    exact ⟨hplain c hc, hkey⟩
  refine ⟨?_, fun c hc => ?_, fun s hs => ?_, fun s hs => ?_⟩
  · -- Two samples do not have the same tags, since they do not have the same key.
    refine List.pairwise_map.2 ((List.pairwise_map.1 table.nodup).imp_of_mem ?_)
    intro e f he hf hne hsame
    obtain ⟨he, hkey⟩ := hsample he
    obtain ⟨hf, hkey'⟩ := hsample hf
    exact hne (hkey.trans (((he.key_eq_iff hf).2 hsame).trans hkey'.symm))
  · -- Every count has a sample with its tags.
    obtain ⟨s, he⟩ := exists_entry_of_mem htable hc
    obtain ⟨hplain', hkey⟩ := hsample he
    exact ⟨s, List.mem_map_of_mem he, (hplain'.key_eq_iff (hplain c hc)).1 hkey.symm⟩
  · -- Every sample is one of a count.
    obtain ⟨e, he, rfl⟩ := List.mem_map.1 hs
    obtain ⟨c, hc, htags, -⟩ := key_of_mem_entries htable he
    exact ⟨c, hc, htags⟩
  · -- A sample shows the sum of the counts with its tags.
    obtain ⟨e, he, rfl⟩ := List.mem_map.1 hs
    obtain ⟨hplain', hkey⟩ := hsample he
    rw [value_of_mem_entries htable hsmall he, hkey, ofKey_eq_ofSet hplain hplain']

theorem showsSets_recordAllCalls (hplain : ∀ c ∈ ofName name calls, c.tagSet.IsPlain)
    (hsmall : magnitude (ofName name calls) ≤ maxSafeInteger + 1) :
    (recordAllCalls calls : Metrics κ).ShowsSets name (ofName name calls) where
  all := total_none_recordAllCalls hsmall
  ofTags tags htags := by
    rw [total_recordAllCalls, ofKey_eq_ofSet hplain htags]
    exact runningSum_amounts ((magnitude_filter_le _ _).trans hsmall)
  samples samples hsamples := by
    obtain ⟨-, table, htable, rfl⟩ := (mem_snapshot_iff _ _ _).1 hsamples
    exact sumsSets_recordAllCalls hplain hsmall htable

/-- A snapshot lists each name once, if there are counts with it and it can be shown. -/
theorem snapshot_recordAllCalls (calls : List CountCall) :
    ((recordAllCalls calls : Metrics κ).snapshot.map Prod.fst).Nodup ∧
      ∀ name, name ∈ (recordAllCalls calls : Metrics κ).snapshot.map Prod.fst ↔
        ofName name calls ≠ [] ∧ name ≠ unshownName := by
  have hnames (m : Metrics κ) :
      m.snapshot.map Prod.fst = m.counters.keys.filter (· ≠ unshownName) := by
    rw [snapshot, List.map_map, Table.keys, List.filter_map]
    rfl
  rw [hnames]
  refine ⟨(Table.nodup _).filter _, fun name => ?_⟩
  rw [List.mem_filter, Table.mem_keys_iff, isSome_get?_recordAllCalls, decide_eq_true_eq]

/-- What counters show depends on the counters only. -/
theorem shows_congr {m m' : Metrics κ} (h : m.counters = m'.counters) :
    (∀ name tags, m.total name tags = m'.total name tags) ∧ m.snapshot = m'.snapshot := by
  unfold total snapshot
  rw [h]
  exact ⟨fun _ _ => rfl, rfl⟩

end Metrics

/-! ## Moves -/

/-- What is done with counters. -/
inductive CounterMove (κ : Type) where
  | count (c : CountCall)
  | reset
  | register (adapter : κ)

namespace CounterMove

variable {κ ρ : Type}

/-- Counters next to what their adapters keep. -/
def cell : Cell (Metrics κ × ρ) (Metrics κ) := ⟨Prod.fst, fun m w => (m, w.2)⟩

/-- Tell an adapter, which may fail, of a count. -/
def notify (told : κ → Utf16 → Number → Option Tags → ρ → Except Fault Unit × ρ) :
    Metrics.Notify (Metrics κ × ρ) κ :=
  fun a name amount tags w =>
    ((told a name amount tags w.2).1, (w.1, (told a name amount tags w.2).2))

variable (told : κ → Utf16 → Number → Option Tags → ρ → Except Fault Unit × ρ)

/-- Make a move. -/
def perform : CounterMove κ → Run (Metrics κ × ρ) Unit
  | count c => Metrics.count cell (notify told) c.name c.tags (.ofInt c.amount)
  | reset => cell.modify Metrics.reset
  | register a => cell.modify (·.register a)

/-- The state after some moves, those that an adapter ended with a fault included. -/
def runAll (w : Metrics κ × ρ) (moves : List (CounterMove κ)) : Metrics κ × ρ :=
  moves.foldl (fun w move => ((move.perform told).exec w).2) w

/-- The counts since the last reset. -/
def standing (moves : List (CounterMove κ)) : List CountCall :=
  moves.foldl (fun calls move =>
    match move with
    | count c => calls ++ [c]
    | reset => []
    | register _ => calls) []

theorem tell_fst (name : Utf16) (tags : Option Tags) (amount : Number) (adapters : List κ)
    (w : Metrics κ × ρ) :
    ((Metrics.tell (notify told) name tags amount adapters).exec w).2.1 = w.1 := by
  induction adapters generalizing w with
  | nil => rfl
  | cons a rest ih =>
    unfold Metrics.tell
    rw [Run.exec_bind]
    have hnotify : (notify told a name amount tags).exec w =
        ((told a name amount tags w.2).1, (w.1, (told a name amount tags w.2).2)) := rfl
    rw [hnotify]
    cases (told a name amount tags w.2).1 with
    | error e => rfl
    | ok _ => exact ih _

/-- A count is recorded, also when an adapter fails. -/
theorem perform_count_fst (c : CountCall) (w : Metrics κ × ρ) :
    (((count c).perform told).exec w).2.1 = w.1.recordCall c :=
  tell_fst told c.name c.tags (.ofInt c.amount) _ (w.1.recordCall c, w.2)

/-- After some moves the counters are those of the counts since the last reset. -/
theorem counters_runAll (moves : List (CounterMove κ)) (rest : ρ) :
    (runAll told (.empty, rest) moves).1.counters =
      (Metrics.recordAllCalls (standing moves) : Metrics κ).counters := by
  induction moves using List.reverseRecOn with
  | nil => rfl
  | append_singleton moves move ih =>
    simp only [runAll, standing, List.foldl_concat] at ih ⊢
    cases move with
    | count c =>
      rw [perform_count_fst, Metrics.recordAllCalls_concat, Metrics.recordCall, Metrics.record, ih]
      rfl
    | reset => rfl
    | register a => exact ih

end CounterMove

end ProofOfExistence
