import ProofOfExistence.ClaimService
import ProofOfExistence.Wire.Audit

/-!
# Counters count

A counter that is only ever raised by one shows how often it was raised, for each set of tags.  It
does so up to `2 ^ 53`, the last number that raising by one reaches in binary64 arithmetic.

Sets of tags are told apart by their keys, and the tags of calls have the same key only if they are
the same.

## Key results

- `Metrics.total_record`: what one count changes
- `Metrics.total_recordAll`: what a counter shows after some counts
- `Metrics.total_recordAll_comm`: calls that count at most once in each counter count in any order
- `key_callTags_inj`: no two kinds of calls and outcomes are counted together
-/

namespace ProofOfExistence

/-! ## Counting by one -/

/-- The number that is reached by raising zero by one so many times. -/
def counted (n : Nat) : Number := .ofNat (min n (maxSafeInteger + 1))

theorem counted_of_le {n : Nat} (h : n ≤ maxSafeInteger + 1) : counted n = .ofNat n := by
  rw [counted, Nat.min_eq_left h]

/-- Past `2 ^ 53` a sum with one is rounded back. -/
theorem counted_add_one (n : Nat) : counted n + 1 = counted (n + 1) := by
  by_cases h : n + 1 ≤ maxSafeInteger + 1
  · rw [counted_of_le h, counted_of_le (Nat.le_of_succ_le h)]
    exact Number.ofNat_add h
  · have hfull (m : Nat) (hm : maxSafeInteger + 1 ≤ m) :
        counted m = .ofNat (maxSafeInteger + 1) := by
      rw [counted, Nat.min_eq_right hm]
    rw [hfull n (by omega), hfull (n + 1) (by omega)]
    decide +kernel

/-! ## Tags of calls -/

/-- The tags of a call of the service. -/
def callTags (call : ClaimCall) (outcome : String) : Tags :=
  [("call", call.name), ("outcome", outcome)]

/-- The tags of a dispatched call. -/
def decisionTags (d : Decision) : Tags := [("outcome", d.name)]

/-- The tag of the call comes first, as it does in the dictionary. -/
theorem key_callTags (call : ClaimCall) (outcome : String) :
    (callTags call outcome).key =
      Utf16.ofString ("call=" ++ call.name ++ "," ++ ("outcome=" ++ outcome)) := by
  have horder : Collation.lt "outcome" "call" = false := by decide +kernel
  have hsorted : (callTags call outcome).sorted = callTags call outcome := by
    simp [callTags, Tags.sorted, Tags.insertByName, horder]
  have hnames : "call=" = "call" ++ "=" ∧ "outcome=" = "outcome" ++ "=" := ⟨rfl, rfl⟩
  rw [Tags.key, hsorted, hnames.1, hnames.2]
  ext1
  simp only [callTags, Utf16.intercalate, Tags.entryText, Utf16.ofString_append, Utf16.units_append,
    List.intercalate, List.map_cons, List.map_nil, List.intersperse, List.flatten_cons,
    List.flatten_nil, List.append_assoc, List.append_nil]

/-- No two kinds of calls and outcomes are counted together. -/
theorem key_callTags_inj {call call' : ClaimCall} {outcome outcome' : String} :
    (callTags call outcome).key = (callTags call' outcome').key ↔
      call = call' ∧ outcome = outcome' := by
  refine ⟨fun h => ?_, fun ⟨hcall, houtcome⟩ => by rw [hcall, houtcome]⟩
  rw [key_callTags, key_callTags] at h
  have htext := Utf16.ofString_injective h
  -- The names of the calls differ within what comes before the outcome.
  have hcall : call = call' := by
    have hchars := congrArg String.toList htext
    cases call <;> cases call' <;> first | rfl | simp [ClaimCall.name] at hchars
  subst hcall
  exact ⟨rfl, by simpa using htext⟩

theorem key_decisionTags_inj {d d' : Decision} :
    (decisionTags d).key = (decisionTags d').key ↔ d = d' := by
  cases d <;> cases d' <;> decide

/-! ## Counters -/

namespace Metrics

variable {κ : Type} (m : Metrics κ)

/-- A count raises the counter of its name and tags by one and leaves all others. -/
theorem total_record (name name' : Utf16) (tags tags' : Tags) :
    (m.record name (some tags) 1).total name' (some tags') =
      if name' = name ∧ tags'.key = tags.key then m.total name' (some tags') + 1
      else m.total name' (some tags') := by
  have hfirst : (1 : Number) = 0 + 1 := (counted_add_one 0).symm
  unfold total record tagKey
  by_cases hname : name' = name
  · subst hname
    simp only [Table.get?_insert, if_true, true_and, Option.getD_some]
    by_cases hkey : tags'.key = tags.key
    · -- A counter that was not there counts from zero.
      rw [if_pos hkey, if_pos hkey, hkey]
      cases m.counters.get? name' with
      | none => exact hfirst
      | some samples =>
        simp only [Option.getD_some]
        cases samples.get? tags.key with
        | none => exact hfirst
        | some s => rfl
    · -- The tags are other ones, so the sample is another one.
      rw [if_neg hkey, if_neg hkey]
      cases m.counters.get? name' <;> rfl
  · -- The counter is another one.
    rw [if_neg fun h => hname h.1]
    simp only [Table.get?_insert, if_neg hname]

/-- Count under each of some names and tags. -/
def recordAll (counts : List (Utf16 × Tags)) : Metrics κ :=
  counts.foldl (fun m c => m.record c.1 (some c.2) 1) m

theorem recordAll_append (counts counts' : List (Utf16 × Tags)) :
    m.recordAll (counts ++ counts') = (m.recordAll counts).recordAll counts' :=
  List.foldl_append

/-- Whether a count is one under a name and tags. -/
def countsUnder (name : Utf16) (tags : Tags) (c : Utf16 × Tags) : Bool :=
  decide (name = c.1 ∧ tags.key = c.2.key)

/-- A counter shows how often it was raised. -/
theorem total_recordAll {name : Utf16} {tags : Tags} {n : Nat}
    (h : m.total name (some tags) = counted n) (counts : List (Utf16 × Tags)) :
    (m.recordAll counts).total name (some tags) =
      counted (n + counts.countP (countsUnder name tags)) := by
  induction counts generalizing m n with
  | nil => exact h
  | cons c rest ih =>
    have hone := m.total_record c.1 name c.2 tags
    by_cases hc : name = c.1 ∧ tags.key = c.2.key
    · -- The count is one of those that are asked for.
      rw [if_pos hc, h, counted_add_one] at hone
      have hcount : (c :: rest).countP (countsUnder name tags) =
          rest.countP (countsUnder name tags) + 1 := List.countP_cons_of_pos (decide_eq_true hc)
      rw [hcount, ← Nat.add_assoc, Nat.add_right_comm]
      exact ih (m.record c.1 (some c.2) 1) hone
    · -- The count does not matter for the number.
      rw [if_neg hc, h] at hone
      have hcount : (c :: rest).countP (countsUnder name tags) =
          rest.countP (countsUnder name tags) :=
        List.countP_cons_of_neg (by simpa [countsUnder] using hc)
      rw [hcount]
      exact ih (m.record c.1 (some c.2) 1) hone

/-! ### Order of counts -/

/-- Raise the value of a key by one, or put a one at the end. -/
def bump (key : Utf16) : List (Utf16 × Number) → List (Utf16 × Number)
  | [] => [(key, 1)]
  | e :: rest => if e.1 = key then (e.1, e.2 + 1) :: rest else e :: bump key rest

theorem valueAt_bump (key key' : Utf16) (values : List (Utf16 × Number)) :
    Table.valueAt key' (bump key values) =
      if key' = key then some ((Table.valueAt key values).elim 1 (· + 1))
      else Table.valueAt key' values := by
  induction values with
  | nil => simp [bump, Table.valueAt, eq_comm]
  | cons e rest ih => grind [bump, Table.valueAt]

/-- The values stand in one order, whichever key is raised first. -/
theorem values_bump_comm (key key' : Utf16) (values : List (Utf16 × Number)) :
    (bump key' (bump key values)).map Prod.snd = (bump key (bump key' values)).map Prod.snd := by
  induction values with
  | nil => grind [bump]
  | cons e rest ih => grind [bump]

/-- The values of a counter, by tag key. -/
def tally (name : Utf16) : List (Utf16 × Number) :=
  ((m.counters.get? name).map fun samples =>
    samples.entries.map fun e => (e.1, e.2.value)).getD []

/-- A counter shows what its values say. -/
theorem total_eq (name : Utf16) (tags : Option Tags) :
    m.total name tags =
      match tags with
      | some tags => (Table.valueAt tags.key (m.tally name)).getD 0
      | none => ((m.tally name).map Prod.snd).foldl (· + ·) 0 := by
  have hvalue (key : Utf16) (samples : List (Utf16 × Sample)) :
      Table.valueAt key (samples.map fun e => (e.1, e.2.value)) =
        (Table.valueAt key samples).map Sample.value := by
    induction samples with
    | nil => rfl
    | cons e rest ih => grind [Table.valueAt]
  unfold total tally
  -- Both sides look up the samples of the counter.
  cases m.counters.get? name with
  | none => cases tags <;> rfl
  | some samples =>
    cases tags with
    | some tags => exact congrArg (Option.getD · 0) (hvalue tags.key samples.entries).symm
    | none =>
      simp only [Option.map_some, Option.getD_some, List.map_map, Table.values, List.foldl_map]
      rfl

/-- A sample with one more count. -/
private def raised (tags : Tags) : Option Sample → Sample
  | some s => { s with value := s.value + 1 }
  | none => ⟨1, some tags⟩

/-- A count raises one value of its counter. -/
theorem tally_record (name name' : Utf16) (tags : Tags) :
    (m.record name (some tags) 1).tally name' =
      if name' = name then bump tags.key (m.tally name) else m.tally name' := by
  have hput (samples : List (Utf16 × Sample)) :
      (Table.putEntry tags.key (raised tags (Table.valueAt tags.key samples)) samples).map
        (fun e => (e.1, e.2.value)) = bump tags.key (samples.map fun e => (e.1, e.2.value)) := by
    induction samples with
    | nil => rfl
    | cons e rest ih => grind [Table.putEntry, Table.valueAt, bump, raised]
  unfold tally record tagKey
  simp only [Table.get?_insert, Option.getD_some]
  by_cases hname : name' = name
  · rw [if_pos hname, if_pos hname]
    cases m.counters.get? name with
    | none => exact hput []
    | some samples => exact hput samples.entries
  · rw [if_neg hname, if_neg hname]

/-- Counts that are at most one in each counter raise a value of each of their counters. -/
theorem tally_recordAll {counts : List (Utf16 × Tags)} (h : (counts.map Prod.fst).Nodup)
    (name : Utf16) :
    (m.recordAll counts).tally name =
      match counts.find? fun c => c.1 = name with
      | some c => bump c.2.key (m.tally name)
      | none => m.tally name := by
  induction counts generalizing m with
  | nil => rfl
  | cons c rest ih =>
    obtain ⟨hc, hrest⟩ := List.nodup_cons.1 h
    have hstep : (m.recordAll (c :: rest)).tally name =
        ((m.record c.1 (some c.2) 1).recordAll rest).tally name := rfl
    rw [hstep, ih _ hrest, tally_record, List.find?_cons]
    -- The first count is of the counter that is asked for, or it leaves it alone.
    by_cases hname : c.1 = name
    · -- The counter of this count is raised by no later one.
      have hnone : rest.find? (fun c => c.1 = name) = none := by
        refine List.find?_eq_none.2 fun c' hc' heq => hc ?_
        rw [hname, ← of_decide_eq_true heq]
        exact List.mem_map_of_mem hc'
      subst hname
      simp [hnone]
    · have hname' : name ≠ c.1 := fun heq => hname heq.symm
      simp [hname, hname']

/-- Counts of two calls that count at most once in each counter may be made in either order. -/
theorem total_recordAll_comm {counts counts' : List (Utf16 × Tags)}
    (h : (counts.map Prod.fst).Nodup) (h' : (counts'.map Prod.fst).Nodup) (name : Utf16)
    (tags : Option Tags) :
    ((m.recordAll counts).recordAll counts').total name tags =
      ((m.recordAll counts').recordAll counts).total name tags := by
  rw [total_eq, total_eq, tally_recordAll _ h', tally_recordAll _ h, tally_recordAll _ h,
    tally_recordAll _ h']
  -- Each of the lists raises the counter once at most.
  cases counts.find? fun c => c.1 = name with
  | none => rfl
  | some c =>
    cases counts'.find? fun c => c.1 = name with
    | none => rfl
    | some c' =>
      cases tags with
      -- With tags there is one sample to compare, without tags the sum of all.
      | none => rw [values_bump_comm]
      | some tags =>
        simp only [valueAt_bump]
        by_cases hkey : c.2.key = c'.2.key
        · simp [hkey]
        · grind

end Metrics

end ProofOfExistence
