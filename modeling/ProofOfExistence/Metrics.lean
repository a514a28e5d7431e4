import ProofOfExistence.Run
import ProofOfExistence.Table
import ProofOfExistence.Text.Collation

/-! # Call counters

A counter has a name and, within it, one sample for each set of tags it was counted with.  Tag sets
are told apart by their tag key: the tags in the dictionary order of their names, each written as
name, `=` and value, joined by commas.

A snapshot is an object with a member for each counter, but a member `__proto__` is none of its own.

Adapters, known by their identities, are told of each count after it is recorded, in the order of
their registration. -/

namespace ProofOfExistence

/-- Named tags, in the order of writing. -/
abbrev Tags := List (Utf16 × Utf16)

namespace Tags

/-- Put a tag before the first one whose name does not come earlier. -/
def insertByName (t : Utf16 × Utf16) : Tags → Tags
  | [] => [t]
  | u :: rest => if Collation.lt u.1 t.1 then u :: insertByName t rest else t :: u :: rest

/-- Tags in the dictionary order of their names; names that count as equal keep their order. -/
def sorted (tags : Tags) : Tags := tags.foldr insertByName []

/-- A tag as it stands in a key. -/
def entryText (t : Utf16 × Utf16) : Utf16 := t.1 ++ ("=" : Utf16) ++ t.2

/-- The text that stands for a set of tags. -/
def key (tags : Tags) : Utf16 := Utf16.intercalate "," (tags.sorted.map entryText)

end Tags

/-- The value of a counter for one set of tags. -/
structure Sample where
  value : Number
  /-- The tags of the first count, none if it had none. -/
  tags : Option Tags

/-- Counters, and the adapters that are told of counts. -/
structure Metrics (κ : Type) where
  /-- The samples of each counter, by tag key. -/
  counters : Table Utf16 (Table Utf16 Sample)
  /-- The adapters, in the order of their registration. -/
  adapters : List κ

namespace Metrics

variable {σ κ : Type}

/-- Counters without counts and adapters. -/
def empty : Metrics κ := ⟨.empty, []⟩

instance : Inhabited (Metrics κ) := ⟨empty⟩

/-- The tag key of tags that may be missing. -/
def tagKey (tags : Option Tags) : Utf16 := (tags.getD []).key

/-- Register an adapter. -/
def register (m : Metrics κ) (adapter : κ) : Metrics κ :=
  { m with adapters := m.adapters ++ [adapter] }

/-- Add an amount to the sample of a set of tags. -/
def record (m : Metrics κ) (name : Utf16) (tags : Option Tags) (amount : Number) : Metrics κ :=
  let samples := (m.counters.get? name).getD .empty
  let key := tagKey tags
  let sample :=
    match samples.get? key with
    | some s => { s with value := s.value + amount }
    | none => ⟨amount, tags⟩
  { m with counters := m.counters.insert name (samples.insert key sample) }

/-- The value of a counter: of one sample when tags are given, of all samples together otherwise. -/
def total (m : Metrics κ) (name : Utf16) (tags : Option Tags) : Number :=
  match m.counters.get? name with
  | none => 0
  | some samples =>
    match tags with
    | some tags => ((samples.get? tags.key).map Sample.value).getD 0
    | none => samples.values.foldl (fun sum s => sum + s.value) 0

/-- The name of a counter that a snapshot cannot show. -/
def unshownName : Utf16 := "__proto__"

/-- The samples of each counter, in the order of first use, but for the counter whose name a
snapshot cannot show. -/
def snapshot (m : Metrics κ) : List (Utf16 × List Sample) :=
  (m.counters.entries.filter fun e => e.1 ≠ unshownName).map fun e => (e.1, e.2.values)

/-- Drop all counts and keep the adapters. -/
def reset (m : Metrics κ) : Metrics κ := { m with counters := .empty }

/-- What an adapter does when it is told of a count. -/
abbrev Notify (σ κ : Type) := κ → Utf16 → Number → Option Tags → Run σ Unit

/-- Tell some adapters of a count, in turn. -/
def tell (notify : Notify σ κ) (name : Utf16) (tags : Option Tags) (amount : Number) :
    List κ → Run σ Unit
  | [] => return ()
  | a :: rest => do
    notify a name amount tags
    tell notify name tags amount rest

/-- Record a count in the cell and tell the adapters. -/
def count (cell : Cell σ (Metrics κ)) (notify : Notify σ κ) (name : Utf16)
    (tags : Option Tags) (amount : Number) : Run σ Unit := do
  cell.modify fun m => m.record name tags amount
  tell notify name tags amount (← cell.read).adapters

end Metrics

end ProofOfExistence
