import ProofOfExistence.Run

/-! # Logical clocks

The registry never reads wall time.  A clock is a computation that gives a reading; it may be one
that its owner moves by hand, or any source, with or without a guard against going back.

* A `ManualClock` starts at a valid time and moves forward only.
* `Monotonic.reading` guards a source: it passes on valid readings that are not below the last one
  it passed on, and raises a fault for all others, which it forgets.

A valid time is a non-negative safe integer. -/

namespace ProofOfExistence

/-- Accept a valid time. -/
def checkTimestamp (t : Number) : Except Fault Unit :=
  if t.toSafeNat?.isSome then .ok () else .error (.invalidTimestamp t)

/-- The valid times are the safe natural numbers. -/
theorem checkTimestamp_eq_ok {t : Number} :
    checkTimestamp t = .ok () ↔ ∃ n ≤ maxSafeInteger, t = .ofNat n := by
  unfold checkTimestamp
  constructor
  · intro h
    split at h
    · rename_i hsome
      obtain ⟨n, hn⟩ := Option.isSome_iff_exists.1 hsome
      obtain ⟨ht, hle⟩ := Number.eq_ofNat_of_toSafeNat? hn
      exact ⟨n, hle, ht⟩
    · cases h
  · rintro ⟨n, hle, rfl⟩
    rw [Number.toSafeNat?_ofNat hle]
    rfl

/-- A clock that is moved by hand. -/
structure ManualClock where
  /-- The time it shows. -/
  current : Number

namespace ManualClock

instance : Inhabited ManualClock := ⟨⟨0⟩⟩

/-- A clock that starts at a valid time. -/
def start (t : Number) : Except Fault ManualClock := do
  checkTimestamp t
  return ⟨t⟩

/-- Move a clock forward by a valid amount. -/
def advance (c : ManualClock) (amount : Number) : Except Fault ManualClock := do
  checkTimestamp amount
  return ⟨c.current + amount⟩

/-- Move a clock to a valid time that is not before its own. -/
def set (c : ManualClock) (t : Number) : Except Fault ManualClock := do
  checkTimestamp t
  if t.lt c.current then throw (.clockSetBack t c.current)
  return ⟨t⟩

end ManualClock

namespace Monotonic

/-- Accept a valid reading that is not below the last one. -/
def accept (last : Option Number) (t : Number) : Except Fault Unit := do
  checkTimestamp t
  match last with
  | some l => if t.lt l then throw (.readingWentBack t l)
  | none => return ()

/-- The readings of a source, guarded against going back.  The cell holds the last one passed on. -/
def reading {σ : Type} (source : Run σ Number) (last : Cell σ (Option Number)) : Run σ Number := do
  let t ← source
  Run.ofExcept (accept (← last.read) t)
  last.write (some t)
  return t

end Monotonic

end ProofOfExistence
