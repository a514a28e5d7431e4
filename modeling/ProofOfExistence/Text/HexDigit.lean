/-! # Hexadecimal digits

`hexDigit` writes a number below sixteen as a lowercase digit; `hexDigitValue?` reads a digit of
either case.  `hexDigitValue?_hexDigit` says that reading undoes writing. -/

namespace ProofOfExistence

/-- The lowercase hexadecimal digit of a number below sixteen. -/
def hexDigit (n : Nat) : Char := Nat.digitChar n

/-- The value of a hexadecimal digit of either case. -/
def hexDigitValue? (c : Char) : Option Nat :=
  if '0' ≤ c ∧ c ≤ '9' then some (c.toNat - '0'.toNat)
  else if 'a' ≤ c ∧ c ≤ 'f' then some (c.toNat - 'a'.toNat + 10)
  else if 'A' ≤ c ∧ c ≤ 'F' then some (c.toNat - 'A'.toNat + 10)
  else none

/-- Whether a character is a hexadecimal digit. -/
def isHexDigit (c : Char) : Bool := (hexDigitValue? c).isSome

/-- Reading a digit undoes writing it. -/
theorem hexDigitValue?_hexDigit : ∀ n < 16, hexDigitValue? (hexDigit n) = some n := by decide

theorem isHexDigit_iff {c : Char} : isHexDigit c = true ↔
    '0' ≤ c ∧ c ≤ '9' ∨ 'a' ≤ c ∧ c ≤ 'f' ∨ 'A' ≤ c ∧ c ≤ 'F' := by
  unfold isHexDigit hexDigitValue?
  split
  · simp [*]
  · split
    · simp [*]
    · split <;> simp [*]

end ProofOfExistence
