/-! # Binary64 numbers, exactly

Clock readings, nonces, limits and counters come from outside as IEEE 754 binary64 numbers.  A
`Number` is such a number as a mathematical value: a rational, one of the infinities, or the value
that is not a number.  The two zeros are one value here, because no answer tells them apart.

Arithmetic is exact and then rounded: `ofRat` takes a rational to the nearest representable value,
ties to the even significand, and past the largest finite value to an infinity.  Integers of at most
`2 ^ 53` are kept as they are, which `ofInt_of_natAbs_le` states.

A safe integer is one whose neighbours are also representable, that is one of magnitude below
`2 ^ 53`. -/

namespace ProofOfExistence

/-- A binary64 number as a mathematical value. -/
inductive Number where
  /-- The result of an undefined operation; it equals nothing and orders with nothing. -/
  | nan
  /-- An infinity; the flag is set for the negative one. -/
  | infinity ( negative : Bool)
  /-- A finite value. -/
  | finite (value : Rat)
deriving DecidableEq, Inhabited

/-- The largest integer `n` such that `n` and `n + 1` are both exact: `2 ^ 53 - 1`. -/
def maxSafeInteger : Nat := 9007199254740991

/-- The quotient of two naturals rounded to the nearest integer, a half to the even neighbour. -/
def roundQuotient (num den : Nat) : Nat :=
  let q := num / den
  let twice := 2 * (num % den)
  if twice < den then q
  else if twice = den then q + q % 2
  else q + 1

/-- The power of two that is the unit in the last place of a positive quotient `num / den`: the
significand `num / den / 2 ^ e` then has 53 bits, or fewer at the least exponent `-1074`. -/
def unitExponent (num den : Nat) : Int :=
  -- The bit lengths leave two candidates; a comparison with `2 ^ 52` decides between them.
  let estimate : Int := (num.log2 : Int) - den.log2 - 52
  let tooHigh : Bool :=
    if estimate < 0 then num <<< estimate.natAbs < den <<< 52
    else num < den <<< (52 + estimate.natAbs)
  max (if tooHigh then estimate - 1 else estimate) (-1074)

/-- The representable value nearest to the positive quotient `num / den`, or `none` when that
overflows. -/
def roundPositive (num den : Nat) : Option Rat :=
  let e := unitExponent num den
  if e < 0 then
    some (mkRat (roundQuotient (num <<< e.natAbs) den) (1 <<< e.natAbs))
  else
    -- Only a unit of at least one can overflow, also by rounding up to the next power of two.
    let n := roundQuotient num (den <<< e.natAbs) <<< e.natAbs
    if n < 1 <<< 1024 then some n else none

namespace Number

/-- The representable value nearest to a rational. -/
def ofRat (q : Rat) : Number :=
  if q.den = 1 ∧ q.num.natAbs ≤ maxSafeInteger + 1 then finite q
  else
    match roundPositive q.num.natAbs q.den with
    | some r => finite (if q.num < 0 then -r else r)
    | none => infinity (q.num < 0)

/-- The representable value nearest to an integer. -/
def ofInt (n : Int) : Number := ofRat n

/-- The representable value nearest to a natural number. -/
def ofNat (n : Nat) : Number := ofInt n

instance (n : Nat) : OfNat Number n := ⟨ofNat n⟩

/-- Small integers are exact. -/
theorem ofInt_of_natAbs_le {n : Int} (h : n.natAbs ≤ maxSafeInteger + 1) : ofInt n = finite n := by
  unfold ofInt ofRat
  exact if_pos ⟨Rat.den_intCast n, by rwa [Rat.num_intCast]⟩

/-- The number with the opposite sign. -/
def neg : Number → Number
  | nan => nan
  | infinity s => infinity (!s)
  | finite q => finite (-q)

/-- The rounded sum. -/
def add : Number → Number → Number
  | nan, _ | _, nan => nan
  | infinity s, infinity t => if s = t then infinity s else nan
  | infinity s, finite _ | finite _, infinity s => infinity s
  | finite p, finite q => ofRat (p + q)

instance : Add Number := ⟨add⟩

/-- Whether one number is below another; nothing is below or above `nan`. -/
def lt : Number → Number → Bool
  | nan, _ | _, nan => false
  | infinity s, infinity t => s && !t
  | infinity s, finite _ => s
  | finite _, infinity s => !s
  | finite p, finite q => p < q

/-- Whether one number is below or equal to another. -/
def le : Number → Number → Bool
  | nan, _ | _, nan => false
  | infinity s, infinity t => s || !t
  | infinity s, finite _ => s
  | finite _, infinity s => !s
  | finite p, finite q => p ≤ q

/-- The integer that a number is, if it is one. -/
def toInt? : Number → Option Int
  | finite q => if q.den = 1 then some q.num else none
  | _ => none

/-- The natural number that a non-negative safe integer is. -/
def toSafeNat? (x : Number) : Option Nat :=
  match x.toInt? with
  | some (.ofNat n) => if n ≤ maxSafeInteger then some n else none
  | _ => none

/-- A natural number up to `2 ^ 53` as a number. -/
theorem ofNat_of_le {n : Nat} (h : n ≤ maxSafeInteger + 1) : ofNat n = finite n := by
  have hn : ((n : Int)).natAbs ≤ maxSafeInteger + 1 := by simpa using h
  rw [ofNat, ofInt_of_natAbs_le hn, Rat.intCast_natCast]

/-- The sum of integers is exact if their magnitudes add up to at most `2 ^ 53`. -/
theorem ofInt_add {m n : Int} (h : m.natAbs + n.natAbs ≤ maxSafeInteger + 1) :
    ofInt m + ofInt n = ofInt (m + n) := by
  rw [ofInt_of_natAbs_le (by omega : m.natAbs ≤ maxSafeInteger + 1),
    ofInt_of_natAbs_le (by omega : n.natAbs ≤ maxSafeInteger + 1)]
  show ofRat ((m : Rat) + (n : Rat)) = ofInt (m + n)
  rw [ofInt, Rat.intCast_add]

/-- The sum of natural numbers is exact up to `2 ^ 53`. -/
theorem ofNat_add {m n : Nat} (h : m + n ≤ maxSafeInteger + 1) :
    ofNat m + ofNat n = ofNat (m + n) := by
  rw [ofNat, ofNat, ofInt_add (by omega), ← Int.natCast_add, ofNat]

/-- Natural numbers up to `2 ^ 53` are ordered as they are. -/
theorem lt_ofNat {m n : Nat} (hm : m ≤ maxSafeInteger + 1) (hn : n ≤ maxSafeInteger + 1) :
    (ofNat m).lt (ofNat n) = decide (m < n) := by
  rw [ofNat_of_le hm, ofNat_of_le hn]
  show decide ((m : Rat) < (n : Rat)) = decide (m < n)
  rw [decide_eq_decide, Rat.natCast_lt_natCast]

/-- Reading a safe natural number back from the number it was made into. -/
theorem toSafeNat?_ofNat {n : Nat} (h : n ≤ maxSafeInteger) : (ofNat n).toSafeNat? = some n := by
  have h' : ((n : Int)).natAbs ≤ maxSafeInteger + 1 := by omega
  rw [ofNat, ofInt_of_natAbs_le h']
  have hint : toInt? (finite ((n : Int) : Rat)) = some (n : Int) := by simp [toInt?]
  unfold toSafeNat?
  rw [hint]
  exact if_pos h

/-- A number that reads as a safe natural number is that natural number. -/
theorem eq_ofNat_of_toSafeNat? {x : Number} {n : Nat} (h : x.toSafeNat? = some n) :
    x = ofNat n ∧ n ≤ maxSafeInteger := by
  unfold toSafeNat? at h
  split at h
  · -- The number is an integer within the range.
    rename_i m hm
    split at h
    · rename_i hle
      cases h
      refine ⟨?_, hle⟩
      unfold toInt? at hm
      split at hm
      · -- An integer is a fraction with denominator one.
        rename_i q
        split at hm
        · rename_i hden
          have hq : q.num = Int.ofNat n := Option.some.inj hm
          have hn : ((n : Int)).natAbs ≤ maxSafeInteger + 1 := by omega
          rw [ofNat, ofInt_of_natAbs_le hn]
          congr 1
          apply Rat.ext
          · simpa using hq
          · simpa using hden
        · cases hm
      · cases hm
    · cases h
  · cases h

end Number

end ProofOfExistence
