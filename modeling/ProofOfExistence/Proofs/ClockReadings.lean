import Mathlib.Data.Nat.Dist
import Mathlib.Data.Rat.Defs
import ProofOfExistence.Clock

/-!
# Readings of a clock that is moved by hand

A clock that is moved by hand checks each amount and each time that it is given, but it does not
check the sum of its reading and an amount.  Sums are rounded to binary64 numbers, so the readings
are the exact times up to `2 ^ 53` only.  They may leave the valid times, and where the units of the
numbers are large enough small amounts do not move the clock.

Rounding takes a natural number to a nearest one that can be represented (`Number.IsNearest`), so it
goes past none.  That is why no move takes a reading back, and why no reading is above `2 ^ 106`,
far from overflow.

## Key results

- `Number.ofNat_isNearest`: a natural number is rounded to a nearest representable one
- `ManualClock.Shows.step`: what a move does to a clock
- `ManualClock.readings_nearest`: what clocks show after any moves
- `ManualClock.reading_leaves_range`: a clock that shows a time that is not valid
-/

namespace ProofOfExistence

/-! ## Nearest numbers -/

/-- Rounding a quotient gives a multiple of the denominator that no other one is nearer to. -/
theorem dist_roundQuotient_le (num : Nat) {den : Nat} (hden : 0 < den) (j : Nat) :
    Nat.dist (roundQuotient num den * den) num ≤ Nat.dist (j * den) num := by
  have hnum : num / den * den + num % den = num := Nat.div_add_mod' num den
  have hlt : num % den < den := Nat.mod_lt num hden
  unfold roundQuotient
  generalize num / den = q at *
  generalize num % den = t at *
  -- Any other multiple of the unit lies on one side of the number.
  have hj : j * den ≤ q * den ∨ (q + 1) * den ≤ j * den := by
    rcases Nat.lt_or_ge q j with h | h
    · exact .inr (Nat.mul_le_mul_right den h)
    · exact .inl (Nat.mul_le_mul_right den h)
  have hsucc : (q + 1) * den = q * den + den := Nat.succ_mul q den
  rw [hsucc] at hj
  have hround (k : Nat)
      (hk : k * den = q * den ∧ 2 * t ≤ den ∨ k * den = q * den + den ∧ den ≤ 2 * t) :
      Nat.dist (k * den) num ≤ Nat.dist (j * den) num := by
    unfold Nat.dist
    omega
  dsimp only
  split
  · -- Less than half of the unit is left over.
    exact hround q (.inl ⟨rfl, by omega⟩)
  · split
    · -- The number is half way, and the even multiple is chosen.
      rcases Nat.mod_two_eq_zero_or_one q with heven | hodd
      · exact hround _ (.inl ⟨by rw [heven, Nat.add_zero], by omega⟩)
      · exact hround _ (.inr ⟨by rw [hodd, hsucc], by omega⟩)
    · -- More than half of the unit is left over.
      exact hround _ (.inr ⟨hsucc, by omega⟩)

namespace Number

/-- The natural numbers that are numbers, but for the greatest ones, which overflow. -/
def Representable (n : Nat) : Prop := ∃ m k, m ≤ 2 ^ 53 ∧ n = m * 2 ^ k

theorem representable_of_le {n : Nat} (h : n ≤ 2 ^ 53) : Representable n :=
  ⟨n, 0, h, (Nat.mul_one n).symm⟩

/-- A representable number from `2 ^ (52 + s)` on is a multiple of `2 ^ s`. -/
theorem Representable.exists_multiple {n s : Nat} (h : Representable n) (hn : 2 ^ (52 + s) ≤ n) :
    ∃ j, n = j * 2 ^ s := by
  obtain ⟨m, k, hm, rfl⟩ := h
  rcases Nat.lt_or_ge k s with hk | hk
  · -- With a smaller unit only `2 ^ (52 + s)` itself is within reach.
    have hle : m * 2 ^ k ≤ 2 ^ (52 + s) :=
      calc m * 2 ^ k ≤ 2 ^ 53 * 2 ^ k := Nat.mul_le_mul_right _ hm
        _ = 2 ^ (53 + k) := (Nat.pow_add 2 53 k).symm
        _ ≤ 2 ^ (52 + s) := Nat.pow_le_pow_right (by decide) (by omega)
    exact ⟨2 ^ 52, (Nat.le_antisymm hle hn).trans (Nat.pow_add 2 52 s)⟩
  · refine ⟨m * 2 ^ (k - s), ?_⟩
    rw [Nat.mul_assoc, ← Nat.pow_add, Nat.sub_add_cancel hk]

/-- No representable number is nearer. -/
def IsNearest (r n : Nat) : Prop :=
  Representable r ∧ ∀ g, Representable g → Nat.dist r n ≤ Nat.dist g n

/-- The unit of a natural number from `2 ^ 53` on is read off its length. -/
theorem unitExponent_eq {n : Nat} (h : 2 ^ 53 ≤ n) : unitExponent n 1 = (n.log2 - 52 : Nat) := by
  have hne : n ≠ 0 := by omega
  have hlog : 53 ≤ n.log2 := (Nat.le_log2 hne).2 h
  have hself : 2 ^ n.log2 ≤ n := Nat.log2_self_le hne
  -- The estimate is right, since it only has to be put right for fractions.
  have hestimate : (n.log2 : Int) - (1 : Nat).log2 - 52 = (n.log2 - 52 : Nat) := by
    rw [show (1 : Nat).log2 = 0 from rfl]
    omega
  have hnonneg : ¬ ((n.log2 - 52 : Nat) : Int) < 0 := Int.not_lt.2 (Int.natCast_nonneg _)
  have hexponent : 52 + ((n.log2 - 52 : Nat) : Int).natAbs = n.log2 := by
    rw [Int.natAbs_natCast]
    omega
  have hlow : decide (n < 1 <<< n.log2) = false := by
    rw [Nat.shiftLeft_eq, Nat.one_mul]
    exact decide_eq_false (Nat.not_lt.2 hself)
  simp only [unitExponent, hestimate, hexponent, hlow, if_neg hnonneg, Bool.false_eq_true, if_false]
  omega

/-- A significand of more than 53 bits is rounded to as many, or up to the next power of two. -/
theorem roundQuotient_le {n s : Nat} (hs : n.log2 = 52 + s) :
    roundQuotient n (2 ^ s) ≤ 2 ^ 53 := by
  have hhigh : n < 2 ^ 53 * 2 ^ s := by
    rw [← Nat.pow_add, show 53 + s = n.log2 + 1 by omega]
    exact Nat.lt_log2_self
  have hquotient : n / 2 ^ s < 2 ^ 53 := (Nat.div_lt_iff_lt_mul (Nat.two_pow_pos s)).2 hhigh
  unfold roundQuotient
  dsimp only
  split
  · omega
  · split <;> omega

/-- A natural number above `2 ^ 53` is rounded in units of its last place. -/
theorem ofNat_eq_roundQuotient {n s : Nat} (hn : 2 ^ 53 < n) (hs : n.log2 = 52 + s)
    (hlt : s < 128) : ofNat n = finite (roundQuotient n (2 ^ s) * 2 ^ s : Nat) := by
  -- The number is rounded to a multiple of `2 ^ s`, which is far from infinity.
  have hround : roundPositive n 1 = some ((roundQuotient n (2 ^ s) * 2 ^ s : Nat) : Rat) := by
    have hnonneg : ¬ (s : Int) < 0 := Int.not_lt.2 (Int.natCast_nonneg _)
    have hfits : roundQuotient n (2 ^ s) * 2 ^ s < 1 <<< 1024 := by
      have hle : roundQuotient n (2 ^ s) * 2 ^ s ≤ 2 ^ (53 + s) :=
        (Nat.mul_le_mul_right _ (roundQuotient_le hs)).trans_eq (Nat.pow_add 2 53 s).symm
      have hlt : 2 ^ (53 + s) < 2 ^ 200 := Nat.pow_lt_pow_right (by decide) (by omega)
      exact (hle.trans_lt hlt).trans (by decide)
    unfold roundPositive
    rw [unitExponent_eq (Nat.le_of_lt hn), show n.log2 - 52 = s by omega]
    simp only [if_neg hnonneg, Int.natAbs_natCast]
    rw [show 1 <<< s = 2 ^ s by rw [Nat.shiftLeft_eq, Nat.one_mul], Nat.shiftLeft_eq, if_pos hfits]
  have hinexact : ¬ n ≤ maxSafeInteger + 1 := Nat.not_le.2 hn
  unfold ofNat ofInt ofRat
  rw [if_neg fun h => hinexact (by simpa using h.2)]
  simp only [Rat.num_intCast, Rat.den_intCast, Int.natAbs_natCast, hround]
  exact congrArg finite (if_neg (Int.not_lt.2 (Int.natCast_nonneg _)))

/-- A natural number far from overflow is rounded to a nearest representable one. -/
theorem ofNat_isNearest {n : Nat} (hn : n < 2 ^ 128) :
    ∃ r : Nat, ofNat n = finite r ∧ IsNearest r n := by
  by_cases hle : n ≤ 2 ^ 53
  · -- A number up to `2 ^ 53` is represented.
    refine ⟨n, ofNat_of_le hle, representable_of_le hle, fun g _ => ?_⟩
    rw [Nat.dist_self]
    exact Nat.zero_le _
  · have hne : n ≠ 0 := by omega
    have hlow : 2 ^ n.log2 ≤ n := Nat.log2_self_le hne
    have hlog : 53 ≤ n.log2 := (Nat.le_log2 hne).2 (by omega)
    have hlog' : n.log2 < 128 := (Nat.pow_lt_pow_iff_right (by decide)).1 (hlow.trans_lt hn)
    obtain ⟨s, hs⟩ : ∃ s, n.log2 = 52 + s := ⟨n.log2 - 52, by omega⟩
    have hunit : 0 < 2 ^ s := Nat.two_pow_pos s
    refine ⟨roundQuotient n (2 ^ s) * 2 ^ s, ?_, ⟨_, s, roundQuotient_le hs, rfl⟩, fun g hg => ?_⟩
    · exact ofNat_eq_roundQuotient (Nat.not_le.1 hle) hs (by omega)
    · -- A representable number is below the least one with this unit, or a multiple of it.
      rw [hs] at hlow
      rcases Nat.lt_or_ge g (2 ^ (52 + s)) with hbelow | hfrom
      · -- The least number with this unit is nearer than those below it.
        refine (dist_roundQuotient_le n hunit (2 ^ 52)).trans ?_
        rw [← Nat.pow_add]
        unfold Nat.dist
        omega
      · obtain ⟨j, rfl⟩ := hg.exists_multiple hfrom
        exact dist_roundQuotient_le n hunit j

namespace IsNearest

variable {a r n : Nat}

/-- Rounding goes past no representable number. -/
theorem le_of_le (h : IsNearest r n) (ha : Representable a) (hle : a ≤ n) : a ≤ r := by
  have hdist := h.2 a ha
  unfold Nat.dist at hdist
  omega

theorem ge_of_ge (h : IsNearest r n) (ha : Representable a) (hle : n ≤ a) : r ≤ a := by
  have hdist := h.2 a ha
  unfold Nat.dist at hdist
  omega

/-- A representable number is not rounded. -/
theorem eq_of_representable (h : IsNearest r n) (hn : Representable n) : r = n :=
  Nat.le_antisymm (h.ge_of_ge hn (Nat.le_refl n)) (h.le_of_le hn (Nat.le_refl n))

/-- Sums with safe integers do not pass `2 ^ 106`, where the units are twice as large. -/
theorem le_of_add {m : Nat} (h : IsNearest r (n + m)) (hn : n ≤ 2 ^ 106) (hm : m < 2 ^ 53) :
    r ≤ 2 ^ 106 := by
  by_contra hpast
  obtain ⟨j, rfl⟩ : ∃ j, r = j * 2 ^ 54 :=
    h.1.exists_multiple (show 2 ^ (52 + 54) ≤ r by omega)
  have hdist := h.2 (2 ^ 106) ⟨1, 106, by decide, by decide⟩
  unfold Nat.dist at hdist
  omega

end IsNearest

/-- The sum of a natural number that is a number and a small one is rounded once. -/
theorem finite_add_ofNat (r : Nat) {n : Nat} (hn : n ≤ maxSafeInteger + 1) :
    finite r + ofNat n = ofNat (r + n) := by
  rw [ofNat_of_le hn]
  show ofRat ((r : Rat) + (n : Rat)) = ofInt ((r + n : Nat) : Int)
  rw [ofInt, Rat.intCast_natCast, Rat.natCast_add]

end Number

open Number

/-! ## Moves of a clock -/

/-- A move of a clock, with any number. -/
inductive ClockMove where
  | advance (amount : Number)
  | set (time : Number)

namespace ClockMove

/-- The number that a move is made with. -/
def number : ClockMove → Number
  | advance amount => amount
  | set time => time

/-- The time after a move, by exact addition, if a move that is no valid one changes nothing. -/
def exactly (t : Nat) : ClockMove → Nat
  | advance amount => t + amount.toSafeNat?.getD 0
  | set time => max t (time.toSafeNat?.getD 0)

end ClockMove

namespace ManualClock

/-- Make a move. -/
def move (c : ManualClock) : ClockMove → Except Fault ManualClock
  | .advance amount => c.advance amount
  | .set time => c.set time

/-- The clock after a move, which a fault leaves as it was. -/
def moved (c : ManualClock) (m : ClockMove) : ManualClock := (c.move m).toOption.getD c

/-- The clock after some moves. -/
def run (c : ManualClock) (moves : List ClockMove) : ManualClock := moves.foldl moved c

/-- The time after some moves, by exact addition. -/
def exactTime (t : Nat) (moves : List ClockMove) : Nat := moves.foldl ClockMove.exactly t

/-- What a move does to a clock that shows `r`: a number that is no valid time and a time before its
own are refused, a later time is shown as it is, and an amount is added and rounded. -/
inductive Answers (c : ManualClock) (r : Nat) : ClockMove → Except Fault ManualClock → Prop
  | invalid {m : ClockMove} (h : ∀ n ≤ maxSafeInteger, m.number ≠ .ofNat n) :
    Answers c r m (.error (.invalidTimestamp m.number))
  | setBack {n : Nat} (hn : n ≤ maxSafeInteger) (h : n < r) :
    Answers c r (.set (.ofNat n)) (.error (.clockSetBack (.ofNat n) c.current))
  | set {n : Nat} (hn : n ≤ maxSafeInteger) (h : r ≤ n) :
    Answers c r (.set (.ofNat n)) (.ok ⟨.finite n⟩)
  | advance {n r' : Nat} (hn : n ≤ maxSafeInteger) (h : IsNearest r' (r + n)) :
    Answers c r (.advance (.ofNat n)) (.ok ⟨.finite r'⟩)

/-- A clock shows `r` when `t` is the exact time: the two agree up to `2 ^ 53`, and the reading is a
valid time as long as the exact time is one. -/
structure Shows (c : ManualClock) (t r : Nat) : Prop where
  current : c.current = .finite r
  representable : Representable r
  bounded : r ≤ 2 ^ 106
  exact : t ≤ 2 ^ 53 → r = t
  beyond : maxSafeInteger < t → maxSafeInteger < r

/-- A move that is made takes the reading forward, by at least one if the amount is not zero and the
reading is a valid time. -/
structure Forward (r r' : Nat) (m : ClockMove) : Prop where
  le : r ≤ r'
  lt : ∀ n, m = .advance (.ofNat n) → 0 < n → n ≤ maxSafeInteger → r ≤ maxSafeInteger → r < r'

private theorem maxSafeInteger_eq : maxSafeInteger + 1 = 2 ^ 53 := rfl

theorem move_of_invalid {c : ManualClock} {m : ClockMove} (h : m.number.toSafeNat? = none) :
    c.move m = .error (.invalidTimestamp m.number) := by
  have hinvalid : checkTimestamp m.number = .error (.invalidTimestamp m.number) := by
    rw [checkTimestamp, h]
    rfl
  cases m with
  | advance amount =>
    show (do checkTimestamp amount; return _) = _
    rw [show checkTimestamp amount = _ from hinvalid]
    rfl
  | set time =>
    show (do checkTimestamp time; _) = _
    rw [show checkTimestamp time = _ from hinvalid]
    rfl

theorem advance_ofNat (c : ManualClock) {n : Nat} (hn : n ≤ maxSafeInteger) :
    c.advance (.ofNat n) = .ok ⟨c.current + .ofNat n⟩ := by
  have hvalid : checkTimestamp (.ofNat n) = .ok () := checkTimestamp_eq_ok.2 ⟨n, hn, rfl⟩
  rw [advance, hvalid]
  rfl

theorem set_ofNat {c : ManualClock} {n r : Nat} (hn : n ≤ maxSafeInteger)
    (hr : c.current = .finite r) :
    c.set (.ofNat n) =
      if n < r then .error (.clockSetBack (.ofNat n) c.current) else .ok ⟨.finite n⟩ := by
  have hvalid : checkTimestamp (.ofNat n) = .ok () := checkTimestamp_eq_ok.2 ⟨n, hn, rfl⟩
  have hfinite : Number.ofNat n = .finite n := ofNat_of_le (Nat.le_succ_of_le hn)
  have hlt : (Number.ofNat n).lt c.current = decide (n < r) := by
    rw [hfinite, hr]
    show decide ((n : Rat) < (r : Rat)) = decide (n < r)
    rw [decide_eq_decide, Rat.natCast_lt_natCast]
  rw [set, hvalid, hlt]
  by_cases hback : n < r
  · rw [if_pos hback, decide_eq_true hback]
    rfl
  · rw [if_neg hback, decide_eq_false hback, ← hfinite]
    rfl

/-! ## One move -/

namespace Shows

variable {c : ManualClock} {t r : Nat}

/-- A number that is no valid time changes nothing. -/
private theorem step_invalid (h : Shows c t r) {m : ClockMove} (hm : m.number.toSafeNat? = none) :
    Shows (c.moved m) (m.exactly t) r ∧ Answers c r m (c.move m) ∧ Forward r r m := by
  have hmove := move_of_invalid (c := c) hm
  have hnone {n : Nat} (hn : n ≤ maxSafeInteger) : m.number ≠ .ofNat n := by
    intro heq
    -- Neither the reading nor the exact time moves.
    rw [heq, toSafeNat?_ofNat hn] at hm
    cases hm
  have hexactly : m.exactly t = t := by
    cases m with
    | advance amount =>
      rw [ClockMove.exactly, show amount.toSafeNat? = none from hm]
      rfl
    | set time =>
      rw [ClockMove.exactly, show time.toSafeNat? = none from hm]
      exact Nat.max_zero t
  rw [moved, hmove, hexactly]
  refine ⟨h, .invalid fun n hn => hnone hn, Nat.le_refl r, fun n hn _ hle => ?_⟩
  exact absurd (congrArg ClockMove.number hn) (hnone hle)

/-- An amount is added and rounded. -/
private theorem step_advance (h : Shows c t r) {n : Nat} (hn : n ≤ maxSafeInteger) :
    ∃ r', Shows (c.moved (.advance (.ofNat n))) (t + n) r' ∧
      Answers c r (.advance (.ofNat n)) (c.move (.advance (.ofNat n))) ∧
      Forward r r' (.advance (.ofNat n)) := by
  have hmax := maxSafeInteger_eq
  have hbounded := h.bounded
  obtain ⟨r', hsum, hnearest⟩ := ofNat_isNearest (n := r + n) (by omega)
  have hmove : c.move (.advance (.ofNat n)) = .ok ⟨.finite r'⟩ := by
    show c.advance (.ofNat n) = _
    rw [advance_ofNat c hn, h.current, finite_add_ofNat r (Nat.le_succ_of_le hn), hsum]
  have hle : r ≤ r' := hnearest.le_of_le h.representable (Nat.le_add_right r n)
  rw [moved, hmove]
  refine ⟨r', ⟨rfl, hnearest.1, hnearest.le_of_add h.bounded (by omega), fun hsmall => ?_,
    fun hbeyond => ?_⟩, .advance hn hnearest, hle, fun k hk hpos _ hvalid => ?_⟩
  · -- Up to `2 ^ 53` the reading was exact, and the sum is represented.
    obtain rfl := h.exact (by omega)
    exact hnearest.eq_of_representable (representable_of_le hsmall)
  · -- Beyond the valid times, the reading does not come back.
    rcases Nat.lt_or_ge maxSafeInteger t with ht | ht
    · exact (h.beyond ht).trans_le hle
    · -- The exact sum is at least `2 ^ 53`, which is a number.
      obtain rfl := h.exact (by omega)
      have hfrom := hnearest.le_of_le (representable_of_le (Nat.le_refl _)) (by omega)
      omega
  · -- One more than a valid time is a number.
    have hsame : n = k := by
      have hnumber : Number.ofNat n = .ofNat k := congrArg ClockMove.number hk
      have := toSafeNat?_ofNat hn
      rw [hnumber, toSafeNat?_ofNat (by assumption)] at this
      exact (Option.some.inj this).symm
    exact hnearest.le_of_le (representable_of_le (show r + 1 ≤ 2 ^ 53 by omega)) (by omega)

/-- A later time is shown as it is. -/
private theorem step_set (h : Shows c t r) {n : Nat} (hn : n ≤ maxSafeInteger) :
    ∃ r', Shows (c.moved (.set (.ofNat n))) (max t n) r' ∧
      Answers c r (.set (.ofNat n)) (c.move (.set (.ofNat n))) ∧
      Forward r r' (.set (.ofNat n)) := by
  have hmax := maxSafeInteger_eq
  have hmove : c.move (.set (.ofNat n)) = _ := set_ofNat hn h.current
  have hexact := h.exact
  have hbeyond := h.beyond
  by_cases hback : n < r
  · rw [if_pos hback] at hmove
    have htime : max t n = t := by omega
    rw [moved, hmove, htime]
    exact ⟨r, h, .setBack hn hback, Nat.le_refl r, nofun⟩
  · rw [if_neg hback] at hmove
    have htime : max t n = n := by omega
    rw [moved, hmove, htime]
    refine ⟨n, ⟨rfl, representable_of_le (by omega), by omega, fun _ => rfl, fun hlt => hlt⟩,
      .set hn (Nat.not_lt.1 hback), Nat.not_lt.1 hback, nofun⟩

/-- What a move does to a clock. -/
theorem step (h : Shows c t r) (m : ClockMove) :
    ∃ r', Shows (c.moved m) (m.exactly t) r' ∧ Answers c r m (c.move m) ∧ Forward r r' m := by
  cases hm : m.number.toSafeNat? with
  | none => exact ⟨r, h.step_invalid hm⟩
  | some n =>
    obtain ⟨hnumber, hn⟩ := eq_ofNat_of_toSafeNat? hm
    cases m with
    | advance amount =>
      obtain rfl : amount = .ofNat n := hnumber
      rw [ClockMove.exactly, toSafeNat?_ofNat hn]
      exact h.step_advance hn
    | set time =>
      obtain rfl : time = .ofNat n := hnumber
      rw [ClockMove.exactly, toSafeNat?_ofNat hn]
      exact h.step_set hn

end Shows

/-! ## All moves -/

/-- A clock that has started shows its exact time, which is valid. -/
theorem shows_start {start : Number} {c : ManualClock} (h : ManualClock.start start = .ok c) :
    ∃ t ≤ maxSafeInteger, start = .ofNat t ∧ Shows c t t := by
  have hmax := maxSafeInteger_eq
  have hvalid : checkTimestamp start = .ok () := by
    unfold ManualClock.start at h
    cases hcheck : checkTimestamp start with
    | error fault =>
      rw [hcheck] at h
      cases h
    | ok _ => rfl
  obtain ⟨t, ht, rfl⟩ := checkTimestamp_eq_ok.1 hvalid
  rw [ManualClock.start, hvalid] at h
  obtain rfl : (⟨.ofNat t⟩ : ManualClock) = c := Except.ok.inj h
  exact ⟨t, ht, rfl, ofNat_of_le (by omega), representable_of_le (by omega), by omega,
    fun _ => rfl, fun hlt => hlt⟩

theorem shows_run {c : ManualClock} {t r : Nat} (h : Shows c t r) (moves : List ClockMove) :
    ∃ r', Shows (c.run moves) (exactTime t moves) r' := by
  induction moves generalizing c t r with
  | nil => exact ⟨r, h⟩
  | cons m rest ih =>
    obtain ⟨r', h', -⟩ := h.step m
    exact ih h'

/-- For every clock that was started and all moves with any numbers: the clock shows a natural
number, which is the exact time as long as that is at most `2 ^ 53`, and a valid time exactly as
long as the exact time is one.  The next move is refused and changes nothing, sets the clock to the
time that is asked for, or adds an amount and rounds the sum; no move takes the reading back, and
from a valid time each amount but zero takes it forward. -/
theorem readings_nearest {start : Number} {c : ManualClock}
    (h : ManualClock.start start = .ok c) :
    ∃ t ≤ maxSafeInteger, start = .ofNat t ∧ ∀ moves, ∃ r : Nat,
      ((c.run moves).current = .finite r ∧ r ≤ 2 ^ 106) ∧
      (exactTime t moves ≤ 2 ^ 53 → r = exactTime t moves) ∧
      (checkTimestamp (c.run moves).current = .ok () ↔ exactTime t moves ≤ maxSafeInteger) ∧
      ∀ m, Answers (c.run moves) r m ((c.run moves).move m) ∧
        ∃ r' : Nat, (c.run (moves ++ [m])).current = .finite r' ∧ Forward r r' m := by
  obtain ⟨t, ht, rfl, hstart⟩ := shows_start h
  refine ⟨t, ht, rfl, fun moves => ?_⟩
  obtain ⟨r, hr⟩ := shows_run hstart moves
  refine ⟨r, ⟨hr.current, hr.bounded⟩, hr.exact, ?_, fun m => ?_⟩
  · -- A reading is valid just if the exact time is.
    have hmax := maxSafeInteger_eq
    have hexact := hr.exact
    have hbeyond := hr.beyond
    rw [checkTimestamp_eq_ok, hr.current]
    constructor
    · rintro ⟨n, hn, heq⟩
      rw [ofNat_of_le (Nat.le_succ_of_le hn), Number.finite.injEq, Rat.natCast_inj] at heq
      omega
    · intro hvalid
      exact ⟨r, by omega, (ofNat_of_le (by omega)).symm⟩
  · -- One more move is a step from the reading.
    obtain ⟨r', hr', hanswers, hforward⟩ := hr.step m
    refine ⟨hanswers, r', ?_, hforward⟩
    rw [run, List.foldl_append]
    exact hr'.current

/-- The last valid time is reached exactly. -/
theorem readings_nearest_last_valid :
    let start := Number.ofNat (maxSafeInteger - 1)
    ManualClock.start start = .ok ⟨start⟩ ∧
      ((⟨start⟩ : ManualClock).run [.advance (.ofNat 1)]).current = .finite maxSafeInteger := by
  intro start
  have hstart : ManualClock.start start = .ok ⟨start⟩ := rfl
  refine ⟨hstart, ?_⟩
  obtain ⟨t, ht, hsame, hmoves⟩ := readings_nearest hstart
  obtain ⟨r, ⟨hcurrent, -⟩, hexact, -⟩ := hmoves [.advance (.ofNat 1)]
  have htime : t = maxSafeInteger - 1 := by
    have hread := toSafeNat?_ofNat (show maxSafeInteger - 1 ≤ maxSafeInteger by decide)
    rw [show Number.ofNat (maxSafeInteger - 1) = .ofNat t from hsame, toSafeNat?_ofNat ht] at hread
    exact Option.some.inj hread
  have hsum : exactTime t [.advance (.ofNat 1)] = maxSafeInteger := by
    rw [htime]
    decide +kernel
  rw [hcurrent, hexact (by rw [hsum]; decide), hsum]

/-- From the last valid time a clock is advanced to a reading that is no valid time, and from there
advancing it by one does not move it. -/
theorem reading_leaves_range :
    let c : ManualClock := ⟨.ofNat maxSafeInteger⟩
    let past := c.run [.advance (.ofNat 1)]
    (ManualClock.start (.ofNat maxSafeInteger)).toOption.map current = some c.current ∧
      (c.move (.advance (.ofNat 1))).isOk ∧ past.current = .finite (2 ^ 53) ∧
      (checkTimestamp past.current).isOk = false ∧
      (past.move (.advance (.ofNat 1))).toOption.map current = some past.current := by
  decide +kernel

end ManualClock

end ProofOfExistence
