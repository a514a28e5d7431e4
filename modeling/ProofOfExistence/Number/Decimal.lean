import ProofOfExistence.Number.Basic

/-! # Decimal text of numbers

Reading: a decimal literal is a natural number times a power of ten, taken to the nearest
representable value (`Number.ofDecimal`).

Writing: `Number.toText` gives the fewest significant digits that read back as the same number, of
two candidates the nearer, of two equally near ones the even.  The digits stand positionally when
the decimal point falls from six places before them to twenty-one places after their start, and
otherwise in exponent form, as in `1e+21` and `1.5e-7`.  An integer of at most `2 ^ 53` in magnitude
is written with all its digits, which is the same text. -/

namespace ProofOfExistence

/-- The text of a natural number in base ten. -/
def decimalDigits (n : Nat) : List Char := Nat.toDigits 10 n

namespace Number

/-- The number that a list of decimal digits spells. -/
def digitsValue (ds : List Char) : Nat := ds.foldl (fun n d => 10 * n + (d.toNat - '0'.toNat)) 0

/-- The number nearest to `digits * 10 ^ exponent`.  Exponents far outside the range of the format
are decided without forming the power: the value is zero or infinite there. -/
def ofDecimal (digits : Nat) (exponent : Int) : Number :=
  if digits = 0 then 0
  else
    let magnitude : Int := exponent + (decimalDigits digits).length
    if magnitude > 400 then infinity false
    else if magnitude < -400 then 0
    else if exponent < 0 then ofRat (mkRat digits (Nat.pow 10 exponent.natAbs))
    else ofRat (digits * Nat.pow 10 exponent.natAbs : Nat)

/-- The power of ten just above a positive quotient: the `x` with
`10 ^ (x - 1) ≤ num / den < 10 ^ x`. -/
def decimalPoint (num den : Nat) : Int :=
  if den ≤ num then (decimalDigits (num / den)).length
  else
    -- Below one: the inverse has `l` digits before its point, and is a power of ten or is not.
    let l := (decimalDigits (den / num)).length
    if den ≤ num * Nat.pow 10 (l - 1) then 2 - l else 1 - l

/-- The candidates of `count` digits next to a positive quotient whose decimal point is `point`:
each is a significand for the unit `10 ^ (point - count)`, and the nearer one comes first. -/
def candidates (num den : Nat) (point : Int) (count : Nat) : List Nat :=
  let e := point - count
  let (n, d) := if e < 0 then (num * Nat.pow 10 e.natAbs, den) else (num, den * Nat.pow 10 e.natAbs)
  let low := n / d
  let twice := 2 * (n % d)
  if n % d = 0 then [low]
  else if twice < d ∨ (twice = d ∧ low % 2 = 0) then [low, low + 1]
  else [low + 1, low]

/-- The shortest significand and exponent that read back as `value`, trying `count`, `count + 1`, …
digits; seventeen digits always suffice. -/
def shortestFrom (value : Number) (num den : Nat) (point : Int) : Nat → Nat → Nat × Int
  | 0, count => ((candidates num den point count).headD 0, point - count)
  | tries + 1, count =>
    match (candidates num den point count).find? fun c => ofDecimal c (point - count) = value with
    | some c => (c, point - count)
    | none => shortestFrom value num den point tries (count + 1)

/-- A run of zeros. -/
def zeros (n : Nat) : List Char := List.replicate n '0'

/-- Lay out significant digits whose decimal point stands `point` places after their start. -/
def layout (digits : List Char) (point : Int) : List Char :=
  if (digits.length : Int) ≤ point ∧ point ≤ 21 then
    digits ++ zeros (point.toNat - digits.length)
  else if 0 < point ∧ point ≤ 21 then
    digits.take point.toNat ++ '.' :: digits.drop point.toNat
  else if -6 < point ∧ point ≤ 0 then
    '0' :: '.' :: zeros point.natAbs ++ digits
  else
    let e := point - 1
    let exponent := (if e < 0 then '-' else '+') :: decimalDigits e.natAbs
    match digits with
    | [d] => d :: 'e' :: exponent
    | ds => ds.take 1 ++ '.' :: ds.drop 1 ++ 'e' :: exponent

/-- Drop the zeros at the end of a digit list. -/
def dropTrailingZeros (digits : List Char) : List Char :=
  (digits.reverse.dropWhile (· = '0')).reverse

/-- The characters of a positive finite value that is not a small integer. -/
def positiveText (q : Rat) : List Char :=
  let num := q.num.natAbs
  let (significand, exponent) :=
    shortestFrom (finite (mkRat num q.den)) num q.den (decimalPoint num q.den) 17 1
  let digits := decimalDigits significand
  layout (dropTrailingZeros digits) (exponent + digits.length)

/-- The characters of a finite value. -/
def finiteText (q : Rat) : List Char :=
  let body :=
    if q.den = 1 ∧ q.num.natAbs ≤ maxSafeInteger + 1 then decimalDigits q.num.natAbs
    else positiveText q
  if q.num < 0 then '-' :: body else body

/-- The text of a number. -/
def toText : Number → String
  | nan => "NaN"
  | infinity false => "Infinity"
  | infinity true => "-Infinity"
  | finite q => String.ofList (finiteText q)

instance : ToString Number := ⟨toText⟩

end Number

end ProofOfExistence
