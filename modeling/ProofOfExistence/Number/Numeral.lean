import ProofOfExistence.Number.Decimal
import ProofOfExistence.Text.Blank
import ProofOfExistence.Text.HexDigit

/-! # Numerals in settings

A setting may spell a number loosely: white space around it is ignored, and the empty text is zero.
A decimal numeral has an optional sign, digits with an optional point among or beside them, and an
optional power of ten; the word `Infinity` stands for the infinite number.  A whole number may also
be written without sign in base sixteen, eight or two behind `0x`, `0o` or `0b`.  Any other text is
not a number. -/

namespace ProofOfExistence.Number

/-- The value of a digit in a base up to sixteen. -/
def digitIn? (base : Nat) (c : Char) : Option Nat :=
  (hexDigitValue? c).filter (· < base)

/-- The number that digits in some base spell; there must be at least one. -/
def readInBase (base : Nat) (cs : List Char) : Number :=
  match cs.mapM (digitIn? base) with
  | some (d :: ds) => ofNat ((d :: ds).foldl (fun n d => base * n + d) 0)
  | _ => nan

/-- The exponent that a text spells: nothing, or a letter, an optional sign and digits. -/
def readPower : List Char → Option Int
  | [] => some 0
  | e :: rest =>
    let (negative, ds) : Bool × List Char :=
      match rest with
      | '-' :: ds => (true, ds)
      | '+' :: ds => (false, ds)
      | ds => (false, ds)
    if (e = 'e' ∨ e = 'E') ∧ !ds.isEmpty ∧ ds.all Char.isDigit then
      some (if negative then -(digitsValue ds : Int) else digitsValue ds)
    else none

/-- The number that an unsigned decimal numeral spells. -/
def readUnsigned (cs : List Char) : Number :=
  if cs = "Infinity".toList then infinity false
  else
    let whole := cs.takeWhile Char.isDigit
    let rest := cs.dropWhile Char.isDigit
    let (fraction, rest) : List Char × List Char :=
      match rest with
      | '.' :: more => (more.takeWhile Char.isDigit, more.dropWhile Char.isDigit)
      | _ => ([], rest)
    match readPower rest with
    | some e =>
      if whole.isEmpty && fraction.isEmpty then nan
      else ofDecimal (digitsValue (whole ++ fraction)) (e - fraction.length)
    | none => nan

/-- The number that a list of characters without white space around it spells. -/
def readTrimmed : List Char → Number
  | [] => 0
  | '-' :: cs => (readUnsigned cs).neg
  | '+' :: cs => readUnsigned cs
  | '0' :: c :: cs =>
    if c = 'x' ∨ c = 'X' then readInBase 16 cs
    else if c = 'o' ∨ c = 'O' then readInBase 8 cs
    else if c = 'b' ∨ c = 'B' then readInBase 2 cs
    else readUnsigned ('0' :: c :: cs)
  | cs => readUnsigned cs

/-- The number that a text spells. -/
def ofNumeral (text : String) : Number := readTrimmed (Text.trimChars text.toList)

end ProofOfExistence.Number
