import ProofOfExistence.Value.Basic
import ProofOfExistence.Text.HexDigit
import ProofOfExistence.Table

/-! # Reading JSON text

`Value.parse` reads a JSON text: one value between blanks and nothing after it.  Blanks are space,
tab, line feed and carriage return only.  A name that is written twice keeps the place of its first
use and the value of its last.  A number is taken to the nearest binary64 number.  A string may
spell any code unit with an escape, also a surrogate without its partner.

Each reader takes the characters from its own first one on and returns what it read with the rest.
The readers of nested values count down a bound, which the length of the text provides. -/

namespace ProofOfExistence

namespace Value

/-- Whether a character may stand between the tokens of a JSON text. -/
def isBlank (c : Char) : Bool := c = ' ' || c = '\t' || c = '\n' || c = '\r'

/-- Drop the blanks at the start. -/
def skipBlanks (cs : List Char) : List Char := cs.dropWhile isBlank

/-- The code unit spelled by four hexadecimal digits. -/
def readUnit? (a b c d : Char) : Option UInt16 := do
  let a ← hexDigitValue? a
  let b ← hexDigitValue? b
  let c ← hexDigitValue? c
  let d ← hexDigitValue? d
  return UInt16.ofNat (4096 * a + 256 * b + 16 * c + d)

/-- The code unit of an escape letter. -/
def escapeUnit? (c : Char) : Option UInt16 :=
  if c = '"' ∨ c = '\\' ∨ c = '/' then some (UInt16.ofNat c.toNat)
  else if c = 'b' then some 8
  else if c = 't' then some 9
  else if c = 'n' then some 10
  else if c = 'f' then some 12
  else if c = 'r' then some 13
  else none

/-- Read the rest of a string after its opening quote. -/
def readQuoted : List Char → Option (List UInt16 × List Char)
  | [] => none
  | '"' :: rest => some ([], rest)
  | '\\' :: 'u' :: a :: b :: c :: d :: rest => do
    let u ← readUnit? a b c d
    let (us, rest) ← readQuoted rest
    return (u :: us, rest)
  | '\\' :: e :: rest => do
    let u ← escapeUnit? e
    let (us, rest) ← readQuoted rest
    return (u :: us, rest)
  | c :: rest =>
    -- A backslash can only be the last character here.
    if c = '\\' ∨ c.toNat < 0x20 then none
    else do
      let (us, rest) ← readQuoted rest
      return (Utf16.ofChar c ++ us, rest)

/-- Split off the decimal digits at the start. -/
def spanDigits (cs : List Char) : List Char × List Char :=
  (cs.takeWhile Char.isDigit, cs.dropWhile Char.isDigit)

/-- Read the whole part of a number: a zero, or digits that do not start with one. -/
def readWhole (cs : List Char) : Option (List Char × List Char) :=
  match cs with
  | '0' :: rest => some (['0'], rest)
  | cs =>
    match spanDigits cs with
    | ([], _) => none
    | (ds, rest) => some (ds, rest)

/-- Read the part after the decimal point, if there is one. -/
def readFraction (cs : List Char) : Option (List Char × List Char) :=
  match cs with
  | '.' :: rest =>
    match spanDigits rest with
    | ([], _) => none
    | (ds, rest) => some (ds, rest)
  | cs => some ([], cs)

/-- Read a sign, or none; the flag is set for a minus. -/
def readSign : List Char → Bool × List Char
  | '-' :: rest => (true, rest)
  | '+' :: rest => (false, rest)
  | cs => (false, cs)

/-- Read the power of ten of a number, if there is one. -/
def readExponent (cs : List Char) : Option (Int × List Char) :=
  match cs with
  | c :: rest =>
    if c = 'e' ∨ c = 'E' then
      let (negative, rest) := readSign rest
      match spanDigits rest with
      | ([], _) => none
      | (ds, rest) =>
        let n : Int := Number.digitsValue ds
        some (if negative then -n else n, rest)
    else some (0, cs)
  | [] => some (0, [])

/-- Read a number after its sign. -/
def readMagnitude (cs : List Char) : Option (Number × List Char) := do
  let (whole, cs) ← readWhole cs
  let (fraction, cs) ← readFraction cs
  let (exponent, cs) ← readExponent cs
  let digits := Number.digitsValue (whole ++ fraction)
  return (Number.ofDecimal digits (exponent - fraction.length), cs)

/-- Read a number. -/
def readNumber (cs : List Char) : Option (Number × List Char) :=
  match cs with
  | '-' :: rest => (readMagnitude rest).map fun r => (r.1.neg, r.2)
  | cs => readMagnitude cs

/-- The members as written, with one entry for each name: the last value in the first place. -/
def mergeMembers (members : List (Utf16 × Value)) : List (Utf16 × Value) :=
  members.foldl (fun acc m => Table.putEntry m.1 m.2 acc) []

mutual

/-- Read a value. -/
def readValue : Nat → List Char → Option (Value × List Char)
  | 0, _ => none
  | _, 'n' :: 'u' :: 'l' :: 'l' :: rest => some (.null, rest)
  | _, 't' :: 'r' :: 'u' :: 'e' :: rest => some (.bool true, rest)
  | _, 'f' :: 'a' :: 'l' :: 's' :: 'e' :: rest => some (.bool false, rest)
  | _, '"' :: rest => (readQuoted rest).map fun r => (.str ⟨r.1⟩, r.2)
  | n + 1, '[' :: rest =>
    match skipBlanks rest with
    -- A closing bracket may follow the opening one, but not a comma.
    | ']' :: rest => some (.arr [], rest)
    | cs => (readItems n cs).map fun r => (.arr r.1, r.2)
  | n + 1, '{' :: rest =>
    match skipBlanks rest with
    | '}' :: rest => some (.obj [], rest)
    | cs => (readMembers n cs).map fun r => (.obj (mergeMembers r.1), r.2)
  -- No word, quote or bracket: what is left is a number.
  | _, cs => (readNumber cs).map fun r => (.num r.1, r.2)

/-- Read the items of a list up to its closing bracket. -/
def readItems : Nat → List Char → Option (List Value × List Char)
  | 0, _ => none
  | n + 1, cs => do
    let (v, cs) ← readValue n cs
    match skipBlanks cs with
    | ']' :: rest => return ([v], rest)
    | ',' :: rest =>
      let (vs, rest) ← readItems n (skipBlanks rest)
      return (v :: vs, rest)
    | _ => none

/-- Read the members of an object up to its closing brace. -/
def readMembers : Nat → List Char → Option (List (Utf16 × Value) × List Char)
  | 0, _ => none
  | n + 1, '"' :: cs => do
    let (name, cs) ← readQuoted cs
    match skipBlanks cs with
    | ':' :: rest =>
      let (v, cs) ← readValue n (skipBlanks rest)
      match skipBlanks cs with
      | '}' :: rest => return ([(⟨name⟩, v)], rest)
      | ',' :: rest =>
        let (ms, rest) ← readMembers n (skipBlanks rest)
        return ((⟨name⟩, v) :: ms, rest)
      | _ => none
    | _ => none
  | _, _ => none

end

/-- Read the characters of a JSON text. -/
def parseChars (cs : List Char) : Option Value := do
  let (v, rest) ← readValue (cs.length + 1) (skipBlanks cs)
  if skipBlanks rest = [] then return v else none

/-- Read a JSON text; `none` when it is not well formed. -/
def parse (text : String) : Option Value := parseChars text.toList

end Value

end ProofOfExistence
