import ProofOfExistence.Crypto.Bytes

/-! # Base64 text of bytes, url alphabet

Writing takes three bytes to four characters of the alphabet `A-Z a-z 0-9 - _` and adds no padding.

Reading is forgiving: blanks are dropped, `+` and `/` stand for `-` and `_`, and up to two padding
signs are dropped from a text whose length is a multiple of four.  It fails on any other character
and when a single character is left over.  Bits left over at the end are ignored. -/

namespace ProofOfExistence.Base64Url

/-- The character of a number below 64. -/
def digit (n : Nat) : Char :=
  if n < 26 then Char.ofNat ('A'.toNat + n)
  else if n < 52 then Char.ofNat ('a'.toNat + (n - 26))
  else if n < 62 then Char.ofNat ('0'.toNat + (n - 52))
  else if n = 62 then '-'
  else '_'

/-- The number that a character of the alphabet stands for. -/
def value? (c : Char) : Option Nat :=
  if 'A' ≤ c ∧ c ≤ 'Z' then some (c.toNat - 'A'.toNat)
  else if 'a' ≤ c ∧ c ≤ 'z' then some (c.toNat - 'a'.toNat + 26)
  else if '0' ≤ c ∧ c ≤ '9' then some (c.toNat - '0'.toNat + 52)
  else if c = '-' then some 62
  else if c = '_' then some 63
  else none

/-- Whether a character belongs to the url alphabet. -/
def isDigit (c : Char) : Bool := (value? c).isSome

/-- The characters of a byte sequence. -/
def encodeChars : Bytes → List Char
  | [] => []
  | [a] => [digit (a.toNat / 4), digit (a.toNat % 4 * 16)]
  | [a, b] =>
    [digit (a.toNat / 4), digit (a.toNat % 4 * 16 + b.toNat / 16), digit (b.toNat % 16 * 4)]
  | a :: b :: c :: rest =>
    digit (a.toNat / 4) :: digit (a.toNat % 4 * 16 + b.toNat / 16) ::
      digit (b.toNat % 16 * 4 + c.toNat / 64) :: digit (c.toNat % 64) :: encodeChars rest

/-- The text of a byte sequence. -/
def encode (bytes : Bytes) : String := String.ofList (encodeChars bytes)

/-- Whether a character is dropped before reading: space, tab, line feed, form feed or carriage
return. -/
def isBlank (c : Char) : Bool := c = ' ' || c = '\t' || c = '\n' || c = '\x0c' || c = '\r'

/-- Drop up to two padding signs at the end of a text whose length is a multiple of four. -/
def dropPadding (cs : List Char) : List Char :=
  if cs.length % 4 = 0 then
    match cs.reverse with
    | '=' :: '=' :: rest => rest.reverse
    | '=' :: rest => rest.reverse
    | _ => cs
  else cs

/-- The number that a character stands for in either alphabet. -/
def anyValue? (c : Char) : Option Nat :=
  if c = '+' then some 62 else if c = '/' then some 63 else value? c

/-- The bytes that a list of six-bit numbers spells; a single one left over spells none. -/
def joinSextets : List Nat → Option Bytes
  | [] => some []
  | [_] => none
  | [a, b] => some [UInt8.ofNat (a * 4 + b / 16)]
  | [a, b, c] => some [UInt8.ofNat (a * 4 + b / 16), UInt8.ofNat (b % 16 * 16 + c / 4)]
  | a :: b :: c :: d :: rest => do
    let bytes ← joinSextets rest
    return UInt8.ofNat (a * 4 + b / 16) :: UInt8.ofNat (b % 16 * 16 + c / 4) ::
      UInt8.ofNat (c % 4 * 64 + d) :: bytes

/-- The bytes of a list of characters without blanks and padding. -/
def decodeChars (cs : List Char) : Option Bytes := do
  let sextets ← cs.mapM anyValue?
  joinSextets sextets

/-- The bytes of a text. -/
def decode? (text : String) : Option Bytes :=
  decodeChars (dropPadding (text.toList.filter fun c => !isBlank c))

end ProofOfExistence.Base64Url
