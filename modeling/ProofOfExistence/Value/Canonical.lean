import ProofOfExistence.Value.Basic
import ProofOfExistence.Value.Quoted

/-! # Canonical text of values

The canonical text of a value is the JSON text that is signed: no white space, members sorted by the
code units of their names, absent members left out, an absent list item written as null.  It exists
unless the value holds a number that is not finite, or is absent as a whole; the first such number
in the order of writing decides the error.

`Value.canonical` returns the text or the cause. -/

namespace ProofOfExistence

/-- Why a value has no canonical text. -/
inductive CanonicalError where
  /-- It holds a number that is not a number. -/
  | nan
  /-- It holds an infinite number. -/
  | infinity
  /-- There is no value to write. -/
  | absent
deriving DecidableEq

/-- The wording of a canonicalization error. -/
def CanonicalError.message : CanonicalError → String
  | nan => "NaN is not allowed"
  | infinity => "Infinity is not allowed"
  | absent => "Failed to canonicalize object"

namespace Value

/-- Put a named entry before the first one whose name is greater. -/
def insertByName {α : Type} (e : Utf16 × α) : List (Utf16 × α) → List (Utf16 × α)
  | [] => [e]
  | f :: rest => if e.1.lt f.1 then e :: f :: rest else f :: insertByName e rest

/-- Sort named entries by the code units of their names. -/
def sortByName {α : Type} (es : List (Utf16 × α)) : List (Utf16 × α) :=
  es.foldr insertByName []

/-- The canonical text of a number. -/
def canonicalNumber : Number → Except CanonicalError (List Char)
  | .nan => .error .nan
  | .infinity _ => .error .infinity
  | .finite q => .ok (Number.finiteText q)

/-- A named text as an object member. -/
def memberText (name : Utf16) (text : List Char) : List Char := name.quoted ++ ':' :: text

/-- The texts of sorted members, or the first error among them. -/
def memberTexts (es : List (Utf16 × Except CanonicalError (List Char))) :
    Except CanonicalError (List (List Char)) :=
  es.mapM fun e => e.2.map (memberText e.1)

mutual

/-- The characters of the canonical text of a value; an absent value stands as null. -/
def canonicalChars : Value → Except CanonicalError (List Char)
  | absent => .ok ['n', 'u', 'l', 'l']
  | null => .ok ['n', 'u', 'l', 'l']
  | bool true => .ok ['t', 'r', 'u', 'e']
  | bool false => .ok ['f', 'a', 'l', 's', 'e']
  | num x => canonicalNumber x
  | str s => .ok s.quoted
  | arr items => do
    let texts ← canonicalItems items
    return '[' :: (commaJoined texts ++ [']'])
  | obj members => do
    let texts ← memberTexts (sortByName (canonicalMembers members))
    return '{' :: (commaJoined texts ++ ['}'])

/-- The canonical texts of list items. -/
def canonicalItems : List Value → Except CanonicalError (List (List Char))
  | [] => .ok []
  | v :: rest => do
    let text ← canonicalChars v
    let texts ← canonicalItems rest
    return text :: texts

/-- The canonical texts of the members that are not absent, each with its name. -/
def canonicalMembers : List (Utf16 × Value) → List (Utf16 × Except CanonicalError (List Char))
  | [] => []
  | (name, v) :: rest =>
    if v.isAbsent then canonicalMembers rest
    else (name, canonicalChars v) :: canonicalMembers rest

end

/-- The canonical text of a value. -/
def canonical (v : Value) : Except CanonicalError String :=
  if v.isAbsent then .error .absent else v.canonicalChars.map String.ofList

end Value

end ProofOfExistence
