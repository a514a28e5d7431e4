import ProofOfExistence.Value.Basic
import ProofOfExistence.Value.Quoted

/-! # Compact text of values

The compact text of a value is JSON text without white space that keeps the order of members, save
that members named by an array index come first, in rising order.  Absent members are left out,
absent list items and numbers that are not finite stand as null.  Log lines and envelopes travel in
this form. -/

namespace ProofOfExistence

/-- The array index that a name spells: a decimal below `2 ^ 32 - 1` without leading zeros. -/
def Utf16.arrayIndex? (name : Utf16) : Option Nat :=
  let digits := name.units.map fun u => u.toNat - '0'.toNat
  let spelled := name.units.all fun u => '0'.toNat ≤ u.toNat && u.toNat ≤ '9'.toNat
  let n := digits.foldl (fun n d => 10 * n + d) 0
  match digits with
  | [] => none
  | d :: rest =>
    if spelled && (d ≠ 0 || rest.isEmpty) && name.length ≤ 10 && n < 4294967295 then some n
    else none

namespace Value

/-- Put an indexed entry before the first one whose index is greater. -/
def insertByIndex {α : Type} (e : Nat × α) : List (Nat × α) → List (Nat × α)
  | [] => [e]
  | f :: rest => if e.1 < f.1 then e :: f :: rest else f :: insertByIndex e rest

/-- Named entries with those named by an array index first, in rising order. -/
def indexedFirst {α : Type} (es : List (Utf16 × α)) : List (Utf16 × α) :=
  let indexed := es.filterMap fun e => e.1.arrayIndex?.map fun i => (i, e)
  let named := es.filter fun e => e.1.arrayIndex?.isNone
  (indexed.foldr insertByIndex []).map Prod.snd ++ named

mutual

/-- The characters of the compact text of a value. -/
def compactChars : Value → List Char
  | absent => ['n', 'u', 'l', 'l']
  | null => ['n', 'u', 'l', 'l']
  | bool b => (if b then "true" else "false").toList
  | num (.finite q) => Number.finiteText q
  | num _ => ['n', 'u', 'l', 'l']
  | str s => s.quoted
  | arr items => '[' :: (commaJoined (compactItems items) ++ [']'])
  | obj members =>
    let texts := (indexedFirst (compactMembers members)).map fun e => e.1.quoted ++ ':' :: e.2
    '{' :: (commaJoined texts ++ ['}'])

/-- The compact texts of list items. -/
def compactItems : List Value → List (List Char)
  | [] => []
  | v :: rest => compactChars v :: compactItems rest

/-- The compact texts of the members that are not absent, each with its name. -/
def compactMembers : List (Utf16 × Value) → List (Utf16 × List Char)
  | [] => []
  | (name, v) :: rest =>
    if v.isAbsent then compactMembers rest
    else (name, compactChars v) :: compactMembers rest

end

/-- The compact text of a value. -/
def compact (v : Value) : String := String.ofList v.compactChars

end Value

end ProofOfExistence
