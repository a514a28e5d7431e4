import ProofOfExistence.Number.Decimal
import ProofOfExistence.Text.Utf16

/-! # Loosely typed values

Envelopes, configuration overrides, log contexts and the objects that get signed arrive as data of
no fixed shape: a JSON value, or one that JSON cannot spell, such as an infinite number or an absent
member.  `Value` is that type.  Members of an object keep the order in which they were first
written, and no two of them have one name when a value comes from `Value.object` or from reading
text. -/

namespace ProofOfExistence

/-- A loosely typed value. -/
inductive Value where
  /-- No value at all, as a member that is declared and not set. -/
  | absent
  | null
  | bool (b : Bool)
  | num (x : Number)
  | str (s : Utf16)
  | arr (items : List Value)
  | obj (members : List (Utf16 × Value))
deriving Inhabited

namespace Value

/-- The text value of a string. -/
def ofString (s : String) : Value := .str (Utf16.ofString s)

/-- An object from named members. -/
def object (members : List (String × Value)) : Value :=
  .obj (members.map fun m => (Utf16.ofString m.1, m.2))

/-- The text of an optional string, absent when there is none. -/
def ofString? : Option String → Value
  | some s => ofString s
  | none => .absent

/-- Whether a value is absent. -/
def isAbsent : Value → Bool
  | absent => true
  | _ => false

/-- The member of that name, absent when there is none. -/
def member (name : String) (members : List (Utf16 × Value)) : Value :=
  match members.find? fun m => m.1 = Utf16.ofString name with
  | some m => m.2
  | none => .absent

mutual

/-- The bare text of a value: text as it is, lists joined by commas with nothing for null and absent
items, and a fixed word for an object.  An object with a member called `toString` has no text, since
that member takes the place of the fixed word and is none itself; nor has a list with such an object
in it. -/
def plainText? : Value → Option String
  | absent => some "undefined"
  | null => some "null"
  | bool b => some (if b then "true" else "false")
  | num x => some x.toText
  | str s => some s.toString
  | arr items => (plainItems? items).map (String.intercalate ",")
  | obj members =>
    if members.any (·.1 = Utf16.ofString "toString") then none else some "[object Object]"

/-- The bare texts of list items, empty for null and absent ones. -/
def plainItems? : List Value → Option (List String)
  | [] => some []
  | absent :: rest => (plainItems? rest).map ("" :: ·)
  | null :: rest => (plainItems? rest).map ("" :: ·)
  | v :: rest => do return (← plainText? v) :: (← plainItems? rest)

end

end Value

end ProofOfExistence
