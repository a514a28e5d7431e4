import ProofOfExistence.Text.Collation.Accent
import ProofOfExistence.Text.Collation.Joining
import ProofOfExistence.Text.Collation.Order
import ProofOfExistence.Text.Collation.Spelling
import ProofOfExistence.Text.Utf16

/-! # The dictionary order of names

Names are compared the way a dictionary does, in three rounds: by their letters without regard to
accents and case, then by accents, then by case and other forms, small letters first.  White space
comes first, then punctuation, other symbols, currency signs, digits and letters; ideographs come
after the other letters, by their radicals and strokes.  Characters that are never shown, such as
controls, count for nothing.  This is the root collation order, in which canonically equivalent
names are alike.

Names of ASCII characters only are compared without a look at the tables of other characters. -/

namespace ProofOfExistence.Collation

/-- What one letter or accent adds to the rounds of a comparison. -/
structure Weight where
  /-- The place of a letter, or zero for an accent, which has none. -/
  place : Nat
  /-- The accent, one for a letter without any. -/
  accent : Nat
  /-- The form of a letter: its case and typography. -/
  form : Nat
deriving DecidableEq

/-- The weight of an ASCII letter or symbol in a form; controls have none. -/
def asciiWeight? (code form : Nat) : Option Weight :=
  (asciiOrder.idxOf? (Char.ofNat code)).map fun i => ⟨groupPlace i 0, 1, form⟩

/-- The weight of a letter or accent in a form, or none for a code point that counts for nothing. -/
def weight? (code form : Nat) : Option Weight :=
  if isAscii code then asciiWeight? code form
  else if isIgnored code then none
  else
    match accentRank? code with
    | some rank => some ⟨0, rank + 2, form⟩
    | none => some ⟨place code, 1, form⟩

/-- The weights of a code point. -/
def weights (code : Nat) : List Weight :=
  let letters := if isAscii code then [letter plainForm code] else spelled code
  letters.filterMap fun (code, form) => weight? code form

/-- The code point of a character; a surrogate without its partner stands for itself. -/
def codePoint : Utf16.Item → Nat
  | .char c => c.toNat
  | .lone u => u.toNat

/-- The code points of a name, with accents apart and joined letters together. -/
def codes (name : Utf16) : List Nat :=
  let plain := name.items.map codePoint
  if plain.all isAscii then plain else join (Decomposition.decompose plain)

/-- Whether one list of weights comes before another; a proper beginning comes first. -/
def before : List Nat → List Nat → Bool
  | _, [] => false
  | [], _ :: _ => true
  | a :: as, b :: bs => a < b || (a = b && before as bs)

/-- The three keys of a name, in the order of their rounds. -/
def keys (name : Utf16) : List (List Nat) :=
  let ws := (codes name).flatMap weights
  [(ws.map Weight.place).filter (· ≠ 0), ws.map Weight.accent, ws.map Weight.form]

/-- Whether keys come before others: the first ones that differ decide. -/
def keysBefore : List (List Nat) → List (List Nat) → Bool
  | a :: as, b :: bs => before a b || (a = b && keysBefore as bs)
  | _, _ => false

/-- Whether one name comes before another. -/
def lt (a b : Utf16) : Bool := keysBefore (keys a) (keys b)

end ProofOfExistence.Collation
