/-! # Text as UTF-16 code units

Member names and strings of JSON documents are sequences of 16-bit code units.  A document can
write any unit with an escape, so a sequence may hold a surrogate without its partner; such text is
no `String`.  `Utf16` is the type of all such sequences.

* `Utf16.ofString` encodes a string, which is then well formed.
* `Utf16.items` splits a sequence into the characters it encodes and its lone surrogates.
* `Utf16.toString` decodes, with U+FFFD in the place of a lone surrogate;
  `toString_ofString` says that decoding undoes encoding.

A string may stand wherever such a text is expected.

The order of texts is the order of their units, which is not that of code points. -/

namespace ProofOfExistence

/-- A sequence of 16-bit code units. -/
@[ext]
structure Utf16 where
  /-- The code units, first to last. -/
  units : List UInt16
deriving DecidableEq, Inhabited

namespace Utf16

/-- The one or two code units of a character. -/
def ofChar (c : Char) : List UInt16 :=
  if c.toNat < 0x10000 then [UInt16.ofNat c.toNat]
  else
    let v := c.toNat - 0x10000
    [UInt16.ofNat (0xD800 + v / 0x400), UInt16.ofNat (0xDC00 + v % 0x400)]

/-- The code units of a list of characters. -/
def ofChars (cs : List Char) : Utf16 := ⟨cs.flatMap ofChar⟩

/-- The code units of a string. -/
def ofString (s : String) : Utf16 := ofChars s.toList

instance : Coe String Utf16 := ⟨ofString⟩

instance : Append Utf16 := ⟨fun a b => ⟨a.units ++ b.units⟩⟩

/-- Texts one after the other, with a separator between them. -/
def intercalate (separator : Utf16) (parts : List Utf16) : Utf16 :=
  ⟨separator.units.intercalate (parts.map units)⟩

/-- Whether a unit can open a surrogate pair. -/
def isHigh (u : UInt16) : Bool := 0xD800 ≤ u.toNat && u.toNat < 0xDC00

/-- Whether a unit can close a surrogate pair. -/
def isLow (u : UInt16) : Bool := 0xDC00 ≤ u.toNat && u.toNat < 0xE000

/-- The character that a surrogate pair encodes. -/
def pairChar (high low : UInt16) : Char :=
  Char.ofNat (0x10000 + (high.toNat - 0xD800) * 0x400 + (low.toNat - 0xDC00))

/-- What a stretch of one or two units stands for. -/
inductive Item where
  /-- A character, written as one unit or as a surrogate pair. -/
  | char (c : Char)
  /-- A surrogate without its partner. -/
  | lone (u : UInt16)
deriving DecidableEq

/-- The item of a unit that takes part in no pair. -/
def single (u : UInt16) : Item :=
  if isHigh u || isLow u then .lone u else .char (Char.ofNat u.toNat)

/-- Split code units into characters and lone surrogates, pairing from the left. -/
def itemsOf : List UInt16 → List Item
  | [] => []
  | [u] => [single u]
  | u :: v :: rest =>
    if isHigh u && isLow v then .char (pairChar u v) :: itemsOf rest
    else single u :: itemsOf (v :: rest)

/-- The characters and lone surrogates of a text. -/
def items (t : Utf16) : List Item := itemsOf t.units

/-- The character of an item, U+FFFD for a lone surrogate. -/
def Item.toChar : Item → Char
  | .char c => c
  | .lone _ => '\uFFFD'

/-- Decode a text, with U+FFFD for each lone surrogate. -/
def toString (t : Utf16) : String := String.ofList (t.items.map Item.toChar)

/-- Compare two unit sequences position by position; a proper beginning comes first. -/
def ltUnits : List UInt16 → List UInt16 → Bool
  | _, [] => false
  | [], _ :: _ => true
  | u :: us, v :: vs => u < v || (u = v && ltUnits us vs)

/-- The order of texts by code units. -/
def lt (a b : Utf16) : Bool := ltUnits a.units b.units

/-- The number of code units. -/
def length (t : Utf16) : Nat := t.units.length

@[simp] theorem units_append (a b : Utf16) : (a ++ b).units = a.units ++ b.units := rfl

/-- Encoding goes piece by piece. -/
theorem ofString_append (s t : String) : ofString (s ++ t) = ofString s ++ ofString t := by
  have happend : ofChars (s.toList ++ t.toList) = ofChars s.toList ++ ofChars t.toList :=
    congrArg mk List.flatMap_append
  rw [ofString, String.toList_append, happend]
  rfl

/-- Pairing resumes unchanged after a whole character. -/
theorem itemsOf_ofChar_append (c : Char) (rest : List UInt16) :
    itemsOf (ofChar c ++ rest) = .char c :: itemsOf rest := by
  have hv := c.valid
  have hc : c.toNat = c.val.toNat := rfl
  simp only [UInt32.isValidChar, Nat.isValidChar, ← hc] at hv
  unfold ofChar
  split
  · -- A character of one unit, which is no surrogate.
    rename_i hlt
    have hnat : (UInt16.ofNat c.toNat).toNat = c.toNat := by
      simp [UInt16.toNat_ofNat']; omega
    have hhigh : isHigh (UInt16.ofNat c.toNat) = false := by
      simp only [isHigh, hnat, Bool.and_eq_false_iff, decide_eq_false_iff_not]; omega
    have hlow : isLow (UInt16.ofNat c.toNat) = false := by
      simp only [isLow, hnat, Bool.and_eq_false_iff, decide_eq_false_iff_not]; omega
    have hsingle : single (UInt16.ofNat c.toNat) = .char c := by
      simp [single, hhigh, hlow, hnat]
    cases rest with
    | nil => simp [itemsOf, hsingle]
    | cons v rest => simp [itemsOf, hhigh, hsingle]
  · rename_i hge
    -- A character of two units: its number is split into ten high and ten low bits.
    have hmod : (c.toNat - 0x10000) % 0x400 < 0x400 := Nat.mod_lt _ (by decide)
    have hdiv : (c.toNat - 0x10000) / 0x400 < 0x400 := by omega
    have h1 : (UInt16.ofNat (0xD800 + (c.toNat - 0x10000) / 0x400)).toNat
        = 0xD800 + (c.toNat - 0x10000) / 0x400 := by
      simp [UInt16.toNat_ofNat']; omega
    have h2 : (UInt16.ofNat (0xDC00 + (c.toNat - 0x10000) % 0x400)).toNat
        = 0xDC00 + (c.toNat - 0x10000) % 0x400 := by
      simp [UInt16.toNat_ofNat']; omega
    have hhigh : isHigh (UInt16.ofNat (0xD800 + (c.toNat - 0x10000) / 0x400)) = true := by
      simp only [isHigh, h1, Bool.and_eq_true, decide_eq_true_eq]; omega
    have hlow : isLow (UInt16.ofNat (0xDC00 + (c.toNat - 0x10000) % 0x400)) = true := by
      simp only [isLow, h2, Bool.and_eq_true, decide_eq_true_eq]; omega
    -- The bits are put together again.
    have hpair : pairChar (UInt16.ofNat (0xD800 + (c.toNat - 0x10000) / 0x400))
        (UInt16.ofNat (0xDC00 + (c.toNat - 0x10000) % 0x400)) = c := by
      unfold pairChar
      rw [h1, h2]
      have : 0x10000 + (0xD800 + (c.toNat - 0x10000) / 0x400 - 0xD800) * 0x400
          + (0xDC00 + (c.toNat - 0x10000) % 0x400 - 0xDC00) = c.toNat := by omega
      rw [this]
      exact Char.ofNat_toNat c
    simp only [List.cons_append, List.nil_append, itemsOf, hhigh, hlow, hpair, Bool.and_self,
      if_true]

/-- The items of an encoded character list are its characters. -/
theorem itemsOf_flatMap_ofChar (cs : List Char) :
    itemsOf (cs.flatMap ofChar) = cs.map .char := by
  induction cs with
  | nil => rfl
  | cons c cs ih => rw [List.flatMap_cons, itemsOf_ofChar_append, ih, List.map_cons]

/-- Decoding undoes encoding. -/
@[simp] theorem toString_ofString (s : String) : (ofString s).toString = s := by
  simp [toString, items, ofString, ofChars, itemsOf_flatMap_ofChar, Function.comp_def,
    Item.toChar]

/-- Encoding is injective. -/
theorem ofString_injective {s t : String} (h : ofString s = ofString t) : s = t := by
  rw [← toString_ofString s, h, toString_ofString]

end Utf16

end ProofOfExistence
