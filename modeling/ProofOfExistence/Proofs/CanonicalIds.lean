import Mathlib.Data.Set.Function
import ProofOfExistence.Proofs.EnvelopeReading
import ProofOfExistence.Proofs.KeyIds

/-!
# Canonical ids among all texts

`KeyId.check` judges every sequence of code units, also those that are no string.  It agrees with
`KeyId.isCanonical`, because a text of the alphabet has one code unit for each character.  And it
does not fail: a text with the shape of an id is always read, since 43 characters leave none over.

## Key results

- `KeyId.check_eq`: looking at a text step by step gives an answer, the one for its characters
- `KeyId.check_eq_true_iff`: the canonical texts are what writing gives keys
- `KeyId.ids_of_keys`: canonical ids and 32-byte keys correspond one to one
-/

namespace ProofOfExistence

/-! ## Texts of the url alphabet -/

namespace Base64Url

/-- The code unit of a character of the alphabet. -/
theorem ofChar_of_isDigit {c : Char} (h : isDigit c = true) :
    Utf16.ofChar c = [UInt16.ofNat c.toNat] := by
  have hlt := (isDigit_iff.1 h).toNat_lt
  rw [Utf16.ofChar, if_pos (by omega)]

/-- The character of a code unit, if it belongs to the alphabet, has that unit for its own. -/
theorem ofChar_ofNat_of_isDigit {u : UInt16} (h : isDigit (Char.ofNat u.toNat) = true) :
    Utf16.ofChar (Char.ofNat u.toNat) = [u] := by
  have hvalid : u.toNat.isValidChar := by
    by_contra hno
    -- A unit without a character gets the character zero, which is none of the alphabet.
    rw [Char.ofNat, dif_neg hno] at h
    exact absurd h (by decide)
  rw [ofChar_of_isDigit h, Utf16.toNat_ofNat hvalid, UInt16.ofNat_toNat]

/-- A string of the alphabet has one code unit for each character. -/
theorem units_ofString {text : String} (h : ∀ c ∈ text.toList, isDigit c = true) :
    (Utf16.ofString text).units = text.toList.map fun c => UInt16.ofNat c.toNat := by
  show text.toList.flatMap Utf16.ofChar = _
  generalize text.toList = cs at h ⊢
  induction cs with
  | nil => rfl
  | cons c cs ih =>
    obtain ⟨hc, hcs⟩ := List.forall_mem_cons.1 h
    rw [List.flatMap_cons, ofChar_of_isDigit hc, ih hcs, List.map_cons, List.singleton_append]

/-- Code units of characters of the alphabet are those of a string. -/
theorem ofString_map_units {us : List UInt16}
    (h : ∀ u ∈ us, isDigit (Char.ofNat u.toNat) = true) :
    Utf16.ofString (String.ofList (us.map fun u => Char.ofNat u.toNat)) = ⟨us⟩ := by
  rw [Utf16.ofString, String.toList_ofList, Utf16.ofChars]
  congr 1
  induction us with
  | nil => rfl
  | cons u us ih =>
    obtain ⟨hu, hus⟩ := List.forall_mem_cons.1 h
    rw [List.map_cons, List.flatMap_cons, ofChar_ofNat_of_isDigit hu, ih hus,
      List.singleton_append]

end Base64Url

/-! ## Looking at a text step by step -/

namespace KeyId

open Base64Url

/-- A text has the shape of an id when it consists of 43 characters of the alphabet. -/
theorem hasIdShape_iff {id : Utf16} : hasIdShape id = true ↔
    ∃ text : String, id = Utf16.ofString text ∧ text.toList.length = idLength ∧
      ∀ c ∈ text.toList, isDigit c = true := by
  simp only [hasIdShape, Bool.and_eq_true, decide_eq_true_eq, List.all_eq_true]
  constructor
  · -- Units that are digits are those of the text of these characters.
    rintro ⟨hlength, hunits⟩
    obtain ⟨us⟩ := id
    refine ⟨_, (ofString_map_units hunits).symm, ?_, ?_⟩
    · rw [String.toList_ofList, List.length_map]
      exact hlength
    · rw [String.toList_ofList, List.forall_mem_map]
      exact hunits
  · -- Digits are characters of one unit each.
    rintro ⟨text, rfl, hlength, hchars⟩
    rw [Utf16.length, units_ofString hchars]
    refine ⟨by rw [List.length_map, hlength], fun u hu => ?_⟩
    obtain ⟨c, hc, rfl⟩ := List.mem_map.1 hu
    have hlt := (isDigit_iff.1 (hchars c hc)).toNat_lt
    rw [UInt16.toNat_ofNat', Nat.mod_eq_of_lt (by omega), Char.ofNat_toNat]
    exact hchars c hc

/-- A canonical id has the shape of one. -/
theorem hasIdShape_of_isCanonical {id : Utf16} (h : isCanonical id.toString = true) :
    hasIdShape id = true := by
  simp only [isCanonical, Bool.and_eq_true, decide_eq_true_eq, List.all_eq_true] at h
  obtain ⟨⟨hlength, hchars⟩, -⟩ := h
  -- None of the characters stands for a lone surrogate, so the text is that of its characters.
  have hwhole : '\uFFFD' ∉ id.toString.toList := fun hmem => absurd (hchars _ hmem) (by decide)
  exact hasIdShape_iff.2 ⟨id.toString, (Utf16.ofString_toString hwhole).symm, hlength, hchars⟩

/-- Looking at a text step by step gives an answer, the one for its characters. -/
theorem check_eq (id : Utf16) : check id = .ok (isCanonical id.toString) := by
  unfold check
  by_cases hshape : hasIdShape id = true
  · rw [if_pos hshape]
    obtain ⟨text, rfl, hlength, hchars⟩ := hasIdShape_iff.1 hshape
    rw [Utf16.toString_ofString]
    -- 43 characters leave none over from groups of four.
    have hread : (decode? text).isSome = true := by
      apply (isSome_decode?_iff fun c hc => isDigit_iff.1 (hchars c hc)).2
      rw [← String.length_toList, hlength]
      decide
    obtain ⟨key, hkey⟩ := Option.isSome_iff_exists.1 hread
    have hsame : ofKey key = Utf16.ofString text ↔ encode key = text :=
      ⟨Utf16.ofString_injective, congrArg Utf16.ofString⟩
    simp only [isCanonical, hkey, hlength, List.all_eq_true.2 hchars, hsame, decide_true,
      Bool.and_true, Bool.true_and, Option.map_some, Option.some.injEq]
  · -- A text without the shape of an id is no canonical id.
    rw [if_neg hshape]
    cases hcanonical : isCanonical id.toString with
    | true => exact absurd (hasIdShape_of_isCanonical hcanonical) hshape
    | false => rfl

/-! ## Keys and their ids -/

/-- An id that writing gives is read as the key that it was given for. -/
theorem decode?_ofKey (key : Bytes) : decode? (ofKey key).toString = some key := by
  rw [ofKey, Utf16.toString_ofString, decode?_encode]

theorem ofKey_injective : Function.Injective ofKey := fun _ _ h =>
  encode_injective (Utf16.ofString_injective h)

/-- The id that writing gives a 32-byte key is canonical. -/
theorem check_ofKey {key : Bytes} (h : key.length = 32) : check (ofKey key) = .ok true := by
  rw [check_eq, ofKey, Utf16.toString_ofString, isCanonical_encode h]

/-- The canonical texts are what writing gives 32-byte keys. -/
theorem check_eq_true_iff {id : Utf16} :
    check id = .ok true ↔ ∃ key : Bytes, key.length = 32 ∧ ofKey key = id := by
  constructor
  · intro h
    rw [check_eq, Except.ok.injEq] at h
    obtain ⟨key, ⟨hlength, hkey⟩, -⟩ := existsUnique_key h
    obtain ⟨text, rfl, -⟩ := hasIdShape_iff.1 (hasIdShape_of_isCanonical h)
    rw [Utf16.toString_ofString] at hkey
    exact ⟨key, hlength, congrArg Utf16.ofString hkey⟩
  · rintro ⟨key, hlength, rfl⟩
    exact check_ofKey hlength

/-- Every text, of any length and any code units, is judged without a fault.  It is canonical if and
only if writing gives it for a 32-byte key; there is one such key only, and reading the text gives
that key.  So writing is a bijection from the 32-byte keys to the canonical ids, and among the texts
that are read as a given 32-byte key exactly one is canonical. -/
theorem ids_of_keys :
    (∀ id : Utf16, ∃ canonical : Bool, check id = .ok canonical ∧
      (canonical = true ↔ ∃ key : Bytes, key.length = 32 ∧ ofKey key = id) ∧
      (canonical = true → ∃! key : Bytes, key.length = 32 ∧ ofKey key = id) ∧
      ∀ key : Bytes, key.length = 32 → ofKey key = id → decode? id.toString = some key) ∧
    Set.BijOn ofKey {key | key.length = 32} {id | check id = .ok true} ∧
    ∀ key : Bytes, key.length = 32 →
      ∃! id : Utf16, decode? id.toString = some key ∧ check id = .ok true := by
  refine ⟨fun id => ⟨isCanonical id.toString, check_eq id, ?_, ?_, ?_⟩, ⟨?_, ?_, ?_⟩, ?_⟩
  · -- A canonical id is the id of a key.
    rw [← check_eq_true_iff, check_eq, Except.ok.injEq]
  · -- No other key has the same id.
    intro h
    obtain ⟨key, hlength, hkey⟩ := check_eq_true_iff.1 (by rw [check_eq, h])
    refine ⟨key, ⟨hlength, hkey⟩, fun other hother => ?_⟩
    exact ofKey_injective (hother.2.trans hkey.symm)
  · -- The key is what the id is read as.
    rintro key - rfl
    exact decode?_ofKey key
  · -- Keys are mapped to canonical ids, no two of them to the same one, and every one is reached.
    exact fun key hlength => check_ofKey hlength
  · exact ofKey_injective.injOn
  · exact fun id hid => check_eq_true_iff.1 hid
  · -- A key has one canonical spelling.
    intro key hlength
    refine ⟨ofKey key, ⟨decode?_ofKey key, check_ofKey hlength⟩, fun id hid => ?_⟩
    -- A canonical id is what writing gives for the key that it is read as.
    obtain ⟨other, -, rfl⟩ := check_eq_true_iff.1 hid.2
    have hother := hid.1
    rw [decode?_ofKey, Option.some.injEq] at hother
    rw [hother]

/-- The key of 32 zero bytes has an id of 43 letters `A`.  With a `B` at the end the text is read as
the same key, but it is not canonical. -/
theorem ids_of_keys_zero_key :
    let key : Bytes := List.replicate 32 0
    let id := Utf16.ofString (String.ofList (List.replicate 43 'A'))
    let other := Utf16.ofString (String.ofList (List.replicate 42 'A' ++ ['B']))
    key.length = 32 ∧ ofKey key = id ∧ check id = .ok true ∧ check other = .ok false ∧
      decode? other.toString = some key ∧
      ∃! id : Utf16, decode? id.toString = some key ∧ check id = .ok true := by
  intro key id other
  obtain ⟨-, hbijection, hunique⟩ := ids_of_keys
  have hid : ofKey key = id := by decide
  have hother : check other = .ok false := by
    rw [check_eq, Utf16.toString_ofString]
    exact congrArg Except.ok (by decide)
  have hread : decode? other.toString = some key := by
    rw [Utf16.toString_ofString]
    decide
  refine ⟨rfl, hid, ?_, hother, hread, hunique key rfl⟩
  rw [← hid]
  exact hbijection.mapsTo rfl

end KeyId

end ProofOfExistence
