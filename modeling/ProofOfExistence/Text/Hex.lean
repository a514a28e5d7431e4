import ProofOfExistence.Crypto.Bytes
import ProofOfExistence.Text.HexDigit
import ProofOfExistence.Text.Utf16

/-! # Hexadecimal text of bytes

Writing uses two lowercase digits a byte.  Reading accepts digits of either case and one optional
marker `0x` in front, and nothing else: no blanks, no sign, no odd digit.

`Hex.isHex` decides which texts are well formed, `Hex.decode?` reads them, and
`decode?_encode` says that reading undoes writing. -/

namespace ProofOfExistence.Hex

/-- The two digits of a byte. -/
def byteDigits (b : UInt8) : List Char := [hexDigit (b.toNat / 16), hexDigit (b.toNat % 16)]

/-- The lowercase digits of a byte sequence. -/
def encodeChars (bytes : Bytes) : List Char := bytes.flatMap byteDigits

/-- The lowercase text of a byte sequence. -/
def encode (bytes : Bytes) : String := String.ofList (encodeChars bytes)

/-- Drop the marker `0x` at the start, if it is there. -/
def dropMarker : List Char → List Char
  | '0' :: 'x' :: rest => rest
  | cs => cs

/-- Whether a text is hexadecimal: after the marker, an even number of digits and nothing else. -/
def isHex (text : String) : Bool :=
  let digits := dropMarker text.toList
  digits.length % 2 = 0 && digits.all isHexDigit

/-- The bytes that pairs of digits spell. -/
def decodeDigits : List Char → Option Bytes
  | [] => some []
  | [_] => none
  | a :: b :: rest => do
    let high ← hexDigitValue? a
    let low ← hexDigitValue? b
    let bytes ← decodeDigits rest
    return UInt8.ofNat (16 * high + low) :: bytes

/-- The bytes of a hexadecimal text. -/
def decode? (text : String) : Option Bytes := decodeDigits (dropMarker text.toList)

/-- A text cut to its first sixteen code units, with an ellipsis when it is longer. -/
def excerpt (text : String) : Utf16 :=
  let t := Utf16.ofString text
  if t.length > 16 then ⟨t.units.take 16 ++ Utf16.ofChar '…'⟩ else t

theorem decodeDigits_encodeChars (bytes : Bytes) :
    decodeDigits (encodeChars bytes) = some bytes := by
  induction bytes with
  | nil => rfl
  | cons b rest ih =>
    -- Both digits are read back, and together they give the byte.
    have hb := b.toNat_lt
    have hhigh := hexDigitValue?_hexDigit (b.toNat / 16) (by omega)
    have hlow := hexDigitValue?_hexDigit (b.toNat % 16) (by omega)
    have hbyte : UInt8.ofNat (16 * (b.toNat / 16) + b.toNat % 16) = b := by
      rw [show 16 * (b.toNat / 16) + b.toNat % 16 = b.toNat by omega, UInt8.ofNat_toNat]
    have hrest : decodeDigits (rest.flatMap byteDigits) = some rest := ih
    show (do
      let high ← hexDigitValue? (hexDigit (b.toNat / 16))
      let low ← hexDigitValue? (hexDigit (b.toNat % 16))
      let bytes ← decodeDigits (rest.flatMap byteDigits)
      return UInt8.ofNat (16 * high + low) :: bytes) = some (b :: rest)
    rw [hhigh, hlow, hrest]
    exact congrArg (fun c => some (c :: rest)) hbyte

theorem encodeChars_cons (b : UInt8) (rest : Bytes) :
    encodeChars (b :: rest) =
      hexDigit (b.toNat / 16) :: hexDigit (b.toNat % 16) :: encodeChars rest := rfl

/-- A byte takes two digits. -/
theorem length_encodeChars (bytes : Bytes) : (encodeChars bytes).length = 2 * bytes.length := by
  induction bytes with
  | nil => rfl
  | cons b rest ih =>
    rw [encodeChars_cons, List.length_cons, List.length_cons, ih, List.length_cons]
    omega

/-- No digit is the second character of the marker. -/
theorem hexDigit_ne_x : ∀ n < 16, hexDigit n ≠ 'x' := by decide

/-- Written text has no marker. -/
theorem dropMarker_encodeChars (bytes : Bytes) :
    dropMarker (encodeChars bytes) = encodeChars bytes := by
  cases bytes with
  | nil => rfl
  | cons b rest =>
    rw [encodeChars_cons]
    have hlow := hexDigit_ne_x (b.toNat % 16) (by omega)
    unfold dropMarker
    split
    · rename_i heq
      injection heq with _ htail
      injection htail with hx
      exact absurd hx hlow
    · rfl

/-- Reading undoes writing. -/
theorem decode?_encode (bytes : Bytes) : decode? (encode bytes) = some bytes := by
  rw [decode?, encode, String.toList_ofList, dropMarker_encodeChars, decodeDigits_encodeChars]

/-- Writing is injective. -/
theorem encode_inj {a b : Bytes} : encode a = encode b ↔ a = b := by
  constructor
  · intro h
    have hab := congrArg decode? h
    rw [decode?_encode, decode?_encode] at hab
    exact Option.some.inj hab
  · rintro rfl
    rfl

/-- Digits are read exactly when they are an even number of hexadecimal digits. -/
theorem isSome_decodeDigits (cs : List Char) :
    (decodeDigits cs).isSome = (cs.length % 2 = 0 && cs.all isHexDigit) := by
  fun_induction decodeDigits cs with
  | case1 => rfl
  | case2 c => simp
  | case3 a b rest ih =>
    have hlen : (a :: b :: rest).length % 2 = rest.length % 2 := by
      simp only [List.length_cons]
      omega
    rw [hlen]
    cases ha : hexDigitValue? a <;> cases hb : hexDigitValue? b <;>
      cases hrest : decodeDigits rest <;> simp_all [isHexDigit]

/-- A text is read exactly when it is hexadecimal. -/
theorem isSome_decode? (text : String) : (decode? text).isSome = isHex text :=
  isSome_decodeDigits _

/-- A hexadecimal text is an even number of digits, with or without the marker in front. -/
theorem isHex_iff {text : String} : isHex text = true ↔
    ∃ digits : List Char, digits.length % 2 = 0 ∧ (∀ c ∈ digits, isHexDigit c = true) ∧
      (text.toList = digits ∨ text.toList = '0' :: 'x' :: digits) := by
  simp only [isHex, Bool.and_eq_true, decide_eq_true_eq, List.all_eq_true]
  constructor
  · rintro ⟨heven, hdigits⟩
    refine ⟨_, heven, hdigits, ?_⟩
    unfold dropMarker
    split
    · exact .inr ‹_›
    · exact .inl rfl
  · rintro ⟨digits, heven, hdigits, htext⟩
    have hdrop : dropMarker text.toList = digits := by
      rcases htext with htext | htext
      · -- Digits do not begin with the marker, whose second character is none.
        rw [htext]
        unfold dropMarker
        split
        · exact absurd (hdigits 'x' (by simp)) (by decide)
        · rfl
      · rw [htext, dropMarker]
    rw [hdrop]
    exact ⟨heven, hdigits⟩

end ProofOfExistence.Hex
