import Mathlib.Data.List.Basic
import ProofOfExistence.Text.Base64Url

/-!
# Bytes and their base64 texts

Writing uses the url alphabet only, so nothing is dropped before reading: no blank, no padding.
Reading then takes four characters to the three bytes that they were made of, and the two or three
characters at the end to the bytes left over.

Several texts of the alphabet may spell the same bytes, because reading ignores the bits left over
in the last character.  Nothing else about such a text is free: it has the length of the text that
writing gives, and all its other characters.

## Key results

- `Base64Url.decode?_encode`: reading undoes writing
- `Base64Url.length_encodeChars`: the length of a text
- `Base64Url.encode_facts`: what writing gives
- `Base64Url.dropLast_encode`: reading and writing change at most the last character of a text
- `Base64Url.spellings_of_bytes`: all that writing and reading have to do with each other
-/

namespace ProofOfExistence.Base64Url

/-- A character of the alphabet is none that reading drops or takes for another one. -/
private theorem digit_facts : ∀ n < 64, anyValue? (digit n) = some n ∧ isDigit (digit n) = true ∧
    isBlank (digit n) = false ∧ digit n ≠ '=' := by
  decide

/-- Three bytes are read back from their four digits. -/
private theorem join_split (a b c : UInt8) :
    UInt8.ofNat (a.toNat / 4 * 4 + (a.toNat % 4 * 16 + b.toNat / 16) / 16) = a ∧
      UInt8.ofNat ((a.toNat % 4 * 16 + b.toNat / 16) % 16 * 16 +
        (b.toNat % 16 * 4 + c.toNat / 64) / 4) = b ∧
      UInt8.ofNat ((b.toNat % 16 * 4 + c.toNat / 64) % 4 * 64 + c.toNat % 64) = c := by
  have ha := a.toNat_lt
  have hb := b.toNat_lt
  have hc := c.toNat_lt
  have hfirst : a.toNat / 4 * 4 + (a.toNat % 4 * 16 + b.toNat / 16) / 16 = a.toNat := by omega
  have hsecond : (a.toNat % 4 * 16 + b.toNat / 16) % 16 * 16 +
      (b.toNat % 16 * 4 + c.toNat / 64) / 4 = b.toNat := by omega
  have hthird : (b.toNat % 16 * 4 + c.toNat / 64) % 4 * 64 + c.toNat % 64 = c.toNat := by omega
  rw [hfirst, hsecond, hthird]
  exact ⟨UInt8.ofNat_toNat, UInt8.ofNat_toNat, UInt8.ofNat_toNat⟩

/-- The six-bit numbers of a byte sequence. -/
private def sextets : Bytes → List Nat
  | [] => []
  | [a] => [a.toNat / 4, a.toNat % 4 * 16]
  | [a, b] => [a.toNat / 4, a.toNat % 4 * 16 + b.toNat / 16, b.toNat % 16 * 4]
  | a :: b :: c :: rest =>
    (a.toNat / 4) :: (a.toNat % 4 * 16 + b.toNat / 16) :: (b.toNat % 16 * 4 + c.toNat / 64) ::
      (c.toNat % 64) :: sextets rest

private theorem encodeChars_eq_map (bytes : Bytes) :
    encodeChars bytes = (sextets bytes).map digit := by
  fun_induction sextets bytes with
  | case1 => rfl
  | case2 => rfl
  | case3 => rfl
  | case4 a b c rest ih => rw [encodeChars, ih]; rfl

private theorem sextets_lt (bytes : Bytes) : ∀ n ∈ sextets bytes, n < 64 := by
  -- A byte has eight bits, and no number takes more than six of them.
  have hlt (a : UInt8) := a.toNat_lt
  fun_induction sextets bytes with
  | case1 => nofun
  | case2 a =>
    have ha := hlt a
    simp only [List.mem_cons, List.not_mem_nil, or_false]
    rintro n (rfl | rfl) <;> omega
  | case3 a b =>
    have ha := hlt a
    have hb := hlt b
    simp only [List.mem_cons, List.not_mem_nil, or_false]
    rintro n (rfl | rfl | rfl) <;> omega
  | case4 a b c rest ih =>
    have ha := hlt a
    have hb := hlt b
    have hc := hlt c
    simp only [List.mem_cons]
    rintro n (rfl | rfl | rfl | rfl | hn)
    · omega
    · omega
    · omega
    · omega
    · exact ih n hn

/-- The bytes are joined from their six-bit numbers.  The bits that fill up the last number are
ignored. -/
private theorem joinSextets_sextets (bytes : Bytes) : joinSextets (sextets bytes) = some bytes := by
  -- The cases are the bytes that are left over: none, one or two, and before them whole triples.
  fun_induction sextets bytes with
  | case1 => rfl
  | case2 a =>
    have ha : a.toNat / 4 * 4 + a.toNat % 4 * 16 / 16 = a.toNat := by omega
    rw [joinSextets, ha, UInt8.ofNat_toNat]
  | case3 a b =>
    have hlt := b.toNat_lt
    have ha : a.toNat / 4 * 4 + (a.toNat % 4 * 16 + b.toNat / 16) / 16 = a.toNat := by omega
    have hb : (a.toNat % 4 * 16 + b.toNat / 16) % 16 * 16 + b.toNat % 16 * 4 / 4 = b.toNat := by
      omega
    rw [joinSextets, ha, hb, UInt8.ofNat_toNat, UInt8.ofNat_toNat]
  | case4 a b c rest ih =>
    obtain ⟨ha, hb, hc⟩ := join_split a b c
    rw [joinSextets, ih, ha, hb, hc]
    rfl

/-! ## Reading the digits of numbers -/

/-- Text without padding signs is not shortened. -/
private theorem dropPadding_of_notMem {cs : List Char} (h : '=' ∉ cs) : dropPadding cs = cs := by
  -- Padding is looked for from the end.
  have hrev : '=' ∉ cs.reverse := fun hmem => h (List.mem_reverse.1 hmem)
  unfold dropPadding
  split
  · split
    · rename_i heq
      exact absurd (heq ▸ List.mem_cons_self) hrev
    · rename_i heq
      exact absurd (heq ▸ List.mem_cons_self) hrev
    · rfl
  · rfl

/-- Digits are read as the numbers that they were made of. -/
private theorem mapM_digit {ns : List Nat} (h : ∀ n ∈ ns, n < 64) :
    (ns.map digit).mapM anyValue? = some ns := by
  induction ns with
  | nil => rfl
  | cons n ns ih =>
    have hrest := ih fun m hm => h m (List.mem_cons_of_mem _ hm)
    rw [List.map_cons, List.mapM_cons, (digit_facts n (h n List.mem_cons_self)).1, hrest]
    rfl

/-- A text of digits is read by joining their numbers. -/
private theorem decode?_digits {ns : List Nat} (h : ∀ n ∈ ns, n < 64) {text : String}
    (htext : text.toList = ns.map digit) : decode? text = joinSextets ns := by
  -- Reading drops blanks, then padding, and then looks up each character.
  have hdigit {c : Char} (hc : c ∈ ns.map digit) : isBlank c = false ∧ c ≠ '=' := by
    obtain ⟨n, hn, rfl⟩ := List.mem_map.1 hc
    exact (digit_facts n (h n hn)).2.2
  have hfilter : (ns.map digit).filter (fun c => !isBlank c) = ns.map digit :=
    List.filter_eq_self.2 fun c hc => by rw [(hdigit hc).1]; rfl
  have hpadding : dropPadding (ns.map digit) = ns.map digit :=
    dropPadding_of_notMem fun hc => (hdigit hc).2 rfl
  rw [decode?, htext, hfilter, hpadding, decodeChars, mapM_digit h]
  rfl

private theorem toList_encode (bytes : Bytes) :
    (encode bytes).toList = (sextets bytes).map digit := by
  rw [encode, String.toList_ofList, encodeChars_eq_map]

/-- Reading undoes writing. -/
theorem decode?_encode (bytes : Bytes) : decode? (encode bytes) = some bytes := by
  rw [decode?_digits (sextets_lt bytes) (toList_encode bytes), joinSextets_sextets]

/-- Only nothing is written as nothing. -/
theorem encode_ne_empty {bytes : Bytes} (h : bytes ≠ []) : encode bytes ≠ "" := by
  intro hempty
  have hread := decode?_encode bytes
  have hnil : decode? "" = some [] := by decide
  rw [hempty, hnil] at hread
  exact h (Option.some.inj hread).symm

/-- Three bytes take four characters, and what is left over one more than its bytes. -/
theorem length_encodeChars (bytes : Bytes) :
    (encodeChars bytes).length = (4 * bytes.length + 2) / 3 := by
  fun_induction encodeChars bytes with
  | case1 => rfl
  | case2 | case3 => simp
  | case4 a b c rest ih =>
    simp only [List.length_cons, ih]
    omega

theorem isDigit_encodeChars (bytes : Bytes) : (encodeChars bytes).all isDigit = true := by
  refine List.all_eq_true.2 fun c hc => ?_
  rw [encodeChars_eq_map] at hc
  obtain ⟨n, hn, rfl⟩ := List.mem_map.1 hc
  exact (digit_facts n (sextets_lt bytes n hn)).2.1

/-! ## Texts that spell the same bytes -/

/-- A character of the url alphabet: a letter or a decimal digit of ASCII, `-` or `_`. -/
def IsUrlCharacter (c : Char) : Prop :=
  'A' ≤ c ∧ c ≤ 'Z' ∨ 'a' ≤ c ∧ c ≤ 'z' ∨ '0' ≤ c ∧ c ≤ '9' ∨ c = '-' ∨ c = '_'

instance (c : Char) : Decidable (IsUrlCharacter c) := inferInstanceAs (Decidable (_ ∨ _))

theorem isDigit_iff {c : Char} : isDigit c = true ↔ IsUrlCharacter c := by
  unfold isDigit value? IsUrlCharacter
  -- The alphabet is looked through in the order in which it is described.
  split
  · simp [*]
  · split
    · simp [*]
    · split
      · simp [*]
      · split
        · simp [*]
        · split <;> simp [*]

private theorem isUrlCharacter_digit : ∀ n < 64, IsUrlCharacter (digit n) := by
  decide

private theorem exists_digit_of_code : ∀ code < 128, IsUrlCharacter (Char.ofNat code) →
    ∃ n < 64, digit n = Char.ofNat code := by
  decide +kernel

/-- A character of the alphabet is an ASCII character. -/
theorem IsUrlCharacter.toNat_lt {c : Char} (h : IsUrlCharacter c) : c.toNat < 128 := by
  have hle {a : Char} (h : c ≤ a) (ha : a.toNat < 128) : c.toNat < 128 := Nat.lt_of_le_of_lt h ha
  rcases h with ⟨-, h⟩ | ⟨-, h⟩ | ⟨-, h⟩ | rfl | rfl
  · exact hle h (by decide)
  · exact hle h (by decide)
  · exact hle h (by decide)
  · decide
  · decide

/-- The characters of the alphabet are the digits of the numbers below 64. -/
private theorem exists_digit {c : Char} (h : IsUrlCharacter c) : ∃ n < 64, digit n = c := by
  -- All of them are ASCII characters, so there are only finitely many codes to check.
  have hdigit := exists_digit_of_code c.toNat h.toNat_lt
  rw [Char.ofNat_toNat] at hdigit
  exact hdigit h

/-- A text of the alphabet consists of the digits of some numbers below 64. -/
private theorem exists_digits {cs : List Char} (h : ∀ c ∈ cs, IsUrlCharacter c) :
    ∃ ns : List Nat, (∀ n ∈ ns, n < 64) ∧ cs = ns.map digit := by
  induction cs with
  | nil => exact ⟨[], nofun, rfl⟩
  | cons c cs ih =>
    obtain ⟨hc, hcs⟩ := List.forall_mem_cons.1 h
    obtain ⟨n, hn, rfl⟩ := exists_digit hc
    obtain ⟨ns, hns, rfl⟩ := ih hcs
    exact ⟨n :: ns, List.forall_mem_cons.2 ⟨hn, hns⟩, rfl⟩

/-- Numbers spell bytes unless a single one is left over. -/
private theorem isSome_joinSextets (ns : List Nat) :
    (joinSextets ns).isSome = true ↔ ns.length % 4 ≠ 1 := by
  fun_induction joinSextets ns with
  | case1 | case2 | case3 | case4 => simp
  | case5 a b c d rest ih =>
    have hlength : (a :: b :: c :: d :: rest).length % 4 = rest.length % 4 :=
      Nat.add_mod_right rest.length 4
    rw [hlength, ← ih]
    cases joinSextets rest <;> rfl

/-- Four numbers are read back from the three bytes that they are joined to. -/
private theorem split_join {a b c d : Nat} (ha : a < 64) (hb : b < 64) (hc : c < 64) (hd : d < 64) :
    let x := UInt8.ofNat (a * 4 + b / 16)
    let y := UInt8.ofNat (b % 16 * 16 + c / 4)
    let z := UInt8.ofNat (c % 4 * 64 + d)
    x.toNat / 4 = a ∧ x.toNat % 4 * 16 + y.toNat / 16 = b ∧ y.toNat % 16 * 4 + z.toNat / 64 = c ∧
      z.toNat % 64 = d := by
  -- The joined numbers fit into bytes, so no bits are lost.
  have hx : (UInt8.ofNat (a * 4 + b / 16)).toNat = a * 4 + b / 16 := by
    rw [UInt8.toNat_ofNat']
    omega
  have hy : (UInt8.ofNat (b % 16 * 16 + c / 4)).toNat = b % 16 * 16 + c / 4 := by
    rw [UInt8.toNat_ofNat']
    omega
  have hz : (UInt8.ofNat (c % 4 * 64 + d)).toNat = c % 4 * 64 + d := by
    rw [UInt8.toNat_ofNat']
    omega
  dsimp only
  rw [hx, hy, hz]
  omega

/-- Numbers that spell bytes are the numbers of these bytes, but for the last one: reading ignores
bits of it unless the count of numbers is a multiple of four. -/
private theorem dropLast_of_joinSextets {ns : List Nat} (h : ∀ n ∈ ns, n < 64) {bytes : Bytes}
    (hread : joinSextets ns = some bytes) :
    (sextets bytes).length = ns.length ∧ (sextets bytes).dropLast = ns.dropLast := by
  -- Whatever stands in for a number that is missing, it does not matter for those before it.
  have hzero : 0 < 64 := by decide
  fun_induction joinSextets ns generalizing bytes with
  | case1 =>
    cases hread
    exact ⟨rfl, rfl⟩
  -- A single number is no byte.
  | case2 => cases hread
  | case3 a b =>
    cases hread
    -- Two numbers give one byte and lose the last four bits.
    simp only [List.forall_mem_cons] at h
    obtain ⟨ha, -⟩ := split_join h.1 h.2.1 hzero hzero
    exact ⟨rfl, by simp only [sextets, List.dropLast, ha]⟩
  | case4 a b c =>
    -- Three numbers give two bytes and lose the last two bits.
    cases hread
    simp only [List.forall_mem_cons] at h
    obtain ⟨ha, hb, -⟩ := split_join h.1 h.2.1 h.2.2.1 hzero
    exact ⟨rfl, by simp only [sextets, List.dropLast, ha, hb]⟩
  | case5 a b c d rest ih =>
    -- Four numbers give three bytes, and no bit is lost.
    obtain ⟨tail, htail, hread⟩ := Option.bind_eq_some_iff.1 hread
    cases hread
    simp only [List.forall_mem_cons] at h
    obtain ⟨ha, hb, hc, hd⟩ := split_join h.1 h.2.1 h.2.2.1 h.2.2.2.1
    obtain ⟨hlength, hinit⟩ := ih h.2.2.2.2 htail
    have hlast : (d :: sextets tail).dropLast = (d :: rest).dropLast := by
      cases rest with
      | nil => rw [List.length_eq_zero_iff.1 hlength]
      | cons e rest =>
        have hne : sextets tail ≠ [] := List.ne_nil_of_length_eq_add_one hlength
        rw [List.dropLast_cons_of_ne_nil hne, hinit, List.dropLast_cons_cons]
    rw [sextets, ha, hb, hc, hd]
    simp only [List.length_cons, List.dropLast_cons_cons, hlength, hlast, and_self]

/-- What writing gives: a text of the alphabet, without padding, that is read back. -/
theorem encode_facts (bytes : Bytes) :
    (∀ c ∈ (encode bytes).toList, IsUrlCharacter c) ∧
      (encode bytes).length = (4 * bytes.length + 2) / 3 ∧ decode? (encode bytes) = some bytes := by
  refine ⟨fun c hc => ?_, ?_, decode?_encode bytes⟩
  · rw [toList_encode] at hc
    obtain ⟨n, hn, rfl⟩ := List.mem_map.1 hc
    exact isUrlCharacter_digit n (sextets_lt bytes n hn)
  · rw [encode, String.length_ofList, length_encodeChars]

/-- Different bytes are written differently. -/
theorem encode_injective : Function.Injective encode := by
  intro bytes bytes' h
  have hread := decode?_encode bytes
  rw [h, decode?_encode] at hread
  exact (Option.some.inj hread).symm

section Spellings

variable {text : String} (htext : ∀ c ∈ text.toList, IsUrlCharacter c)
include htext

/-- A text of the alphabet spells bytes unless a single character is left over. -/
theorem isSome_decode?_iff : (decode? text).isSome = true ↔ text.length % 4 ≠ 1 := by
  obtain ⟨ns, hns, htoList⟩ := exists_digits htext
  rw [decode?_digits hns htoList, isSome_joinSextets, ← String.length_toList, htoList,
    List.length_map]

/-- A text of the alphabet is what writing gives for its bytes, but for the last character. -/
theorem dropLast_encode {bytes : Bytes} (h : decode? text = some bytes) :
    (encode bytes).length = text.length ∧
      (encode bytes).toList.dropLast = text.toList.dropLast := by
  obtain ⟨ns, hns, htoList⟩ := exists_digits htext
  rw [decode?_digits hns htoList] at h
  obtain ⟨hlength, hinit⟩ := dropLast_of_joinSextets hns h
  rw [← String.length_toList, ← String.length_toList, toList_encode, htoList]
  refine ⟨by rw [List.length_map, List.length_map, hlength], ?_⟩
  rw [← List.map_dropLast, ← List.map_dropLast, hinit]

end Spellings

/-- A text is what writing gives for its bytes exactly when it is what writing gives at all. -/
theorem encode_eq_iff {text : String} {bytes : Bytes} (h : decode? text = some bytes) :
    encode bytes = text ↔ ∃ bytes', encode bytes' = text := by
  constructor
  · intro heq
    exact ⟨bytes, heq⟩
  · rintro ⟨bytes', rfl⟩
    rw [decode?_encode] at h
    rw [Option.some.inj h]

/-- For all bytes: they are written as a text of the alphabet that is read back and has four
characters for three bytes, rounded up; different bytes are written differently.  For all texts of
the alphabet: a text is read unless a single character is left over from groups of four, and the
text that is then written has the same length, is read as the same bytes and differs at most in the
last character; it is the same text exactly for the texts that writing gives. -/
theorem spellings_of_bytes :
    (∀ bytes, (∀ c ∈ (encode bytes).toList, IsUrlCharacter c) ∧
      (encode bytes).length = (4 * bytes.length + 2) / 3 ∧ decode? (encode bytes) = some bytes) ∧
    Function.Injective encode ∧
    ∀ text : String, (∀ c ∈ text.toList, IsUrlCharacter c) →
      ((decode? text).isSome = true ↔ text.length % 4 ≠ 1) ∧
      ∀ bytes, decode? text = some bytes →
        (encode bytes).length = text.length ∧ decode? (encode bytes) = decode? text ∧
        (encode bytes).toList.dropLast = text.toList.dropLast ∧
        (encode bytes = text ↔ ∃ bytes', encode bytes' = text) := by
  refine ⟨encode_facts, encode_injective, fun text htext => ?_⟩
  refine ⟨isSome_decode?_iff htext, fun bytes h => ?_⟩
  obtain ⟨hlength, hinit⟩ := dropLast_encode htext h
  have hsame : decode? (encode bytes) = decode? text := by rw [decode?_encode, h]
  exact ⟨hlength, hsame, hinit, encode_eq_iff h⟩

/-- A zero byte is written as `AA`; the text `AB` spells it as well, but nothing is written so. -/
theorem spellings_of_bytes_stray_bit :
    (∀ c ∈ "AB".toList, IsUrlCharacter c) ∧ decode? "AB" = some [0] ∧ encode [0] = "AA" ∧
      (encode [0]).toList.dropLast = "AB".toList.dropLast ∧ ∀ bytes, encode bytes ≠ "AB" := by
  have htext : ∀ c ∈ "AB".toList, IsUrlCharacter c := by
    have hchars : "AB".toList = ['A', 'B'] := rfl
    rw [hchars, List.forall_mem_cons, List.forall_mem_singleton]
    decide
  have hread : decode? "AB" = some [0] := by decide
  obtain ⟨-, -, hspell⟩ := spellings_of_bytes
  obtain ⟨-, -, hinit, himage⟩ := (hspell "AB" htext).2 [0] hread
  refine ⟨htext, hread, rfl, hinit, fun bytes hbytes => ?_⟩
  exact absurd (himage.2 ⟨bytes, hbytes⟩) (by decide)

end ProofOfExistence.Base64Url
