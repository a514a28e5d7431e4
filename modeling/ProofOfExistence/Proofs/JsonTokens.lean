import Mathlib.Tactic.SplitIfs
import ProofOfExistence.Value.Parser
import ProofOfExistence.Value.Quoted

/-!
# Strings and numbers of JSON text read back

A quoted string ends at its closing quote, because every quote inside it is escaped, and whichever
way a character is quoted, it is what is read.  The digits of a number end where something else
begins, so a number is read back if what follows does not go on with it: the end of the text, a
comma or a closing bracket (`AtDelimiter`).

## Key results

- `readQuoted_quoted`: a quoted string is read as the string it quotes
- `readNumber_finiteText`: the digits of a safe integer are read as that integer
-/

namespace ProofOfExistence

namespace Value

/-! ## Strings -/

/-- Four hexadecimal digits spell the unit that they were made of. -/
private theorem readUnit?_hexDigits {u : Nat} (h : u < 0x10000) :
    readUnit? (hexDigit (u / 4096 % 16)) (hexDigit (u / 256 % 16)) (hexDigit (u / 16 % 16))
      (hexDigit (u % 16)) = some (UInt16.ofNat u) := by
  have hdigit (n : Nat) : hexDigitValue? (hexDigit (n % 16)) = some (n % 16) :=
    hexDigitValue?_hexDigit _ (Nat.mod_lt _ (by decide))
  unfold readUnit?
  simp only [hdigit, Option.bind_eq_bind, Option.bind_some]
  have hsum : 4096 * (u / 4096 % 16) + 256 * (u / 256 % 16) + 16 * (u / 16 % 16) + u % 16 = u := by
    omega
  rw [hsum]
  rfl

/-- A character is quoted in one of three ways: by an escape letter, by its digits, or as it is. -/
private theorem quotedItem_cases (c : Char) :
    (∃ e, Utf16.quotedItem (.char c) = ['\\', e] ∧ e ≠ 'u' ∧
      escapeUnit? e = some (UInt16.ofNat c.toNat) ∧ c.toNat < 0x10000) ∨
    (Utf16.quotedItem (.char c) = unitEscape c.toNat ∧ c.toNat < 0x20) ∨
    (Utf16.quotedItem (.char c) = [c] ∧ c ≠ '"' ∧ c ≠ '\\' ∧ ¬ c.toNat < 0x20) := by
  simp only [Utf16.quotedItem]
  split_ifs with h₁ h₂ h₃ h₄ h₅ h₆ h₇ h₈
  case pos => exact .inl ⟨_, rfl, by decide, by subst h₁; decide⟩
  case pos => exact .inl ⟨_, rfl, by decide, by subst h₂; decide⟩
  case pos => exact .inl ⟨_, rfl, by decide, by subst h₃; decide⟩
  case pos => exact .inl ⟨_, rfl, by decide, by subst h₄; decide⟩
  case pos => exact .inl ⟨_, rfl, by decide, by subst h₅; decide⟩
  case pos => exact .inl ⟨_, rfl, by decide, by subst h₆; decide⟩
  case pos => exact .inl ⟨_, rfl, by decide, by subst h₇; decide⟩
  case pos => exact .inr (.inl ⟨rfl, h₈⟩)
  case neg => exact .inr (.inr ⟨rfl, h₁, h₂, h₈⟩)

/-- Whichever way a character is quoted, it is what is read. -/
private theorem readQuoted_quotedItem (c : Char) (rest : List Char) :
    readQuoted (Utf16.quotedItem (.char c) ++ rest) =
      (readQuoted rest).map fun r => (Utf16.ofChar c ++ r.1, r.2) := by
  have hsmall (h : c.toNat < 0x10000) : Utf16.ofChar c = [UInt16.ofNat c.toNat] := if_pos h
  rcases quotedItem_cases c with ⟨e, hquoted, he, hunit, hlt⟩ | ⟨hquoted, hlt⟩ |
    ⟨hquoted, hquote, hbackslash, hlt⟩
  · -- A character with an escape of its own.
    rw [hquoted, hsmall hlt]
    show readQuoted ('\\' :: e :: rest) = _
    rw [readQuoted.eq_4 e rest fun _ _ _ _ _ hu _ => he hu, hunit]
    cases readQuoted rest <;> rfl
  · -- A control character, which is written by its number.
    rw [hquoted, hsmall (by omega)]
    show readQuoted ('\\' :: 'u' :: _ :: _ :: _ :: _ :: rest) = _
    rw [readQuoted.eq_3, readUnit?_hexDigits (by omega)]
    cases readQuoted rest <;> rfl
  · -- Any other character stands for itself.
    rw [hquoted]
    show readQuoted (c :: rest) = _
    rw [readQuoted.eq_5 c rest hquote (fun _ _ _ _ _ h _ => hbackslash h)
      fun _ _ h _ => hbackslash h, if_neg (not_or.2 ⟨hbackslash, hlt⟩)]
    cases readQuoted rest <;> rfl

/-- A quoted string is read as the string it quotes. -/
theorem readQuoted_quoted (s : String) (rest : List Char) :
    readQuoted ((Utf16.ofString s).items.flatMap Utf16.quotedItem ++ '"' :: rest) =
      some ((Utf16.ofString s).units, rest) := by
  -- The units of a well-formed string fall into its characters, which are read one by one.
  have hitems : (Utf16.ofString s).items = s.toList.map .char := Utf16.itemsOf_flatMap_ofChar _
  rw [hitems]
  show _ = some (s.toList.flatMap Utf16.ofChar, rest)
  induction s.toList with
  | nil => rfl
  | cons c cs ih =>
    rw [List.map_cons, List.flatMap_cons, List.append_assoc, readQuoted_quotedItem, ih]
    rfl

/-! ## Numbers -/

/-- What may follow the text of a value: nothing, a comma or a closing bracket. -/
def AtDelimiter (rest : List Char) : Prop := ∀ c ∈ rest.head?, c = ',' ∨ c = ']' ∨ c = '}'

theorem atDelimiter_nil : AtDelimiter [] := nofun

theorem atDelimiter_cons {c : Char} (h : c = ',' ∨ c = ']' ∨ c = '}') (rest : List Char) :
    AtDelimiter (c :: rest) := by
  intro d hd
  cases hd
  exact h

/-- A delimiter is not a character of some kind if none of the three is. -/
theorem AtDelimiter.not_head {rest : List Char} (h : AtDelimiter rest) {p : Char → Bool}
    (hp : p ',' = false ∧ p ']' = false ∧ p '}' = false) : ∀ c ∈ rest.head?, p c = false := by
  intro c hc
  rcases h c hc with rfl | rfl | rfl
  · exact hp.1
  · exact hp.2.1
  · exact hp.2.2

/-- The digits of a positive number do not begin with a zero. -/
private theorem decimalDigits_cons {n : Nat} (hn : 0 < n) :
    ∃ d ds, decimalDigits n = d :: ds ∧ d ≠ '0' := by
  unfold decimalDigits
  induction n using Nat.strongRecOn with
  | ind n ih =>
    by_cases hlt : n < 10
    · have hdigit : ∀ k < 10, 0 < k → Nat.digitChar k ≠ '0' := by decide
      exact ⟨n.digitChar, [], Nat.toDigits_of_lt_base hlt, hdigit n hlt hn⟩
    -- The first digit is that of the number without its last one.
    · obtain ⟨d, ds, hds, hd⟩ := ih (n / 10) (by omega) (by omega)
      refine ⟨d, ds ++ [(n % 10).digitChar], ?_, hd⟩
      rw [Nat.toDigits_of_base_le (by decide) (by omega), hds, List.cons_append]

private theorem isDigit_of_mem_decimalDigits {n : Nat} : ∀ c ∈ decimalDigits n, c.isDigit = true :=
  fun _ hc => Nat.isDigit_of_mem_toDigits (by decide) (by decide) hc

/-- The digits at the start end at a delimiter. -/
private theorem spanDigits_append {ds rest : List Char} (hds : ∀ c ∈ ds, c.isDigit = true)
    (hrest : AtDelimiter rest) : spanDigits (ds ++ rest) = (ds, rest) := by
  have hstop := hrest.not_head (p := Char.isDigit) (by decide)
  unfold spanDigits
  rw [List.takeWhile_append_of_pos hds, List.dropWhile_append_of_pos hds]
  cases rest with
  | nil => simp
  | cons c rest =>
    have hc : c.isDigit = false := hstop c rfl
    simp [hc]

private theorem readWhole_decimalDigits (n : Nat) {rest : List Char} (hrest : AtDelimiter rest) :
    readWhole (decimalDigits n ++ rest) = some (decimalDigits n, rest) := by
  by_cases hn : n = 0
  · subst hn
    rfl
  · have hspan := spanDigits_append (isDigit_of_mem_decimalDigits (n := n)) hrest
    obtain ⟨d, ds, hds, hd⟩ := decimalDigits_cons (Nat.pos_of_ne_zero hn)
    rw [hds] at hspan ⊢
    unfold readWhole
    split
    · rename_i heq
      exact absurd (List.cons.inj heq).1 hd
    · rw [hspan]

private theorem digitsValue_decimalDigits (n : Nat) :
    Number.digitsValue (decimalDigits n) = n :=
  Nat.ofDigitChars_ten_toDigits

/-- A safe integer has so few digits that no bound of the reader is met. -/
private theorem ofDecimal_safe {n : Nat} (hn : n ≤ maxSafeInteger) :
    Number.ofDecimal n 0 = .ofNat n := by
  have hlength : (decimalDigits n).length ≤ 16 := by
    refine (Nat.length_toDigits_le_iff (by decide) (by decide)).2 ?_
    exact Nat.lt_of_le_of_lt hn (by decide)
  unfold Number.ofDecimal
  split
  · rename_i h
    rw [h]
    rfl
  · rw [if_neg (by omega), if_neg (by omega), if_neg (by decide)]
    have hpower : n * Nat.pow 10 (Int.natAbs 0) = n := Nat.mul_one n
    rw [hpower]
    rfl

private theorem readMagnitude_decimalDigits {n : Nat} (hn : n ≤ maxSafeInteger) {rest : List Char}
    (hrest : AtDelimiter rest) :
    readMagnitude (decimalDigits n ++ rest) = some (.ofNat n, rest) := by
  -- A delimiter begins neither a fraction nor an exponent.
  have hfraction : readFraction rest = some ([], rest) := by
    unfold readFraction
    -- No dot follows.
    split
    · exact absurd (hrest '.' rfl) (by decide)
    · rfl
  have hexponent : readExponent rest = some (0, rest) := by
    unfold readExponent
    -- No exponent follows.
    split
    · rename_i c rest
      have hc : ¬ (c = 'e' ∨ c = 'E') := by
        rcases hrest c rfl with rfl | rfl | rfl <;> decide
      rw [if_neg hc]
    · rfl
  unfold readMagnitude
  simp only [readWhole_decimalDigits n hrest, hfraction, hexponent, Option.bind_eq_bind,
    Option.bind_some, List.append_nil, digitsValue_decimalDigits, List.length_nil]
  have hdecimal := ofDecimal_safe hn
  simpa using hdecimal

/-- A safe integer is written with a minus if it is negative, and all its digits. -/
private theorem finiteText_intCast {n : Int} (hn : n.natAbs ≤ maxSafeInteger) :
    Number.finiteText n =
      if n < 0 then '-' :: decimalDigits n.natAbs else decimalDigits n.natAbs := by
  have hsmall : (n : Rat).den = 1 ∧ n.natAbs ≤ maxSafeInteger + 1 :=
    ⟨Rat.den_intCast n, by omega⟩
  simp only [Number.finiteText, Rat.num_intCast, hsmall, and_self, if_true]

private theorem decimalDigits_eq_cons (n : Nat) :
    ∃ d ds, decimalDigits n = d :: ds ∧ d.isDigit = true := by
  have hne : decimalDigits n ≠ [] := Nat.toDigits_ne_nil
  obtain ⟨d, ds, hds⟩ := List.exists_cons_of_ne_nil hne
  exact ⟨d, ds, hds, isDigit_of_mem_decimalDigits d (hds ▸ List.mem_cons_self)⟩

/-- The text of a safe integer begins with a minus or a digit. -/
theorem finiteText_eq_cons {n : Int} (hn : n.natAbs ≤ maxSafeInteger) :
    ∃ c cs, Number.finiteText n = c :: cs ∧ (c = '-' ∨ c.isDigit = true) := by
  rw [finiteText_intCast hn]
  split
  · exact ⟨_, _, rfl, .inl rfl⟩
  · obtain ⟨d, ds, hds, hdigit⟩ := decimalDigits_eq_cons n.natAbs
    exact ⟨d, ds, hds, .inr hdigit⟩

/-- The digits of a safe integer are read as that integer. -/
theorem readNumber_finiteText {n : Int} (hn : n.natAbs ≤ maxSafeInteger) {rest : List Char}
    (hrest : AtDelimiter rest) :
    readNumber (Number.finiteText n ++ rest) = some (.ofInt n, rest) := by
  have hread := readMagnitude_decimalDigits hn hrest
  have hint (m : Int) (hm : m.natAbs ≤ maxSafeInteger) : Number.ofInt m = .finite m :=
    Number.ofInt_of_natAbs_le (by omega)
  rw [finiteText_intCast hn]
  split
  · -- The minus is read first, and then the digits.
    have habs : (n.natAbs : Int) = -n := by omega
    have hneg : (Number.ofNat n.natAbs).neg = .ofInt n := by
      rw [Number.ofNat, habs, hint _ (by omega), hint _ hn, Number.neg, Rat.intCast_neg,
        Rat.neg_neg]
    show (readMagnitude (decimalDigits n.natAbs ++ rest)).map _ = _
    rw [hread, Option.map_some, hneg]
  · -- There are digits only.
    have habs : (n.natAbs : Int) = n := by omega
    -- A digit is no minus.
    have hhead : ∀ cs, decimalDigits n.natAbs ++ rest ≠ '-' :: cs := by
      intro cs h
      obtain ⟨d, ds, hds, hdigit⟩ := decimalDigits_eq_cons n.natAbs
      rw [hds, List.cons_append, List.cons.injEq] at h
      rw [h.1] at hdigit
      exact absurd hdigit (by decide)
    rw [readNumber.eq_2 _ hhead, hread, Number.ofNat, habs]

end Value

end ProofOfExistence
