import ProofOfExistence.Proofs.DispatchOutcome

/-!
# The spellings of a fingerprint

A fingerprint travels as hexadecimal text.  The text may begin with the marker `0x`, and its digits
may be of either case; nothing else about it is free.  What is left of a text without its marker, in
lower case (`Hex.bare`), is what writing gives for the bytes that are read from it.

So texts that differ in such a spelling name the same bytes, and two signed calls that differ in it
only lead to the same call of the service, made in the same state.

## Key results

- `Hex.encode_of_decode?`: reading and writing a text leaves its bare spelling
- `Hex.decode?_eq_iff`: texts are read alike exactly when their bare spellings agree
- `Hex.bytes_and_spellings`: reading, writing and dispatching, for all spellings
-/

namespace ProofOfExistence

namespace Hex

/-! ## Bare spellings -/

/-- A text without the marker `0x` in front, in lower case. -/
def bare (text : String) : String :=
  let digits := if ['0', 'x'] <+: text.toList then text.toList.drop 2 else text.toList
  String.ofList (digits.map Char.toLower)

/-- Dropping the marker is dropping two characters if they are the marker. -/
theorem dropMarker_eq (cs : List Char) :
    dropMarker cs = if ['0', 'x'] <+: cs then cs.drop 2 else cs := by
  unfold dropMarker
  split
  · rename_i rest
    have hmarked : ['0', 'x'] <+: '0' :: 'x' :: rest := ⟨rest, rfl⟩
    rw [if_pos hmarked]
    rfl
  · rename_i hno
    rw [if_neg]
    rintro ⟨rest, rfl⟩
    exact hno rest rfl

private theorem lower_of_code : ∀ code < 128, ∀ n ∈ hexDigitValue? (Char.ofNat code),
    n < 16 ∧ hexDigit n = (Char.ofNat code).toLower := by
  decide

/-- A digit has a value below 16, and writing that value gives the digit in lower case. -/
theorem hexDigit_of_hexDigitValue? {c : Char} {n : Nat} (h : hexDigitValue? c = some n) :
    n < 16 ∧ hexDigit n = c.toLower := by
  have hle {a : Char} (hc : c ≤ a) (ha : a.toNat < 128) : c.toNat < 128 :=
    Nat.lt_of_le_of_lt hc ha
  -- Digits are ASCII characters, so there are only finitely many codes to check.
  have hcode : c.toNat < 128 := by
    have hdigit : isHexDigit c = true := by rw [isHexDigit, h, Option.isSome_some]
    rcases isHexDigit_iff.1 hdigit with ⟨-, hc⟩ | ⟨-, hc⟩ | ⟨-, hc⟩
    · exact hle hc (by decide)
    · exact hle hc (by decide)
    · exact hle hc (by decide)
  have hlower := lower_of_code c.toNat hcode n
  rw [Char.ofNat_toNat] at hlower
  exact hlower h

/-- A byte is written with the digits that it was made of. -/
private theorem byteDigits_ofNat {high low : Nat} (hhigh : high < 16) (hlow : low < 16) :
    byteDigits (UInt8.ofNat (16 * high + low)) = [hexDigit high, hexDigit low] := by
  have hnat : (UInt8.ofNat (16 * high + low)).toNat = 16 * high + low := by
    rw [UInt8.toNat_ofNat']
    omega
  have hfirst : (16 * high + low) / 16 = high := by omega
  have hsecond : (16 * high + low) % 16 = low := by omega
  rw [byteDigits, hnat, hfirst, hsecond]

/-- Writing the bytes that digits spell gives these digits in lower case. -/
theorem encodeChars_of_decodeDigits {cs : List Char} {bytes : Bytes}
    (h : decodeDigits cs = some bytes) : encodeChars bytes = cs.map Char.toLower := by
  fun_induction decodeDigits cs generalizing bytes with
  | case1 =>
    cases h
    rfl
  | case2 => cases h
  | case3 a b rest ih =>
    obtain ⟨high, hhigh, h⟩ := Option.bind_eq_some_iff.1 h
    obtain ⟨low, hlow, h⟩ := Option.bind_eq_some_iff.1 h
    obtain ⟨tail, htail, h⟩ := Option.bind_eq_some_iff.1 h
    cases h
    obtain ⟨hhigh, ha⟩ := hexDigit_of_hexDigitValue? hhigh
    obtain ⟨hlow, hb⟩ := hexDigit_of_hexDigitValue? hlow
    rw [encodeChars, List.flatMap_cons, byteDigits_ofNat hhigh hlow, ha, hb]
    exact congrArg (fun digits => a.toLower :: b.toLower :: digits) (ih htail)

/-! ## Reading and writing -/

/-- Reading and writing a text leaves its bare spelling. -/
theorem encode_of_decode? {text : String} {bytes : Bytes} (h : decode? text = some bytes) :
    encode bytes = bare text := by
  rw [decode?] at h
  rw [encode, encodeChars_of_decodeDigits h, dropMarker_eq, bare]

/-- Texts are read alike exactly when their bare spellings agree. -/
theorem decode?_eq_iff {text text' : String} (h : isHex text = true) (h' : isHex text' = true) :
    decode? text = decode? text' ↔ bare text = bare text' := by
  rw [← isSome_decode?] at h h'
  obtain ⟨bytes, hread⟩ := Option.isSome_iff_exists.1 h
  obtain ⟨bytes', hread'⟩ := Option.isSome_iff_exists.1 h'
  rw [hread, hread', Option.some.injEq, ← encode_of_decode? hread, ← encode_of_decode? hread',
    encode_inj]

/-- The marker in front of a written text is not read. -/
theorem decode?_marked (bytes : Bytes) : decode? ("0x" ++ encode bytes) = some bytes := by
  have hdigits : (encode bytes).toList = encodeChars bytes := String.toList_ofList
  have hchars : ("0x" ++ encode bytes).toList = '0' :: 'x' :: encodeChars bytes := by
    rw [String.toList_append, hdigits]
    rfl
  rw [decode?, hchars, dropMarker, decodeDigits_encodeChars]

theorem isHex_encode (bytes : Bytes) : isHex (encode bytes) = true := by
  rw [← isSome_decode?, decode?_encode, Option.isSome_some]

theorem decode?_eq_none_iff {text : String} : decode? text = none ↔ isHex text = false := by
  rw [← isSome_decode?, Option.isSome_eq_false_iff, Option.isNone_iff_eq_none]

end Hex

/-! ## Dispatching -/

variable {σ : Type}

/-- Record the answer of the service to a call, and tell it. -/
def Dispatcher.conclude (d : Dispatcher σ) (call : Call) (signer : Option String) :
    Except ClaimError Unit → Run σ (Except DispatchError Unit)
  | .error cause => d.reject (.claim cause) (some call) signer
  | .ok () => d.accept call signer

theorem Dispatcher.carry_eq (d : Dispatcher σ) (origin : Origin) (call : Call)
    (signer : Option String) :
    d.carry origin call signer = d.handOver origin call >>= d.conclude call signer := by
  rfl

/-- A request that carries an authentic envelope of a signer. -/
structure Request.SignedBy (d : Dispatcher σ) (who : String) (r : Request) (e : Envelope) :
    Prop where
  reading : r.reading = .ok e
  authentic : e.Authentic d.verify who

namespace Request.SignedBy

variable {d : Dispatcher σ} {s : ClaimService σ} {who : String} {r : Request} {e : Envelope}
  {proof : Fingerprint} {w : σ}

/-- A signed request with a fresh nonce is a call of the service on the fingerprint that its text
spells, made once the nonce is spent. -/
theorem exec_of_next_le (h : r.SignedBy d who e)
    (hd : ∀ origin call, d.handOver origin call = s.carryOut origin call)
    (hproof : Hex.decode? e.call.proof = some proof)
    (hnext : (d.nonces.get w).next who ≤ e.call.nonce) :
    (r.dispatchOn d).exec w =
      (s.call (.signed who) proof e.call.action >>= d.conclude e.call (some who)).exec
        (d.nonces.set ((d.nonces.get w).insert who e.call.nonce) w) := by
  rw [Request.dispatchOn_eq, h.reading]
  show (d.dispatchEnvelope e).exec w = _
  rw [Dispatcher.exec_dispatchEnvelope_of_next_le h.authentic hnext, Dispatcher.carry_eq, hd,
    s.carryOut_of_decode _ hproof]

/-- A signed request with a spent nonce is refused as stale. -/
theorem exec_of_lt_next (h : r.SignedBy d who e)
    (hnext : e.call.nonce < (d.nonces.get w).next who) :
    (r.dispatchOn d).exec w =
      (d.reject (.staleNonce e.call.nonce ((d.nonces.get w).next who - 1)) (some e.call)
        (some who)).exec w := by
  rw [Request.dispatchOn_eq, h.reading]
  exact Dispatcher.exec_dispatchEnvelope_of_lt_next h.authentic hnext

end Request.SignedBy

/-- Two requests lead to the same call of a service on one fingerprint: in each state, either both
are refused as stale, or both spend the nonce and then the service is called with the same
arguments, from the same state. -/
def Dispatcher.ActsAlike (d : Dispatcher σ) (s : ClaimService σ) (who : String)
    (r r' : Request) (call call' : Call) : Prop :=
  ∃ proof, Hex.decode? call.proof = some proof ∧ Hex.decode? call'.proof = some proof ∧ ∀ w,
    let next := (d.nonces.get w).next who
    (call.nonce < next →
      (r.dispatchOn d).exec w =
        (d.reject (.staleNonce call.nonce (next - 1)) (some call) (some who)).exec w ∧
      (r'.dispatchOn d).exec w =
        (d.reject (.staleNonce call.nonce (next - 1)) (some call') (some who)).exec w) ∧
    (next ≤ call.nonce →
      let spent := d.nonces.set ((d.nonces.get w).insert who call.nonce) w
      let served := s.call (.signed who) proof call.action
      (r.dispatchOn d).exec w = (served >>= d.conclude call (some who)).exec spent ∧
      (r'.dispatchOn d).exec w = (served >>= d.conclude call' (some who)).exec spent)

/-- Signed requests whose calls differ only in the spelling of the fingerprint act alike. -/
theorem Request.SignedBy.actsAlike {d : Dispatcher σ} {s : ClaimService σ}
    (hd : ∀ origin call, d.handOver origin call = s.carryOut origin call) {who : String}
    {r r' : Request} {e e' : Envelope} (h : r.SignedBy d who e) (h' : r'.SignedBy d who e')
    (hcall : e'.call = { e.call with proof := e'.call.proof })
    (hbare : Hex.bare e'.call.proof = Hex.bare e.call.proof) :
    d.ActsAlike s who r r' e.call e'.call := by
  have hhex := h.authentic.valid.call.proof
  have hhex' := h'.authentic.valid.call.proof
  have hsame := (Hex.decode?_eq_iff hhex' hhex).2 hbare
  rw [← Hex.isSome_decode?] at hhex
  obtain ⟨proof, hproof⟩ := Option.isSome_iff_exists.1 hhex
  have hproof' := hsame.trans hproof
  have haction : e'.call.action = e.call.action := by rw [hcall]
  have hnonce : e'.call.nonce = e.call.nonce := by rw [hcall]
  refine ⟨proof, hproof, hproof', fun w => ⟨fun hstale => ?_, fun hnext => ?_⟩⟩
  · -- A stale nonce is turned away in both spellings.
    have hstale' := h'.exec_of_lt_next (w := w) (hnonce ▸ hstale)
    rw [hnonce] at hstale'
    exact ⟨h.exec_of_lt_next hstale, hstale'⟩
  · -- A fresh nonce is spent, and both calls are carried out on the same bytes.
    have hfresh' := h'.exec_of_next_le (w := w) hd hproof' (hnonce ▸ hnext)
    rw [hnonce, haction] at hfresh'
    exact ⟨h.exec_of_next_le hd hproof hnext, hfresh'⟩

/-- What is written for some bytes is hexadecimal and read as these bytes, with and without the
marker in front.  A text is refused exactly when it is not hexadecimal; otherwise what is written
for its bytes is the text without the marker, in lower case.  So two texts that are not refused are
read as the same bytes if and only if they agree without the marker and in lower case, and signed
calls that differ only in such a spelling of their fingerprint act on the same claim. -/
theorem Hex.bytes_and_spellings :
    (∀ bytes, isHex (encode bytes) = true ∧ decode? (encode bytes) = some bytes ∧
      decode? ("0x" ++ encode bytes) = some bytes) ∧
    (∀ text : Utf16, (decode? text.toString = none ↔ isHex text.toString = false) ∧
      ∀ bytes, decode? text.toString = some bytes →
        Utf16.ofString text.toString = text ∧ encode bytes = bare text.toString) ∧
    (∀ text text', isHex text = true → isHex text' = true →
      (decode? text = decode? text' ↔ bare text = bare text')) ∧
    ∀ (σ : Type) (d : Dispatcher σ) (s : ClaimService σ),
      (∀ origin call, d.handOver origin call = s.carryOut origin call) →
      ∀ (who : String) (r r' : Request) (e e' : Envelope),
        r.SignedBy d who e → r'.SignedBy d who e' →
        e'.call = { e.call with proof := e'.call.proof } →
        bare e'.call.proof = bare e.call.proof → d.ActsAlike s who r r' e.call e'.call := by
  refine ⟨fun bytes => ?_, fun text => ⟨decode?_eq_none_iff, fun bytes h => ?_⟩, ?_, ?_⟩
  · exact ⟨isHex_encode bytes, decode?_encode bytes, decode?_marked bytes⟩
  · have hhex : isHex text.toString = true := by rw [← isSome_decode?, h, Option.isSome_some]
    exact ⟨ofString_toString hhex, encode_of_decode? h⟩
  · exact fun _ _ => decode?_eq_iff
  · exact fun _ _ _ hd _ _ _ _ _ h h' hcall hbare => h.actsAlike hd h' hcall hbare

/-- The texts `0xAB` and `ab` are read as one byte, and envelopes in which the key of zeros claims
it under these texts, each with its own signature, act alike. -/
theorem Hex.bytes_and_spellings_marked :
    let who := "O2onvM62pC1io6jQKm8Nc2UyFXcd4kOmOsBIoYtZ2ik"
    let s : ClaimService (Nonces × AuditLog × UndoStore) :=
      { store := UndoStore.transactional.store ⟨fun w => w.2.2, fun t w => (w.1, w.2.1, t)⟩
        now := return .ofNat 0
        deposit := fun _ => return ()
        proofLimit := 10
        count := fun _ _ => return ()
        log := fun _ _ _ => return () }
    let d : Dispatcher (Nonces × AuditLog × UndoStore) :=
      { handOver := s.carryOut
        verify := Call.verifySignature
        nonces := ⟨Prod.fst, fun nonces w => (nonces, w.2)⟩
        audit := ⟨fun w => w.2.1, fun audit w => (w.1, audit, w.2.2)⟩
        count := fun _ _ => return ()
        log := fun _ _ _ => return () }
    let e (proof signature : String) : Envelope := ⟨⟨.create, proof, 0⟩, some ⟨who, signature⟩⟩
    let marked := e "0xAB" ("ca6IrKG6gLnGBZng8uM7M_JJscOD-mON69vyi5MuzWNg" ++
      "sK_Ng2fQGl_qfgFlTyClbAtuVE-79-83Tlti3n1ZCQ")
    let bare := e "ab" ("Znh-vj598F60YYCSJKNbLst-p5BB2abWRFXdk5Xb70fF" ++
      "wCkYUT_MIeRsid3WMSeodfIH58wjk0Ds20h4-8XCAQ")
    isHex "0xAB" = true ∧ isHex "ab" = true ∧ decode? "0xAB" = decode? "ab" ∧
      d.ActsAlike s who (.data marked.toJson) (.data bare.toJson) marked.call bare.call := by
  intro who s d e marked bare
  obtain ⟨-, -, hread, hdispatch⟩ := bytes_and_spellings
  have hmarked : isHex "0xAB" = true := by decide
  have hbare : isHex "ab" = true := by decide
  -- The real verification is run on both signatures.
  have hsigned {proof signature : String} (hhex : isHex proof = true) (hne : signature ≠ "")
      (hverified : (Call.verifySignature who ⟨.create, proof, 0⟩ signature).toOption = some true) :
      (Request.data (e proof signature).toJson).SignedBy d who (e proof signature) := by
    have hwho : KeyId.isCanonical who = true := by decide
    have hvalid : (e proof signature).Valid :=
      ⟨⟨hhex, Nat.zero_le _, nofun⟩, fun _ h => Option.some.inj h ▸
        ⟨KeyId.ne_empty_of_isCanonical hwho, hne⟩⟩
    have hverify : Call.verifySignature who ⟨.create, proof, 0⟩ signature = .ok true := by
      cases hanswer : Call.verifySignature who ⟨.create, proof, 0⟩ signature with
      | error _ =>
        rw [hanswer] at hverified
        cases hverified
      | ok verified =>
        rw [hanswer] at hverified
        exact congrArg Except.ok (Option.some.inj hverified)
    refine ⟨?_, hvalid, hwho, nofun, _, rfl, hverify⟩
    rw [Request.reading, Envelope.ofValue_eq_ok hvalid (.refl _)]
    rfl
  refine ⟨hmarked, hbare, (hread _ _ hmarked hbare).2 (by decide), ?_⟩
  exact hdispatch _ d s (fun _ _ => rfl) who _ _ _ _
    (hsigned hmarked (by decide) (by decide +kernel))
    (hsigned hbare (by decide) (by decide +kernel)) rfl (by decide)

end ProofOfExistence
