import ProofOfExistence.Proofs.EnvelopeReading
import ProofOfExistence.Proofs.JsonText

/-!
# The signed bytes identify the value

Signing and verifying hash the canonical text of a value in UTF-8 (`Signing.Payload`).  The
canonical text of a JSON value reads back as the value with its members sorted
(`Value.parse_canonical`), so two values with one payload have the same sorted form, and differ in
the order of members only.  One signature therefore never covers two different calls.

## Key results

- `Bytes.ofString_injective`: texts are told apart by their bytes in UTF-8
- `Value.exists_payload`: a JSON value has a payload, from which it can be read back
- `Value.payload_identifies`: payloads are equal exactly when the values are the same up to the
  order of members, and those of calls exactly when the calls agree
-/

namespace ProofOfExistence

/-- Texts are told apart by their bytes in UTF-8. -/
theorem Bytes.ofString_injective {s t : String} (h : Bytes.ofString s = Bytes.ofString t) :
    s = t := by
  have hencoded : s.toList.utf8Encode = t.toList.utf8Encode := congrArg List.toByteArray h
  rw [← String.toByteArray_ofList, ← String.toByteArray_ofList, String.toByteArray_inj,
    String.ofList_toList, String.ofList_toList] at hencoded
  exact hencoded

namespace Signing

/-- The bytes that are hashed when a value is signed and when a signature of it is verified: its
canonical text in UTF-8. -/
structure Payload (v : Value) (bytes : Bytes) : Prop where
  text : ∃ text, v.canonical = .ok text ∧ bytes = Bytes.ofString text
  sign : ∀ privateKey, sign privateKey v =
    (signBytes privateKey (Blake2b.hash 32 bytes)).map Base64Url.encode
  verify : ∀ publicKey signature key sig, Base64Url.decode? publicKey = some key →
    Base64Url.decode? signature = some sig →
      verify publicKey v signature = .ok (Ed25519.verify key (Blake2b.hash 32 bytes) sig)

theorem payload_of_canonical {v : Value} {text : String} (h : v.canonical = .ok text) :
    Payload v (Bytes.ofString text) := by
  have hdigest : digest v = .ok (Blake2b.hash 32 (Bytes.ofString text)) := by rw [digest, h]
  refine ⟨⟨text, h, rfl⟩, fun privateKey => ?_, fun publicKey signature key sig hkey hsig => ?_⟩
  · rw [Signing.sign, hdigest]
    cases hsigned : signBytes privateKey (Blake2b.hash 32 (Bytes.ofString text)) with
    | error fault =>
      show (signBytes privateKey _ >>= _) = _
      rw [hsigned]
      rfl
    | ok signature =>
      show (signBytes privateKey _ >>= _) = _
      rw [hsigned]
      rfl
  · rw [Signing.verify, hkey, hsig, hdigest]
    rfl

end Signing

namespace Value

open Signing

/-- A JSON value has a payload, and reading its text gives the value back up to the order of its
members, with the same canonical text. -/
theorem exists_payload {v : Value} (h : IsJson v) :
    ∃ text, v.canonical = .ok text ∧ Payload v (Bytes.ofString text) ∧
      ∃ w, parse text = some w ∧ SameUpToOrder w v ∧ w.canonical = .ok text := by
  obtain ⟨text, hcanonical, hparse⟩ := parse_canonical h
  have hsame : SameUpToOrder v.sorted v := sameUpToOrder_arranged .byName h
  refine ⟨text, hcanonical, payload_of_canonical hcanonical, v.sorted, hparse, hsame, ?_⟩
  -- What was sorted once is sorted already.
  have hjson : IsJson v.sorted := h.arranged .byName
  have hsorted : v.sorted.sorted = v.sorted := hsame.sorted_eq hjson
  rw [canonical, hjson.isAbsent, canonicalChars_eq_written hjson, hsorted]
  rw [canonical, h.isAbsent, canonicalChars_eq_written h] at hcanonical
  exact hcanonical

/-- JSON values have the same canonical text exactly when they are the same up to the order of their
members. -/
theorem canonical_eq_iff {a b : Value} (ha : IsJson a) (hb : IsJson b) :
    a.canonical = b.canonical ↔ SameUpToOrder a b := by
  rw [← sorted_eq_iff ha hb]
  constructor
  · intro h
    obtain ⟨text, htext, hparse⟩ := parse_canonical ha
    obtain ⟨text', htext', hparse'⟩ := parse_canonical hb
    -- One text cannot be read as two values.
    have hsame : text = text' := Except.ok.inj (htext.symm.trans (h.trans htext'))
    rw [hsame, hparse'] at hparse
    exact (Option.some.inj hparse).symm
  · intro h
    rw [canonical, canonical, ha.isAbsent, hb.isAbsent, canonicalChars_eq_written ha,
      canonicalChars_eq_written hb, h]

/-- Calls that agree in what they travel with are one call. -/
private theorem call_eq_iff {c c' : Call} :
    c = c' ↔ c.method = c'.method ∧ c.proof = c'.proof ∧ c.nonce = c'.nonce ∧
      c.action.dest? = c'.action.dest? := by
  constructor
  · rintro rfl
    exact ⟨rfl, rfl, rfl, rfl⟩
  · rintro ⟨hmethod, hproof, hnonce, hdest⟩
    obtain ⟨action, proof, nonce⟩ := c
    obtain ⟨action', proof', nonce'⟩ := c'
    cases hproof
    cases hnonce
    -- The method tells the actions apart, but for the receiver of a transfer.
    have haction : action = action' := by
      cases action <;> cases action' <;>
        simp_all [Call.method, CallAction.method, CallAction.dest?]
    rw [haction]

/-- JSON values that are read as calls are the same up to the order of members exactly when the
calls are. -/
private theorem sameUpToOrder_iff_call_eq {a b : Value} (ha : IsJson a) (hb : IsJson b)
    {c c' : Call} (hc : Call.ofValue a = .ok c) (hc' : Call.ofValue b = .ok c') :
    SameUpToOrder a b ↔ c = c' := by
  constructor
  · intro h
    rw [Call.ofValue_congr h ha, hc'] at hc
    exact (Except.ok.inj hc).symm
  · rintro rfl
    obtain ⟨hsame, -⟩ := (Call.ofValue_eq_ok_iff ha).1 hc
    obtain ⟨hsame', -⟩ := (Call.ofValue_eq_ok_iff hb).1 hc'
    have hsorted : a.sorted = b.sorted := (hsame.sorted_eq ha).trans (hsame'.sorted_eq hb).symm
    exact (sorted_eq_iff ha hb).1 hsorted

/-- For all JSON values `a` and `b`: what is hashed for a signature of `a` equals what is hashed to
check one of `b` exactly when the two are the same up to the order of members; the canonical text of
`a` is read as `a` up to that order, and what is read has that canonical text again; and if both are
calls, their payloads are equal exactly when method, fingerprint, nonce and receiver agree. -/
theorem payload_identifies {a b : Value} (ha : IsJson a) (hb : IsJson b) :
    ∃ p q, Payload a p ∧ Payload b q ∧ (p = q ↔ SameUpToOrder a b) ∧
      (∃ text a', a.canonical = .ok text ∧ parse text = some a' ∧ SameUpToOrder a' a ∧
        a'.canonical = .ok text) ∧
      ∀ c c', Call.ofValue a = .ok c → Call.ofValue b = .ok c' →
        (p = q ↔ c.method = c'.method ∧ c.proof = c'.proof ∧ c.nonce = c'.nonce ∧
          c.action.dest? = c'.action.dest?) := by
  obtain ⟨text, htext, hpayload, hparse⟩ := exists_payload ha
  obtain ⟨text', htext', hpayload', -⟩ := exists_payload hb
  have hbytes : Bytes.ofString text = Bytes.ofString text' ↔ SameUpToOrder a b := by
    rw [← canonical_eq_iff ha hb, htext, htext', Except.ok.injEq]
    exact ⟨Bytes.ofString_injective, congrArg Bytes.ofString⟩
  refine ⟨_, _, hpayload, hpayload', hbytes, ?_, fun c c' hc hc' => ?_⟩
  · obtain ⟨a', hparse, hsame, hcanonical⟩ := hparse
    exact ⟨text, a', htext, hparse, hsame, hcanonical⟩
  · rw [hbytes, sameUpToOrder_iff_call_eq ha hb hc hc', call_eq_iff]

/-- Whoever writes the members of a call the other way round signs the same bytes. -/
theorem payload_identifies_reversed :
    let call : Call := ⟨.transfer "bob", "07", 3⟩
    ∃ p, Payload call.toJson p ∧ Payload (.object call.entries.reverse) p := by
  intro call
  have hvalid : call.Valid := ⟨by decide, by decide, fun _ h => Option.some.inj h ▸ by decide⟩
  have hperm : (call.entries.reverse.map fun m => (Utf16.ofString m.1, m.2)).Perm
      (call.entries.map fun m => (Utf16.ofString m.1, m.2)) := (List.reverse_perm _).map _
  have hsame : SameUpToOrder (.object call.entries.reverse) call.toJson :=
    sameUpToOrder_of_perm hperm
  have hread := (Call.ofValue_eq_ok_iff hvalid.isJson).2
    ⟨(.refl _), hvalid⟩
  have hread' := (Call.ofValue_eq_ok_iff (hsame.isJson hvalid.isJson)).2 ⟨hsame, hvalid⟩
  obtain ⟨p, q, hp, hq, -, -, hcalls⟩ :=
    payload_identifies hvalid.isJson (hsame.isJson hvalid.isJson)
  obtain rfl := (hcalls _ _ hread hread').2 ⟨rfl, rfl, rfl, rfl⟩
  exact ⟨p, hp, hq⟩

end Value

end ProofOfExistence
