import ProofOfExistence.Proofs.Admission
import ProofOfExistence.Proofs.SignedPayload

/-!
# Honest envelopes authenticate on both entry points

A keypair signs the canonical text of a call, which does not depend on the order in which the call's
members are written, and the dispatcher checks the signature against the call that it has read.
Both hash one payload, so the signature verifies whenever the signature scheme accepts what it has
signed.  The id of the keypair is canonical, so with a fresh nonce nothing is left to refuse.

An envelope may also travel as its compact text: reading the text gives the envelope back up to the
order of its members, which reading an envelope ignores.

## Key results

- `Dispatcher.dispatchText_compact`: a JSON value and its compact text are dispatched alike
- `Keypair.signed_authentic`: what a keypair signs is an authentic envelope
- `Dispatcher.honest_envelope_handed_over`: an honest envelope with a fresh nonce is handed over
-/

namespace ProofOfExistence

open Value

/-- A JSON value and its compact text are dispatched alike. -/
theorem Dispatcher.dispatchText_compact {σ : Type} (d : Dispatcher σ) {v : Value} (hv : IsJson v) :
    d.dispatchText v.compact = d.dispatch v := by
  have hsame := sameUpToOrder_arranged .indexedFirst hv
  have hread := Envelope.ofValue_congr hsame (hv.arranged .indexedFirst)
  rw [dispatchText, parse_compact hv]
  show d.dispatch _ = d.dispatch v
  rw [dispatch, dispatch, hread]

/-! ## Signed calls -/

/-- A call is verified by the text that its members have, without any that is absent. -/
theorem Call.canonical_toValue (c : Call) : c.toValue.canonical = c.toJson.canonical := by
  obtain ⟨action, proof, nonce⟩ := c
  cases action <;> rfl

/-- A call within the bounds of the schema has one canonical text, whatever the order in which its
members were written. -/
theorem Call.exists_canonical {c : Call} (hc : c.Valid) {v : Value}
    (hv : SameUpToOrder v c.toJson) :
    ∃ text, c.toJson.canonical = .ok text ∧ v.canonical = .ok text ∧
      c.toValue.canonical = .ok text := by
  obtain ⟨text, htext, -⟩ := parse_canonical hc.isJson
  have hv' : v.canonical = .ok text :=
    ((canonical_eq_iff (hv.isJson hc.isJson) hc.isJson).2 hv).trans htext
  exact ⟨text, htext, hv', c.canonical_toValue.trans htext⟩

/-- Both signing and verifying a call hash the payload of the call, whatever the order in which its
members were written. -/
theorem Call.exists_digest {c : Call} (hc : c.Valid) {v : Value} (hv : SameUpToOrder v c.toJson) :
    ∃ digest, Signing.digest c.toJson = .ok digest ∧ Signing.digest v = .ok digest ∧
      Signing.digest c.toValue = .ok digest := by
  obtain ⟨text, htext, hv', hvalue⟩ := Call.exists_canonical hc hv
  refine ⟨Blake2b.hash 32 (Bytes.ofString text), ?_, ?_, ?_⟩
  · rw [Signing.digest, htext]
  · rw [Signing.digest, hv']
  · rw [Signing.digest, hvalue]

/-- Checking a signature of a call within the bounds of the schema raises no fault. -/
theorem Call.exists_verifySignature {c : Call} (hc : c.Valid) (signer signature : String) :
    ∃ verified, Call.verifySignature signer c signature = .ok verified := by
  obtain ⟨digest, -, -, hdigest⟩ := Call.exists_digest hc (.refl _)
  unfold Call.verifySignature Signing.verify
  rw [hdigest]
  split
  · exact ⟨_, rfl⟩
  · exact ⟨false, rfl⟩

/-- The signature scheme accepts the signature that a private key makes of a message. -/
def Ed25519.AcceptsOwn (privateKey message : Bytes) : Prop :=
  verify (publicKey privateKey) message (sign privateKey message) = true

/-- What a key signs of a call, in any order of its members, verifies for the call under the id of
the key. -/
private theorem exists_signature {privateKey : Bytes} (hkey : privateKey.length = 32) {c : Call}
    (hc : c.Valid)
    (haccepts : ∀ digest, Signing.digest c.toJson = .ok digest →
      Ed25519.AcceptsOwn privateKey digest)
    {v : Value} (hv : SameUpToOrder v c.toJson) :
    ∃ signature, Signing.sign privateKey v = .ok signature ∧ signature ≠ "" ∧
      Call.verifySignature (Base64Url.encode (Ed25519.publicKey privateKey)) c signature =
        .ok true := by
  obtain ⟨digest, hjson, hsigned, hverified⟩ := Call.exists_digest hc hv
  refine ⟨Base64Url.encode (Ed25519.sign privateKey digest), ?_, ?_, ?_⟩
  · -- The call is signed by encoding the signature of its digest.
    rw [Signing.sign, hsigned]
    show (do return Base64Url.encode (← Signing.signBytes privateKey digest)) = _
    rw [Signing.signBytes, if_pos hkey]
    rfl
  · -- A signature has bytes, so its text has characters.
    refine Base64Url.encode_ne_empty fun hnil => ?_
    have hlength := Ed25519.length_sign privateKey digest
    rw [hnil] at hlength
    cases hlength
  · -- Key and signature are decoded to the bytes that they were encoded from.
    rw [Call.verifySignature, Signing.verify, Base64Url.decode?_encode, Base64Url.decode?_encode,
      hverified]
    show Except.ok (Ed25519.verify _ _ _) = _
    rw [haccepts digest hjson]

/-- An envelope keeps its meaning when its call is written in another order. -/
private theorem sameUpToOrder_envelope {v : Value} {c : Call}
    (hv : SameUpToOrder v c.toJson) (id signature : String) :
    SameUpToOrder
      (.object [("call", v), ("signer", .ofString id), ("signature", .ofString signature)])
      (Envelope.toJson ⟨c, some ⟨id, signature⟩⟩) := by
  refine .obj (.refl _) rfl fun p hp => ?_
  simp only [Envelope.entries, List.map_cons, List.map_nil, List.zip_cons_cons, List.zip_nil_right,
    List.mem_cons, List.not_mem_nil, or_false] at hp
  rcases hp with rfl | rfl | rfl
  · exact hv
  · exact .str _
  · exact .str _

/-- What a keypair signs is, up to the order of members, an authentic envelope of the call. -/
theorem Keypair.signed_authentic {privateKey : Bytes} (hkey : privateKey.length = 32)
    (name : Option String) {c : Call} (hc : c.Valid)
    (hdest : ∀ dest, c.action.dest? = some dest → KeyId.isCanonical dest = true)
    (haccepts : ∀ digest, Signing.digest c.toJson = .ok digest →
      Ed25519.AcceptsOwn privateKey digest)
    {v : Value} (hv : SameUpToOrder v c.toJson) :
    ∃ signed, ∃ e : Envelope, Envelope.signed (.ofPrivateKey privateKey name) v = .ok signed ∧
      SameUpToOrder signed e.toJson ∧ e.call = c ∧
      e.Authentic Call.verifySignature (Keypair.ofPrivateKey privateKey name).principal.id := by
  have hcanonical := KeyId.isCanonical_encode (Ed25519.length_publicKey privateKey)
  obtain ⟨signature, hsign, hnonempty, hverify⟩ := exists_signature hkey hc haccepts hv
  -- From here on nothing about the id matters but that it is canonical and verifies.
  generalize hid : Base64Url.encode (Ed25519.publicKey privateKey) = id at hcanonical hverify
  refine ⟨_, ⟨c, some ⟨id, signature⟩⟩, ?_, sameUpToOrder_envelope hv id signature, rfl, ?_⟩
  · -- The envelope is put together from the call, the id and the signature.
    rw [Envelope.signed]
    show (do
      let signature ← Signing.sign privateKey v
      return Value.object [("call", v),
        ("signer", .ofString (Base64Url.encode (Ed25519.publicKey privateKey))),
        ("signature", .ofString signature)] : Except Fault Value) = _
    rw [hsign, hid]
    rfl
  · -- It has a form that can be read, and the signature verifies.
    have hvalid : Envelope.Valid ⟨c, some ⟨id, signature⟩⟩ :=
      ⟨hc, fun _ h => Option.some.inj h ▸ ⟨KeyId.ne_empty_of_isCanonical hcanonical, hnonempty⟩⟩
    show Envelope.Authentic _ (Base64Url.encode (Ed25519.publicKey privateKey)) _
    rw [hid]
    exact ⟨hvalid, hcanonical, hdest, signature, rfl, hverify⟩

/-- For every keypair of 32 private bytes and every call within the bounds of the schema whose
receiver is canonical, in every state of a dispatcher in which the last nonce of the keypair is
below that of the call: the envelope that the keypair signs is handed over for the keypair, whatever
the order of the members of the call that was signed, of the envelope and of the call in it, and the
only rejection that may follow is one by the service.  From every state its compact text does what
the envelope does. -/
theorem Dispatcher.honest_envelope_handed_over {σ : Type} (d : Dispatcher σ)
    (hd : d.verify = Call.verifySignature) {privateKey : Bytes} (hkey : privateKey.length = 32)
    (name : Option String) {c : Call} (hc : c.Valid)
    (hdest : ∀ dest, c.action.dest? = some dest → KeyId.isCanonical dest = true)
    (haccepts : ∀ digest, Signing.digest c.toJson = .ok digest →
      Ed25519.AcceptsOwn privateKey digest)
    {call : Value} (hcall : SameUpToOrder call c.toJson) :
    let k := Keypair.ofPrivateKey privateKey name
    let id := k.principal.id
    ∃ signed, Envelope.signed k call = .ok signed ∧ ∀ v, SameUpToOrder v signed →
      (∀ w, (d.dispatchText v.compact).exec w = (d.dispatch v).exec w) ∧
        ∀ w, (∀ last, (d.nonces.get w).get? id = some last → last < c.nonce) →
          (d.dispatch v).exec w = (d.carry (.signed id) c (some id)).exec
            (d.nonces.set ((d.nonces.get w).insert id c.nonce) w) ∧
          ∀ error w', (d.dispatch v).exec w = (.ok (.error error), w') →
            ∃ cause, error = .claim cause := by
  intro k id
  obtain ⟨signed, e, hsigned, hsame, rfl, hauthentic⟩ :=
    Keypair.signed_authentic hkey name hc hdest haccepts hcall
  rw [← hd] at hauthentic
  have hjson : IsJson e.toJson := hauthentic.valid.isJson
  refine ⟨signed, hsigned, fun v hv => ⟨fun w => ?_, fun w hlast => ?_⟩⟩
  · -- To read the text is to get the value back.
    rw [d.dispatchText_compact (hv.isJson (hsame.isJson hjson))]
  · -- The nonce is above the last one, so it is at least the next one.
    have hnext : (d.nonces.get w).next id ≤ e.call.nonce := by
      unfold Nonces.next
      cases hget : (d.nonces.get w).get? id with
      | none => exact Nat.zero_le _
      | some last => exact hlast last hget
    have hexec := exec_dispatch_of_next_le hauthentic (hv.trans hsame hjson) hnext
    refine ⟨hexec, fun error w' h => ?_⟩
    rw [hexec] at h
    exact d.carry_answer h

/-- The key of zeros claims a byte, in an envelope that travels as text. -/
theorem Dispatcher.honest_envelope_handed_over_zeros :
    let d : Dispatcher (Nonces × AuditLog) :=
      { handOver := fun _ _ => return .ok ()
        verify := Call.verifySignature
        nonces := ⟨Prod.fst, fun nonces w => (nonces, w.2)⟩
        audit := ⟨Prod.snd, fun audit w => (w.1, audit)⟩
        count := fun _ _ => return ()
        log := fun _ _ _ => return () }
    let k := Keypair.ofPrivateKey (List.replicate 32 0) none
    let c : Call := ⟨.create, "07", 0⟩
    ∃ signed, Envelope.signed k c.toJson = .ok signed ∧
      (d.dispatchText signed.compact).exec (.empty, []) =
        (.ok (.ok ()), (Table.empty.insert k.principal.id 0,
          [⟨.accepted, some .create, some k.principal.id, some "07", none⟩])) := by
  intro d k c
  have hvalid : c.Valid := ⟨by decide, by decide, nofun⟩
  -- The one digest that is signed, put through the signature scheme.
  have hchecked : (match Signing.digest c.toJson with
      | .ok digest => Ed25519.verify (Ed25519.publicKey (List.replicate 32 0)) digest
          (Ed25519.sign (List.replicate 32 0) digest)
      | .error _ => false) = true := by
    decide +kernel
  have haccepts (digest : Bytes) (h : Signing.digest c.toJson = .ok digest) :
      Ed25519.AcceptsOwn (List.replicate 32 0) digest := by
    rw [h] at hchecked
    exact hchecked
  obtain ⟨signed, hsigned, hdispatch⟩ :=
    d.honest_envelope_handed_over rfl List.length_replicate none hvalid nofun haccepts (.refl _)
  obtain ⟨htext, hfresh⟩ := hdispatch signed (.refl signed)
  refine ⟨signed, hsigned, ?_⟩
  rw [htext, (hfresh (.empty, []) nofun).1]
  rfl

end ProofOfExistence
