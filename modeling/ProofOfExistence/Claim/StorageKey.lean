import ProofOfExistence.Crypto.Blake2b
import ProofOfExistence.Text.Hex

/-! # Storage keys

A claim is stored under the hash of its fingerprint followed by the fingerprint itself.  The hash
spreads the keys; the fingerprint behind it keeps them apart, whatever the hash, since the length of
a hash is fixed.

* `hashThenBytes_inj`     the same for any hash of fixed length
* `ofFingerprint_inj`     equal keys, equal fingerprints
* `hexOfFingerprint_inj`  equal texts of keys, equal fingerprints -/

namespace ProofOfExistence

/-- What identifies a claimed piece of data. -/
abbrev Fingerprint := Bytes

namespace StorageKey

/-- The hash of a byte sequence followed by the sequence. -/
def hashThenBytes (hash : Bytes → Bytes) (bytes : Bytes) : Bytes := hash bytes ++ bytes

/-- Equal keys belong to equal sequences when all hashes have one length. -/
theorem hashThenBytes_inj {hash : Bytes → Bytes} {n : Nat} (hlen : ∀ b, (hash b).length = n)
    {p q : Bytes} : hashThenBytes hash p = hashThenBytes hash q ↔ p = q := by
  constructor
  · intro h
    exact (List.append_inj h (by rw [hlen, hlen])).2
  · rintro rfl
    rfl

/-- The storage key of a fingerprint: its 16-byte BLAKE2b hash, then its bytes. -/
def ofFingerprint (f : Fingerprint) : Bytes := hashThenBytes (Blake2b.hash 16) f

/-- The storage key of a fingerprint as hexadecimal text. -/
def hexOfFingerprint (f : Fingerprint) : String := Hex.encode (ofFingerprint f)

/-- Storage keys tell fingerprints apart. -/
theorem ofFingerprint_inj {f g : Fingerprint} : ofFingerprint f = ofFingerprint g ↔ f = g :=
  hashThenBytes_inj (Blake2b.length_hash (by decide))

/-- So do their texts. -/
theorem hexOfFingerprint_inj {f g : Fingerprint} :
    hexOfFingerprint f = hexOfFingerprint g ↔ f = g :=
  Hex.encode_inj.trans ofFingerprint_inj

end StorageKey

end ProofOfExistence
