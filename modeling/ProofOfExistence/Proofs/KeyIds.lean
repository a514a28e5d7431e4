import Mathlib.Logic.ExistsUnique
import ProofOfExistence.Identity.Signing
import ProofOfExistence.Proofs.Base64Text

/-!
# Keys named by their ids

The id of a 32-byte key is its base64 text.  It has 43 characters and reads back as the key, which
makes it canonical.

## Key results

- `KeyId.isCanonical_encode`: the id of a 32-byte key is canonical
- `KeyId.existsUnique_key`: a canonical id is the text of exactly one 32-byte key
- `Ed25519.length_publicKey`, `Ed25519.length_sign`: the lengths of public keys and signatures
-/

namespace ProofOfExistence

/-- The id of a 32-byte key is canonical. -/
theorem KeyId.isCanonical_encode {key : Bytes} (h : key.length = 32) :
    KeyId.isCanonical (Base64Url.encode key) = true := by
  have hlength : (Base64Url.encodeChars key).length = idLength := by
    rw [Base64Url.length_encodeChars, h]
    rfl
  unfold isCanonical
  rw [Base64Url.decode?_encode, Base64Url.encode, String.toList_ofList, hlength,
    Base64Url.isDigit_encodeChars]
  simp [Base64Url.encode]

/-- A canonical id is the text of exactly one 32-byte key. -/
theorem KeyId.existsUnique_key {id : String} (h : KeyId.isCanonical id = true) :
    ∃! key : Bytes, key.length = 32 ∧ Base64Url.encode key = id := by
  simp only [isCanonical, Bool.and_eq_true, decide_eq_true_eq] at h
  obtain ⟨⟨hchars, -⟩, hread⟩ := h
  obtain ⟨key, -, hkey⟩ := Option.map_eq_some_iff.1 hread
  have hlength : (Base64Url.encodeChars key).length = idLength := by
    rw [← hchars, ← hkey, Base64Url.encode, String.toList_ofList]
  rw [Base64Url.length_encodeChars, idLength] at hlength
  refine ⟨key, ⟨by omega, hkey⟩, fun other hother => ?_⟩
  exact Base64Url.encode_injective (hother.2.trans hkey.symm)

/-- A canonical id is not empty. -/
theorem KeyId.ne_empty_of_isCanonical {id : String} (h : KeyId.isCanonical id = true) :
    id ≠ "" := by
  rintro rfl
  exact absurd h (by decide)

namespace Ed25519

theorem length_publicKey (privateKey : Bytes) : (publicKey privateKey).length = 32 :=
  Bytes.length_ofNatLittleEndian 32 _

theorem length_sign (privateKey message : Bytes) : (sign privateKey message).length = 64 := by
  unfold sign
  rw [List.length_append, Point.encode, Bytes.length_ofNatLittleEndian,
    Bytes.length_ofNatLittleEndian]

end Ed25519

end ProofOfExistence
