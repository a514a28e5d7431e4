import ProofOfExistence.Claim.Basic
import ProofOfExistence.Crypto.Blake2b
import ProofOfExistence.Crypto.Ed25519
import ProofOfExistence.Fault
import ProofOfExistence.Identity.KeyId

/-! # Keys and signatures

A principal is known by the key id of their public key.  What gets signed is the 32-byte BLAKE2b
hash of the canonical text of a value, so the order of members and the layout of the text do not
matter.  A signature travels as base64 text.

Verification needs only texts: a key or signature that is not base64 verifies as false, and so does
one of the wrong length. -/

namespace ProofOfExistence

/-- Someone who can sign. -/
structure Principal where
  /-- The key id of the public key. -/
  id : Identity
  name : Option String

/-- A private key with the principal it belongs to. -/
structure Keypair where
  principal : Principal
  privateKey : Bytes

/-- The keypair of a 32-byte private key.  An empty name is no name. -/
def Keypair.ofPrivateKey (privateKey : Bytes) (name : Option String) : Keypair :=
  ⟨⟨Base64Url.encode (Ed25519.publicKey privateKey), name.filter (· ≠ "")⟩, privateKey⟩

namespace Signing

/-- The signature of a message under a private key, which must have 32 bytes. -/
def signBytes (privateKey message : Bytes) : Except Fault Bytes :=
  if privateKey.length = 32 then .ok (Ed25519.sign privateKey message)
  else .error .privateKeyLength

/-- The hash of a value that gets signed. -/
def digest (v : Value) : Except Fault Bytes :=
  match v.canonical with
  | .ok text => .ok (Blake2b.hash 32 (Bytes.ofString text))
  | .error cause => .error (.notCanonical cause)

/-- The signature of a value, as text. -/
def sign (privateKey : Bytes) (v : Value) : Except Fault String := do
  let signature ← signBytes privateKey (← digest v)
  return Base64Url.encode signature

/-- Whether a signature of a value verifies under a public key. -/
def verify (publicKey : String) (v : Value) (signature : String) : Except Fault Bool :=
  match Base64Url.decode? publicKey, Base64Url.decode? signature with
  | some key, some sig => do return Ed25519.verify key (← digest v) sig
  | _, _ => .ok false

end Signing

end ProofOfExistence
