import ProofOfExistence.Fault
import ProofOfExistence.Text.Base64Url

/-! # Key ids

A key id is the text by which a public key is named.  Reading forgives many spellings of the same 32
bytes; exactly one of them is canonical, the one that writing gives.

`KeyId.isCanonical` decides this for strings.  `KeyId.check` decides it for every sequence of code
units, step by step: it reads a text only after a look at its length and its characters, and fails
if that reading fails. -/

namespace ProofOfExistence.KeyId

/-- The number of characters of a canonical key id: 32 bytes take 43. -/
def idLength : Nat := 43

/-- Whether a text is the canonical id of a 32-byte key: 43 characters of the alphabet that reading
and writing give back unchanged. -/
def isCanonical (id : String) : Bool :=
  id.toList.length = idLength && id.toList.all Base64Url.isDigit &&
    (Base64Url.decode? id).map Base64Url.encode = some id

/-- The id that writing gives a key. -/
def ofKey (key : Bytes) : Utf16 := Utf16.ofString (Base64Url.encode key)

/-- Whether a text consists of 43 characters of the alphabet. -/
def hasIdShape (id : Utf16) : Bool :=
  id.length = idLength && id.units.all fun u => Base64Url.isDigit (Char.ofNat u.toNat)

/-- Look at a text and, if it has the shape of an id, read it and write it again. -/
def check (id : Utf16) : Except Fault Bool :=
  if hasIdShape id then
    match Base64Url.decode? id.toString with
    | some key => .ok (ofKey key = id)
    | none => .error .invalidBase64
  else .ok false

end ProofOfExistence.KeyId
