/-! # Byte sequences

A byte sequence is a list of bytes.  Words and naturals are cut into bytes here, lowest byte first
or highest byte first, and put together again. -/

namespace ProofOfExistence

/-- A byte sequence. -/
abbrev Bytes := List UInt8

namespace Bytes

/-- The natural number with these bytes, lowest first. -/
def toNatLittleEndian (bs : Bytes) : Nat := bs.foldr (fun b n => b.toNat + 256 * n) 0

/-- The natural number with these bytes, highest first. -/
def toNatBigEndian (bs : Bytes) : Nat := bs.foldl (fun n b => 256 * n + b.toNat) 0

/-- The lowest `count` bytes of a natural number, lowest first. -/
def ofNatLittleEndian : Nat → Nat → Bytes
  | 0, _ => []
  | count + 1, n => UInt8.ofNat n :: ofNatLittleEndian count (n / 256)

/-- The lowest `count` bytes of a natural number, highest first. -/
def ofNatBigEndian (count n : Nat) : Bytes := (ofNatLittleEndian count n).reverse

@[simp] theorem length_ofNatLittleEndian (count n : Nat) :
    (ofNatLittleEndian count n).length = count := by
  induction count generalizing n with
  | zero => rfl
  | succ count ih => simp [ofNatLittleEndian, ih]

/-- Rotate a word to the right. -/
def rotateRight (x : UInt64) (n : UInt64) : UInt64 := (x >>> n) ||| (x <<< (64 - n))

/-- The bytes of a string in UTF-8. -/
def ofString (s : String) : Bytes := s.toList.flatMap String.utf8EncodeChar

end Bytes

end ProofOfExistence
