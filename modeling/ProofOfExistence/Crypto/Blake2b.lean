import ProofOfExistence.Crypto.Bytes

/-! # BLAKE2b

The unkeyed BLAKE2b hash with a digest of any length up to 64 bytes, following RFC 7693: a message
is absorbed in blocks of 128 bytes, each mixed into a state of eight words by twelve rounds, and the
last block, padded with zeros, is marked as such.

`length_hash` says that the digest has the length asked for. -/

namespace ProofOfExistence.Blake2b

/-- The words that the state starts from. -/
def initialWords : Vector UInt64 8 := #v[
  0x6a09e667f3bcc908, 0xbb67ae8584caa73b, 0x3c6ef372fe94f82b, 0xa54ff53a5f1d36f1,
  0x510e527fade682d1, 0x9b05688c2b3e6c1f, 0x1f83d9abfb41bd6b, 0x5be0cd19137e2179]

/-- The order in which each round takes the words of the block. -/
def schedule : List (Vector (Fin 16) 16) := [
  #v[0, 1, 2, 3, 4, 5, 6, 7, 8, 9, 10, 11, 12, 13, 14, 15],
  #v[14, 10, 4, 8, 9, 15, 13, 6, 1, 12, 0, 2, 11, 7, 5, 3],
  #v[11, 8, 12, 0, 5, 2, 15, 13, 10, 14, 3, 6, 7, 1, 9, 4],
  #v[7, 9, 3, 1, 13, 12, 11, 14, 2, 6, 5, 10, 4, 0, 15, 8],
  #v[9, 0, 5, 7, 2, 4, 10, 15, 14, 1, 11, 12, 6, 8, 3, 13],
  #v[2, 12, 6, 10, 0, 11, 8, 3, 4, 13, 7, 5, 15, 14, 1, 9],
  #v[12, 5, 1, 15, 14, 13, 4, 10, 0, 7, 6, 3, 9, 2, 8, 11],
  #v[13, 11, 7, 14, 12, 1, 3, 9, 5, 0, 15, 4, 8, 6, 2, 10],
  #v[6, 15, 14, 9, 11, 3, 0, 8, 12, 2, 13, 7, 1, 4, 10, 5],
  #v[10, 2, 8, 4, 7, 6, 1, 5, 15, 11, 9, 14, 3, 12, 13, 0],
  #v[0, 1, 2, 3, 4, 5, 6, 7, 8, 9, 10, 11, 12, 13, 14, 15],
  #v[14, 10, 4, 8, 9, 15, 13, 6, 1, 12, 0, 2, 11, 7, 5, 3]]

/-- Mix two message words into four words of the working vector. -/
def mix (v : Vector UInt64 16) (a b c d : Fin 16) (x y : UInt64) : Vector UInt64 16 :=
  let va := v[a] + v[b] + x
  let vd := Bytes.rotateRight (v[d] ^^^ va) 32
  let vc := v[c] + vd
  let vb := Bytes.rotateRight (v[b] ^^^ vc) 24
  let va := va + vb + y
  let vd := Bytes.rotateRight (vd ^^^ va) 16
  let vc := vc + vd
  let vb := Bytes.rotateRight (vb ^^^ vc) 63
  (((v.set a va).set b vb).set c vc).set d vd

/-- One round: the columns, then the diagonals. -/
def round (m : Vector UInt64 16) (v : Vector UInt64 16) (s : Vector (Fin 16) 16) :
    Vector UInt64 16 :=
  let v := mix v 0 4 8 12 m[s[0]] m[s[1]]
  let v := mix v 1 5 9 13 m[s[2]] m[s[3]]
  let v := mix v 2 6 10 14 m[s[4]] m[s[5]]
  let v := mix v 3 7 11 15 m[s[6]] m[s[7]]
  let v := mix v 0 5 10 15 m[s[8]] m[s[9]]
  let v := mix v 1 6 11 12 m[s[10]] m[s[11]]
  let v := mix v 2 7 8 13 m[s[12]] m[s[13]]
  mix v 3 4 9 14 m[s[14]] m[s[15]]

/-- Mix one block into the state.  `count` is the number of message bytes up to its end. -/
def compress (h : Vector UInt64 8) (m : Vector UInt64 16) (count : Nat) (last : Bool) :
    Vector UInt64 8 :=
  let v : Vector UInt64 16 := h ++ initialWords
  -- Words 12 and 13 carry the count, low half first; word 14 marks the last block.
  let v := v.set 12 (v[12] ^^^ UInt64.ofNat count)
  let v := v.set 13 (v[13] ^^^ UInt64.ofNat (count >>> 64))
  let v := if last then v.set 14 (~~~v[14]) else v
  let v := schedule.foldl (round m) v
  Vector.ofFn fun i : Fin 8 => h[i] ^^^ v[i.val] ^^^ v[i.val + 8]

/-- The words of a block of at most 128 bytes, padded with zeros. -/
def blockWords (block : Bytes) : Vector UInt64 16 :=
  Vector.ofFn fun i : Fin 16 =>
    UInt64.ofNat (Bytes.toNatLittleEndian ((block.drop (8 * i.val)).take 8))

/-- Absorb the rest of a message, `count` bytes of which are already absorbed. -/
def absorb (h₀ : Vector UInt64 8) (count : Nat) (rest : Bytes) : Vector UInt64 8 :=
  match h : rest.drop 128 with
  | [] => compress h₀ (blockWords rest) (count + rest.length) true
  | byte :: after =>
    absorb (compress h₀ (blockWords (rest.take 128)) (count + 128) false) (count + 128)
      (byte :: after)
termination_by rest.length
decreasing_by
  have := congrArg List.length h
  simp only [List.length_drop, List.length_cons] at this ⊢
  omega

/-- The state before the first block, which depends on the length of the digest. -/
def initialState (digestLength : Nat) : Vector UInt64 8 :=
  initialWords.set 0 (initialWords[0] ^^^ 0x01010000 ^^^ UInt64.ofNat digestLength)

/-- The bytes of the state. -/
def stateBytes (h : Vector UInt64 8) : Bytes :=
  h.toList.flatMap fun w => Bytes.ofNatLittleEndian 8 w.toNat

/-- The digest of a message, of a length of at most 64 bytes. -/
def hash (digestLength : Nat) (message : Bytes) : Bytes :=
  (stateBytes (absorb (initialState digestLength) 0 message)).take digestLength

theorem length_stateBytes (h : Vector UInt64 8) : (stateBytes h).length = 64 := by
  simp [stateBytes, List.length_flatMap, List.map_const']

/-- A digest has the length asked for. -/
theorem length_hash {digestLength : Nat} (hle : digestLength ≤ 64) (message : Bytes) :
    (hash digestLength message).length = digestLength := by
  simp [hash, length_stateBytes, hle]

end ProofOfExistence.Blake2b
