import ProofOfExistence.Crypto.Sha512

/-! # Ed25519

Signatures on the twisted Edwards curve `-x² + y² = 1 + d x² y²` over the field of `2 ^ 255 - 19`
elements.

Signing is deterministic and follows RFC 8032.  Verification is the permissive rule that batch
verifiers agree on: the points of the public key and of the signature may be written with an
unreduced second coordinate and may have small order, the scalar must be below the group order, and
the equation is checked after multiplying by the cofactor eight.  The challenge hashes the reduced
encodings of the two points before the message; when one of the points is the neutral one, which has
no encoding here, it is the hash of nothing. -/

namespace ProofOfExistence.Ed25519

/-- The order of the field. -/
def fieldOrder : Nat := Nat.pow 2 255 - 19

/-- The order of the group that the base point generates. -/
def groupOrder : Nat := Nat.pow 2 252 + 27742317777372353535851937790883648493

/-- The coefficient of the curve. -/
def curveD : Nat := 37095705934669439343138083508754565189542113879843219016388785533085940283555

/-- A square root of minus one. -/
def sqrtMinusOne : Nat :=
  19681161376707505956807079304988542015446066515923890162744021073123829784752

/-- The product of two field elements. -/
def mul (a b : Nat) : Nat := a * b % fieldOrder

/-- The sum of two field elements. -/
def add (a b : Nat) : Nat := (a + b) % fieldOrder

/-- The difference of two field elements. -/
def sub (a b : Nat) : Nat := (a + (fieldOrder - b % fieldOrder)) % fieldOrder

/-- A power of a field element. -/
def pow (a n : Nat) : Nat :=
  if n = 0 then 1
  else
    let square := pow (mul a a) (n / 2)
    if n % 2 = 1 then mul a square else square
termination_by n

/-- The inverse of a field element that is not zero. -/
def inverse (a : Nat) : Nat := pow a (fieldOrder - 2)

/-- A curve point in extended coordinates: `x / z`, `y / z`, and `t = x * y / z`. -/
structure Point where
  x : Nat
  y : Nat
  z : Nat
  t : Nat

namespace Point

/-- The neutral point. -/
def zero : Point := ⟨0, 1, 1, 0⟩

/-- The point with these two coordinates. -/
def ofAffine (x y : Nat) : Point := ⟨x, y, 1, Ed25519.mul x y⟩

/-- The generator of the group. -/
def base : Point := ofAffine
  15112221349535400772501151409588531511454012693041857206046113283949847762202
  46316835694926478169428394003475163141307993866256225615783033603165251855960

/-- The sum of two points. -/
def add (p q : Point) : Point :=
  let a := mul (sub p.y p.x) (sub q.y q.x)
  let b := mul (Ed25519.add p.y p.x) (Ed25519.add q.y q.x)
  let c := mul (2 * curveD) (mul p.t q.t)
  let d := mul (2 * p.z) q.z
  let e := sub b a
  let f := sub d c
  let g := Ed25519.add d c
  let h := Ed25519.add b a
  ⟨mul e f, mul g h, mul f g, mul e h⟩

/-- The point with the opposite sign. -/
def neg (p : Point) : Point := ⟨sub 0 p.x, p.y, p.z, sub 0 p.t⟩

/-- The sum of `n` copies of a point. -/
def nsmul (n : Nat) (p : Point) : Point :=
  if n = 0 then zero
  else
    let half := nsmul (n / 2) (p.add p)
    if n % 2 = 1 then p.add half else half
termination_by n

/-- Whether a point is the neutral one. -/
def isZero (p : Point) : Bool := p.x % fieldOrder = 0 && sub p.y p.z = 0

/-- The 32-byte encoding: the second coordinate, with the parity of the first in the top bit. -/
def encode (p : Point) : Bytes :=
  let i := inverse p.z
  let x := mul p.x i
  let y := mul p.y i
  Bytes.ofNatLittleEndian 32 (y + (x % 2) <<< 255)

/-- A square root of `u / v`, if there is one. -/
def sqrtRatio (u v : Nat) : Option Nat :=
  let v3 := mul (mul v v) v
  let v7 := mul (mul v3 v3) v
  -- The square of this candidate is `u / v` up to a fourth root of one.
  let x := mul (mul u v3) (pow (mul u v7) ((fieldOrder - 5) / 8))
  let vx2 := mul v (mul x x)
  if vx2 = u then some x
  else if vx2 = sub 0 u then some (mul x sqrtMinusOne)
  else none

/-- The point of a 32-byte encoding.  The second coordinate is reduced, and the top bit is of no
account when the first one is zero. -/
def decode (bytes : Bytes) : Option Point :=
  if bytes.length ≠ 32 then none
  else
    let n := bytes.toNatLittleEndian
    let y := n % Nat.pow 2 255 % fieldOrder
    let y2 := mul y y
    match sqrtRatio (sub y2 1) (Ed25519.add (mul curveD y2) 1) with
    | none => none
    | some x => some (ofAffine (if x % 2 = n >>> 255 then x else sub 0 x) y)

end Point

/-- The secret scalar in the first half of a hashed private key. -/
def clamp (bytes : Bytes) : Nat :=
  Nat.pow 2 254 + bytes.toNatLittleEndian % Nat.pow 2 254 / 8 * 8

/-- The hash of a byte sequence as a scalar. -/
def hashScalar (bytes : Bytes) : Nat := (Sha512.hash bytes).toNatLittleEndian % groupOrder

/-- The secret scalar of a private key. -/
def secretScalar (privateKey : Bytes) : Nat := clamp ((Sha512.hash privateKey).take 32)

/-- The public key of a private key. -/
def publicKey (privateKey : Bytes) : Bytes := (Point.base.nsmul (secretScalar privateKey)).encode

/-- The signature of a message under a private key. -/
def sign (privateKey message : Bytes) : Bytes :=
  let secret := secretScalar privateKey
  let nonce := hashScalar ((Sha512.hash privateKey).drop 32 ++ message)
  let commitment := (Point.base.nsmul nonce).encode
  let challenge := hashScalar (commitment ++ publicKey privateKey ++ message)
  commitment ++ Bytes.ofNatLittleEndian 32 ((nonce + challenge * secret) % groupOrder)

/-- The challenge of a verification. -/
def challenge (r a : Point) (message : Bytes) : Nat :=
  hashScalar (if r.isZero || a.isZero then [] else r.encode ++ a.encode ++ message)

/-- Whether a signature of a message verifies under a public key.  Keys and signatures of the wrong
length or without a point verify as false. -/
def verify (publicKey message signature : Bytes) : Bool :=
  if signature.length ≠ 64 then false
  else
    match Point.decode publicKey, Point.decode (signature.take 32) with
    | some a, some r =>
      let s := Bytes.toNatLittleEndian (signature.drop 32)
      if s < groupOrder then
        let difference := (r.add (a.nsmul (challenge r a message))).add (Point.base.nsmul s).neg
        -- Multiplying by the cofactor takes away what the points have of small order.
        (difference.nsmul 8).isZero
      else false
    | _, _ => false

end ProofOfExistence.Ed25519
