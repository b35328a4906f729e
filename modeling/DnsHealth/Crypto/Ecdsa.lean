import DnsHealth.Bytes
import DnsHealth.Crypto.Field
import DnsHealth.Crypto.Sha2

/-!
# ECDSA signatures

The curves P-256 and P-384 and the check of signatures over them. Points are kept in projective
coordinates, in which one formula without exceptions adds any two points of a curve of prime order.
-/

namespace DnsHealth.Crypto.Ecdsa

/-- A curve `y ^ 2 = x ^ 3 + a * x + b` over the residues of a prime, with a point of prime order
and the hash function that goes with it. -/
structure Curve where
  /-- The bytes of a coordinate. -/
  size : Nat
  /-- The prime of the coordinates. -/
  prime : Modulus
  /-- The number of points. -/
  order : Modulus
  /-- The coefficient of the linear term. -/
  a : Nat
  /-- The constant term. -/
  b : Nat
  /-- The first coordinate of the generating point. -/
  generatorX : Nat
  /-- The second coordinate of the generating point. -/
  generatorY : Nat
  /-- The hash function for messages. -/
  hash : List UInt8 → List UInt8

/-- A point in projective coordinates: `x / z` and `y / z`, or infinity where `z` is zero. -/
structure Point (p : Modulus) where
  /-- The first coordinate, scaled. -/
  x : Residue p
  /-- The second coordinate, scaled. -/
  y : Residue p
  /-- The scale. -/
  z : Residue p
  deriving DecidableEq, Repr

namespace Curve

/-- A residue of the prime of a curve. -/
def coordinate (c : Curve) (n : Nat) : Residue c.prime := c.prime.residue n

/-- The point with the given coordinates. -/
def point (c : Curve) (x y : Nat) : Point c.prime :=
  ⟨c.coordinate x, c.coordinate y, c.coordinate 1⟩

/-- The point at infinity. -/
def infinity (c : Curve) : Point c.prime := ⟨c.coordinate 0, c.coordinate 1, c.coordinate 0⟩

/-- The sum of two points, which may be equal or infinite. -/
def add (c : Curve) (p q : Point c.prime) : Point c.prime :=
  let a := c.coordinate c.a
  let b := c.coordinate (3 * c.b)
  let xy := p.x * q.y + q.x * p.y
  let xz := p.x * q.z + q.x * p.z
  let yz := p.y * q.z + q.y * p.z
  let zz := p.z * q.z
  let shift := a * xz + b * zz
  let low := p.y * q.y - shift
  let high := p.y * q.y + shift
  let slope := c.coordinate 3 * (p.x * q.x) + a * zz
  let rest := a * (p.x * q.x) + b * xz - a * a * zz
  ⟨xy * low - yz * rest, high * low + slope * rest, yz * high + xy * slope⟩

/-- A point added to itself a number of times. -/
def multiple (c : Curve) (n : Nat) (p : Point c.prime) : Point c.prime :=
  power c.add c.infinity p n

/-- Tells whether two coordinates belong to a point of the curve. -/
def isPoint (c : Curve) (x y : Nat) : Bool :=
  let u := c.coordinate x
  let v := c.coordinate y
  decide (x < c.prime.value) && decide (y < c.prime.value) &&
    decide (v * v = u * u * u + c.coordinate c.a * u + c.coordinate c.b)

end Curve

/-- The curve P-256. -/
def p256 : Curve where
  size := 32
  prime := ⟨0xffffffff00000001000000000000000000000000ffffffffffffffffffffffff, by decide⟩
  order := ⟨0xffffffff00000000ffffffffffffffffbce6faada7179e84f3b9cac2fc632551, by decide⟩
  a := 0xffffffff00000001000000000000000000000000fffffffffffffffffffffffc
  b := 0x5ac635d8aa3a93e7b3ebbd55769886bc651d06b0cc53b0f63bce3c3e27d2604b
  generatorX := 0x6b17d1f2e12c4247f8bce6e563a440f277037d812deb33a0f4a13945d898c296
  generatorY := 0x4fe342e2fe1a7f9b8ee7eb4a7c0f9e162bce33576b315ececbb6406837bf51f5
  hash := Sha2.sha256.digest

/-- The curve P-384. -/
def p384 : Curve where
  size := 48
  prime :=
    ⟨(0xffffffffffffffffffffffffffffffffffffffffffffffff <<< 192) +
      0xfffffffffffffffeffffffff0000000000000000ffffffff, by decide⟩
  order :=
    ⟨(0xffffffffffffffffffffffffffffffffffffffffffffffff <<< 192) +
      0xc7634d81f4372ddf581a0db248b0a77aecec196accc52973, by decide⟩
  a :=
    (0xffffffffffffffffffffffffffffffffffffffffffffffff <<< 192) +
      0xfffffffffffffffeffffffff0000000000000000fffffffc
  b :=
    (0xb3312fa7e23ee7e4988e056be3f82d19181d9c6efe814112 <<< 192) +
      0x0314088f5013875ac656398d8a2ed19d2a85c8edd3ec2aef
  generatorX :=
    (0xaa87ca22be8b05378eb1c71ef320ad746e1d3b628ba79b98 <<< 192) +
      0x59f741e082542a385502f25dbf55296c3a545e3872760ab7
  generatorY :=
    (0x3617de4a96262c6f5d9e98bf9292dc29f8f41dbd289a147c <<< 192) +
      0xe9da3113b5f0b8c00a60b1ce1d7e819d7a431d7c90ea0e5f
  hash := Sha2.sha384.digest

/-- Tells whether a signature over a message is good under a public key. Both consist of two numbers
of the size of a coordinate. -/
def verify (c : Curve) (publicKey message signature : List UInt8) : Bool :=
  let x := Bytes.toNat (publicKey.take c.size)
  let y := Bytes.toNat (publicKey.drop c.size)
  let r := Bytes.toNat (signature.take c.size)
  let s := Bytes.toNat (signature.drop c.size)
  if c.isPoint x y && decide (0 < r ∧ r < c.order.value ∧ 0 < s ∧ s < c.order.value) then
    let inverse := residueInverse (c.order.residue s)
    let u := c.order.residue (Bytes.toNat (c.hash message)) * inverse
    let v := c.order.residue r * inverse
    let sum := c.add (c.multiple u.val (c.point c.generatorX c.generatorY))
      (c.multiple v.val (c.point x y))
    decide (sum.z ≠ c.coordinate 0) &&
      decide ((sum.x * residueInverse sum.z).val % c.order.value = r)
  else false

end DnsHealth.Crypto.Ecdsa
