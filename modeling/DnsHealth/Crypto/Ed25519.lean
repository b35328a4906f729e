import DnsHealth.Bytes
import DnsHealth.Crypto.Field
import DnsHealth.Crypto.Sha2

/-!
# Ed25519 signatures

The twisted Edwards curve of RFC 8032 and the check of signatures over it. The second half of a
signature has to be below the order of the base point, the sum is computed without a cofactor, and
its bytes are compared with the first half of the signature.
-/

namespace DnsHealth.Crypto.Ed25519

/-- The prime of the coordinates. -/
def prime : Modulus :=
  ⟨0x7fffffffffffffffffffffffffffffffffffffffffffffffffffffffffffffed, by decide⟩

/-- The order of the base point. -/
def order : Nat := 0x1000000000000000000000000000000014def9dea2f79cd65812631a5cf5d3ed

/-- The lowest number with a bit above those of a coordinate. -/
def highBit : Nat := 0x8000000000000000000000000000000000000000000000000000000000000000

/-- A coordinate. -/
abbrev Coordinate := Residue prime

/-- The coefficient of the curve `y ^ 2 - x ^ 2 = 1 + d * x ^ 2 * y ^ 2`. -/
def d : Coordinate := prime.residue
  37095705934669439343138083508754565189542113879843219016388785533085940283555

/-- A square root of minus one. -/
def sqrtMinusOne : Coordinate := prime.residue
  19681161376707505956807079304988542015446066515923890162744021073123829784752

/-- A point in projective coordinates: `x / z` and `y / z`. -/
structure Point where
  /-- The first coordinate, scaled. -/
  x : Coordinate
  /-- The second coordinate, scaled. -/
  y : Coordinate
  /-- The scale. -/
  z : Coordinate
  deriving DecidableEq, Repr

namespace Point

/-- The neutral point. -/
def neutral : Point := ⟨prime.residue 0, prime.residue 1, prime.residue 1⟩

/-- The base point. -/
def base : Point :=
  ⟨prime.residue 15112221349535400772501151409588531511454012693041857206046113283949847762202,
    prime.residue 46316835694926478169428394003475163141307993866256225615783033603165251855960,
    prime.residue 1⟩

/-- The sum of two points. -/
def add (p q : Point) : Point :=
  let zz := p.z * q.z
  let xx := p.x * q.x
  let yy := p.y * q.y
  let product := d * xx * yy
  let low := zz * zz - product
  let high := zz * zz + product
  ⟨zz * low * ((p.x + p.y) * (q.x + q.y) - xx - yy), zz * high * (yy + xx), low * high⟩

/-- A point added to itself a number of times. -/
def multiple (n : Nat) (p : Point) : Point := power add neutral p n

/-- The point on the other side of the second axis. -/
def negate (p : Point) : Point := { p with x := prime.residue 0 - p.x }

/-- The root of a quotient, if it has one. -/
def root? (num den : Coordinate) : Option Coordinate :=
  let cube := den * den * den
  let guess := num * cube * residuePower (num * cube * cube * den) ((prime.value - 5) / 8)
  let square := den * guess * guess
  if square = num then some guess
  else if square = prime.residue 0 - num then some (guess * sqrtMinusOne)
  else none

/-- The point that thirty-two bytes stand for: the second coordinate in the low bits, and in the
highest bit whether the first coordinate is odd. -/
def ofBytes? (bytes : List UInt8) : Option Point := do
  let n := Bytes.toNat bytes.reverse
  let y := prime.residue (n % highBit)
  let x ← root? (y * y - prime.residue 1) (d * y * y + prime.residue 1)
  let odd := x.val % 2 = 1
  let x := if decide odd == decide (highBit ≤ n) then x else prime.residue 0 - x
  return ⟨x, y, prime.residue 1⟩

/-- The thirty-two bytes of a point. -/
def toBytes (p : Point) : List UInt8 :=
  let inverse := residueInverse p.z
  let x := (p.x * inverse).val
  let y := (p.y * inverse).val
  (Bytes.ofNat 32 (y + x % 2 * highBit)).reverse

end Point

/-- Tells whether a signature over a message is good under a public key. -/
def verify (publicKey message signature : List UInt8) : Bool :=
  let r := signature.take 32
  let s := Bytes.toNat (signature.drop 32).reverse
  match Point.ofBytes? publicKey with
  | none => false
  | some key =>
    let hash := Bytes.toNat (Sha2.sha512.digest (r ++ publicKey ++ message)).reverse % order
    decide (s < order) && ((key.negate.multiple hash).add (Point.base.multiple s)).toBytes == r

end DnsHealth.Crypto.Ed25519
