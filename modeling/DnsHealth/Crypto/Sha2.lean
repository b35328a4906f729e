import DnsHealth.Crypto.Blocks

/-!
# SHA-2

The hash functions of FIPS 180 with digests of 32, 48 and 64 bytes. They share one compression
function, which takes the word width, the number of rounds and the rotations as parameters, and one
table of constants, of which the narrow words are the high halves.
-/

namespace DnsHealth.Crypto.Sha2

/-- The fractional parts of the cube roots of the first eighty primes. -/
def cubeRoots : List (BitVec 64) := [
  0x428a2f98d728ae22, 0x7137449123ef65cd, 0xb5c0fbcfec4d3b2f, 0xe9b5dba58189dbbc,
  0x3956c25bf348b538, 0x59f111f1b605d019, 0x923f82a4af194f9b, 0xab1c5ed5da6d8118,
  0xd807aa98a3030242, 0x12835b0145706fbe, 0x243185be4ee4b28c, 0x550c7dc3d5ffb4e2,
  0x72be5d74f27b896f, 0x80deb1fe3b1696b1, 0x9bdc06a725c71235, 0xc19bf174cf692694,
  0xe49b69c19ef14ad2, 0xefbe4786384f25e3, 0x0fc19dc68b8cd5b5, 0x240ca1cc77ac9c65,
  0x2de92c6f592b0275, 0x4a7484aa6ea6e483, 0x5cb0a9dcbd41fbd4, 0x76f988da831153b5,
  0x983e5152ee66dfab, 0xa831c66d2db43210, 0xb00327c898fb213f, 0xbf597fc7beef0ee4,
  0xc6e00bf33da88fc2, 0xd5a79147930aa725, 0x06ca6351e003826f, 0x142929670a0e6e70,
  0x27b70a8546d22ffc, 0x2e1b21385c26c926, 0x4d2c6dfc5ac42aed, 0x53380d139d95b3df,
  0x650a73548baf63de, 0x766a0abb3c77b2a8, 0x81c2c92e47edaee6, 0x92722c851482353b,
  0xa2bfe8a14cf10364, 0xa81a664bbc423001, 0xc24b8b70d0f89791, 0xc76c51a30654be30,
  0xd192e819d6ef5218, 0xd69906245565a910, 0xf40e35855771202a, 0x106aa07032bbd1b8,
  0x19a4c116b8d2d0c8, 0x1e376c085141ab53, 0x2748774cdf8eeb99, 0x34b0bcb5e19b48a8,
  0x391c0cb3c5c95a63, 0x4ed8aa4ae3418acb, 0x5b9cca4f7763e373, 0x682e6ff3d6b2b8a3,
  0x748f82ee5defb2fc, 0x78a5636f43172f60, 0x84c87814a1f0ab72, 0x8cc702081a6439ec,
  0x90befffa23631e28, 0xa4506cebde82bde9, 0xbef9a3f7b2c67915, 0xc67178f2e372532b,
  0xca273eceea26619c, 0xd186b8c721c0c207, 0xeada7dd6cde0eb1e, 0xf57d4f7fee6ed178,
  0x06f067aa72176fba, 0x0a637dc5a2c898a6, 0x113f9804bef90dae, 0x1b710b35131c471b,
  0x28db77f523047d84, 0x32caab7b40c72493, 0x3c9ebe0a15c9bebc, 0x431d67c49c100d4c,
  0x4cc5d4becb3e42b6, 0x597f299cfc657e2a, 0x5fcb6fab3ad6faec, 0x6c44198c4a475817]

/-- The fractional parts of the square roots of the first eight primes. -/
def squareRoots : List (BitVec 64) := [
  0x6a09e667f3bcc908, 0xbb67ae8584caa73b, 0x3c6ef372fe94f82b, 0xa54ff53a5f1d36f1,
  0x510e527fade682d1, 0x9b05688c2b3e6c1f, 0x1f83d9abfb41bd6b, 0x5be0cd19137e2179]

/-- The fractional parts of the square roots of the second eight primes. -/
def laterSquareRoots : List (BitVec 64) := [
  0xcbbb9d5dc1059ed8, 0x629a292a367cd507, 0x9159015a3070dd17, 0x152fecd8f70e5939,
  0x67332667ffc00b31, 0x8eb44a8768581511, 0xdb0c2e0d64f98fa7, 0x47b5481dbefa4fa4]

/-- A member of the family. -/
structure Variant where
  /-- The bits of a word. -/
  width : Nat
  /-- The number of rounds. -/
  rounds : Nat
  /-- The rotations of the first working word. -/
  upper : Nat × Nat × Nat
  /-- The rotations of the fifth working word. -/
  lower : Nat × Nat × Nat
  /-- Two rotations and a shift of the word fifteen places back. -/
  far : Nat × Nat × Nat
  /-- Two rotations and a shift of the word two places back. -/
  near : Nat × Nat × Nat
  /-- The chaining value before the first block, in words of full width. -/
  initial : List (BitVec 64)
  /-- The number of bytes of a digest. -/
  digestSize : Nat

/-- The eight words of a chaining value. -/
structure State (width : Nat) where
  /-- The first word. -/
  a : BitVec width
  /-- The second word. -/
  b : BitVec width
  /-- The third word. -/
  c : BitVec width
  /-- The fourth word. -/
  d : BitVec width
  /-- The fifth word. -/
  e : BitVec width
  /-- The sixth word. -/
  f : BitVec width
  /-- The seventh word. -/
  g : BitVec width
  /-- The eighth word. -/
  h : BitVec width
  deriving DecidableEq, Repr

namespace State

/-- The words of a chaining value in order. -/
def toList (s : State width) : List (BitVec width) := [s.a, s.b, s.c, s.d, s.e, s.f, s.g, s.h]

/-- The chaining value with the given words, zeros for those that are missing. -/
def ofArray (words : Array (BitVec width)) : State width :=
  ⟨words.getD 0 0, words.getD 1 0, words.getD 2 0, words.getD 3 0, words.getD 4 0, words.getD 5 0,
    words.getD 6 0, words.getD 7 0⟩

/-- The sum of two chaining values, word by word. -/
def add (s t : State width) : State width :=
  ⟨s.a + t.a, s.b + t.b, s.c + t.c, s.d + t.d, s.e + t.e, s.f + t.f, s.g + t.g, s.h + t.h⟩

end State

/-- The sum of three rotations of a word. -/
def rotations (amounts : Nat × Nat × Nat) (x : BitVec width) : BitVec width :=
  x.rotateRight amounts.1 ^^^ x.rotateRight amounts.2.1 ^^^ x.rotateRight amounts.2.2

/-- The sum of two rotations and a shift of a word. -/
def rotationsAndShift (amounts : Nat × Nat × Nat) (x : BitVec width) : BitVec width :=
  x.rotateRight amounts.1 ^^^ x.rotateRight amounts.2.1 ^^^ x >>> amounts.2.2

namespace Variant

/-- The high bits of a constant, as many as a word has. -/
def narrow (v : Variant) (x : BitVec 64) : BitVec v.width := (x >>> (64 - v.width)).setWidth v.width

/-- The words that the rounds of a block take in. -/
def schedule (v : Variant) (block : Array (BitVec v.width)) : Array (BitVec v.width) :=
  (List.range (v.rounds - 16)).foldl (fun words t =>
    words.push (rotationsAndShift v.near (words.getD (t + 14) 0) + words.getD (t + 9) 0 +
      rotationsAndShift v.far (words.getD (t + 1) 0) + words.getD t 0)) block

/-- One round, with its constant and its word of the schedule. -/
def round (v : Variant) (s : State v.width) (input : BitVec v.width × BitVec v.width) :
    State v.width :=
  let choice := (s.e &&& s.f) ^^^ (~~~s.e &&& s.g)
  let majority := (s.a &&& s.b) ^^^ (s.a &&& s.c) ^^^ (s.b &&& s.c)
  let first := s.h + rotations v.lower s.e + choice + input.1 + input.2
  let second := rotations v.upper s.a + majority
  ⟨first + second, s.a, s.b, s.c, s.d + first, s.e, s.f, s.g⟩

/-- The chaining value after one more block. -/
def compress (v : Variant) (constants : List (BitVec v.width)) (s : State v.width)
    (block : Array (BitVec v.width)) : State v.width :=
  s.add ((constants.zip (v.schedule block).toList).foldl v.round s)

/-- The digest of a message. -/
def digest (v : Variant) (message : List UInt8) : List UInt8 :=
  let constants := (cubeRoots.take v.rounds).map v.narrow
  let start := State.ofArray (v.initial.map v.narrow).toArray
  let last := (blocks v.width message).foldl (v.compress constants) start
  (ofWords v.width last.toList).take v.digestSize

end Variant

/-- The member with digests of 32 bytes. -/
def sha256 : Variant where
  width := 32
  rounds := 64
  upper := (2, 13, 22)
  lower := (6, 11, 25)
  far := (7, 18, 3)
  near := (17, 19, 10)
  initial := squareRoots
  digestSize := 32

/-- The member with digests of 64 bytes. -/
def sha512 : Variant where
  width := 64
  rounds := 80
  upper := (28, 34, 39)
  lower := (14, 18, 41)
  far := (1, 8, 7)
  near := (19, 61, 6)
  initial := squareRoots
  digestSize := 64

/-- The member with digests of 48 bytes, cut off those of 64 with a start of its own. -/
def sha384 : Variant := { sha512 with initial := laterSquareRoots, digestSize := 48 }

end DnsHealth.Crypto.Sha2
