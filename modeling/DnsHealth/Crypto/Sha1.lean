import DnsHealth.Crypto.Blocks

/-!
# SHA-1

The hash function of FIPS 180 with a digest of twenty bytes, as a fold of the compression function
over the blocks of the padded message.
-/

namespace DnsHealth.Crypto.Sha1

/-- A word. -/
abbrev Word := BitVec 32

/-- The chaining value. -/
structure State where
  /-- The first word. -/
  a : Word
  /-- The second word. -/
  b : Word
  /-- The third word. -/
  c : Word
  /-- The fourth word. -/
  d : Word
  /-- The fifth word. -/
  e : Word
  deriving DecidableEq, Repr

/-- The chaining value before the first block. -/
def initial : State := ⟨0x67452301, 0xefcdab89, 0x98badcfe, 0x10325476, 0xc3d2e1f0⟩

/-- The words that the rounds of a block take in. -/
def schedule (block : Array Word) : Array Word :=
  (List.range 64).foldl (fun words t =>
    words.push ((words.getD (t + 13) 0 ^^^ words.getD (t + 8) 0 ^^^ words.getD (t + 2) 0 ^^^
      words.getD t 0).rotateLeft 1)) block

/-- The function that mixes the three middle words in a round, with the constant that goes with
it. -/
def mix (t : Nat) (b c d : Word) : Word × Word :=
  if t < 20 then ((b &&& c) ||| (~~~b &&& d), 0x5a827999)
  else if t < 40 then (b ^^^ c ^^^ d, 0x6ed9eba1)
  else if t < 60 then ((b &&& c) ||| (b &&& d) ||| (c &&& d), 0x8f1bbcdc)
  else (b ^^^ c ^^^ d, 0xca62c1d6)

/-- One round. -/
def round (words : Array Word) (s : State) (t : Nat) : State :=
  let (mixed, constant) := mix t s.b s.c s.d
  ⟨s.a.rotateLeft 5 + mixed + s.e + constant + words.getD t 0, s.a, s.b.rotateLeft 30, s.c, s.d⟩

/-- The chaining value after one more block. -/
def compress (s : State) (block : Array Word) : State :=
  let r := (List.range 80).foldl (round (schedule block)) s
  ⟨s.a + r.a, s.b + r.b, s.c + r.c, s.d + r.d, s.e + r.e⟩

/-- The digest of a message. -/
def digest (message : List UInt8) : List UInt8 :=
  let s := (blocks 32 message).foldl compress initial
  ofWords 32 [s.a, s.b, s.c, s.d, s.e]

/-- A digest has twenty bytes. -/
theorem length_digest (message : List UInt8) : (digest message).length = 20 := by
  simp [digest, ofWords]

end DnsHealth.Crypto.Sha1
