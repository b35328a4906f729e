import DnsHealth.Crypto.Power
import DnsHealth.Crypto.Sha1
import DnsHealth.Crypto.Sha2
import DnsHealth.Failure

/-!
# RSA signatures

The public keys of RFC 3110, an exponent behind its length and then the modulus, and the check of
signatures of PKCS #1, version 1.5. The length of an exponent takes one byte, or three of which the
first is zero; reading loses no byte of the key and leaves a modulus that is not empty.
-/

namespace DnsHealth.Crypto.Rsa

/-- A public key by the bytes of its two numbers. -/
structure PublicKey where
  /-- The bytes of the exponent. -/
  exponent : List UInt8
  /-- The bytes of the modulus. -/
  modulus : List UInt8
  deriving DecidableEq, Repr

/-- Splits the bytes behind the length of the exponent. -/
def splitAt (size : Nat) (bytes : List UInt8) : Except Failure PublicKey :=
  if bytes.length < size then
    .error (.invalidResponse "RSA exponent extends beyond key data")
  else if bytes.length = size then .error (.invalidResponse "RSA modulus is empty")
  else .ok ⟨bytes.take size, bytes.drop size⟩

/-- Reads a public key. -/
def PublicKey.ofBytes : List UInt8 → Except Failure PublicKey
  | [] => .error (.invalidResponse "Empty RSA public key")
  | first :: rest =>
    if first = 0 then
      match rest with
      | high :: low :: rest => splitAt (Bytes.to16 high low).toNat rest
      | _ => .error (.invalidResponse "RSA key too short for long form")
    else splitAt first.toNat rest

/-- The bytes of a public key, with the shorter form of the length where it is possible. -/
def PublicKey.toBytes (key : PublicKey) : List UInt8 :=
  let size := key.exponent.length
  if 0 < size ∧ size < 256 then UInt8.ofNat size :: (key.exponent ++ key.modulus)
  else 0 :: (Bytes.of16 (UInt16.ofNat size) ++ key.exponent ++ key.modulus)

/-- A hash function as PKCS #1 names it. -/
structure Hash where
  /-- The encoded name and length that stand before the digest. -/
  header : List UInt8
  /-- The hash function. -/
  digest : List UInt8 → List UInt8

/-- SHA-1 for signatures. -/
def Hash.sha1 : Hash where
  header := [0x30, 0x21, 0x30, 0x09, 0x06, 0x05, 0x2b, 0x0e, 0x03, 0x02, 0x1a, 0x05, 0x00, 0x04,
    0x14]
  digest := Sha1.digest

/-- SHA-256 for signatures. -/
def Hash.sha256 : Hash where
  header := [0x30, 0x31, 0x30, 0x0d, 0x06, 0x09, 0x60, 0x86, 0x48, 0x01, 0x65, 0x03, 0x04, 0x02,
    0x01, 0x05, 0x00, 0x04, 0x20]
  digest := Sha2.sha256.digest

/-- SHA-512 for signatures. -/
def Hash.sha512 : Hash where
  header := [0x30, 0x51, 0x30, 0x0d, 0x06, 0x09, 0x60, 0x86, 0x48, 0x01, 0x65, 0x03, 0x04, 0x02,
    0x03, 0x05, 0x00, 0x04, 0x40]
  digest := Sha2.sha512.digest

/-- The bytes that a signature of a given length has to open to. -/
def Hash.encoded (hash : Hash) (size : Nat) (message : List UInt8) : List UInt8 :=
  let tail := hash.header ++ hash.digest message
  [0x00, 0x01] ++ List.replicate (size - tail.length - 3) 0xff ++ 0x00 :: tail

/-- An odd number without a leading zero byte. -/
def plainOdd (bytes : List UInt8) : Bool :=
  bytes.head? != some 0 && Bytes.toNat bytes % 2 == 1

/-- The keys that are taken: a modulus of 1024 to 8192 bits and an exponent from 3 up to 33 bits,
both odd and without leading zeros. -/
def PublicKey.isAcceptable (key : PublicKey) : Bool :=
  plainOdd key.modulus && decide (128 ≤ key.modulus.length ∧ key.modulus.length ≤ 1024) &&
    plainOdd key.exponent && decide (3 ≤ Bytes.toNat key.exponent) &&
    decide (Bytes.toNat key.exponent < 8589934592)

/-- Tells whether a signature over a message is good under a key. -/
def verify (hash : Hash) (key : PublicKey) (message signature : List UInt8) : Bool :=
  let modulus := Bytes.toNat key.modulus
  let value := Bytes.toNat signature
  key.isAcceptable && signature.length == key.modulus.length && decide (value < modulus) &&
    Bytes.ofNat signature.length (powMod value (Bytes.toNat key.exponent) modulus) ==
      hash.encoded signature.length message

end DnsHealth.Crypto.Rsa
