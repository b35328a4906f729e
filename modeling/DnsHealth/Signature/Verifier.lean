import DnsHealth.Crypto.Ecdsa
import DnsHealth.Crypto.Ed25519
import DnsHealth.Crypto.Rsa
import DnsHealth.Signature.SignedData

/-!
# Verifiers

What checks single signatures and makes digests of keys. The standard one knows the algorithms 5, 7,
8, 10, 13, 14 and 15 and the digest types 1, 2 and 4; it does not accept a signature that names
another key, and data that cannot be put into signed form or a malformed key is a failure.
-/

namespace DnsHealth

/-- The two checks that the validation of a chain rests on. -/
structure Verifier where
  /-- Tells whether a signature over some records of an owner is good under a key. -/
  accepts : Rrsig → Dnskey → String → List Record → Except Failure Bool
  /-- The digest of a key of an owner, of a given digest type. -/
  digest : Dnskey → String → UInt8 → Except Failure (List UInt8)

/-- Checks an RSA signature. -/
def checkRsa (hash : Crypto.Rsa.Hash) (key : Dnskey) (data signature : List UInt8) :
    Except Failure Bool := do
  let publicKey ← Crypto.Rsa.PublicKey.ofBytes key.publicKey
  return Crypto.Rsa.verify hash publicKey data signature

/-- Checks an ECDSA signature. -/
def checkEcdsa (curve : Crypto.Ecdsa.Curve) (key : Dnskey) (data signature : List UInt8) :
    Except Failure Bool :=
  if key.publicKey.length ≠ 2 * curve.size then
    .error (.invalidResponse ("Invalid ECDSA public key length " ++
      Text.Decimal.ofNat key.publicKey.length ++ " for algorithm " ++
      Text.Decimal.ofNat key.algorithm.toNat))
  else if signature.length ≠ 2 * curve.size then .ok false
  else .ok (Crypto.Ecdsa.verify curve key.publicKey data signature)

/-- Checks an Ed25519 signature. -/
def checkEd25519 (key : Dnskey) (data signature : List UInt8) : Except Failure Bool :=
  if key.publicKey.length ≠ 32 then
    .error (.invalidResponse "Invalid Ed25519 public key length")
  else if signature.length ≠ 64 then .ok false
  else .ok (Crypto.Ed25519.verify key.publicKey data signature)

/-- Checks a signature over bytes by its algorithm. -/
def checkSignedData (s : Rrsig) (key : Dnskey) (data : List UInt8) : Except Failure Bool :=
  match s.algorithm.toNat with
  | 5 | 7 => checkRsa .sha1 key data s.signature
  | 8 => checkRsa .sha256 key data s.signature
  | 10 => checkRsa .sha512 key data s.signature
  | 13 => checkEcdsa Crypto.Ecdsa.p256 key data s.signature
  | 14 => checkEcdsa Crypto.Ecdsa.p384 key data s.signature
  | 15 => checkEd25519 key data s.signature
  | _ => .error (.unsupportedAlgorithm s.algorithm)

/-- The hash function of a digest type. -/
def digestFunction? (digestType : UInt8) : Option (List UInt8 → List UInt8) :=
  match digestType.toNat with
  | 1 => some Crypto.Sha1.digest
  | 2 => some Crypto.Sha2.sha256.digest
  | 4 => some Crypto.Sha2.sha384.digest
  | _ => none

/-- What the digest of a key of an owner is made of. -/
def digestInput (key : Dnskey) (owner : String) : Except Failure (List UInt8) := do
  return (← Name.toWire owner) ++ key.rdata

namespace Verifier

/-- The verifier for signatures and digests as they are in use. -/
def standard : Verifier where
  accepts s key owner records :=
    if key.keyTag ≠ s.keyTag ∨ key.algorithm ≠ s.algorithm then .ok false
    else do
      let data ← signedData s owner records
      checkSignedData s key data
  digest key owner digestType := do
    let input ← digestInput key owner
    match digestFunction? digestType with
    | some hash => return hash input
    | none => .error (.unsupportedDigestType digestType)

end Verifier

end DnsHealth
