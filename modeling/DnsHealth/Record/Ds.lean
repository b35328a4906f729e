import DnsHealth.Record.Dnskey
import DnsHealth.Text.Hex

/-!
# Delegation signers

The data of DS records: the tag and the algorithm of a key of the child zone, and a digest of that
key. The wire form is the four leading bytes and then the digest, and exactly the byte strings of at
least four bytes are wire forms.
-/

namespace DnsHealth

open Text (Decimal.ofNat)

/-- The name of a digest type. -/
def digestTypeName (digestType : UInt8) : String :=
  match digestType.toNat with
  | 1 => "SHA-1"
  | 2 => "SHA-256"
  | 3 => "GOST R 34.11-94"
  | 4 => "SHA-384"
  | _ => "Unknown"

/-- The data of a DS record. -/
structure Ds where
  /-- The tag of the key. -/
  keyTag : UInt16
  /-- The algorithm of the key. -/
  algorithm : UInt8
  /-- How the digest was made. -/
  digestType : UInt8
  /-- The digest of the key. -/
  digest : List UInt8
  deriving DecidableEq, Repr

namespace Ds

/-- The wire form of a delegation signer. -/
def rdata (d : Ds) : List UInt8 :=
  Bytes.of16 d.keyTag ++ d.algorithm :: d.digestType :: d.digest

/-- Reads a delegation signer from its wire form. -/
def ofRdata : List UInt8 → Except Failure Ds
  | t :: u :: algorithm :: digestType :: digest =>
    .ok ⟨Bytes.to16 t u, algorithm, digestType, digest⟩
  | _ => .error (truncatedRdata "DS")

/-- The digest in capital hexadecimal digits. -/
def digestHex (d : Ds) : String := String.ofList (Text.Hex.upper d.digest)

/-- The presentation form of a delegation signer. -/
def text (d : Ds) : String :=
  Decimal.ofNat d.keyTag.toNat ++ " " ++ Decimal.ofNat d.algorithm.toNat ++ " " ++
    Decimal.ofNat d.digestType.toNat ++ " " ++ d.digestHex

/-- A delegation signer as JSON. -/
def toJson (d : Ds) : Json :=
  .obj [("key_tag", .nat d.keyTag.toNat), ("algorithm", .nat d.algorithm.toNat),
    ("digest_type", .nat d.digestType.toNat), ("digest", .bytes d.digest)]

/-- Reads a delegation signer from JSON. -/
def ofJson? (j : Json) : Option Ds := do
  let fs ← j.fields? ["key_tag", "algorithm", "digest_type", "digest"]
  return {
    keyTag := ← fs.required "key_tag" Json.uint16?
    algorithm := ← fs.required "algorithm" Json.uint8?
    digestType := ← fs.required "digest_type" Json.uint8?
    digest := ← fs.required "digest" Json.bytes? }

end Ds

end DnsHealth
