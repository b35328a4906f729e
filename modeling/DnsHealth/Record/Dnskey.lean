import DnsHealth.Bytes
import DnsHealth.Failure
import DnsHealth.Json.Decode
import DnsHealth.Text.Base64

/-!
# Zone keys

The data of DNSKEY records: flags, protocol, algorithm and public key. The wire form is the four
leading bytes and then the key, and exactly the byte strings of at least four bytes are wire forms.
The key tag is the checksum of RFC 4034, Appendix B, over the wire form.
-/

namespace DnsHealth

open Text (Decimal.ofNat)

/-- The name of a signature algorithm. -/
def algorithmName (algorithm : UInt8) : String :=
  match algorithm.toNat with
  | 5 => "RSA/SHA-1"
  | 7 => "RSASHA1-NSEC3-SHA1"
  | 8 => "RSA/SHA-256"
  | 10 => "RSA/SHA-512"
  | 12 => "GOST R 34.10-2001"
  | 13 => "ECDSA P-256/SHA-256"
  | 14 => "ECDSA P-384/SHA-384"
  | 15 => "Ed25519"
  | 16 => "Ed448"
  | _ => "Unknown"

/-- The failure of a reader that came to the end of a record's data too soon. -/
def truncatedRdata (what : String) : Failure := .invalidResponse (what ++ " RDATA truncated")

/-- The data of a DNSKEY record. -/
structure Dnskey where
  /-- The flag bits. -/
  flags : UInt16
  /-- The protocol number, which is 3 for the security extensions. -/
  protocol : UInt8
  /-- The signature algorithm. -/
  algorithm : UInt8
  /-- The key material. -/
  publicKey : List UInt8
  deriving DecidableEq, Repr

namespace Dnskey

/-- The secure entry point flag is set. -/
def isKsk (k : Dnskey) : Bool := k.flags &&& 0x0001 != 0

/-- The zone key flag is set. -/
def isZoneKey (k : Dnskey) : Bool := k.flags &&& 0x0100 != 0

/-- The wire form of a key. -/
def rdata (k : Dnskey) : List UInt8 :=
  Bytes.of16 k.flags ++ k.protocol :: k.algorithm :: k.publicKey

/-- Reads a key from its wire form. -/
def ofRdata : List UInt8 → Except Failure Dnskey
  | f :: g :: protocol :: algorithm :: publicKey =>
    .ok ⟨Bytes.to16 f g, protocol, algorithm, publicKey⟩
  | _ => .error (truncatedRdata "DNSKEY")

/-- The sum of the big-endian words of sixteen bits of a byte string, an odd byte at the end counted
as the high half of a word. -/
def wordSum : List UInt8 → UInt32
  | a :: b :: rest => (Bytes.to16 a b).toUInt32 + wordSum rest
  | [a] => a.toUInt32 <<< 8
  | [] => 0

/-- The key tag: the sum of the words of the wire form, with its carry added once. -/
def keyTag (k : Dnskey) : UInt16 :=
  let sum := wordSum k.rdata
  (sum + (sum >>> 16)).toUInt16

/-- The presentation form of a key. -/
def text (k : Dnskey) : String :=
  Decimal.ofNat k.flags.toNat ++ " " ++ Decimal.ofNat k.protocol.toNat ++ " " ++
    Decimal.ofNat k.algorithm.toNat ++ " " ++ String.ofList (Text.Base64.encode k.publicKey)

/-- A key as JSON. -/
def toJson (k : Dnskey) : Json :=
  .obj [("flags", .nat k.flags.toNat), ("protocol", .nat k.protocol.toNat),
    ("algorithm", .nat k.algorithm.toNat), ("public_key", .bytes k.publicKey)]

/-- Reads a key from JSON. -/
def ofJson? (j : Json) : Option Dnskey := do
  let fs ← j.fields? ["flags", "protocol", "algorithm", "public_key"]
  return {
    flags := ← fs.required "flags" Json.uint16?
    protocol := ← fs.required "protocol" Json.uint8?
    algorithm := ← fs.required "algorithm" Json.uint8?
    publicKey := ← fs.required "public_key" Json.bytes? }

end Dnskey

end DnsHealth
