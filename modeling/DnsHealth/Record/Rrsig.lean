import DnsHealth.Name.Wire
import DnsHealth.Record.Dnskey
import DnsHealth.Record.Type

/-!
# Signatures

The data of RRSIG records. All but the signature itself is part of what is signed: `signedHead` is
that part of the wire form, eighteen bytes and the name of the signer. Reading takes the signature
to be exactly what follows the name, and gives nothing for signatures over types that the library
does not model.
-/

namespace DnsHealth

open Text (Decimal.ofNat)

/-- The data of an RRSIG record. -/
structure Rrsig where
  /-- The type of the signed records. -/
  typeCovered : RecordType
  /-- The signature algorithm. -/
  algorithm : UInt8
  /-- The number of labels of the owner as it was signed. -/
  labels : UInt8
  /-- The time to live as it was signed. -/
  originalTtl : UInt32
  /-- The last second of validity, as a serial number. -/
  expiration : UInt32
  /-- The first second of validity, as a serial number. -/
  inception : UInt32
  /-- The tag of the signing key. -/
  keyTag : UInt16
  /-- The zone that signed. -/
  signerName : String
  /-- The signature. -/
  signature : List UInt8
  deriving DecidableEq, Repr

namespace Rrsig

/-- The fields of the wire form before the name of the signer. -/
def fixedFields (s : Rrsig) : List UInt8 :=
  Bytes.of16 s.typeCovered.code ++ [s.algorithm, s.labels] ++ Bytes.of32 s.originalTtl ++
    Bytes.of32 s.expiration ++ Bytes.of32 s.inception ++ Bytes.of16 s.keyTag

/-- The wire form without the signature. -/
def signedHead (s : Rrsig) : Except Failure (List UInt8) := do
  let signer ← Name.toWire s.signerName
  return s.fixedFields ++ signer

/-- Reads a signature from its wire form. -/
def ofRdata (rdata : List UInt8) : Except Failure (Option Rrsig) :=
  match rdata with
  | t :: u :: algorithm :: labels :: o1 :: o2 :: o3 :: o4 :: e1 :: e2 :: e3 :: e4 ::
      i1 :: i2 :: i3 :: i4 :: k :: l :: b :: rest =>
    match RecordType.ofCode? (Bytes.to16 t u) with
    | none => .ok none
    | some typeCovered => do
      let (signerName, signature) ← Name.read (b :: rest)
      return some {
        typeCovered, algorithm, labels
        originalTtl := Bytes.to32 o1 o2 o3 o4
        expiration := Bytes.to32 e1 e2 e3 e4
        inception := Bytes.to32 i1 i2 i3 i4
        keyTag := Bytes.to16 k l
        signerName, signature }
  | _ => .error (truncatedRdata "RRSIG")

/-- The presentation form of a signature. -/
def text (s : Rrsig) : String :=
  s.typeCovered.mnemonic ++ " " ++ Decimal.ofNat s.algorithm.toNat ++ " " ++
    Decimal.ofNat s.labels.toNat ++ " " ++ Decimal.ofNat s.originalTtl.toNat ++ " " ++
    Decimal.ofNat s.expiration.toNat ++ " " ++ Decimal.ofNat s.inception.toNat ++ " " ++
    Decimal.ofNat s.keyTag.toNat ++ " " ++ s.signerName ++ " " ++
    String.ofList (Text.Base64.encode s.signature)

/-- A signature as JSON. -/
def toJson (s : Rrsig) : Json :=
  .obj [("type_covered", s.typeCovered.toJson), ("algorithm", .nat s.algorithm.toNat),
    ("labels", .nat s.labels.toNat), ("original_ttl", .nat s.originalTtl.toNat),
    ("expiration", .nat s.expiration.toNat), ("inception", .nat s.inception.toNat),
    ("key_tag", .nat s.keyTag.toNat), ("signer_name", .str s.signerName),
    ("signature", .bytes s.signature)]

/-- Reads a signature from JSON, its covered type as the caller says. -/
def ofJsonBy? (type? : Json → Option RecordType) (j : Json) : Option Rrsig := do
  let fs ← j.fields? ["type_covered", "algorithm", "labels", "original_ttl", "expiration",
    "inception", "key_tag", "signer_name", "signature"]
  return {
    typeCovered := ← fs.required "type_covered" type?
    algorithm := ← fs.required "algorithm" Json.uint8?
    labels := ← fs.required "labels" Json.uint8?
    originalTtl := ← fs.required "original_ttl" Json.uint32?
    expiration := ← fs.required "expiration" Json.uint32?
    inception := ← fs.required "inception" Json.uint32?
    keyTag := ← fs.required "key_tag" Json.uint16?
    signerName := ← fs.required "signer_name" Json.str?
    signature := ← fs.required "signature" Json.bytes? }

/-- Reads a signature from JSON. -/
def ofJson? (j : Json) : Option Rrsig := ofJsonBy? RecordType.ofJson? j

end Rrsig

end DnsHealth
