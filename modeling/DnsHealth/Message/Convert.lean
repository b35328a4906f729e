import DnsHealth.Message.Decode
import DnsHealth.Record.Canonical

/-!
# Records out of messages

A record of a message as a record of the library. Names take their presentation form, and character
strings are read as UTF-8. Types that the library does not model and records without data give
nothing; data that cannot be read as its type demands is a failure, and in a section it costs only
the record itself.
-/

namespace DnsHealth.Message

/-- The failure of data that does not go with its type. -/
def unexpectedRdata (type : RecordType) : Failure :=
  .invalidResponse ("unexpected RDATA for " ++ type.mnemonic ++ " record")

/-- The bytes of the data of a signature, with the name of the signer in small letters. -/
def signatureBytes (head : List UInt8) (signer : LabelName) (signature : List UInt8) :
    Except Failure (List UInt8) :=
  match signer.lower.toWire? with
  | some wire => .ok (head ++ wire ++ signature)
  | none => .error (.invalidResponse "failed to encode RDATA")

/-- Reads data that is kept as bytes, by its type. -/
def recordDataOfBytes (type : RecordType) (bytes : List UInt8) :
    Except Failure (Option RecordData) :=
  match type with
  | .dnskey => return some (.dnskey (← Dnskey.ofRdata bytes))
  | .ds => return some (.ds (← Ds.ofRdata bytes))
  | .rrsig => return (← Rrsig.ofRdata bytes).map .rrsig
  | .caa => return some (← RecordData.caaOfRdata bytes)
  | _ => .error (unexpectedRdata type)

/-- The data of a record of a modelled type. -/
def WireData.convert (type : RecordType) : WireData → Except Failure (Option RecordData)
  | a address => .ok (some (.a address))
  | aaaa address => .ok (some (.aaaa address))
  | ns host => .ok (some (.ns host.text))
  | cname target => .ok (some (.cname target.text))
  | mx preference exchange => .ok (some (.mx preference exchange.text))
  | soa mname rname serial refresh retry expire minimum =>
    .ok (some (.soa ⟨mname.text, rname.text, serial, refresh, retry, expire, minimum⟩))
  | txt strings =>
    .ok (some (.txt (strings.map fun s => String.ofList (Text.Utf8.decodeLossy s))))
  | srv priority weight port target => .ok (some (.srv priority weight port target.text))
  | rrsig head signer signature => do
    recordDataOfBytes type (← signatureBytes head signer signature)
  | bytes data => recordDataOfBytes type data

/-- The record that a record of a message stands for, if the library models it. -/
def WireRecord.convert (r : WireRecord) : Except Failure (Option Record) :=
  match RecordType.ofCode? r.code, r.data with
  | some type, some wire => do
    return (← wire.convert type).map fun data => ⟨r.name.text, r.ttl, data⟩
  | _, _ => .ok none

/-- The record that a record of a message stands for, if it can be read. -/
def WireRecord.convert? (r : WireRecord) : Option Record :=
  match r.convert with
  | .ok (some record) => some record
  | _ => none

/-- The records of a section that can be read. -/
def convertSection (records : List WireRecord) : List Record := records.filterMap (·.convert?)

end DnsHealth.Message
