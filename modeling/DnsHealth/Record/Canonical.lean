import DnsHealth.Record.Data

/-!
# Canonical data

The data of a record in the form that signatures are made over: the wire form with embedded names
uncompressed and in small letters. It fails for a name that has no wire form and for a character
string of more than 255 bytes.
-/

namespace DnsHealth

/-- A character string behind its length byte. -/
def characterString (s : String) : Except Failure (List UInt8) :=
  let bytes := Text.Utf8.encode s.toList
  if 255 < bytes.length then
    .error (.invalidResponse "TXT character-string longer than 255 bytes")
  else .ok (UInt8.ofNat bytes.length :: bytes)

/-- The canonical wire form of record data. -/
def RecordData.canonical : RecordData → Except Failure (List UInt8)
  | a address => .ok address.bytes
  | aaaa address => .ok address.bytes
  | ns host => Name.toWire host
  | cname target => Name.toWire target
  | mx preference exchange => do
    return Bytes.of16 preference ++ (← Name.toWire exchange)
  | soa authority => do
    let mname ← Name.toWire authority.mname
    let rname ← Name.toWire authority.rname
    return mname ++ rname ++ Bytes.of32 authority.serial ++ Bytes.of32 authority.refresh ++
      Bytes.of32 authority.retry ++ Bytes.of32 authority.expire ++ Bytes.of32 authority.minimum
  | txt strings => do
    return (← strings.mapM characterString).flatten
  | srv priority weight port target => do
    return Bytes.of16 priority ++ Bytes.of16 weight ++ Bytes.of16 port ++ (← Name.toWire target)
  | caa flags tag value =>
    let bytes := Text.Utf8.encode tag.toList
    .ok (flags :: UInt8.ofNat bytes.length :: (bytes ++ value))
  | dnskey key => .ok key.rdata
  | ds signer => .ok signer.rdata
  | rrsig signed => do
    return (← signed.signedHead) ++ signed.signature

/-- Reads the data of a CAA record: flags, a tag behind its length byte, and the value. -/
def RecordData.caaOfRdata : List UInt8 → Except Failure RecordData
  | flags :: length :: rest =>
    if rest.length < length.toNat then .error (truncatedRdata "CAA")
    else
      .ok (.caa flags (String.ofList (Text.Utf8.decodeLossy (rest.take length.toNat)))
        (rest.drop length.toNat))
  | _ => .error (truncatedRdata "CAA")

end DnsHealth
