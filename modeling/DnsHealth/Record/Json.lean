import DnsHealth.Record.Data

/-!
# Records as JSON

The kind of a record's data stands beside the data itself, under `type` and `data`. Reading gives
back every record that was written. Data that has no name of its own, as that of MX, SRV and CAA
records, is read from objects alone, and where kind and data are members of an object, the type that
a signature covers may be the key of an object without members.
-/

namespace DnsHealth

/-- An IPv4 address as JSON. -/
def Ipv4.toJson (x : Ipv4) : Json := .str x.text

/-- Reads an IPv4 address from JSON. -/
def Ipv4.ofJson? (j : Json) : Option Ipv4 := j.str? >>= Ipv4.ofText?

/-- An IPv6 address as JSON. -/
def Ipv6.toJson (x : Ipv6) : Json := .str x.text

/-- Reads an IPv6 address from JSON. -/
def Ipv6.ofJson? (j : Json) : Option Ipv6 := j.str? >>= Ipv6.ofText?

/-- An address as JSON. -/
def Address.toJson (x : Address) : Json := .str x.text

/-- Reads an address from JSON. -/
def Address.ofJson? (j : Json) : Option Address := j.str? >>= Address.ofText?

namespace Soa

/-- SOA data as JSON. -/
def toJson (s : Soa) : Json :=
  .obj [("mname", .str s.mname), ("rname", .str s.rname), ("serial", .nat s.serial.toNat),
    ("refresh", .nat s.refresh.toNat), ("retry", .nat s.retry.toNat),
    ("expire", .nat s.expire.toNat), ("minimum", .nat s.minimum.toNat)]

/-- Reads SOA data from JSON. -/
def ofJson? (j : Json) : Option Soa := do
  let fs ← j.fields? ["mname", "rname", "serial", "refresh", "retry", "expire", "minimum"]
  return {
    mname := ← fs.required "mname" Json.str?
    rname := ← fs.required "rname" Json.str?
    serial := ← fs.required "serial" Json.uint32?
    refresh := ← fs.required "refresh" Json.uint32?
    retry := ← fs.required "retry" Json.uint32?
    expire := ← fs.required "expire" Json.uint32?
    minimum := ← fs.required "minimum" Json.uint32? }

end Soa

namespace RecordData

/-- The name of a kind of data in JSON. -/
def kindName : RecordData → String
  | a _ => "A"
  | aaaa _ => "Aaaa"
  | ns _ => "Ns"
  | cname _ => "Cname"
  | mx .. => "Mx"
  | soa _ => "Soa"
  | txt _ => "Txt"
  | srv .. => "Srv"
  | caa .. => "Caa"
  | dnskey _ => "Dnskey"
  | ds _ => "Ds"
  | rrsig _ => "Rrsig"

/-- The data beside its kind. -/
def contentJson : RecordData → Json
  | a address => address.toJson
  | aaaa address => address.toJson
  | ns host => .str host
  | cname target => .str target
  | mx preference exchange =>
    .obj [("preference", .nat preference.toNat), ("exchange", .str exchange)]
  | soa authority => authority.toJson
  | txt strings => .list .str strings
  | srv priority weight port target =>
    .obj [("priority", .nat priority.toNat), ("weight", .nat weight.toNat),
      ("port", .nat port.toNat), ("target", .str target)]
  | caa flags tag value =>
    .obj [("flags", .nat flags.toNat), ("tag", .str tag), ("value", .bytes value)]
  | dnskey key => key.toJson
  | ds signer => signer.toJson
  | rrsig signed => signed.toJson

/-- Record data as JSON. -/
def toJson (d : RecordData) : Json :=
  .obj [("type", .str d.kindName), ("data", d.contentJson)]

/-- Reads the data of a given kind from JSON, types inside it as the caller says. -/
def ofContent? (type? : Json → Option RecordType) (kind : String) (j : Json) :
    Option RecordData :=
  match kind with
  | "A" => (Ipv4.ofJson? j).map a
  | "Aaaa" => (Ipv6.ofJson? j).map aaaa
  | "Ns" => j.str?.map ns
  | "Cname" => j.str?.map cname
  | "Mx" => do
    let fs ← j.members? ["preference", "exchange"]
    return mx (← fs.required "preference" Json.uint16?) (← fs.required "exchange" Json.str?)
  | "Soa" => (Soa.ofJson? j).map soa
  | "Txt" => (j.list? Json.str?).map txt
  | "Srv" => do
    let fs ← j.members? ["priority", "weight", "port", "target"]
    return srv (← fs.required "priority" Json.uint16?) (← fs.required "weight" Json.uint16?)
      (← fs.required "port" Json.uint16?) (← fs.required "target" Json.str?)
  | "Caa" => do
    let fs ← j.members? ["flags", "tag", "value"]
    return caa (← fs.required "flags" Json.uint8?) (← fs.required "tag" Json.str?)
      (← fs.required "value" Json.bytes?)
  | "Dnskey" => (Dnskey.ofJson? j).map dnskey
  | "Ds" => (Ds.ofJson? j).map ds
  | "Rrsig" => (Rrsig.ofJsonBy? type? j).map rrsig
  | _ => none

/-- Reads record data from JSON. -/
def ofJson? (j : Json) : Option RecordData := do
  let (kind, content) ← j.tagged? "type" "data"
  let type? := if j.isObject then RecordType.ofLooseJson? else RecordType.ofJson?
  ofContent? type? kind (← content)

end RecordData

namespace Record

/-- A record as JSON. -/
def toJson (r : Record) : Json :=
  .obj [("name", .str r.name), ("ttl", .nat r.ttl.toNat), ("data", r.data.toJson)]

/-- Reads a record from JSON. -/
def ofJson? (j : Json) : Option Record := do
  let fs ← j.fields? ["name", "ttl", "data"]
  return {
    name := ← fs.required "name" Json.str?
    ttl := ← fs.required "ttl" Json.uint32?
    data := ← fs.required "data" RecordData.ofJson? }

end Record

end DnsHealth
