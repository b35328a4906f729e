import DnsHealth.Proofs.Address.Text
import DnsHealth.Proofs.Json.Reading
import DnsHealth.Record.Json

/-!
# Records read back from JSON

An address reads back from its text, a type from its mnemonic, and the data of a record from its
content, as the kind that stands beside it says. So every record reads back from its JSON.
-/

namespace DnsHealth

@[simp] theorem Ipv4.ofJson?_toJson (x : Ipv4) : ofJson? x.toJson = some x := x.ofText?_text

@[simp] theorem Ipv6.ofJson?_toJson (x : Ipv6) : ofJson? x.toJson = some x := x.ofText?_text

/-- An address reads back. -/
@[simp] theorem Address.ofJson?_toJson (x : Address) : ofJson? x.toJson = some x := x.ofText?_text

/-- A type of records reads back. -/
@[simp] theorem RecordType.ofJson?_toJson (type : RecordType) : ofJson? type.toJson = some type :=
  ofMnemonic?_mnemonic type

@[simp] theorem RecordType.ofLooseJson?_toJson (type : RecordType) :
    ofLooseJson? type.toJson = some type :=
  ofMnemonic?_mnemonic type

/-- The data of an SOA record reads back. -/
@[simp] theorem Soa.ofJson?_toJson (s : Soa) : ofJson? s.toJson = some s := by
  simp [toJson, ofJson?]

/-- A key reads back. -/
@[simp] theorem Dnskey.ofJson?_toJson (k : Dnskey) : ofJson? k.toJson = some k := by
  simp [toJson, ofJson?]

/-- A delegation signer reads back. -/
@[simp] theorem Ds.ofJson?_toJson (d : Ds) : ofJson? d.toJson = some d := by
  simp [toJson, ofJson?]

/-- A signature reads back if the type that it covers does. -/
theorem Rrsig.ofJsonBy?_toJson {type? : Json → Option RecordType}
    (h : ∀ type : RecordType, type? type.toJson = some type) (s : Rrsig) :
    ofJsonBy? type? s.toJson = some s := by
  simp [toJson, ofJsonBy?, h]

namespace RecordData

/-- The content of data reads back as the kind of the data says. -/
theorem ofContent?_contentJson {type? : Json → Option RecordType}
    (h : ∀ type : RecordType, type? type.toJson = some type) (data : RecordData) :
    ofContent? type? data.kindName data.contentJson = some data := by
  cases data with
  | txt strings =>
    have hstrings := Json.list?_list_self Json.str?_str strings
    simp [ofContent?, kindName, contentJson, hstrings]
  | rrsig signed => simp [ofContent?, kindName, contentJson, Rrsig.ofJsonBy?_toJson h]
  | _ => simp [ofContent?, kindName, contentJson]

/-- The data of a record of any kind reads back. -/
@[simp] theorem ofJson?_toJson (data : RecordData) : ofJson? data.toJson = some data := by
  have hkind : Json.tagged? "type" "data" data.toJson =
      some (data.kindName, some data.contentJson) := by
    simp [toJson, Json.tagged?, Json.tag?]
  have hobject : data.toJson.isObject = true := rfl
  have hcontent := ofContent?_contentJson RecordType.ofLooseJson?_toJson data
  simp only [ofJson?, hkind, hobject, Option.bind_eq_bind, Option.bind_some, if_true, hcontent]

end RecordData

/-- A record reads back. -/
@[simp] theorem Record.ofJson?_toJson (r : Record) : ofJson? r.toJson = some r := by
  simp [toJson, ofJson?]

end DnsHealth
