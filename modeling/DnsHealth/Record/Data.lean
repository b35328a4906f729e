import DnsHealth.Address.Text
import DnsHealth.Record.Ds
import DnsHealth.Record.Rrsig
import DnsHealth.Text.Quoted

/-!
# Resource records

The data of the twelve modelled kinds of records, and records with their owner and time to live.
-/

namespace DnsHealth

/-- The data of an SOA record. -/
structure Soa where
  /-- The primary nameserver. -/
  mname : String
  /-- The mailbox of the person in charge. -/
  rname : String
  /-- The version of the zone. -/
  serial : UInt32
  /-- Seconds between checks by the secondaries. -/
  refresh : UInt32
  /-- Seconds before a failed check is tried again. -/
  retry : UInt32
  /-- Seconds after which a zone that was not checked is given up. -/
  expire : UInt32
  /-- The time to live of negative answers. -/
  minimum : UInt32
  deriving DecidableEq, Repr

/-- The data of a record, by its kind. -/
inductive RecordData where
  | a (address : Ipv4)
  | aaaa (address : Ipv6)
  | ns (host : String)
  | cname (target : String)
  | mx (preference : UInt16) (exchange : String)
  | soa (authority : Soa)
  | txt (strings : List String)
  | srv (priority weight port : UInt16) (target : String)
  | caa (flags : UInt8) (tag : String) (value : List UInt8)
  | dnskey (key : Dnskey)
  | ds (signer : Ds)
  | rrsig (signed : Rrsig)
  deriving DecidableEq, Repr

/-- The type that goes with a kind of data. -/
def RecordData.type : RecordData → RecordType
  | a _ => .a
  | aaaa _ => .aaaa
  | ns _ => .ns
  | cname _ => .cname
  | mx .. => .mx
  | soa _ => .soa
  | txt _ => .txt
  | srv .. => .srv
  | caa .. => .caa
  | dnskey _ => .dnskey
  | ds _ => .ds
  | rrsig _ => .rrsig

/-- A resource record. -/
structure Record where
  /-- The owner. -/
  name : String
  /-- The time to live in seconds. -/
  ttl : UInt32
  /-- The data. -/
  data : RecordData
  deriving DecidableEq, Repr

namespace Record

/-- The type of a record. -/
def type (r : Record) : RecordType := r.data.type

/-- The address that an address record gives. -/
def address? (r : Record) : Option Address :=
  match r.data with
  | .a x => some (.v4 x)
  | .aaaa x => some (.v6 x)
  | _ => none

/-- The key of a DNSKEY record. -/
def dnskey? (r : Record) : Option Dnskey :=
  match r.data with
  | .dnskey key => some key
  | _ => none

/-- The delegation signer of a DS record. -/
def ds? (r : Record) : Option Ds :=
  match r.data with
  | .ds signer => some signer
  | _ => none

/-- The signature of an RRSIG record. -/
def rrsig? (r : Record) : Option Rrsig :=
  match r.data with
  | .rrsig signed => some signed
  | _ => none

/-- The data of an SOA record. -/
def soa? (r : Record) : Option Soa :=
  match r.data with
  | .soa authority => some authority
  | _ => none

/-- The nameserver of an NS record. -/
def ns? (r : Record) : Option String :=
  match r.data with
  | .ns host => some host
  | _ => none

/-- The records of the given types, in their order. -/
def ofTypes (types : List RecordType) (records : List Record) : List Record :=
  records.filter fun r => types.contains r.type

end Record

end DnsHealth
