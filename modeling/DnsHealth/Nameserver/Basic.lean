import DnsHealth.Record.Json
import DnsHealth.Signature.Window
import DnsHealth.Time.Duration

/-!
# Nameservers

The nameservers of a domain with their addresses, and what an address of one answered for the
domain. An address stands only once in the list of its nameserver, at its first place, and so it
does in the list of all addresses.
-/

namespace DnsHealth

/-- A nameserver and its addresses. -/
structure Nameserver where
  /-- The host name. -/
  name : String
  /-- The addresses, in the order in which they were found. -/
  addresses : List Address
  deriving DecidableEq, Repr

namespace Nameserver

/-- A nameserver with the addresses that were found for it, later repetitions left out. -/
def ofAddresses (name : String) (found : List Address) : Nameserver := ⟨name, found.eraseDups⟩

/-- Every address that some nameserver of a list has, at its first place. -/
def allAddresses (nameservers : List Nameserver) : List Address :=
  (nameservers.flatMap (·.addresses)).eraseDups

/-- A nameserver as JSON. -/
def toJson (n : Nameserver) : Json :=
  .obj [("name", .str n.name), ("addresses", .list Address.toJson n.addresses)]

/-- Reads a nameserver from JSON. -/
def ofJson? (j : Json) : Option Nameserver := do
  let fs ← j.fields? ["name", "addresses"]
  return {
    name := ← fs.required "name" Json.str?
    addresses := ← fs.required "addresses" (Json.list? Address.ofJson?) }

end Nameserver

/-- What became of the signatures over the nameservers of a domain at one address. -/
structure SignatureStatus where
  /-- The address has keys of the domain. -/
  signed : Bool
  /-- A signature is good and current. -/
  valid : Bool
  /-- The window of the signature that decided. -/
  window : Option ValidityWindow
  deriving DecidableEq, Repr

namespace SignatureStatus

/-- No sign of a signature. -/
def unsigned : SignatureStatus := ⟨false, false, none⟩

/-- The state of the signatures as JSON. -/
def toJson (s : SignatureStatus) : Json :=
  .obj [("signed", .bool s.signed), ("valid", .bool s.valid),
    ("window", .option ValidityWindow.toJson s.window)]

/-- Reads the state of the signatures from JSON. -/
def ofJson? (j : Json) : Option SignatureStatus := do
  let fs ← j.fields? ["signed", "valid", "window"]
  return {
    signed := ← fs.required "signed" Json.bool?
    valid := ← fs.required "valid" Json.bool?
    window := ← fs.optional "window" ValidityWindow.ofJson? }

end SignatureStatus

/-- What one address of one nameserver answered for a domain. -/
structure NameserverStatus where
  /-- The host name of the nameserver. -/
  name : String
  /-- The address. -/
  address : Address
  /-- How long the answer took. -/
  rtt : Option Duration
  /-- The version of the zone. -/
  serial : Option UInt32
  /-- The answer was given with authority. -/
  authoritative : Bool
  /-- The server offers recursion. -/
  recursionAvailable : Bool
  /-- The state of the signatures. -/
  signatures : SignatureStatus
  /-- Why there was no answer. -/
  error : Option String
  deriving DecidableEq, Repr

namespace NameserverStatus

/-- An address that gave no answer. -/
def unreachable (name : String) (address : Address) (error : String) : NameserverStatus :=
  { name, address
    rtt := none
    serial := none
    authoritative := false
    recursionAvailable := false
    signatures := .unsigned
    error := some error }

/-- The address answered, but not with authority. -/
def isLame (s : NameserverStatus) : Bool := s.error.isNone && !s.authoritative

/-- A status as JSON. -/
def toJson (s : NameserverStatus) : Json :=
  .obj [("name", .str s.name), ("address", s.address.toJson),
    ("rtt_ms", .option Duration.toJson s.rtt),
    ("serial", .option (fun n => .nat n.toNat) s.serial),
    ("authoritative", .bool s.authoritative),
    ("recursion_available", .bool s.recursionAvailable), ("dnssec", s.signatures.toJson),
    ("error", .option .str s.error)]

/-- Reads a status from JSON. -/
def ofJson? (j : Json) : Option NameserverStatus := do
  let fs ← j.fields? ["name", "address", "rtt_ms", "serial", "authoritative",
    "recursion_available", "dnssec", "error"]
  return {
    name := ← fs.required "name" Json.str?
    address := ← fs.required "address" Address.ofJson?
    rtt := ← fs.required "rtt_ms" (Json.nullable Duration.ofJson?)
    serial := ← fs.optional "serial" Json.uint32?
    authoritative := ← fs.required "authoritative" Json.bool?
    recursionAvailable := ← fs.required "recursion_available" Json.bool?
    signatures := ← fs.required "dnssec" SignatureStatus.ofJson?
    error := ← fs.optional "error" Json.str? }

end NameserverStatus

end DnsHealth
