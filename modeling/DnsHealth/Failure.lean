import DnsHealth.Text.Decimal

/-!
# Failures

Everything that can go wrong between a question and a verdict, one constructor for each cause, with
the wording in one function. A failure may name the zone whose validation it ended; `inZone` gives
that name to a failure that has none and changes no other. Whether a failure means that a name has
no data, or that a server could not be reached, is read off the cause, also through one layer of
zone.
-/

namespace DnsHealth

open Text (Decimal.ofNat)

/-- Why an operation did not give its result. -/
inductive Failure where
  /-- A name cannot be put on the wire. -/
  | invalidName (detail : String)
  /-- Data from a server, or data to be sent or checked, breaks a format. -/
  | invalidResponse (detail : String)
  /-- No answer came in time. -/
  | timeout (server : String)
  /-- The server refused the connection. -/
  | connectionRefused (server : String)
  /-- The network failed in another way. -/
  | transport (server reason : String)
  /-- The server answered with an error code. -/
  | protocolError (rcode name recordType server : String)
  /-- The server answered without any record. -/
  | noData (name recordType server : String)
  /-- A domain has no nameserver to ask. -/
  | noNameservers (domain : String)
  /-- A zone's server returned no key. -/
  | noDnskey (zone server : String)
  /-- Two different keys of a zone share a key tag. -/
  | keyTagCollision (zone : String) (keyTag : UInt16)
  /-- No key of a zone's server signs its key set. -/
  | dnskeySignatureInvalid (zone server : String)
  /-- A parent's server returned no delegation signer for a zone. -/
  | noDsRecords (zone server : String)
  /-- A delegation signer's digest is not that of the key with its tag. -/
  | digestMismatch (zone : String) (keyTag : UInt16)
  /-- No delegation signer of the parent matches a key of the zone. -/
  | noMatchingDnskey (zone parent : String)
  /-- A signature algorithm is not supported. -/
  | unsupportedAlgorithm (code : UInt8)
  /-- A digest type is not supported. -/
  | unsupportedDigestType (code : UInt8)
  /-- A zone's validation ended with a failure that names no zone itself. -/
  | zoneQueryFailed (zone : String) (source : Failure)
  /-- A scan ended with responses missing. -/
  | scanAborted (expected received : Nat)
  deriving DecidableEq, Repr

namespace Failure

/-- The wording of a failure. -/
def message : Failure → String
  | invalidName detail => "Invalid domain name: " ++ detail
  | invalidResponse detail => "Invalid DNS response: " ++ detail
  | timeout server => "Query timeout waiting for " ++ server
  | connectionRefused server => "Connection refused by " ++ server
  | transport server reason => "Transport error talking to " ++ server ++ ": " ++ reason
  | protocolError rcode name recordType server =>
    "failure: " ++ rcode ++ " for " ++ name ++ " (" ++ recordType ++ ") from " ++ server
  | noData name recordType server =>
    "no records for " ++ name ++ " (" ++ recordType ++ ") on " ++ server
  | noNameservers domain => "no NS found for " ++ domain
  | noDnskey zone server =>
    "Validation failed. No DNSKEY found for " ++ zone ++ " on " ++ server
  | keyTagCollision zone keyTag =>
    "Validation failed. DNSKEY with same keytag " ++ Decimal.ofNat keyTag.toNat ++ " differ in " ++
      zone
  | dnskeySignatureInvalid zone server =>
    "Validation failed. RRSIG on DNSKEY could not be validated by any DNSKEY for " ++ zone ++
      " on " ++ server
  | noDsRecords zone server =>
    "Validation failed. No DS records found for " ++ zone ++ " on " ++ server
  | digestMismatch zone keyTag =>
    "Validation failed. DS digest mismatch for " ++ zone ++ " (keytag " ++
      Decimal.ofNat keyTag.toNat ++ ")"
  | noMatchingDnskey zone parent =>
    "Validation failed. No DNSKEY in " ++ zone ++ " found that matches DS in " ++ parent
  | unsupportedAlgorithm code => "Unsupported DNSSEC algorithm: " ++ Decimal.ofNat code.toNat
  | unsupportedDigestType code => "Unsupported DS digest type: " ++ Decimal.ofNat code.toNat
  | zoneQueryFailed zone source => "Validation failed for " ++ zone ++ ": " ++ source.message
  | scanAborted expected received =>
    "Scan aborted after " ++ Decimal.ofNat received ++ " of " ++ Decimal.ofNat expected ++
      " responses"

/-- The name was asked for and simply has nothing: an empty answer, or the name does not exist. -/
def isNoData : Failure → Bool
  | noData .. => true
  | protocolError rcode .. => rcode == "NXDOMAIN"
  | zoneQueryFailed _ source => source.isNoData
  | _ => false

/-- The server could not be reached, or not in time. -/
def isTransport : Failure → Bool
  | timeout _ | connectionRefused _ | transport .. => true
  | zoneQueryFailed _ source => source.isTransport
  | _ => false

/-- The zone whose validation the failure ended, if it names one. -/
def zone? : Failure → Option String
  | noDnskey zone _ | keyTagCollision zone _ | dnskeySignatureInvalid zone _ | noDsRecords zone _
  | digestMismatch zone _ | noMatchingDnskey zone _ | zoneQueryFailed zone _ => some zone
  | _ => none

/-- The failure with a zone to its name, which is its own if it has one. -/
def inZone (f : Failure) (zone : String) : Failure :=
  if f.zone?.isSome then f else zoneQueryFailed zone f

/-- A failure in a zone names its own zone, or else the given one. -/
theorem zone?_inZone (f : Failure) (zone : String) :
    (f.inZone zone).zone? = some (f.zone?.getD zone) := by
  unfold inZone
  split
  · next h => obtain ⟨z, hz⟩ := Option.isSome_iff_exists.1 h; simp [hz]
  · next h => rw [Option.not_isSome_iff_eq_none.1 h]; rfl

/-- Naming a zone a second time changes nothing. -/
theorem inZone_inZone (f : Failure) (zone other : String) :
    (f.inZone zone).inZone other = f.inZone zone := by
  rw [inZone, zone?_inZone]
  rfl

@[simp] theorem isTransport_inZone (f : Failure) (zone : String) :
    (f.inZone zone).isTransport = f.isTransport := by
  unfold inZone
  split <;> rfl

@[simp] theorem isNoData_inZone (f : Failure) (zone : String) :
    (f.inZone zone).isNoData = f.isNoData := by
  unfold inZone
  split <;> rfl

end Failure

end DnsHealth
