import DnsHealth.Name.Basic
import DnsHealth.Record.Type

/-!
# Probes

One question of a scan: a record type, a stem of labels, and the domain that the stem is put in
front of. With an empty stem the question is about the domain itself.
-/

namespace DnsHealth

/-- One question of a scan. -/
structure ScanRequest where
  /-- The type that is asked for. -/
  recordType : RecordType
  /-- The labels below the domain, with points between them. -/
  stem : String
  /-- The domain in absolute form. -/
  domain : String
  deriving DecidableEq, Repr

namespace ScanRequest

/-- The question about a stem below a domain. -/
def below (recordType : RecordType) (stem domain : String) : ScanRequest :=
  ⟨recordType, stem, Name.fqdn domain⟩

/-- The name that is asked for. -/
def qname (r : ScanRequest) : String :=
  if r.stem.isEmpty then r.domain else r.stem ++ "." ++ r.domain

/-- A question as JSON. -/
def toJson (r : ScanRequest) : Json :=
  .obj [("record_type", r.recordType.toJson), ("prefix", .str r.stem), ("domain", .str r.domain)]

/-- Reads a question from JSON. -/
def ofJson? (j : Json) : Option ScanRequest := do
  let fs ← j.fields? ["record_type", "prefix", "domain"]
  return {
    recordType := ← fs.required "record_type" RecordType.ofJson?
    stem := ← fs.required "prefix" Json.str?
    domain := ← fs.required "domain" Json.str? }

end ScanRequest

end DnsHealth
