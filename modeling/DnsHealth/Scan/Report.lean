import DnsHealth.Record.Json
import DnsHealth.Record.Text
import DnsHealth.Scan.Request
import DnsHealth.Sorting
import DnsHealth.Time.Duration

/-!
# Scan reports

What a scan found: the answers to its probes with their outcomes, and how the records were
obtained. The lines of a report are the lines of its records, sorted by their characters and each
only once.
-/

namespace DnsHealth

/-- What became of a probe. -/
inductive ProbeStatus where
  /-- There are records. -/
  | answered
  /-- There is nothing under the name. -/
  | noData
  /-- The question could not be answered. -/
  | failed (reason : String)
  deriving DecidableEq, Repr

namespace ProbeStatus

/-- Tells whether a probe could not be answered. -/
def isFailed : ProbeStatus → Bool
  | failed _ => true
  | _ => false

/-- An outcome as JSON. -/
def toJson : ProbeStatus → Json
  | answered => .obj [("status", .str "answered")]
  | noData => .obj [("status", .str "no_data")]
  | failed reason => .obj [("status", .str "failed"), ("reason", .str reason)]

/-- Reads an outcome from JSON. -/
def ofJson? (j : Json) : Option ProbeStatus := do
  let (status, reason) ← j.tagged? "status" "reason"
  match status with
  | "answered" => if reason.all Json.isNull then some answered else none
  | "no_data" => if reason.all Json.isNull then some noData else none
  | "failed" => return failed (← (← reason).str?)
  | _ => none

end ProbeStatus

/-- The answer of one server to one probe. -/
structure ScanResponse where
  /-- The probe. -/
  request : ScanRequest
  /-- The records that came back. -/
  records : List Record
  /-- The server. -/
  server : Address
  /-- How long the answer took. -/
  rtt : Duration
  /-- The outcome. -/
  status : ProbeStatus
  deriving DecidableEq, Repr

namespace ScanResponse

/-- A response as JSON. -/
def toJson (r : ScanResponse) : Json :=
  .obj [("request", r.request.toJson), ("records", .list Record.toJson r.records),
    ("server", r.server.toJson), ("rtt_ms", r.rtt.toJson), ("status", r.status.toJson)]

/-- Reads a response from JSON. -/
def ofJson? (j : Json) : Option ScanResponse := do
  let fs ← j.fields? ["request", "records", "server", "rtt_ms", "status"]
  return {
    request := ← fs.required "request" ScanRequest.ofJson?
    records := ← fs.required "records" (Json.list? Record.ofJson?)
    server := ← fs.required "server" Address.ofJson?
    rtt := ← fs.required "rtt_ms" Duration.ofJson?
    status := ← fs.required "status" ProbeStatus.ofJson? }

end ScanResponse

/-- How the records of a report were obtained. -/
inductive ScanMethod where
  /-- A server gave the whole zone. -/
  | zoneTransfer (server : Address)
  /-- Names out of a dictionary were asked for. -/
  | bruteForce
  deriving DecidableEq, Repr

namespace ScanMethod

/-- A method as JSON. -/
def toJson : ScanMethod → Json
  | zoneTransfer server => .obj [("kind", .str "zone_transfer"), ("server", server.toJson)]
  | bruteForce => .obj [("kind", .str "brute_force")]

/-- Reads a method from JSON, out of an object with the kind among its members or out of an array
with the kind in front. -/
def ofJson? : Json → Option ScanMethod
  | .obj members => do
    match ← (← members.lookup "kind").str? with
    | "zone_transfer" => return zoneTransfer (← Address.ofJson? (← members.lookup "server"))
    | "brute_force" => some bruteForce
    | _ => none
  | .arr [.str "zone_transfer", server] => (Address.ofJson? server).map zoneTransfer
  | .arr [.str "brute_force"] => some bruteForce
  | _ => none

end ScanMethod

/-- What a scan found. -/
structure ScanReport where
  /-- The domain. -/
  domain : String
  /-- How the records were obtained. -/
  method : ScanMethod
  /-- The answers that hold records. -/
  responses : List ScanResponse
  /-- The records of the wildcard name. -/
  wildcardRecords : List Record
  /-- The number of probes that were planned. -/
  probesSent : Nat
  /-- The number of probes that came to an end. -/
  probesReceived : Nat
  /-- The number of probes that could not be answered. -/
  probesFailed : Nat
  /-- How long the scan took. -/
  elapsed : Duration
  deriving DecidableEq, Repr

namespace ScanReport

/-- All records that were found. -/
def records (r : ScanReport) : List Record := r.responses.flatMap (·.records)

/-- The lines of the records, sorted and without repetitions. -/
def sortedLines (r : ScanReport) : List String :=
  sortedSet (· ≤ ·) (r.records.map Record.line)

/-- A report as JSON. -/
def toJson (r : ScanReport) : Json :=
  .obj [("domain", .str r.domain), ("method", r.method.toJson),
    ("responses", .list ScanResponse.toJson r.responses),
    ("wildcard_records", .list Record.toJson r.wildcardRecords),
    ("probes_sent", .nat r.probesSent), ("probes_received", .nat r.probesReceived),
    ("probes_failed", .nat r.probesFailed), ("elapsed_ms", r.elapsed.toJson)]

/-- Reads a report from JSON. -/
def ofJson? (j : Json) : Option ScanReport := do
  let fs ← j.fields? ["domain", "method", "responses", "wildcard_records", "probes_sent",
    "probes_received", "probes_failed", "elapsed_ms"]
  return {
    domain := ← fs.required "domain" Json.str?
    method := ← fs.required "method" ScanMethod.ofJson?
    responses := ← fs.required "responses" (Json.list? ScanResponse.ofJson?)
    wildcardRecords := ← fs.required "wildcard_records" (Json.list? Record.ofJson?)
    probesSent := ← fs.required "probes_sent" Json.uint64?
    probesReceived := ← fs.required "probes_received" Json.uint64?
    probesFailed := ← fs.required "probes_failed" Json.uint64?
    elapsed := ← fs.required "elapsed_ms" Duration.ofJson? }

end ScanReport

end DnsHealth
