import DnsHealth.Nameserver.Lookup
import DnsHealth.Scan.Dictionary
import DnsHealth.Scan.Sweep

/-!
# Scans

The records of a domain. Each server is asked for the whole zone first, and one that gives any
records ends the scan. Otherwise the names of the dictionary are swept, and addresses that the
wildcard of the domain gives to any name are left out.
-/

namespace DnsHealth.Resolver

/-- The report on a zone that a server gave. -/
def transferReport (domain : String) (server : Address) (records : List Record)
    (rtt elapsed : Duration) : ScanReport :=
  { domain
    method := .zoneTransfer server
    responses := [⟨.below .axfr "" domain, records, server, rtt, .answered⟩]
    wildcardRecords := []
    probesSent := 0
    probesReceived := 0
    probesFailed := 0
    elapsed }

/-- Asks one server after the other for the whole zone, up to the first that gives any records. -/
def tryTransfers [Monad m] [Tasks m] (r : Resolver m) (domain : String) (started : Duration) :
    List Address → m (Option ScanReport)
  | [] => return none
  | server :: rest => do
    let attempt ← Tasks.watch
    match ← r.client.transfer domain server with
    | .ok (record :: records) =>
      let now ← Tasks.watch
      return some (transferReport domain server (record :: records) ⟨now.nanoseconds -
        attempt.nanoseconds⟩ ⟨now.nanoseconds - started.nanoseconds⟩)
    | _ => r.tryTransfers domain started rest

/-- The records of the wildcard name of a domain at a server. -/
def wildcardRecords [Monad m] (r : Resolver m) (domain : String) (server : Address) :
    m (List Record) := do
  match ← r.client.recordSet ⟨"*." ++ domain, .a, true⟩ server with
  | .ok set => return set.records
  | .error _ => return []

/-- Sweeps the dictionary over the servers of a domain. -/
def bruteForce [Monad m] [Tasks m] (r : Resolver m) (qps : Nat) (domain : String)
    (started : Duration) (first : Address) (servers : List Address) :
    m (Except Failure ScanReport) := do
  let wildcard ← r.wildcardRecords domain first
  let requests := Dictionary.requests domain
  match ← r.client.sweep qps servers (.ofRecords wildcard) requests with
  | .error f => return .error f
  | .ok sweep =>
    let now ← Tasks.watch
    return .ok {
      domain
      method := .bruteForce
      responses := sweep.responses
      wildcardRecords := wildcard
      probesSent := requests.length
      probesReceived := sweep.received
      probesFailed := sweep.failed
      elapsed := ⟨now.nanoseconds - started.nanoseconds⟩ }

/-- Scans the servers of a domain: they are asked for the zone, and if none gives any records they
are swept. -/
def scanServers [Monad m] [Tasks m] (r : Resolver m) (qps : Nat) (domain : String)
    (started : Duration) : List Address → m (Except Failure ScanReport)
  | [] => return .error (.noNameservers domain)
  | first :: rest => do
    match ← r.tryTransfers domain started (first :: rest) with
    | some report => return .ok report
    | none => r.bruteForce qps domain started first (first :: rest)

/-- Scans a domain. -/
def scan [Monad m] [Tasks m] (r : Resolver m) (qps : Nat) (domain : String) :
    Lookup m ScanReport := do
  let started ← Lookup.lift (Except.ok <$> Tasks.watch)
  let domain := Name.fqdn domain
  let servers ← r.findAddresses domain
  Lookup.lift (r.scanServers qps domain started servers)

end DnsHealth.Resolver
