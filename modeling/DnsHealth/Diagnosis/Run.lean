import DnsHealth.Chain.Walk
import DnsHealth.Diagnosis.Report
import DnsHealth.Nameserver.Inspect
import DnsHealth.Scan.Run

/-!
# Diagnosing a domain

All that the library can find out about a domain in one go: its nameservers, what they answer, the
chain of trust, and on demand a scan. A broken chain is part of the diagnosis and does not end it.
-/

namespace DnsHealth

/-- How a diagnosis is made. -/
structure DiagnosisOptions where
  /-- The queries per second and server of a scan. -/
  qps : Nat
  /-- A scan is wanted. -/
  scan : Bool
  /-- The current time, in seconds since the start of 1970. -/
  now : Int
  deriving DecidableEq, Repr

/-- The plan of the scan of a domain with the given nameservers. -/
def scanPlan (qps : Nat) (nameservers : List Nameserver) : ScanPlan :=
  ⟨Dictionary.size, (Nameserver.allAddresses nameservers).length, qps⟩

namespace Resolver

/-- Diagnoses a domain, with a scan if one is wanted. Signatures are judged at the time that a clock
shows when they are met. -/
def diagnoseBy [Monad m] [Tasks m] (r : Resolver m) (clock : m Int) (v : Verifier) (qps : Nat)
    (wanted : Bool) (domain : String) : Lookup m Diagnosis := do
  let domain := Name.fqdn domain
  let nameservers ← r.findNameservers domain
  let statuses ← r.inspectBy clock v domain
  let chain := ChainVerdict.ofResult (← (r.validateChainBy clock v domain).outcome)
  let (scanEstimate, scan) ←
    if wanted then do
      let report ← r.scan qps domain
      pure (some (scanPlan qps nameservers).estimate.millis, some report)
    else pure (none, none)
  return { domain, nameservers, statuses, chain, scanEstimate, scan, resolver := r.address }

/-- Diagnoses a domain at one time. -/
def diagnose [Monad m] [Tasks m] (r : Resolver m) (v : Verifier) (options : DiagnosisOptions)
    (domain : String) : Lookup m Diagnosis :=
  r.diagnoseBy (pure options.now) v options.qps options.scan domain

end Resolver

end DnsHealth
