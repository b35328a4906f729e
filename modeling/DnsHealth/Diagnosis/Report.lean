import DnsHealth.Chain.Verdict
import DnsHealth.Nameserver.Basic
import DnsHealth.Scan.Report

/-!
# Diagnoses

Everything that was found out about a domain, and its form as JSON with one member a line.
-/

namespace DnsHealth

/-- What was found out about a domain. -/
structure Diagnosis where
  /-- The domain. -/
  domain : String
  /-- The recursive resolver that found the nameservers. -/
  resolver : Address
  /-- The nameservers. -/
  nameservers : List Nameserver
  /-- What each address of the nameservers answered. -/
  statuses : List NameserverStatus
  /-- The outcome of the chain of trust. -/
  chain : ChainVerdict
  /-- How long the scan was to take, in milliseconds. -/
  scanEstimate : Option Nat
  /-- What the scan found. -/
  scan : Option ScanReport
  deriving DecidableEq, Repr

namespace Diagnosis

/-- A diagnosis as JSON. -/
def toJson (d : Diagnosis) : Json :=
  .obj [("domain", .str d.domain), ("resolver", d.resolver.toJson),
    ("nameservers", .list Nameserver.toJson d.nameservers),
    ("nameserver_status", .list NameserverStatus.toJson d.statuses), ("dnssec", d.chain.toJson),
    ("scan_estimate_ms", .option .nat d.scanEstimate), ("scan", .option ScanReport.toJson d.scan)]

/-- The JSON text of a diagnosis. -/
def jsonText (d : Diagnosis) : String := d.toJson.pretty

end Diagnosis

end DnsHealth
