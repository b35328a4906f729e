import DnsHealth.Diagnosis.Report

/-!
# The text of a diagnosis

A diagnosis as lines in sections: the nameservers, what each of their addresses answered, the chain
of trust, and the scan if there was one. Columns are filled up with blanks, counted in characters.
-/

namespace DnsHealth.Diagnosis

open Text (Decimal.ofNat)

/-- A text filled up with blanks on the right to a least number of characters. -/
def column (width : Nat) (s : String) : String :=
  s ++ String.ofList (List.replicate (width - s.length) ' ')

/-- A number with its unit, or a hyphen in place of a missing one. -/
def orHyphen (text : α → String) (x : Option α) : String := (x.map text).getD "-"

/-- The line of a nameserver. -/
def nameserverLine (n : Nameserver) : String :=
  "  " ++ column 30 n.name ++ " " ++ ", ".intercalate (n.addresses.map Address.text)

/-- The state of the signatures in words. -/
def signatureText (s : SignatureStatus) : String :=
  if s.signed then
    (if s.valid then "signed, valid" else "signed, INVALID") ++
      (match s.window with
        | some w => " " ++ w.text
        | none => "")
  else "unsigned"

/-- The line of an address. -/
def statusLine (s : NameserverStatus) : String :=
  let head := "  " ++ column 30 s.name ++ " " ++ column 39 s.address.text
  match s.error with
  | some error => head ++ " FAIL: " ++ error
  | none =>
    head ++ " rtt " ++ column 6 (orHyphen (fun d => Decimal.ofNat (d.nanoseconds / 1000000) ++ "ms")
      s.rtt) ++ " serial " ++ column 12 (orHyphen (fun n => Decimal.ofNat n.toNat) s.serial) ++
      " " ++ (if s.isLame then "LAME" else "AA") ++ (if s.recursionAvailable then " RA" else "") ++
      "  DNSSEC " ++ signatureText s.signatures

/-- The line of the chain of trust. -/
def chainLine (v : ChainVerdict) : String :=
  match v.error with
  | none => "OK  : DNSKEY validated. Chain validated"
  | some error => "FAIL: " ++ error

/-- The line that says how the records were obtained. -/
def methodLine (r : ScanReport) : String :=
  match r.method with
  | .zoneTransfer server => "Scan: zone transfer allowed by " ++ server.text
  | .bruteForce =>
    "Scan: " ++ Decimal.ofNat r.probesSent ++ " probes, " ++ Decimal.ofNat r.probesReceived ++
      " answered, " ++ Decimal.ofNat r.probesFailed ++ " failed"

/-- The line that compares the planned time with the time that a scan took. -/
def timeLine (estimate : Nat) (elapsed : Duration) : String :=
  "      estimated " ++
    Duration.secondsText ((Number.Binary64.ofNat estimate).div (Number.Binary64.ofNat 1000)) ++
    ", took " ++ Duration.secondsText elapsed.seconds

/-- The lines of a scan. -/
def scanLines (r : ScanReport) (estimate : Option Nat) : List String :=
  let lines := r.sortedLines
  [methodLine r] ++ (estimate.map fun n => timeLine n r.elapsed).toList ++
    (if r.wildcardRecords = [] then []
      else "Wildcard records (filtered from results):" ::
        r.wildcardRecords.map fun record => "  " ++ record.line) ++
    (if lines = [] then ["No records found"] else lines)

/-- The lines of a diagnosis. -/
def lines (d : Diagnosis) : List String :=
  ["Domain: " ++ d.domain ++ " (resolver " ++ d.resolver.text ++ ")", "", "Nameservers:"] ++
    d.nameservers.map nameserverLine ++ ["", "Nameserver checks:"] ++
    d.statuses.map statusLine ++ ["", "DNSSEC:", chainLine d.chain] ++
    (match d.scan with
      | some r => "" :: scanLines r d.scanEstimate
      | none => [])

/-- The text of a diagnosis. -/
def text (d : Diagnosis) : String := String.join (d.lines.map (· ++ "\n"))

end DnsHealth.Diagnosis
