import DnsHealth.Diagnosis.Run
import DnsHealth.Diagnosis.Text
import DnsHealth.Proofs.Scan.Transfers

/-!
# What stops a diagnosis

A diagnosis begins with a search for the nameservers of the domain. What this search finds is known
from then on, so that the inspection, the plan of a scan and the scan work with the same
nameservers, though replies may change. Nothing can fail after it but a scan without a server:
servers that do not answer are part of the report, and so is a broken chain. The verdict on the
chain has an error exactly if the chain is not valid, and then the text does not say that it
validates.
-/

namespace DnsHealth

open Process

/-- A walk that gave no negative answer has an error in its verdict exactly if it failed. -/
theorem ChainVerdict.valid_iff_error_eq_none {result : Except Failure Bool}
    (h : result ≠ .ok false) :
    (ChainVerdict.ofResult result).valid = true ↔ (ChainVerdict.ofResult result).error = none := by
  cases result with
  | ok valid =>
    cases valid with
    | true => exact ⟨fun _ => rfl, fun _ => rfl⟩
    | false => exact absurd rfl h
  | error failure => exact ⟨nofun, nofun⟩

namespace Diagnosis

/-- The line on the chain says that it validates exactly if the verdict has no error. -/
theorem chainLine_eq_iff (v : ChainVerdict) :
    chainLine v = "OK  : DNSKEY validated. Chain validated" ↔ v.error = none := by
  unfold chainLine
  cases v.error with
  | none => exact ⟨fun _ => rfl, fun _ => rfl⟩
  | some error =>
    refine ⟨fun h => ?_, nofun⟩
    have hchars := congrArg String.toList h
    rw [String.toList_append] at hchars
    cases hchars

/-- The place of the section on the chain among the lines. -/
def chainSection (d : Diagnosis) : Nat := d.nameservers.length + d.statuses.length + 6

/-- The section on the chain is one line under its title. -/
theorem getElem?_lines_chainSection (d : Diagnosis) :
    d.lines[d.chainSection]? = some "DNSSEC:" ∧
      d.lines[d.chainSection + 1]? = some (chainLine d.chain) := by
  obtain ⟨before, after, hlines, hlength⟩ : ∃ before after : List String,
      d.lines = before ++ "DNSSEC:" :: chainLine d.chain :: after ∧
        before.length = d.chainSection := by
    refine
      ⟨["Domain: " ++ d.domain ++ " (resolver " ++ d.resolver.text ++ ")", "", "Nameservers:"] ++
        d.nameservers.map nameserverLine ++ ["", "Nameserver checks:"] ++
        d.statuses.map statusLine ++ [""], ?after, ?parts, ?before⟩
    case parts =>
      simp only [lines, List.append_assoc, List.cons_append, List.nil_append]
      rfl
    case before =>
      simp only [chainSection, List.length_append, List.length_cons, List.length_nil,
        List.length_map]
      omega
  rw [hlines, ← hlength]
  constructor
  · rw [List.getElem?_append_right le_rfl, Nat.sub_self, List.getElem?_cons_zero]
  · rw [List.getElem?_append_right (Nat.le_add_right _ 1), Nat.add_sub_cancel_left,
      List.getElem?_cons_succ, List.getElem?_cons_zero]

/-- A report that agrees with itself on the chain and on the nameservers, without a scan yet. -/
structure IsSurvey (d : Diagnosis) : Prop where
  /-- The chain is valid exactly if there is no error. -/
  valid_iff : d.chain.valid = true ↔ d.chain.error = none
  /-- There is a status for each address of each nameserver, in their order. -/
  statuses : d.statuses.map (fun status => (status.name, status.address)) =
    d.nameservers.flatMap fun n => n.addresses.map fun asked => (n.name, asked)
  /-- There is no estimate yet. -/
  estimate : d.scanEstimate = none
  /-- There is no scan yet. -/
  scan : d.scan = none

/-- The report with a scan that was made with a budget of queries per second. -/
def withScan (d : Diagnosis) (qps : Nat) (scan : ScanReport) : Diagnosis :=
  { d with
    scanEstimate := some (scanPlan qps d.nameservers).estimate.millis
    scan := some scan }

/-- The parts of a report agree with one another and with the calls that led to it. -/
structure Agrees (d : Diagnosis) (resolver : Address) (qps : Nat) (calls : List Call) : Prop where
  /-- The chain is valid exactly if there is no error. -/
  valid_iff : d.chain.valid = true ↔ d.chain.error = none
  /-- The section on the chain has its title. -/
  title : d.lines[d.chainSection]? = some "DNSSEC:"
  /-- Under it the text says that the chain validates exactly if there is no error. -/
  line_iff : d.chain.error = none ↔
    d.lines[d.chainSection + 1]? = some "OK  : DNSKEY validated. Chain validated"
  /-- There is a status for each address of each nameserver, in their order. -/
  statuses : d.statuses.map (fun status => (status.name, status.address)) =
    d.nameservers.flatMap fun n => n.addresses.map fun asked => (n.name, asked)
  /-- There is an estimate exactly if there is a scan. -/
  estimate : d.scanEstimate.isSome = d.scan.isSome
  /-- The estimate counts as many workers as there are servers that the scan works with. -/
  workers : ∀ scan, d.scan = some scan →
    ∃ servers started before part, calls = before ++ part ∧
      ((Resolver.ofAddress resolver).scanServers qps d.domain started servers).Run part (.ok scan) ∧
      (scanPlan qps d.nameservers).workers = servers.length ∧
      d.scanEstimate = some (scanPlan qps d.nameservers).estimate.millis

/-- What a report says on the chain is what the text says. -/
theorem error_eq_none_iff_line (d : Diagnosis) :
    d.chain.error = none ↔
      d.lines[d.chainSection + 1]? = some "OK  : DNSKEY validated. Chain validated" := by
  rw [d.getElem?_lines_chainSection.2, Option.some.injEq, chainLine_eq_iff]

/-- Without a scan the parts of a report agree. -/
theorem IsSurvey.agrees {d : Diagnosis} (h : d.IsSurvey) (resolver : Address) (qps : Nat)
    (calls : List Call) : d.Agrees resolver qps calls where
  valid_iff := h.valid_iff
  title := d.getElem?_lines_chainSection.1
  line_iff := d.error_eq_none_iff_line
  statuses := h.statuses
  estimate := by rw [h.estimate, h.scan]; rfl
  workers scan hscan := by
    rw [h.scan] at hscan
    cases hscan

/-- With a scan of the addresses of the nameservers the parts of a report agree as well. -/
theorem IsSurvey.agrees_withScan {d : Diagnosis} (h : d.IsSurvey) {resolver : Address} {qps : Nat}
    {started : Duration} {part : List Call} {scan : ScanReport} (before : List Call)
    (hrun : ((Resolver.ofAddress resolver).scanServers qps d.domain started
      (Nameserver.allAddresses d.nameservers)).Run part (.ok scan)) :
    (d.withScan qps scan).Agrees resolver qps (before ++ part) where
  valid_iff := h.valid_iff
  title := (d.withScan qps scan).getElem?_lines_chainSection.1
  line_iff := (d.withScan qps scan).error_eq_none_iff_line
  statuses := h.statuses
  estimate := rfl
  workers := by
    rintro _ ⟨⟩
    exact ⟨_, started, before, part, rfl, hrun, rfl, rfl⟩

end Diagnosis

namespace Resolver

variable {address : Address} {calls : List Call} {clock : Process Int} {v : Verifier}

/-- Whatever an address answers, its status is about this address of this nameserver. -/
theorem run_inspectAddress {domain name : String} {asked : Address} {status : NameserverStatus}
    (h : ((ofAddress address).inspectAddress clock v domain name asked).Run calls status) :
    (name, asked) = (status.name, status.address) := by
  obtain ⟨_, _, soa, -, hrest, rfl⟩ := run_bind_iff.mp h
  cases soa with
  | error failure =>
    obtain ⟨rfl, rfl⟩ := run_pure_iff.mp hrest
    rfl
  | ok soa =>
    obtain ⟨_, _, keys, -, hasked, rfl⟩ := run_bind_iff.mp hrest
    obtain ⟨_, _, nameservers, -, hlast, rfl⟩ := run_bind_iff.mp hasked
    obtain ⟨_, -, rfl⟩ := run_bind_pure_iff.mp hlast
    rfl

/-- A nameserver has a status for each of its addresses, in their order. -/
theorem run_inspectNameserver {domain : String} {n : Nameserver} {statuses : List NameserverStatus}
    (h : ((ofAddress address).inspectNameserver clock v domain n).Run calls statuses) :
    n.addresses.map (fun asked => (n.name, asked)) =
      statuses.map fun status => (status.name, status.address) := by
  obtain ⟨parts, hparts, rfl, -⟩ := run_mapM h
  rw [List.map_map]
  exact map_eq_map_of_forall₂ (hparts.imp fun _ _ hrun => run_inspectAddress hrun)

/-- Once the nameservers of a domain are known, an inspection has a status for each of their
addresses, in their order. -/
theorem run_inspectBy {domain : String} {cache known : NameserverCache}
    {nameservers : List Nameserver} {result : Except Failure (List NameserverStatus)}
    (hknown : cache.get? (Name.fqdn domain) = some nameservers)
    (h : ((ofAddress address).inspectBy clock v domain).Run cache calls result known) :
    known = cache ∧ ∃ statuses, result = .ok statuses ∧
      statuses.map (fun status => (status.name, status.address)) =
        nameservers.flatMap fun n => n.addresses.map fun asked => (n.name, asked) := by
  have hentry : cache.get? (Name.fqdn (Name.fqdn domain)) = some nameservers := by
    rwa [Name.fqdn_fqdn]
  rcases Lookup.run_bind_iff.mp h with ⟨_, hfind, -⟩ | ⟨_, _, _, _, hfind, hinspect, rfl⟩
  · obtain ⟨-, hfailure, -⟩ := (run_findNameservers_of_known hentry).mp hfind
    cases hfailure
  obtain ⟨rfl, hfound, rfl⟩ := (run_findNameservers_of_known hentry).mp hfind
  cases hfound
  obtain ⟨statuses, _, _, htogether, hlast, rfl⟩ := Lookup.run_lift_ok_bind_iff.mp hinspect
  obtain ⟨rfl, rfl, rfl⟩ := Lookup.run_pure_iff.mp hlast
  refine ⟨rfl, _, rfl, ?_⟩
  obtain ⟨parts, hparts, rfl, -⟩ := run_together htogether
  rw [List.forall₂_map_left_iff] at hparts
  have hstatuses := map_eq_map_of_forall₂ (hparts.imp fun n part hrun => run_inspectNameserver hrun)
  rw [List.map_flatten, List.map_map, List.flatMap_def, hstatuses]
  rfl

section Chain

open Lookup

/-- The validation of a zone keeps what is known. -/
theorem keeps_validateZone (address : Address) (v : Verifier) (now : Int) (zone : String) :
    Keeps ((ofAddress address).validateZone v now zone) := by
  refine ((keeps_findAddresses address _).inZone _).bind fun servers => ?_
  refine (Keeps.foldlM (fun collected server => ?_) servers _).bind fun collected => ?_
  · exact ((Keeps.lift _).inZone _).bind fun answer => Keeps.lift _
  · refine Keeps.bind ?_ fun matched => Keeps.pure _
    refine ((keeps_findAddresses address _).inZone _).bind fun servers => ?_
    refine (Keeps.foldlM (fun matched server => Keeps.lift _) servers _).bind fun matched => ?_
    split
    · exact Keeps.throw _
    · exact Keeps.pure _

/-- A walk keeps what is known, and gives no negative answer. -/
theorem keeps_validateChainBy (address : Address) (clock : Process Int) (v : Verifier)
    (domain : String) : Keeps ((ofAddress address).validateChainBy clock v domain) := by
  refine Keeps.bind (Keeps.forM (fun zone => ?_) _) fun _ => Keeps.pure _
  refine Keeps.bind (Keeps.bind (Keeps.lift _) fun now => ?_) fun _ => Keeps.pure _
  exact keeps_validateZone address v now zone

private theorem ne_ok_false_of_run_validateChainBy {domain : String} {cache known : NameserverCache}
    {result : Except Failure Bool}
    (h : ((ofAddress address).validateChainBy clock v domain).Run cache calls result known) :
    result ≠ .ok false := by
  rcases Lookup.run_bind_iff.mp h with ⟨failure, -, rfl⟩ | ⟨_, _, _, _, -, hlast, -⟩
  · exact nofun
  · obtain ⟨-, rfl, -⟩ := Lookup.run_pure_iff.mp hlast
    exact nofun

end Chain

/-- Once the nameservers of a domain are known, a scan works with their addresses: it fails if there
are none, and otherwise comes to a report. -/
theorem run_scan_of_known {qps : Nat} {domain : String} {cache known : NameserverCache}
    {nameservers : List Nameserver} {result : Except Failure ScanReport}
    (hknown : cache.get? (Name.fqdn domain) = some nameservers)
    (h : ((ofAddress address).scan qps domain).Run cache calls result known) :
    (Nameserver.allAddresses nameservers = [] ∧ ∃ failure, result = .error failure) ∨
      ∃ report started, Nameserver.allAddresses nameservers ≠ [] ∧ result = .ok report ∧
        ((ofAddress address).scanServers qps (Name.fqdn domain) started
          (Nameserver.allAddresses nameservers)).Run calls (.ok report) := by
  obtain ⟨lookups, found, hfind, hscan⟩ := exists_of_run_scan h
  obtain ⟨_, hsearch, rfl⟩ := run_findAddresses_iff.mp hfind
  obtain ⟨rfl, rfl, rfl⟩ := (run_findNameservers_of_known hknown).mp hsearch
  rcases hscan with ⟨failure, hfailure, -⟩ | ⟨servers, started, rest, hservers, rfl, hrun⟩
  · cases hfailure
  cases hservers
  by_cases hnone : Nameserver.allAddresses nameservers = []
  · rw [hnone] at hrun
    obtain ⟨rfl, rfl⟩ := run_pure_iff.mp hrun
    exact .inl ⟨hnone, _, rfl⟩
  · obtain ⟨report, rfl, -⟩ := run_scanServers hnone hrun
    exact .inr ⟨report, started, hnone, rfl, hrun⟩

section Diagnose

variable {qps : Nat} {wanted : Bool} {domain : String} {cache known : NameserverCache}
  {result : Except Failure Diagnosis}

/-- A diagnosis fails with its first search, or surveys the nameservers that this has found, and
fails after that only with its scan. -/
theorem exists_of_run_diagnoseBy
    (h : ((ofAddress address).diagnoseBy clock v qps wanted domain).Run cache calls result known) :
    ∃ first rest found mid,
      ((ofAddress address).findNameservers domain).Run cache first found mid ∧
      calls = first ++ rest ∧
      ((∃ failure, found = .error failure ∧ result = .error failure) ∨
        ∃ survey before scanned later, found = .ok survey.nameservers ∧
          survey.domain = Name.fqdn domain ∧ survey.IsSurvey ∧ rest = before ++ scanned ∧
          later.get? (Name.fqdn domain) = some survey.nameservers ∧
          (wanted = false ∧ result = .ok survey ∨
            wanted = true ∧ ∃ outcome,
              ((ofAddress address).scan qps (Name.fqdn domain)).Run later scanned outcome
                known ∧
              result = outcome.map (survey.withScan qps))) := by
  rcases Lookup.run_bind_iff.mp h with
    ⟨failure, hfind, rfl⟩ | ⟨nameservers, first, found, rest, hfind, hdiagnose, rfl⟩
  · rw [findNameservers_fqdn] at hfind
    exact ⟨calls, [], _, known, hfind, (List.append_nil _).symm, .inl ⟨failure, rfl, rfl⟩⟩
  rw [findNameservers_fqdn] at hfind
  refine ⟨first, rest, _, found, hfind, rfl, .inr ?_⟩
  have hentry := get?_of_run_findNameservers hfind
  rw [← Name.fqdn_fqdn] at hentry
  rcases Lookup.run_bind_iff.mp hdiagnose with
    ⟨_, hinspect, -⟩ | ⟨statuses, inspected, _, _, hinspect, hchain, rfl⟩
  · obtain ⟨-, _, hfailure, -⟩ := run_inspectBy hentry hinspect
    cases hfailure
  obtain ⟨rfl, _, hok, hstatuses⟩ := run_inspectBy hentry hinspect
  cases hok
  obtain ⟨outcome, walked, later, scanned, hwalk, hscan, rfl⟩ :=
    Lookup.run_outcome_bind_iff.mp hchain
  have hlater := keeps_validateChainBy address clock v _ _ _ _ _ hwalk _ _ hentry
  rw [Name.fqdn_fqdn] at hlater
  let survey : Diagnosis :=
    { domain := Name.fqdn domain
      resolver := address
      nameservers
      statuses
      chain := .ofResult outcome
      scanEstimate := none
      scan := none }
  have hsurvey : survey.IsSurvey :=
    { valid_iff := ChainVerdict.valid_iff_error_eq_none (ne_ok_false_of_run_validateChainBy hwalk)
      statuses := hstatuses
      estimate := rfl
      scan := rfl }
  refine ⟨survey, inspected ++ walked, scanned, later, rfl, rfl, hsurvey,
    (List.append_assoc ..).symm, hlater, ?_⟩
  simp only at hscan
  split at hscan
  · next hwanted =>
    refine .inr ⟨hwanted, ?_⟩
    rcases Lookup.run_bind_iff.mp hscan with
      ⟨failure, hrun, rfl⟩ | ⟨report, part, mid, rest, hrun, hreport, rfl⟩
    · exact ⟨_, hrun, rfl⟩
    · obtain ⟨rfl, rfl, rfl⟩ := Lookup.run_pure_iff.mp hreport
      exact ⟨_, by rwa [List.append_nil], rfl⟩
  · next hwanted =>
    obtain ⟨-, rfl, -⟩ := Lookup.run_pure_iff.mp hscan
    exact .inl ⟨Bool.eq_false_iff.mpr hwanted, rfl⟩

/-- Whatever the replies and the clock, a diagnosis fails exactly if its first search for the
nameservers does, or if a scan is wanted and this search has found no address. A report that it
gives is about the nameservers of this search, it has a scan if one was wanted, and its parts
agree. -/
theorem diagnose_stops_iff
    (run : ((ofAddress address).diagnoseBy clock v qps wanted domain).Run cache calls result
      known) :
    ∃ first rest found mid,
      ((ofAddress address).findNameservers domain).Run cache first found mid ∧
      calls = first ++ rest ∧
      ((∃ failure, result = .error failure) ↔
        (∃ failure, found = .error failure) ∨
          wanted = true ∧ ∃ nameservers, found = .ok nameservers ∧
            Nameserver.allAddresses nameservers = []) ∧
      ∀ report, result = .ok report →
        found = .ok report.nameservers ∧ report.scan.isSome = wanted ∧
          report.Agrees address qps rest := by
  obtain ⟨first, rest, found, mid, hfind, rfl, hafter⟩ := exists_of_run_diagnoseBy run
  refine ⟨first, rest, found, mid, hfind, rfl, ?_⟩
  rcases hafter with ⟨failure, rfl, rfl⟩ |
    ⟨survey, before, scanned, later, rfl, hdomain, hsurvey, rfl, hlater, hends⟩
  · exact ⟨⟨fun _ => .inl ⟨failure, rfl⟩, fun _ => ⟨failure, rfl⟩⟩, nofun⟩
  rcases hends with ⟨hunwanted, rfl⟩ | ⟨hwanted, outcome, hscan, rfl⟩
  · refine ⟨⟨nofun, ?_⟩, ?_⟩
    · rintro (⟨failure, hfailure⟩ | ⟨hwanted, -⟩)
      · cases hfailure
      · rw [hunwanted] at hwanted
        cases hwanted
    · rintro report ⟨⟩
      exact ⟨rfl, by rw [hsurvey.scan, hunwanted]; rfl, hsurvey.agrees address qps _⟩
  · rw [← hdomain] at hlater hscan
    rcases run_scan_of_known (by rwa [hdomain, Name.fqdn_fqdn, ← hdomain]) hscan with
      ⟨hnone, failure, rfl⟩ | ⟨scan, started, hservers, rfl, hrun⟩
    · exact ⟨⟨fun _ => .inr ⟨hwanted, _, rfl, hnone⟩, fun _ => ⟨failure, rfl⟩⟩, nofun⟩
    · refine ⟨⟨nofun, ?_⟩, ?_⟩
      · rintro (⟨failure, hfailure⟩ | ⟨-, nameservers, hfound, hnone⟩)
        · cases hfailure
        · cases hfound
          exact absurd hnone hservers
      · rintro report ⟨⟩
        rw [hdomain, Name.fqdn_fqdn, ← hdomain] at hrun
        exact ⟨rfl, hwanted.symm, hsurvey.agrees_withScan before hrun⟩

end Diagnose

/-- A domain whose only server answers no question but gives the whole zone: the diagnosis does not
fail, though the chain is broken and the server counts as unreachable. -/
theorem diagnose_stops_iff_silent_server :
    let server (n : UInt8) : Address := .v4 ⟨192, 0, 2, n⟩
    ∃ calls report known,
      ((ofAddress (server 53)).diagnoseBy Process.clock .standard 10 true "a").Run .empty calls
        (.ok report) known ∧
      report.nameservers = [⟨"ns.a.", [server 1]⟩] ∧ report.chain.failedZone = some "a." ∧
      report.statuses.map (·.error) = [some "Query timeout waiting for 192.0.2.1"] ∧
      report.scan.isSome = true ∧
      ∃ first rest, calls = first ++ rest ∧ report.Agrees (server 53) 10 rest := by
  intro server
  let answer (q : Question) (data : RecordData) : Except Failure Answer :=
    .ok ⟨[⟨q.name, 60, data⟩], [], true, true, server 53, .zero⟩
  let world (_ : List Call) := Effect.reply
    { query := fun q asked =>
        if asked = server 53 ∧ q.recordType = .ns then answer q (.ns "ns.a.")
        else if asked = server 53 ∧ q.recordType = .a then answer q (.a ⟨192, 0, 2, 1⟩)
        else .error (.timeout asked.text)
      transfer := fun zone _ => .ok [⟨zone, 60, .txt ["x"]⟩] } 50
  let report : Diagnosis :=
    { domain := "a."
      resolver := server 53
      nameservers := [⟨"ns.a.", [server 1]⟩]
      statuses := [.unreachable "ns.a." (server 1) "Query timeout waiting for 192.0.2.1"]
      chain := .ofResult (.error (.zoneQueryFailed "a." (.timeout "192.0.2.1")))
      scanEstimate := some 37100
      scan := some (transferReport "a." (server 1) [⟨"a.", 60, .txt ["x"]⟩] .zero .zero) }
  let diagnosis := (ofAddress (server 53)).diagnoseBy Process.clock .standard 10 true "a"
  obtain ⟨calls, known, hrun⟩ :
      ∃ calls known, diagnosis.Run .empty calls (.ok report) known := by
    have hrun := Lookup.run_play world .empty diagnosis
    have hreport : (diagnosis.play world .empty).2.1 = .ok report := by decide +kernel
    rw [hreport] at hrun
    exact ⟨_, _, hrun⟩
  obtain ⟨first, rest, found, mid, -, rfl, -, hagrees⟩ := diagnose_stops_iff hrun
  obtain ⟨-, hscan, hagrees⟩ := hagrees report rfl
  exact ⟨_, report, _, hrun, rfl, rfl, rfl, hscan, first, rest, rfl, hagrees⟩

end Resolver

end DnsHealth
