import DnsHealth.Proofs.Nameserver.Runs
import DnsHealth.Proofs.Scan.Probes
import DnsHealth.Scan.Run

/-!
# Transfers before sweeps

A scan asks the servers of a domain for the whole zone, one after the other, up to the first that
gives any records, and then reports these and asks nothing else. If no server gives any, each has
been asked once, and the scan is a sweep: every question of the dictionary is asked once, all probes
come to an end, and every record of the report came back from a probe.
-/

namespace DnsHealth

open Process

/-- The dictionary makes 371 probes. -/
theorem Dictionary.size_eq : Dictionary.size = 371 := by decide +kernel

/-- The reply to a transfer holds records. -/
def givesRecords : Except Failure (List Record) → Bool
  | .ok (_ :: _) => true
  | _ => false

private theorem givesRecords_ok_iff {records : List Record} :
    givesRecords (.ok records) = true ↔ records ≠ [] := by
  cases records with
  | nil => exact ⟨nofun, fun h => absurd rfl h⟩
  | cons record records => exact ⟨fun _ => List.cons_ne_nil record records, fun _ => rfl⟩

/-- A server was asked for a zone and gave no records. -/
def Call.Refused (call : Call) (zone : String) (server : Address) : Prop :=
  ∃ reply, call = .transfer zone server reply ∧ givesRecords reply = false

namespace ScanReport

/-- A report of the records that a server gave for a zone, after the servers before it had refused:
the records are reported as they came, and no other calls were made. -/
structure Transferred (report : ScanReport) (zone : String) (before : List Address)
    (server : Address) (records : List Record) (calls : List Call) : Prop where
  /-- The report says which server gave the zone. -/
  method : report.method = .zoneTransfer server
  /-- There are records. -/
  found : records ≠ []
  /-- The records stand in one response, as they came. -/
  verbatim : report.responses.map (·.records) = [records]
  /-- No probe was planned. -/
  sent : report.probesSent = 0
  /-- No probe came to an end. -/
  received : report.probesReceived = 0
  /-- No probe failed. -/
  failed : report.probesFailed = 0
  /-- The servers before it were asked once each, and then this one. -/
  calls_eq : ∃ refused, List.Forall₂ (fun server call => call.Refused zone server) before refused ∧
    calls = refused ++ [.transfer zone server (.ok records)]

/-- A report of what probes of a zone brought, given their calls. -/
structure Swept (report : ScanReport) (zone : String) (servers : List Address)
    (probes : List Call) : Prop where
  /-- The report says that names were asked for. -/
  method : report.method = .bruteForce
  /-- All probes were planned. -/
  sent : report.probesSent = 371
  /-- All probes came to an end. -/
  received : report.probesReceived = 371
  /-- Every question of every probe was asked once, and nothing else was. -/
  asked : (probes.map Call.question?).Perm
    (((Dictionary.requests zone).flatMap ScanRequest.questions).map some)
  /-- Every record came back from a probe. -/
  rests : ∀ response ∈ report.responses, response.server ∈ servers ∧
    response.request ∈ Dictionary.requests zone ∧ response.RestsOn probes

/-- A server that refused may stand before the others. -/
theorem Transferred.cons {report : ScanReport} {zone : String} {before : List Address}
    {server other : Address} {records : List Record} {calls : List Call} {call : Call}
    (h : report.Transferred zone before server records calls) (hcall : call.Refused zone other) :
    report.Transferred zone (other :: before) server records (call :: calls) := by
  obtain ⟨refused, hbefore, rfl⟩ := h.calls_eq
  exact { h with calls_eq := ⟨call :: refused, .cons hcall hbefore, rfl⟩ }

/-- A report tells what was done to get the records of a zone from its servers. -/
structure Reports (report : ScanReport) (zone : String) (servers : List Address)
    (calls : List Call) : Prop where
  /-- The report is of a transfer exactly if a server gave records when it was asked for the
  zone. -/
  transferred_iff : (∃ server, report.method = .zoneTransfer server) ↔
    ∃ server records, .transfer zone server (.ok records) ∈ calls ∧ records ≠ []
  /-- Then this is the first server to do so, and nobody was called after it. -/
  transferred : ∀ server, report.method = .zoneTransfer server →
    ∃ before after records, servers = before ++ server :: after ∧
      report.Transferred zone before server records calls
  /-- Otherwise all servers refused, and probes were sent after a question for the wildcard. -/
  swept : report.method = .bruteForce →
    ∃ refused first reply probes, servers.head? = some first ∧
      List.Forall₂ (fun server call => call.Refused zone server) servers refused ∧
      calls = refused ++ .query ⟨"*." ++ zone, .a, true⟩ first reply :: probes ∧
      report.Swept zone servers probes
  /-- With servers that always give the same, the first one that has records gives them. -/
  steady : ∀ zones : Address → Except Failure (List Record),
    (∀ server reply, .transfer zone server reply ∈ calls → reply = zones server) →
    ∀ server, report.method = .zoneTransfer server ↔
      servers.find? (fun server => givesRecords (zones server)) = some server

/-- Probes transfer nothing. -/
theorem Swept.transfer_notMem {report : ScanReport} {zone : String} {servers : List Address}
    {probes : List Call} (h : report.Swept zone servers probes) (other : String) (server : Address)
    (reply : Except Failure (List Record)) : .transfer other server reply ∉ probes := by
  intro hmem
  obtain ⟨q, -, hq⟩ := List.mem_map.mp (h.asked.mem_iff.mp (List.mem_map_of_mem hmem))
  cases hq

end ScanReport

section Refusals

variable {zone : String} {servers : List Address} {refused : List Call}
  {zones : Address → Except Failure (List Record)}

/-- Servers that refuse give no records. -/
theorem givesRecords_of_mem_refused
    (h : List.Forall₂ (fun server call => call.Refused zone server) servers refused)
    {other : String} {server : Address} {reply : Except Failure (List Record)}
    (hmem : .transfer other server reply ∈ refused) : givesRecords reply = false := by
  obtain ⟨_, -, _, hcall, hnone⟩ := exists_mem_of_forall₂ h hmem
  cases hcall
  exact hnone

/-- Servers that refuse, and always reply the same, have no records to give. -/
theorem givesRecords_of_refused
    (h : List.Forall₂ (fun server call => call.Refused zone server) servers refused)
    (hzones : ∀ server reply, .transfer zone server reply ∈ refused → reply = zones server) :
    ∀ server ∈ servers, givesRecords (zones server) = false := by
  intro server hserver
  have hflip : List.Forall₂ (fun call server => call.Refused zone server) refused servers := h.flip
  obtain ⟨call, hcall, reply, rfl, hnone⟩ := exists_mem_of_forall₂ hflip hserver
  rwa [← hzones server reply hcall]

/-- What is reported of a transfer is what was done. -/
theorem ScanReport.Transferred.reports {report : ScanReport} {before : List Address}
    {server : Address} {records : List Record} {calls : List Call}
    (h : report.Transferred zone before server records calls) (after : List Address) :
    report.Reports zone (before ++ server :: after) calls := by
  obtain ⟨refused, hrefused, rfl⟩ := h.calls_eq
  have hgiven : .transfer zone server (.ok records) ∈
      refused ++ [.transfer zone server (.ok records)] :=
    List.mem_append_right _ (List.mem_cons_self ..)
  constructor
  · exact ⟨fun _ => ⟨server, records, hgiven, h.found⟩, fun _ => ⟨server, h.method⟩⟩
  · intro other hother
    cases h.method.symm.trans hother
    exact ⟨before, after, records, rfl, h⟩
  · intro hsweep
    cases h.method.symm.trans hsweep
  · intro zones hzones other
    have hnone := givesRecords_of_refused hrefused fun server reply hmem =>
      hzones server reply (List.mem_append_left _ hmem)
    have hfind : (before ++ server :: after).find? (fun server => givesRecords (zones server)) =
        some server := by
      refine List.find?_eq_some_iff_append.mpr ⟨?_, before, after, rfl, fun other hother => ?_⟩
      · rw [← hzones server _ hgiven]
        exact givesRecords_ok_iff.mpr h.found
      · rw [hnone other hother]
        rfl
    rw [hfind, h.method, ScanMethod.zoneTransfer.injEq, Option.some.injEq]

/-- What is reported of a sweep is what was done. -/
theorem ScanReport.Swept.reports {report : ScanReport} {first : Address}
    {reply : Except Failure Answer} {probes : List Call} (h : report.Swept zone servers probes)
    (hfirst : servers.head? = some first)
    (hrefused : List.Forall₂ (fun server call => call.Refused zone server) servers refused) :
    report.Reports zone servers
      (refused ++ .query ⟨"*." ++ zone, .a, true⟩ first reply :: probes) := by
  constructor
  · constructor
    · rintro ⟨server, hserver⟩
      cases h.method.symm.trans hserver
    · rintro ⟨server, records, hmem, hne⟩
      rcases List.mem_append.mp hmem with hmem | hmem
      · have hnone := givesRecords_of_mem_refused hrefused hmem
        rw [givesRecords_ok_iff.mpr hne] at hnone
        cases hnone
      · rcases List.mem_cons.mp hmem with hquery | hmem
        · cases hquery
        · exact absurd hmem (h.transfer_notMem zone server _)
  · intro server hserver
    cases h.method.symm.trans hserver
  · exact fun _ => ⟨refused, first, reply, probes, hfirst, hrefused, rfl, h⟩
  · intro zones hzones server
    have hnone := givesRecords_of_refused hrefused fun server reply hmem =>
      hzones server reply (List.mem_append_left _ hmem)
    rw [List.find?_eq_none.mpr fun server hserver => by rw [hnone server hserver]; decide, h.method]
    exact ⟨nofun, nofun⟩

end Refusals

namespace Resolver

variable {address : Address} {zone : String} {started : Duration} {servers : List Address}
  {calls : List Call}

/-- Servers are asked for a zone up to the first that gives any records. -/
theorem run_tryTransfers {outcome : Option ScanReport}
    (h : ((ofAddress address).tryTransfers zone started servers).Run calls outcome) :
    (outcome = none ∧ List.Forall₂ (fun server call => call.Refused zone server) servers calls) ∨
      ∃ report before server after records, outcome = some report ∧
        servers = before ++ server :: after ∧
        report.Transferred zone before server records calls := by
  induction servers generalizing calls with
  | nil =>
    obtain ⟨rfl, rfl⟩ := run_pure_iff.mp h
    exact .inl ⟨rfl, .nil⟩
  | cons server rest ih =>
    rw [tryTransfers] at h
    obtain ⟨_, _, attempt, hattempt, hasked, rfl⟩ := run_bind_iff.mp h
    obtain rfl := run_watch_iff.mp hattempt
    obtain ⟨_, more, reply, hreply, hafter, rfl⟩ := run_bind_iff.mp hasked
    obtain rfl := run_transfer_iff.mp hreply
    split at hafter
    · next record records =>
      obtain ⟨_, _, now, hnow, hreport, rfl⟩ := run_bind_iff.mp hafter
      obtain rfl := run_watch_iff.mp hnow
      obtain ⟨rfl, rfl⟩ := run_pure_iff.mp hreport
      refine .inr ⟨_, [], server, rest, record :: records, rfl, rfl, ?_⟩
      exact
        { method := rfl
          found := List.cons_ne_nil record records
          verbatim := rfl
          sent := rfl
          received := rfl
          failed := rfl
          calls_eq := ⟨[], .nil, rfl⟩ }
    · next hnone =>
      have hrefused : Call.Refused (.transfer zone server reply) zone server := by
        refine ⟨reply, rfl, ?_⟩
        unfold givesRecords
        split
        · next record records => exact absurd rfl (hnone record records)
        · rfl
      rcases ih hafter with ⟨rfl, hall⟩ |
        ⟨report, before, found, after, records, rfl, rfl, htransferred⟩
      · exact .inl ⟨rfl, .cons hrefused hall⟩
      · exact .inr ⟨report, server :: before, found, after, records, rfl, rfl,
          htransferred.cons hrefused⟩

/-- The wildcard takes one question. -/
theorem exists_of_run_wildcardRecords {server : Address} {records : List Record}
    (h : ((ofAddress address).wildcardRecords zone server).Run calls records) :
    ∃ reply, calls = [.query ⟨"*." ++ zone, .a, true⟩ server reply] := by
  obtain ⟨_, _, set, hset, hrest, rfl⟩ := run_bind_iff.mp h
  obtain ⟨reply, rfl, -⟩ := run_recordSet_iff.mp hset
  refine ⟨reply, ?_⟩
  cases set <;> obtain ⟨rfl, -⟩ := run_pure_iff.mp hrest <;> rfl

/-- A sweep over the servers of a zone takes one question for the wildcard and then its probes. -/
theorem exists_of_run_bruteForce {qps : Nat} {first : Address}
    {result : Except Failure ScanReport}
    (h : ((ofAddress address).bruteForce qps zone started first servers).Run calls result) :
    ∃ reply wildcard probes outcome elapsed,
      calls = .query ⟨"*." ++ zone, .a, true⟩ first reply :: probes ∧
      (Process.client.sweep qps servers (.ofRecords wildcard) (Dictionary.requests zone)).Run probes
        outcome ∧
      result = outcome.map fun sweep =>
        { domain := zone
          method := .bruteForce
          responses := sweep.responses
          wildcardRecords := wildcard
          probesSent := (Dictionary.requests zone).length
          probesReceived := sweep.received
          probesFailed := sweep.failed
          elapsed } := by
  obtain ⟨_, rest, wildcard, hwildcard, hafter, rfl⟩ := run_bind_iff.mp h
  obtain ⟨reply, rfl⟩ := exists_of_run_wildcardRecords hwildcard
  obtain ⟨probes, last, outcome, hsweep, hreport, rfl⟩ := run_bind_iff.mp hafter
  cases outcome with
  | error failure =>
    obtain ⟨rfl, rfl⟩ := run_pure_iff.mp hreport
    exact ⟨reply, wildcard, probes, _, .zero, by simp, hsweep, rfl⟩
  | ok sweep =>
    obtain ⟨_, _, now, hnow, hlast, rfl⟩ := run_bind_iff.mp hreport
    obtain rfl := run_watch_iff.mp hnow
    obtain ⟨rfl, rfl⟩ := run_pure_iff.mp hlast
    exact ⟨reply, wildcard, probes, _, _, by simp, hsweep, rfl⟩

/-- A sweep over the servers of a zone comes to a report of what the probes brought, after one
question for the wildcard. -/
theorem run_bruteForce {qps : Nat} {first : Address} {result : Except Failure ScanReport}
    (hservers : servers ≠ [])
    (h : ((ofAddress address).bruteForce qps zone started first servers).Run calls result) :
    ∃ report reply probes, result = .ok report ∧
      calls = .query ⟨"*." ++ zone, .a, true⟩ first reply :: probes ∧
      report.Swept zone servers probes := by
  obtain ⟨reply, wildcard, probes, outcome, elapsed, rfl, hsweep, rfl⟩ := exists_of_run_bruteForce h
  obtain ⟨responses, rfl, hrequests, hrests, hasked⟩ := run_sweep hservers hsweep
  have hsize : (Dictionary.requests zone).length = 371 :=
    (Dictionary.length_requests zone).trans Dictionary.size_eq
  have hcount : responses.length = (Dictionary.requests zone).length := by
    rw [← hrequests.length_eq, List.length_map]
  rw [SweepResult.collect_eq, if_neg (by omega)]
  refine ⟨_, reply, probes, rfl, rfl, ?_⟩
  refine
    { method := rfl
      sent := hsize
      received := hcount.trans hsize
      asked := hasked
      rests := fun response hresponse => ?_ }
  obtain ⟨found, hfound, hkept⟩ := List.mem_filterMap.mp hresponse
  obtain ⟨hserver, hrests⟩ := hrests found hfound
  have hrequest := hrequests.mem_iff.mp (List.mem_map_of_mem hfound)
  unfold WildcardSet.keep? at hkept
  split at hkept
  · cases hkept
  · cases hkept
    exact ⟨hserver, hrequest, fun record hrecord =>
      hrests record (WildcardSet.mem_filter_iff.mp hrecord).1⟩

/-- Servers are asked for the zone first, and are swept if none gives any records. -/
theorem exists_of_run_scanServers {qps : Nat} {result : Except Failure ScanReport}
    (hservers : servers ≠ [])
    (h : ((ofAddress address).scanServers qps zone started servers).Run calls result) :
    (∃ report before server after records, result = .ok report ∧
        servers = before ++ server :: after ∧
        report.Transferred zone before server records calls) ∨
      ∃ refused first rest, servers.head? = some first ∧
        List.Forall₂ (fun server call => call.Refused zone server) servers refused ∧
        calls = refused ++ rest ∧
        ((ofAddress address).bruteForce qps zone started first servers).Run rest result := by
  cases servers with
  | nil => exact absurd rfl hservers
  | cons first others =>
    obtain ⟨refused, rest, outcome, htry, hafter, rfl⟩ := run_bind_iff.mp h
    rcases run_tryTransfers htry with ⟨rfl, hall⟩ |
      ⟨report, before, server, after, records, rfl, hsplit, htransferred⟩
    · exact .inr ⟨refused, first, rest, rfl, hall, rfl, hafter⟩
    · obtain ⟨rfl, rfl⟩ := run_pure_iff.mp hafter
      rw [List.append_nil]
      exact .inl ⟨report, before, server, after, records, rfl, hsplit, htransferred⟩

/-- Servers come to a report, be it of a transfer or of a sweep. -/
theorem run_scanServers {qps : Nat} {result : Except Failure ScanReport} (hservers : servers ≠ [])
    (h : ((ofAddress address).scanServers qps zone started servers).Run calls result) :
    ∃ report, result = .ok report ∧
      ((∃ before server after records, servers = before ++ server :: after ∧
          report.Transferred zone before server records calls) ∨
        ∃ refused first reply probes, servers.head? = some first ∧
          List.Forall₂ (fun server call => call.Refused zone server) servers refused ∧
          calls = refused ++ .query ⟨"*." ++ zone, .a, true⟩ first reply :: probes ∧
          report.Swept zone servers probes) := by
  rcases exists_of_run_scanServers hservers h with
    ⟨report, before, server, after, records, rfl, hsplit, htransferred⟩ |
      ⟨refused, first, rest, hfirst, hrefused, rfl, hsweep⟩
  · exact ⟨report, rfl, .inl ⟨before, server, after, records, hsplit, htransferred⟩⟩
  · obtain ⟨report, reply, probes, rfl, rfl, hswept⟩ := run_bruteForce hservers hsweep
    exact ⟨report, rfl, .inr ⟨refused, first, reply, probes, hfirst, hrefused, rfl, hswept⟩⟩

/-- A scan looks for the servers of the domain, and then scans these. -/
theorem exists_of_run_scan {qps : Nat} {domain : String} {cache known : NameserverCache}
    {result : Except Failure ScanReport}
    (h : ((ofAddress address).scan qps domain).Run cache calls result known) :
    ∃ lookups found, ((ofAddress address).findAddresses domain).Run cache lookups found known ∧
      ((∃ failure, found = .error failure ∧ result = .error failure ∧ calls = lookups) ∨
        ∃ servers started rest, found = .ok servers ∧ calls = lookups ++ rest ∧
          ((ofAddress address).scanServers qps (Name.fqdn domain) started servers).Run rest
            result) := by
  obtain ⟨started, _, _, hstarted, hscan, rfl⟩ := Lookup.run_lift_ok_bind_iff.mp h
  obtain rfl := run_watch_iff.mp hstarted
  rw [List.nil_append]
  rcases Lookup.run_bind_iff.mp hscan with
    ⟨failure, hfind, rfl⟩ | ⟨servers, lookups, mid, rest, hfind, hservers, rfl⟩
  · rw [findAddresses_fqdn] at hfind
    exact ⟨_, _, hfind, .inl ⟨failure, rfl, rfl, rfl⟩⟩
  · rw [findAddresses_fqdn] at hfind
    obtain ⟨hrun, rfl⟩ := Lookup.run_lift_iff.mp hservers
    exact ⟨_, _, hfind, .inr ⟨servers, started, rest, rfl, rfl, hrun⟩⟩

/-- Whatever the replies and the order of the probes, a scan that finds servers comes to a report
that tells what was done. If a server gives any records when it is asked for the zone, they are
reported as they came: the servers before it were asked once and refused, none after it was asked,
and no question was put but those of the search for servers. Otherwise every server was asked once
and refused, all probes come to an end, and all records came back from probes. -/
theorem scan_transfers_or_sweeps {qps : Nat} {domain : String} {cache known : NameserverCache}
    {result : Except Failure ScanReport}
    (run : ((ofAddress address).scan qps domain).Run cache calls result known) :
    ∃ lookups found rest,
      ((ofAddress address).findAddresses domain).Run cache lookups found known ∧
      calls = lookups ++ rest ∧ (∀ call ∈ lookups, call.IsLookup address) ∧
      ∀ servers, found = .ok servers → servers ≠ [] →
        ∃ report, result = .ok report ∧ report.Reports (Name.fqdn domain) servers rest := by
  obtain ⟨lookups, found, hfind, hscan⟩ := exists_of_run_scan run
  have hlookups := isLookup_of_run_findAddresses hfind
  rcases hscan with ⟨failure, rfl, -, rfl⟩ | ⟨servers, started, rest, rfl, rfl, hscan⟩
  · exact ⟨_, _, [], hfind, (List.append_nil _).symm, hlookups, nofun⟩
  refine ⟨lookups, _, rest, hfind, rfl, hlookups, ?_⟩
  rintro _ ⟨⟩ hservers
  obtain ⟨report, rfl, ⟨before, server, after, records, rfl, htransferred⟩ |
    ⟨refused, first, reply, probes, hfirst, hrefused, rfl, hswept⟩⟩ :=
    run_scanServers hservers hscan
  · exact ⟨report, rfl, htransferred.reports after⟩
  · exact ⟨report, rfl, hswept.reports hfirst hrefused⟩

/-- The second of three servers gives a zone with a record that stands twice. -/
theorem scan_transfers_or_sweeps_second_server :
    let server (n : UInt8) : Address := .v4 ⟨192, 0, 2, n⟩
    let servers := [server 1, server 2, server 3]
    let records : List Record := [⟨"a.", 60, .txt ["x"]⟩, ⟨"a.", 60, .txt ["x"]⟩]
    let cache : NameserverCache := ⟨[("a.", [⟨"ns.a.", servers⟩])]⟩
    ∃ calls report known,
      ((ofAddress (server 53)).scan 10 "a").Run cache calls (.ok report) known ∧
      servers ≠ [] ∧ report.method = .zoneTransfer (server 2) ∧
      report.responses.map (·.records) = [records] ∧ report.Reports "a." servers calls := by
  intro server servers records cache
  let world (_ : List Call) := Effect.reply
    { query := fun q _ => .error (.timeout q.name)
      transfer := fun zone asked =>
        if asked = server 2 then .ok records else .error (.timeout zone) } 50
  let report := transferReport "a." (server 2) records .zero .zero
  let scan := (ofAddress (server 53)).scan 10 "a"
  obtain ⟨calls, known, hrun⟩ : ∃ calls known, scan.Run cache calls (.ok report) known := by
    have hrun := Lookup.run_play world cache scan
    have hreport : (scan.play world cache).2.1 = .ok report := by decide +kernel
    rw [hreport] at hrun
    exact ⟨_, _, hrun⟩
  obtain ⟨lookups, found, rest, hfind, rfl, -, hreports⟩ := scan_transfers_or_sweeps hrun
  -- The servers are known, so that the search for them makes no calls.
  obtain ⟨_, hknown, rfl⟩ := run_findAddresses_iff.mp hfind
  have hentry : cache.get? (Name.fqdn "a") = some [⟨"ns.a.", servers⟩] := by decide +kernel
  obtain ⟨rfl, rfl, -⟩ := (run_findNameservers_of_known hentry).mp hknown
  have hservers : Nameserver.allAddresses [⟨"ns.a.", servers⟩] = servers := by decide +kernel
  have hzone : Name.fqdn "a" = "a." := by decide +kernel
  obtain ⟨_, hsame, htold⟩ := hreports servers (congrArg Except.ok hservers) (by decide)
  cases hsame
  rw [hzone] at htold
  exact ⟨rest, report, _, hrun, by decide, rfl, rfl, htold⟩

end Resolver

end DnsHealth
