import DnsHealth.Proofs.Nameserver.Search
import DnsHealth.Proofs.Scan.Transfers

/-!
# Whom a scan calls

A scan calls the servers of its domain and nobody else, once they are found. It asks them for the
zone one after the other, each once, until one gives any records; if none does, each server gets a
worker of its own. In whatever way the workers take turns, the calls of one server are the questions
of its share, one after the other. Only the question for the wildcard comes in addition.
-/

namespace DnsHealth

/-- The server that is called. -/
def Call.server : Call → Address
  | query _ server _ => server
  | transfer _ server _ => server

private theorem Call.server_of_mem_puts {server : Address} {questions : List Question}
    {calls : List Call} (h : List.Forall₂ (Call.Puts server) questions calls) :
    ∀ call ∈ calls, call.server = server := by
  intro call hcall
  obtain ⟨q, -, reply, rfl⟩ := exists_mem_of_forall₂ h hcall
  rfl

/-- Probes are shared out among servers: each has one worker, that asks nobody else. -/
structure SharedOut (servers : List Address) (requests : List ScanRequest) (probes : List Call) :
    Prop where
  /-- The calls of a server are the questions of its share, one after the other. -/
  worker : ∀ server i, (server, i) ∈ servers.zipIdx →
    List.Forall₂ (Call.Puts server)
      ((everyFrom i servers.length requests).flatMap ScanRequest.questions)
      (probes.filter fun call => call.server = server)
  /-- Nobody else is called. -/
  server_mem : ∀ call ∈ probes, call.server ∈ servers

namespace Process

variable {servers : List Address} {requests : List ScanRequest} {wildcard : WildcardSet}
  {calls : List Call}

/-- A sweep over servers, none of which stands twice, runs one worker for each. -/
theorem sharedOut_of_run_sweep {qps : Nat} {result : Except Failure SweepResult}
    (hnodup : servers.Nodup)
    (h : (client.sweep qps servers wildcard requests).Run calls result) :
    SharedOut servers requests calls := by
  obtain ⟨interval, parts, hparts, -, hmixed⟩ := exists_parts_of_run_sweep h
  have hputs : List.Forall₂ (fun (p : Address × Nat) (part : List Call) =>
      List.Forall₂ (Call.Puts p.1)
        ((everyFrom p.2 servers.length requests).flatMap ScanRequest.questions) part)
      servers.zipIdx (parts.map (·.1)) :=
    List.forall₂_map_right_iff.mpr (hparts.imp fun p part hrun => (run_work hrun).2.2)
  have hkeys : List.Forall₂ (fun server part => ∀ call ∈ part, call.server = server)
      servers (parts.map (·.1)) := by
    rw [← List.zipIdx_map_fst 0 servers, List.forall₂_map_left_iff]
    exact hputs.imp fun p part hpart => Call.server_of_mem_puts hpart
  -- However the calls are mixed, those of a worker are told by their server, as none stands twice.
  have hown : parts.map (·.1) =
      servers.zipIdx.map fun p => calls.filter fun call => call.server = p.1 := by
    rw [hmixed.eq_map_filter hkeys hnodup]
    conv_lhs => rw [← List.zipIdx_map_fst 0 servers, List.map_map]
    rfl
  rw [hown, List.forall₂_map_right_iff, List.forall₂_same] at hputs
  refine ⟨fun server i hmem => hputs (server, i) hmem, fun call hcall => ?_⟩
  obtain ⟨part, hpart, hcall⟩ := List.mem_flatten.mp (hmixed.perm.mem_iff.mp hcall)
  obtain ⟨server, hserver, hkey⟩ := exists_mem_of_forall₂ hkeys hpart
  exact hkey call hcall ▸ hserver

end Process

/-- Whom a scan calls: the recursive resolver while it looks for the servers of the zone, and from
then on these. -/
inductive ScanCourse (address : Address) (zone : String) (cache known : NameserverCache) :
    List Call → Prop where
  /-- The servers of the zone are not found. -/
  | unknown {lookups : List Call} {failure : Failure}
      (own : ((Resolver.ofAddress address).findAddresses zone).Run cache lookups
        (.error failure) known) :
      ScanCourse address zone cache known lookups
  /-- The nameservers of the zone have no addresses. -/
  | noServers {lookups : List Call}
      (own : ((Resolver.ofAddress address).findAddresses zone).Run cache lookups (.ok []) known) :
      ScanCourse address zone cache known lookups
  /-- A server gives records when it is asked for the zone. The servers before it were asked and
  gave none, and nobody is called after it. -/
  | transferred {lookups refused : List Call} {before after : List Address} {server : Address}
      {records : List Record}
      (own : ((Resolver.ofAddress address).findAddresses zone).Run cache lookups
        (.ok (before ++ server :: after)) known)
      (refusals : List.Forall₂ (fun server call => call.Refused zone server) before refused)
      (given : records ≠ []) :
      ScanCourse address zone cache known
        (lookups ++ refused ++ [.transfer zone server (.ok records)])
  /-- All servers were asked for the zone and gave no records. They share the probes, after one
  question for the wildcard. -/
  | swept {lookups refused probes : List Call} {servers : List Address} {first : Address}
      {reply : Except Failure Answer}
      (own : ((Resolver.ofAddress address).findAddresses zone).Run cache lookups
        (.ok servers) known)
      (refusals : List.Forall₂ (fun server call => call.Refused zone server) servers refused)
      (head : servers.head? = some first)
      (shared : SharedOut servers (Dictionary.requests zone) probes) :
      ScanCourse address zone cache known
        (lookups ++ refused ++ .query ⟨"*." ++ zone, .a, true⟩ first reply :: probes)

namespace Resolver

variable {address : Address} {domain : String} {cache known : NameserverCache} {calls : List Call}

/-- Whatever the replies and the turns of the workers, a scan takes one of these courses. -/
theorem scanCourse_of_run {qps : Nat} {result : Except Failure ScanReport}
    (h : ((ofAddress address).scan qps domain).Run cache calls result known) :
    ScanCourse address (Name.fqdn domain) cache known calls := by
  obtain ⟨lookups, found, hown, hscan⟩ := exists_of_run_scan h
  rw [← findAddresses_fqdn] at hown
  rcases hscan with ⟨failure, rfl, -, rfl⟩ | ⟨servers, started, rest, rfl, rfl, hscan⟩
  · exact .unknown hown
  by_cases hservers : servers = []
  · subst hservers
    obtain ⟨rfl, -⟩ := Process.run_pure_iff.mp hscan
    rw [List.append_nil]
    exact .noServers hown
  rcases exists_of_run_scanServers hservers hscan with
    ⟨report, before, server, after, records, -, rfl, htransferred⟩ |
      ⟨refused, first, more, hfirst, hrefused, rfl, hsweep⟩
  · obtain ⟨refused, hrefused, rfl⟩ := htransferred.calls_eq
    rw [← List.append_assoc]
    exact .transferred hown hrefused htransferred.found
  · obtain ⟨reply, wildcard, probes, outcome, elapsed, rfl, hsweep, -⟩ :=
      exists_of_run_bruteForce hsweep
    obtain ⟨nameservers, -, hplaces⟩ := firstPlaces_of_run_findAddresses hown
    rw [← List.append_assoc]
    exact .swept hown hrefused hfirst (Process.sharedOut_of_run_sweep hplaces.nodup hsweep)

end Resolver

end DnsHealth
