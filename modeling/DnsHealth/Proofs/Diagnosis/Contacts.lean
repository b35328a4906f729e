import DnsHealth.Proofs.Chain.Acceptance
import DnsHealth.Proofs.Chain.Turns
import DnsHealth.Proofs.Scan.Workers

/-!
# Every address has one turn

A search for the nameservers of a domain gives an entry for every nameserver that is named, and the
addresses of all entries are put together without repetitions, the first place counting. So whoever
goes through them calls an address once at most: a validation asks each for keys, or for delegation
signers, until a reply cannot be taken in, and a scan asks each for the zone until one gives it, and
otherwise runs one worker for each.
-/

namespace DnsHealth.Resolver

open Process

/-- This is so whatever the replies are and whichever turns the workers take. A search, if nothing
is known of the domain, gives one entry for each nameserver in the answer, in the order of the
answer, with the IPv4 and then the IPv6 addresses that were found, at their first places; given an
answer it fails only if that names none. The addresses of a domain are those of its entries at
their first places, and also those that were found, as if no entry had left out repetitions; nobody
but the recursive resolver is called to find them. The validation of a zone asks the addresses of
the zone for keys in turn, all of them unless a reply cannot be taken in, and so the addresses of
the parent for delegation signers. A scan asks the addresses of the domain for the zone in turn, up
to the first that gives records, and if none does it runs one worker for each. -/
theorem addresses_take_turns (address : Address) :
    (∀ domain cache calls result known, cache.get? (Name.fqdn domain) = none →
      ((ofAddress address).findNameservers domain).Run cache calls result known →
      SearchOutcome address (Name.fqdn domain) calls result) ∧
    (∀ domain cache calls found known,
      ((ofAddress address).findAddresses domain).Run cache calls found known →
      (∀ call ∈ calls, call.IsLookup address) ∧
      ∀ addresses, found = .ok addresses → ∃ nameservers,
        ((ofAddress address).findNameservers domain).Run cache calls (.ok nameservers) known ∧
        FirstPlaces (nameservers.flatMap (·.addresses)) addresses ∧
        ∀ lookups, List.Forall₂ HostLookup.LeadsTo lookups nameservers →
          FirstPlaces (lookups.flatMap HostLookup.found) addresses) ∧
    (∀ v now zone cache calls result known,
      ((ofAddress address).validateZone v now zone).Run cache calls result known →
      ZoneCourse address v now (Name.fqdn zone) cache known calls result) ∧
    (∀ qps domain cache calls result known,
      ((ofAddress address).scan qps domain).Run cache calls result known →
      ScanCourse address (Name.fqdn domain) cache known calls) := by
  refine ⟨?_, ?_, ?_, ?_⟩
  · intro domain cache calls result known hunknown hrun
    obtain ⟨hsearch, -⟩ := run_findNameservers_of_unknown hunknown hrun
    exact run_search_iff.mp hsearch
  · intro domain cache calls found known hrun
    refine ⟨isLookup_of_run_findAddresses hrun, ?_⟩
    rintro addresses rfl
    obtain ⟨nameservers, hfind, hplaces⟩ := firstPlaces_of_run_findAddresses hrun
    refine ⟨nameservers, hfind, hplaces, fun lookups hentries => ?_⟩
    rw [firstPlaces_iff.mp hplaces]
    exact HostLookup.firstPlaces_found hentries
  · intro v now zone cache calls result known hrun
    exact zoneCourse_of_run hrun
  · intro qps domain cache calls result known hrun
    exact scanCourse_of_run hrun

/-- Two hosts with an address in common, whose IPv6 addresses cannot be had. The validation
succeeds, and calls the recursive resolver, all three addresses, the resolver again, and then the
addresses of the parent. -/
theorem addresses_take_turns_two_hosts :
    let server (n : UInt8) : Address := .v4 ⟨192, 0, 2, n⟩
    let ksk : Dnskey := ⟨257, 3, 8, [1, 2]⟩
    let nameservers : List Nameserver :=
      [⟨"ns.a.", [server 1, server 2]⟩, ⟨"nt.a.", [server 2, server 3]⟩]
    let addresses := [server 1, server 2, server 3]
    let validation : ZoneValidation := ⟨"a.", 1, some ⟨10, 100⟩, [ksk.keyTag]⟩
    let r := ofAddress (server 53)
    NameserverCache.empty.get? (Name.fqdn "a") = none ∧
    (∃ calls known, (r.findNameservers "a").Run .empty calls (.ok nameservers) known ∧
      SearchOutcome (server 53) (Name.fqdn "a") calls (.ok nameservers)) ∧
    (∃ calls known, (r.findAddresses "a").Run .empty calls (.ok addresses) known ∧
      (∀ call ∈ calls, call.IsLookup (server 53)) ∧
      ∃ entries, (r.findNameservers "a").Run .empty calls (.ok entries) known ∧
        FirstPlaces (entries.flatMap (·.addresses)) addresses) ∧
    (∃ calls known, (r.validateZone .repeating 50 "a").Run .empty calls (.ok validation) known ∧
      calls.map Call.server = [server 53, server 53, server 53, server 53, server 53,
        server 1, server 2, server 3, server 53, server 53, server 53, server 1, server 2] ∧
      ZoneCourse (server 53) .repeating 50 (Name.fqdn "a") .empty known calls (.ok validation)) ∧
    ∃ calls result known, (r.scan 10 "a").Run .empty calls result known ∧
      ScanCourse (server 53) (Name.fqdn "a") .empty known calls := by
  intro server ksk nameservers addresses validation r
  let answers (q : Question) (asked : Address) : Except Failure Answer :=
    if q.recordType = .aaaa then .error (.timeout asked.text)
    else if q.recordType = .ns ∧ q.name = "a." then
      .ok ⟨[⟨"a.", 60, .ns "ns.a."⟩, ⟨"a.", 60, .ns "nt.a."⟩], [], true, true, asked, .zero⟩
    else if q.name = "nt.a." then uniformAnswers [⟨192, 0, 2, 2⟩, ⟨192, 0, 2, 3⟩] [] [] q asked
    else uniformAnswers [⟨192, 0, 2, 1⟩, ⟨192, 0, 2, 2⟩]
      [.dnskey ksk, .rrsig (.repeating ksk)] [.ds (.repeating "a." 2 ksk)] q asked
  let world (_ : List Call) := Effect.reply
    { query := answers
      transfer := fun zone _ => .error (.timeout zone) } 50
  obtain ⟨hsearch, hfind, hvalidate, hscan⟩ := addresses_take_turns (server 53)
  have hunknown : NameserverCache.empty.get? (Name.fqdn "a") = none := by decide +kernel
  refine ⟨hunknown, ?_, ?_, ?_, ?_⟩
  · have hrun := Lookup.run_play world .empty (r.findNameservers "a")
    have hresult : ((r.findNameservers "a").play world .empty).2.1 = .ok nameservers := by
      decide +kernel
    rw [hresult] at hrun
    exact ⟨_, _, hrun, hsearch _ _ _ _ _ hunknown hrun⟩
  · have hrun := Lookup.run_play world .empty (r.findAddresses "a")
    have hresult : ((r.findAddresses "a").play world .empty).2.1 = .ok addresses := by
      decide +kernel
    rw [hresult] at hrun
    obtain ⟨hlookups, hfound⟩ := hfind _ _ _ _ _ hrun
    obtain ⟨entries, hentries, hplaces, -⟩ := hfound addresses rfl
    exact ⟨_, _, hrun, hlookups, entries, hentries, hplaces⟩
  · have hrun := Lookup.run_play world .empty (r.validateZone .repeating 50 "a")
    have hresult : ((r.validateZone .repeating 50 "a").play world .empty).2.1 =
        .ok validation := by decide +kernel
    rw [hresult] at hrun
    exact ⟨_, _, hrun, by decide +kernel, hvalidate _ _ _ _ _ _ _ hrun⟩
  · have hrun := Lookup.run_play world .empty (r.scan 10 "a")
    exact ⟨_, _, _, hrun, hscan _ _ _ _ _ _ hrun⟩

/-- A domain with two addresses. The first of them is silent when it is asked for keys, so that the
validation ends before the second is called; it gives the zone when a scan asks for it, which ends
before the second too. -/
theorem address_left_out :
    let server (n : UInt8) : Address := .v4 ⟨192, 0, 2, n⟩
    let r := ofAddress (server 53)
    (∃ lookups known, (r.findAddresses "a").Run .empty lookups (.ok [server 1, server 2]) known) ∧
    (∃ calls failure known, (r.validateZone .repeating 50 "a").Run .empty calls (.error failure)
        known ∧
      ∀ call ∈ calls, call.server ≠ server 2) ∧
    ∃ calls report known, (r.scan 10 "a").Run .empty calls (.ok report) known ∧
      ∀ call ∈ calls, call.server ≠ server 2 := by
  intro server r
  let answers (q : Question) (asked : Address) : Except Failure Answer :=
    if asked = server 53 then uniformAnswers [⟨192, 0, 2, 1⟩, ⟨192, 0, 2, 2⟩] [] [] q asked
    else .error (.timeout asked.text)
  let world (_ : List Call) := Effect.reply
    { query := answers
      transfer := fun zone _ => .ok [⟨zone, 60, .a ⟨192, 0, 2, 7⟩⟩] } 50
  refine ⟨?_, ?_, ?_⟩
  · have hrun := Lookup.run_play world .empty (r.findAddresses "a")
    have hresult : ((r.findAddresses "a").play world .empty).2.1 = .ok [server 1, server 2] := by
      decide +kernel
    rw [hresult] at hrun
    exact ⟨_, _, hrun⟩
  · have hrun := Lookup.run_play world .empty (r.validateZone .repeating 50 "a")
    have hresult : ((r.validateZone .repeating 50 "a").play world .empty).2.1 =
        .error (.zoneQueryFailed "a." (.timeout "192.0.2.1")) := by decide +kernel
    rw [hresult] at hrun
    exact ⟨_, _, _, hrun, by decide +kernel⟩
  · have hrun := Lookup.run_play world .empty (r.scan 10 "a")
    have hresult : ((r.scan 10 "a").play world .empty).2.1 =
        .ok (transferReport "a." (server 1) [⟨"a.", 60, .a ⟨192, 0, 2, 7⟩⟩] .zero .zero) := by
      decide +kernel
    rw [hresult] at hrun
    exact ⟨_, _, _, hrun, by decide +kernel⟩

end DnsHealth.Resolver
