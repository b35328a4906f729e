import DnsHealth.Proofs.Nameserver.Runs
import DnsHealth.Proofs.Repetitions

/-!
# What a search for nameservers finds

A search asks a recursive resolver for the nameservers of a domain, and then for the addresses of
each, IPv4 before IPv6. A host whose addresses cannot be had has none, and takes nothing away from
the others: a search fails exactly if the first question brings no nameserver. An address stands at
its first place only, in the list of its host and in the list of all; it makes no difference for the
latter that repetitions have been left out of the former.
-/

namespace DnsHealth

/-- A record names a nameserver exactly if it is of that type. -/
theorem Record.isSome_ns?_iff (r : Record) : r.ns?.isSome = true ↔ r.type = .ns := by
  obtain ⟨name, ttl, data⟩ := r
  cases data <;> simp [Record.ns?, Record.type, RecordData.type]

/-- The nameservers in a list of records are those in its records of that type. -/
theorem Record.filterMap_ns?_ofTypes (records : List Record) :
    (Record.ofTypes [.ns] records).filterMap Record.ns? = records.filterMap Record.ns? := by
  rw [Record.ofTypes, List.filterMap_filter]
  refine List.filterMap_congr fun r _ => ?_
  by_cases htype : r.type = .ns
  · simp [htype]
  · have hnone : r.ns? = none := by
      rw [← Option.not_isSome_iff_eq_none, Record.isSome_ns?_iff]
      exact htype
    simp [htype, hnone]

/-- There are no records of that type exactly if no record names a nameserver. -/
theorem Record.ofTypes_ns_eq_nil_iff (records : List Record) :
    Record.ofTypes [.ns] records = [] ↔ records.filterMap Record.ns? = [] := by
  simp only [Record.ofTypes, List.filter_eq_nil_iff, List.filterMap_eq_nil_iff,
    ← Option.not_isSome_iff_eq_none, Record.isSome_ns?_iff]
  simp

/-- What a recursive resolver replied when it was asked for the addresses of a host. -/
structure HostLookup where
  /-- The host. -/
  host : String
  /-- The reply about its IPv4 addresses. -/
  v4 : Except Failure Answer
  /-- The reply about its IPv6 addresses. -/
  v6 : Except Failure Answer

namespace HostLookup

/-- The addresses of one type in a reply, none if there was no answer. -/
def addressesOf (type : RecordType) : Except Failure Answer → List Address
  | .ok answer => (answer.answers.filter fun r => r.type = type).filterMap Record.address?
  | .error _ => []

/-- They stand in the records that the program picks. -/
theorem addressesOf_ok (type : RecordType) (answer : Answer) :
    addressesOf type (.ok answer) =
      (Record.ofTypes [type] answer.answers).filterMap Record.address? := by
  simp only [addressesOf, Record.ofTypes, List.contains_eq_mem, List.mem_singleton]

/-- The addresses that were found. -/
def found (l : HostLookup) : List Address := addressesOf .a l.v4 ++ addressesOf .aaaa l.v6

/-- The calls that were made. -/
def calls (resolver : Address) (l : HostLookup) : List Call :=
  [.query ⟨l.host, .a, false⟩ resolver l.v4, .query ⟨l.host, .aaaa, false⟩ resolver l.v6]

/-- A lookup leads to an entry for its host, with the addresses that were found. -/
structure LeadsTo (l : HostLookup) (n : Nameserver) : Prop where
  /-- The entry is for the host. -/
  name : n.name = l.host
  /-- An address stands where it was found first. -/
  addresses : FirstPlaces l.found n.addresses

/-- A lookup leads to one entry only. -/
theorem leadsTo_iff {l : HostLookup} {n : Nameserver} :
    l.LeadsTo n ↔ n = .ofAddresses l.host l.found := by
  obtain ⟨name, addresses⟩ := n
  rw [Nameserver.ofAddresses, Nameserver.mk.injEq]
  constructor
  · rintro ⟨hname, hplaces⟩
    exact ⟨hname, firstPlaces_iff.mp hplaces⟩
  · rintro ⟨hname, haddresses⟩
    exact ⟨hname, firstPlaces_iff.mpr haddresses⟩

variable {lookups : List HostLookup} {nameservers : List Nameserver}

/-- Where there are lookups there are entries. -/
theorem ne_nil_of_entries (hsome : lookups ≠ []) (h : List.Forall₂ LeadsTo lookups nameservers) :
    nameservers ≠ [] := by
  rintro rfl
  cases h
  exact hsome rfl

/-- The repetitions that the entries have left out would not have counted in the list of all
addresses. -/
theorem firstPlaces_found (h : List.Forall₂ LeadsTo lookups nameservers) :
    FirstPlaces (lookups.flatMap found) (nameservers.flatMap (·.addresses)).eraseDups := by
  have hlists : nameservers.map (·.addresses) = lookups.map fun l => l.found.eraseDups :=
    map_eq_map_of_forall₂ (h.flip.imp fun _ _ hn => firstPlaces_iff.mp hn.addresses)
  rw [firstPlaces_iff, ← eraseDups_flatMap_eraseDups lookups, List.flatMap_def, List.flatMap_def,
    hlists]

end HostLookup

/-- What a search for the nameservers of a domain comes to, given its calls. -/
inductive SearchOutcome (resolver : Address) (domain : String) :
    List Call → Except Failure (List Nameserver) → Prop where
  /-- There was no answer. -/
  | failed (failure : Failure) :
      SearchOutcome resolver domain [.query ⟨domain, .ns, false⟩ resolver (.error failure)]
        (.error failure)
  /-- The answer names no nameserver. -/
  | empty {answer : Answer} (unnamed : answer.answers.filterMap Record.ns? = []) :
      SearchOutcome resolver domain [.query ⟨domain, .ns, false⟩ resolver (.ok answer)]
        (.error (.noData domain RecordType.ns.mnemonic resolver.text))
  /-- The answer names nameservers, and there is an entry for each, in their order. -/
  | found {answer : Answer} {lookups : List HostLookup} {nameservers : List Nameserver}
      (named : lookups ≠ [])
      (hosts : lookups.map HostLookup.host = answer.answers.filterMap Record.ns?)
      (entries : List.Forall₂ HostLookup.LeadsTo lookups nameservers) :
      SearchOutcome resolver domain
        (.query ⟨domain, .ns, false⟩ resolver (.ok answer) ::
          lookups.flatMap (HostLookup.calls resolver))
        (.ok nameservers)

namespace Resolver

open Process

variable {address : Address} {domain host : String} {calls : List Call}

/-- The addresses of one family take one question. -/
theorem run_hostAddresses_iff {type : RecordType} {found : List Address} :
    ((ofAddress address).hostAddresses host type).Run calls found ↔
      ∃ reply, calls = [.query ⟨host, type, false⟩ address reply] ∧
        HostLookup.addressesOf type reply = found := by
  -- An answer without records of the type is a failure in between, and has no addresses either.
  have hreply : (ofAddress address).hostAddresses host type =
      (Process.client.query ⟨host, type, false⟩ address >>= fun reply =>
        pure (HostLookup.addressesOf type reply)) := by
    simp only [hostAddresses, Client.recordSet, client_ofAddress, address_ofAddress, bind_assoc,
      pure_bind]
    refine bind_congr fun reply => ?_
    cases reply with
    | error failure => rfl
    | ok answer =>
      by_cases hnone : Record.ofTypes [type] answer.answers = []
      · simp only [Answer.recordSet_of_none ⟨host, type, false⟩ address hnone,
          HostLookup.addressesOf_ok, hnone, List.filterMap_nil]
      · simp only [Answer.recordSet_of_some ⟨host, type, false⟩ address hnone,
          HostLookup.addressesOf_ok]
  rw [hreply, run_bind_pure_iff]
  simp only [run_query_iff]

/-- An entry takes two questions, and comes about whatever is replied to them. -/
theorem run_nameserver_iff {n : Nameserver} :
    ((ofAddress address).nameserver host).Run calls n ↔
      ∃ l : HostLookup, l.host = host ∧ calls = l.calls address ∧ l.LeadsTo n := by
  simp only [nameserver, run_bind_iff, run_pure_iff, run_hostAddresses_iff, HostLookup.leadsTo_iff]
  constructor
  · rintro ⟨_, _, _, ⟨v4, rfl, rfl⟩, ⟨_, _, _, ⟨v6, rfl, rfl⟩, ⟨rfl, rfl⟩, rfl⟩, rfl⟩
    exact ⟨⟨host, v4, v6⟩, rfl, rfl, rfl⟩
  · rintro ⟨l, rfl, rfl, rfl⟩
    exact ⟨_, _, _, ⟨l.v4, rfl, rfl⟩, ⟨_, _, _, ⟨l.v6, rfl, rfl⟩, ⟨rfl, rfl⟩, rfl⟩, rfl⟩

/-- The entries for several hosts come about one after the other. -/
theorem run_mapM_nameserver_iff {hosts : List String} {nameservers : List Nameserver} :
    (hosts.mapM (ofAddress address).nameserver).Run calls nameservers ↔
      ∃ lookups : List HostLookup, lookups.map HostLookup.host = hosts ∧
        calls = lookups.flatMap (HostLookup.calls address) ∧
        List.Forall₂ HostLookup.LeadsTo lookups nameservers := by
  induction hosts generalizing calls nameservers with
  | nil =>
    rw [List.mapM_nil, run_pure_iff]
    constructor
    · rintro ⟨rfl, rfl⟩
      exact ⟨[], rfl, rfl, .nil⟩
    · rintro ⟨lookups, hhosts, rfl, hentries⟩
      obtain rfl := List.map_eq_nil_iff.mp hhosts
      cases hentries
      exact ⟨rfl, rfl⟩
  | cons host hosts ih =>
    simp only [List.mapM_cons, run_bind_iff, run_pure_iff, run_nameserver_iff, ih]
    constructor
    · rintro
        ⟨_, _, n, ⟨l, rfl, rfl, hn⟩, ⟨_, _, ns, ⟨lookups, rfl, rfl, hns⟩, ⟨rfl, rfl⟩, rfl⟩, rfl⟩
      exact ⟨l :: lookups, rfl, by rw [List.append_nil, List.flatMap_cons], .cons hn hns⟩
    · rintro ⟨_ | ⟨l, lookups⟩, hhosts, rfl, hentries⟩
      · cases hhosts
      · obtain ⟨rfl, rfl⟩ := List.cons.inj hhosts
        cases hentries with
        | cons hn hns =>
          exact ⟨_, _, _, ⟨l, rfl, rfl, hn⟩, ⟨_, _, _, ⟨lookups, rfl, rfl, hns⟩, ⟨rfl, rfl⟩, rfl⟩,
            by rw [List.append_nil, List.flatMap_cons]⟩

/-- A search comes to these outcomes, each with its calls, and to no others. -/
theorem run_search_iff {result : Except Failure (List Nameserver)} :
    ((ofAddress address).search domain).Run calls result ↔
      SearchOutcome address domain calls result := by
  simp only [search, run_bind_iff, client_ofAddress, address_ofAddress, run_recordSet_iff]
  constructor
  · rintro ⟨_, rest, _, ⟨reply, rfl, rfl⟩, hrest, rfl⟩
    cases reply with
    | error failure =>
      obtain ⟨rfl, rfl⟩ := run_pure_iff.mp hrest
      exact .failed failure
    | ok answer =>
      by_cases hnone : answer.answers.filterMap Record.ns? = []
      · have hrecords := (Record.ofTypes_ns_eq_nil_iff _).mpr hnone
        rw [Answer.recordSet_of_none ⟨domain, .ns, false⟩ address hrecords] at hrest
        obtain ⟨rfl, rfl⟩ := run_pure_iff.mp hrest
        exact .empty hnone
      · have hrecords := (Record.ofTypes_ns_eq_nil_iff _).not.mpr hnone
        rw [Answer.recordSet_of_some ⟨domain, .ns, false⟩ address hrecords] at hrest
        obtain ⟨nameservers, hmapM, rfl⟩ := run_bind_pure_iff.mp hrest
        rw [Record.filterMap_ns?_ofTypes] at hmapM
        obtain ⟨lookups, hhosts, rfl, hentries⟩ := run_mapM_nameserver_iff.mp hmapM
        have hsome : lookups ≠ [] := by
          rintro rfl
          exact hnone hhosts.symm
        rw [if_neg (HostLookup.ne_nil_of_entries hsome hentries)]
        exact .found hsome hhosts hentries
  · intro h
    cases h with
    | failed failure =>
      exact ⟨_, [], _, ⟨.error failure, rfl, rfl⟩, run_pure_iff.mpr ⟨rfl, rfl⟩, rfl⟩
    | @empty answer hnone =>
      have hrecords := (Record.ofTypes_ns_eq_nil_iff _).mpr hnone
      refine ⟨_, [], _, ⟨.ok answer, rfl, rfl⟩, ?_, rfl⟩
      rw [Answer.recordSet_of_none ⟨domain, .ns, false⟩ address hrecords]
      exact run_pure_iff.mpr ⟨rfl, rfl⟩
    | @found answer lookups nameservers hsome hhosts hentries =>
      have hnone : answer.answers.filterMap Record.ns? ≠ [] := by
        rw [← hhosts]
        exact List.map_eq_nil_iff.not.mpr hsome
      have hrecords := (Record.ofTypes_ns_eq_nil_iff _).not.mpr hnone
      refine ⟨_, lookups.flatMap (HostLookup.calls address), _, ⟨.ok answer, rfl, rfl⟩, ?_, rfl⟩
      rw [Answer.recordSet_of_some ⟨domain, .ns, false⟩ address hrecords]
      have hfound := HostLookup.ne_nil_of_entries hsome hentries
      refine run_bind_pure_iff.mpr ⟨nameservers, ?_, if_neg hfound⟩
      rw [Record.filterMap_ns?_ofTypes]
      exact run_mapM_nameserver_iff.mpr ⟨lookups, hhosts, rfl, hentries⟩

/-- The addresses of a domain are those of its nameservers, at their first places. -/
theorem firstPlaces_of_run_findAddresses {cache known : NameserverCache}
    {addresses : List Address}
    (h : ((ofAddress address).findAddresses domain).Run cache calls (.ok addresses) known) :
    ∃ nameservers,
      ((ofAddress address).findNameservers domain).Run cache calls (.ok nameservers) known ∧
      FirstPlaces (nameservers.flatMap (·.addresses)) addresses := by
  obtain ⟨_ | nameservers, hrun, haddresses⟩ := run_findAddresses_iff.mp h
  · cases haddresses
  · cases haddresses
    exact ⟨nameservers, hrun, firstPlaces_eraseDups _⟩

end Resolver

end DnsHealth
