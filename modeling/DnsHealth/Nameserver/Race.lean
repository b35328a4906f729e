import DnsHealth.Client.Inquiry
import DnsHealth.Nameserver.Lookup

/-!
# Races for nameservers

Callers that look for nameservers side by side and share the entries that were found. Each looks
whether there is an entry; if not it searches, one question after the other, and it adds what it
found unless there is an entry by then. Between two steps of one caller the others may take any
number of theirs, and the replies may differ from caller to caller and from time to time.
-/

namespace DnsHealth

/-- How far a caller has come with a domain. -/
inductive Caller where
  /-- It has not looked yet. -/
  | ready (domain : String)
  /-- There was no entry, and this is left of its search. -/
  | searching (domain : String) (search : Inquiry (Except Failure (List Nameserver)))
  /-- It has its result. -/
  | done (domain : String) (result : Except Failure (List Nameserver))

/-- Callers and the entries that they share. -/
structure CallerRace where
  /-- The entries. -/
  cache : NameserverCache
  /-- The callers. -/
  callers : List Caller

namespace CallerRace

/-- Callers with no entry in common yet. -/
def initial (domains : List String) : CallerRace := ⟨.empty, domains.map .ready⟩

/-- The race with a caller one step further. -/
def setCaller (race : CallerRace) (i : Nat) (caller : Caller) : CallerRace :=
  { race with callers := race.callers.set i caller }

/-- The race with other entries. -/
def setCache (race : CallerRace) (cache : NameserverCache) : CallerRace := { race with cache }

@[simp] theorem cache_setCaller (race : CallerRace) (i : Nat) (caller : Caller) :
    (race.setCaller i caller).cache = race.cache := rfl

@[simp] theorem setCaller_setCaller (race : CallerRace) (i : Nat) (caller other : Caller) :
    (race.setCaller i caller).setCaller i other = race.setCaller i other := by
  simp [setCaller]

/-- One step of the caller with a number, who asks a recursive resolver. -/
inductive Step (resolver : Address) (i : Nat) : CallerRace → CallerRace → Prop where
  /-- There is an entry, and the caller is done. -/
  | hit {race : CallerRace} {domain : String} {nameservers : List Nameserver}
      (at_ready : race.callers[i]? = some (.ready domain))
      (entry : race.cache.get? (Name.fqdn domain) = some nameservers) :
      Step resolver i race (race.setCaller i (.done domain (.ok nameservers)))
  /-- There is no entry, and the caller begins to search. -/
  | miss {race : CallerRace} {domain : String}
      (at_ready : race.callers[i]? = some (.ready domain))
      (no_entry : race.cache.get? (Name.fqdn domain) = none) :
      Step resolver i race (race.setCaller i
        (.searching domain (Resolver.search ⟨Inquiry.client, resolver⟩ (Name.fqdn domain))))
  /-- The caller gets a reply and goes on with its search. -/
  | reply {race : CallerRace} {domain : String}
      {search rest : Inquiry (Except Failure (List Nameserver))}
      (at_search : race.callers[i]? = some (.searching domain search))
      (replied : search.Replied rest) :
      Step resolver i race (race.setCaller i (.searching domain rest))
  /-- The search has failed, and the caller is done. -/
  | fail {race : CallerRace} {domain : String} {failure : Failure}
      (at_end : race.callers[i]? = some (.searching domain (.ended (.error failure)))) :
      Step resolver i race (race.setCaller i (.done domain (.error failure)))
  /-- The caller adds what it found, unless there is an entry by now, and takes what is there. -/
  | insert {race : CallerRace} {domain : String} {nameservers : List Nameserver}
      {cache : NameserverCache}
      (at_end : race.callers[i]? = some (.searching domain (.ended (.ok nameservers))))
      (inserted : cache = race.cache.insertIfAbsent (Name.fqdn domain) nameservers) :
      Step resolver i race ((race.setCaller i
        (.done domain (.ok ((cache.get? (Name.fqdn domain)).getD nameservers)))).setCache cache)

/-- One step of some caller. -/
def Turn (resolver : Address) (race next : CallerRace) : Prop := ∃ i, Step resolver i race next

end CallerRace

end DnsHealth
