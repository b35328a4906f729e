import DnsHealth.Client.Basic
import DnsHealth.Nameserver.Basic

/-!
# Finding nameservers

The nameservers of a domain as a recursive resolver knows them, each with its addresses of both
families. What was found for a domain is kept under its absolute name and never replaced; a failed
search leaves nothing behind.
-/

namespace DnsHealth

/-- The nameservers that were found so far, under the absolute names of their domains. -/
structure NameserverCache where
  /-- The domains with their nameservers, the latest first. -/
  entries : List (String × List Nameserver)
  deriving DecidableEq, Repr

namespace NameserverCache

/-- The cache without entries. -/
def empty : NameserverCache := ⟨[]⟩

/-- The nameservers that are kept for a domain. -/
def get? (cache : NameserverCache) (domain : String) : Option (List Nameserver) :=
  cache.entries.lookup domain

/-- The cache with an entry for a domain, unless there is one. -/
def insertIfAbsent (cache : NameserverCache) (domain : String) (nameservers : List Nameserver) :
    NameserverCache :=
  if (cache.get? domain).isSome then cache else ⟨(domain, nameservers) :: cache.entries⟩

/-- The number of domains. -/
def size (cache : NameserverCache) : Nat := cache.entries.length

/-- After an insertion there is an entry: the one that was there, or else the new one. -/
theorem get?_insertIfAbsent_self (cache : NameserverCache) (domain : String)
    (nameservers : List Nameserver) :
    (cache.insertIfAbsent domain nameservers).get? domain =
      some ((cache.get? domain).getD nameservers) := by
  unfold insertIfAbsent
  split
  · next h => obtain ⟨found, hfound⟩ := Option.isSome_iff_exists.1 h; simp [hfound]
  · next h => rw [Option.not_isSome_iff_eq_none.1 h]; simp [get?]

/-- An insertion changes no other entry. -/
theorem get?_insertIfAbsent_of_ne {cache : NameserverCache} {domain other : String}
    {nameservers : List Nameserver} (h : other ≠ domain) :
    (cache.insertIfAbsent domain nameservers).get? other = cache.get? other := by
  unfold insertIfAbsent
  split
  · rfl
  · simp [get?, List.lookup_cons, beq_false_of_ne h]

end NameserverCache

/-- A computation that finds nameservers on its way, and may fail. -/
abbrev Lookup (m : Type → Type) := ExceptT Failure (StateT NameserverCache m)

namespace Lookup

/-- A step outside the cache that may fail. -/
def lift [Monad m] (x : m (Except Failure α)) : Lookup m α := ExceptT.mk (StateT.lift x)

/-- The outcome of a computation, whose failure is not passed on. -/
def outcome [Monad m] (x : Lookup m α) : Lookup m (Except Failure α) :=
  ExceptT.mk (do return .ok (← x.run))

/-- A computation whose failure names a zone. -/
def inZone [Monad m] (zone : String) (x : Lookup m α) : Lookup m α :=
  ExceptT.mk (do return (← x.run).mapError (·.inZone zone))

end Lookup

/-- A client together with the recursive resolver through which nameservers are found. -/
structure Resolver (m : Type → Type) where
  /-- The client. -/
  client : Client m
  /-- The recursive resolver. -/
  address : Address

namespace Resolver

/-- The addresses of one family of a host; a failed search gives none. -/
def hostAddresses [Monad m] (r : Resolver m) (host : String) (type : RecordType) :
    m (List Address) := do
  match ← r.client.recordSet ⟨host, type, false⟩ r.address with
  | .ok set => return set.records.filterMap Record.address?
  | .error _ => return []

/-- A nameserver with its addresses of both families. -/
def nameserver [Monad m] (r : Resolver m) (host : String) : m Nameserver := do
  let v4 ← r.hostAddresses host .a
  let v6 ← r.hostAddresses host .aaaa
  return .ofAddresses host (v4 ++ v6)

/-- The nameservers of a domain in absolute form, as the recursive resolver knows them now. -/
def search [Monad m] (r : Resolver m) (domain : String) : m (Except Failure (List Nameserver)) := do
  match ← r.client.recordSet ⟨domain, .ns, false⟩ r.address with
  | .error f => return .error f
  | .ok set =>
    let nameservers ← (set.records.filterMap Record.ns?).mapM r.nameserver
    return if nameservers = [] then .error (.noNameservers domain) else .ok nameservers

/-- The nameservers of a domain. -/
def findNameservers [Monad m] (r : Resolver m) (domain : String) : Lookup m (List Nameserver) := do
  let domain := Name.fqdn domain
  match (← get).get? domain with
  | some nameservers => return nameservers
  | none =>
    let nameservers ← Lookup.lift (r.search domain)
    modify (·.insertIfAbsent domain nameservers)
    return ((← get).get? domain).getD nameservers

/-- The addresses of the nameservers of a domain, each once. -/
def findAddresses [Monad m] (r : Resolver m) (domain : String) : Lookup m (List Address) := do
  return Nameserver.allAddresses (← r.findNameservers domain)

end Resolver

end DnsHealth
