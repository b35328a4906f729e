import DnsHealth.Client.Tasks
import DnsHealth.Nameserver.Lookup
import DnsHealth.Signature.Check

/-!
# Inspecting nameservers

What each address of each nameserver of a domain answers for the domain: the version of the zone,
whether it speaks with authority, and whether the nameservers it lists are signed. An address that
does not answer the first question is unreachable; failures of the other two only leave out what
they would have told.
-/

namespace DnsHealth

/-- What the answer about the nameservers of a domain says about its signatures, given the keys that
the same address holds. -/
def SignatureStatus.ofAnswer (v : Verifier) (keys : List Dnskey) (domain : String) (now : Int)
    (answer : Except Failure Answer) : SignatureStatus :=
  match answer with
  | .ok answer =>
    let check := SignatureCheck.run v keys domain .ns answer.answers now
    ⟨!keys.isEmpty || check.window.isSome, check.valid, check.window⟩
  | .error _ => ⟨!keys.isEmpty, false, none⟩

/-- The keys in an answer, none if there was no answer. -/
def keysOf (answer : Except Failure RecordSet) : List Dnskey :=
  match answer with
  | .ok set => set.records.filterMap Record.dnskey?
  | .error _ => []

/-- What an address answered, by its answers to the three questions. -/
def NameserverStatus.ofAnswers (v : Verifier) (domain name : String) (address : Address)
    (now : Int) (soa : Answer) (keys : Except Failure RecordSet)
    (nameservers : Except Failure Answer) : NameserverStatus :=
  { name, address
    rtt := some soa.rtt
    serial := (soa.answers.findSome? Record.soa?).map (·.serial)
    authoritative := soa.authoritative
    recursionAvailable := soa.recursionAvailable
    signatures := .ofAnswer v (keysOf keys) domain now nameservers
    error := none }

namespace Resolver

/-- Asks one address of a nameserver of a domain. What it answers is judged at the time that a clock
shows then. -/
def inspectAddress [Monad m] (r : Resolver m) (clock : m Int) (v : Verifier) (domain name : String)
    (address : Address) : m NameserverStatus := do
  match ← r.client.query ⟨domain, .soa, false⟩ address with
  | .error f => return .unreachable name address f.message
  | .ok soa =>
    let keys ← r.client.recordSet ⟨domain, .dnskey, true⟩ address
    let nameservers ← r.client.query ⟨domain, .ns, true⟩ address
    let now ← clock
    return .ofAnswers v domain name address now soa keys nameservers

/-- Asks every address of one nameserver of a domain, one after the other. -/
def inspectNameserver [Monad m] (r : Resolver m) (clock : m Int) (v : Verifier) (domain : String)
    (n : Nameserver) : m (List NameserverStatus) :=
  n.addresses.mapM (r.inspectAddress clock v domain n.name)

/-- Asks every address of every nameserver of a domain, the nameservers side by side. -/
def inspectBy [Monad m] [Tasks m] (r : Resolver m) (clock : m Int) (v : Verifier)
    (domain : String) : Lookup m (List NameserverStatus) := do
  let domain := Name.fqdn domain
  let nameservers ← r.findNameservers domain
  let statuses ← Lookup.lift
    (Except.ok <$> Tasks.together (nameservers.map (r.inspectNameserver clock v domain)))
  return statuses.flatten

/-- Asks every address of every nameserver of a domain at one time. -/
def inspect [Monad m] [Tasks m] (r : Resolver m) (v : Verifier) (now : Int) (domain : String) :
    Lookup m (List NameserverStatus) :=
  r.inspectBy (pure now) v domain

end Resolver

end DnsHealth
