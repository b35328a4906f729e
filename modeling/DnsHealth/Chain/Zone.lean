import DnsHealth.Nameserver.Lookup
import DnsHealth.Record.KeyTagMap
import DnsHealth.Signature.Check

/-!
# Validating a zone

One link of the chain of trust. Every server of the zone has to hold keys that one of them signs, no
two keys of the zone may share a tag, and the servers of the parent have to vouch for the keys: each
of their delegation signers whose tag is known has to carry the digest of the key with that tag, and
at least one has to be known. A digest type that is not supported is passed over.
-/

namespace DnsHealth

/-- What is known of a zone that validates. -/
structure ZoneValidation where
  /-- The zone. -/
  zone : String
  /-- The number of its keys. -/
  keyCount : Nat
  /-- The window of the signature over the keys of the last server. -/
  window : Option ValidityWindow
  /-- The tags of the keys that the parent vouches for, in the order in which they were met. -/
  matchedKeyTags : List UInt16
  deriving DecidableEq, Repr

/-- The keys that were collected so far, and the window of the signature over the last of them. -/
structure CollectedKeys where
  /-- The keys. -/
  keys : KeyTagMap
  /-- The window. -/
  window : Option ValidityWindow
  deriving DecidableEq, Repr

namespace CollectedKeys

/-- No keys. -/
def empty : CollectedKeys := ⟨.empty, none⟩

/-- Takes in the answer of one server of a zone to the question for its keys. -/
def add (v : Verifier) (zone : String) (now : Int) (collected : CollectedKeys) (server : Address)
    (answers : List Record) : Except Failure CollectedKeys := do
  let found := answers.filterMap Record.dnskey?
  let keys ← found.foldlM (·.insert zone ·) collected.keys
  if found = [] then .error (.noDnskey zone server.text)
  else
    let check := SignatureCheck.run v found zone .dnskey answers now
    if check.valid then .ok ⟨keys, check.window⟩
    else .error (.dnskeySignatureInvalid zone server.text)

end CollectedKeys

/-- Takes in one delegation signer of a zone, given the tags that match so far. -/
def matchSigner (v : Verifier) (zone : String) (keys : KeyTagMap) (matched : List UInt16)
    (signer : Ds) : Except Failure (List UInt16) :=
  match keys.get? signer.keyTag with
  | none => .ok matched
  | some key =>
    match v.digest key zone signer.digestType with
    | .error (.unsupportedDigestType _) => .ok matched
    | .error f => .error (f.inZone zone)
    | .ok digest =>
      if digest ≠ signer.digest then .error (.digestMismatch zone signer.keyTag)
      else if signer.keyTag ∈ matched then .ok matched
      else .ok (matched ++ [signer.keyTag])

/-- Takes in the answer of one server of the parent to the question for the delegation signers of a
zone, given the tags that match so far. -/
def matchAnswer (v : Verifier) (zone : String) (keys : KeyTagMap) (matched : List UInt16)
    (server : Address) (answer : Except Failure Answer) : Except Failure (List UInt16) :=
  match answer with
  | .error f => .error (if f.isNoData then .noDsRecords zone server.text else f.inZone zone)
  | .ok answer =>
    let signers := answer.answers.filterMap Record.ds?
    if signers = [] then .error (.noDsRecords zone server.text)
    else signers.foldlM (matchSigner v zone keys) matched

namespace Resolver

/-- Collects the keys of a zone from its servers. -/
def collectKeys [Monad m] (r : Resolver m) (v : Verifier) (now : Int) (zone : String)
    (servers : List Address) : Lookup m CollectedKeys :=
  servers.foldlM (fun collected server => do
    let answer ← (Lookup.lift (r.client.query ⟨zone, .dnskey, true⟩ server)).inZone zone
    Lookup.lift (pure (collected.add v zone now server answer.answers))) .empty

/-- Matches the delegation signers that the servers of the parent give with the keys of a zone. -/
def matchParent [Monad m] (r : Resolver m) (v : Verifier) (zone : String) (keys : KeyTagMap) :
    Lookup m (List UInt16) := do
  let parent := Name.parentZone zone
  let servers ← (r.findAddresses parent).inZone zone
  let matched ← servers.foldlM (fun matched server =>
    Lookup.lift (do
      return matchAnswer v zone keys matched server
        (← r.client.query ⟨zone, .ds, true⟩ server))) []
  if matched = [] then throw (.noMatchingDnskey zone parent)
  else return matched

/-- Validates one zone. -/
def validateZone [Monad m] (r : Resolver m) (v : Verifier) (now : Int) (zone : String) :
    Lookup m ZoneValidation := do
  let zone := Name.fqdn zone
  let servers ← (r.findAddresses zone).inZone zone
  let collected ← r.collectKeys v now zone servers
  let matched ← r.matchParent v zone collected.keys
  return ⟨zone, collected.keys.size, collected.window, matched⟩

end Resolver

end DnsHealth
