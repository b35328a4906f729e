import DnsHealth.Chain.Walk
import DnsHealth.Proofs.Chain.Acceptance
import DnsHealth.Proofs.Name.Ancestors
import Mathlib.Data.Nat.Find

/-!
# The walk to the root

Validating a zone does not notice what is known of nameservers, as long as that is what searches
find. A walk therefore succeeds exactly if every ancestor of the domain before the root validates
when nothing is known, and otherwise fails as the first one does that does not, without a look at
those above it. A walk that succeeds does so from every ancestor of its domain.
-/

namespace DnsHealth

variable {σ : Type}

namespace Lookup.Transparent

variable {r : Resolver (StateM σ)} {answers : Question → Address → Except Failure Answer}

/-- The collection of keys gives the same whatever is known already. -/
theorem collectKeys (hc : r.client.AnswersBy answers) (v : Verifier) (now : Int) (zone : String)
    (servers : List Address) : Transparent r (r.collectKeys v now zone servers) := by
  refine foldlM (fun collected server => ?_) servers CollectedKeys.empty
  exact bind ((lift (Resolver.steady_query hc _ server)).inZone zone) fun answer =>
    lift (Steady.pure _)

/-- The comparison with the parent gives the same whatever is known already. -/
theorem matchParent (hc : r.client.AnswersBy answers) (v : Verifier) (zone : String)
    (keys : KeyTagMap) : Transparent r (r.matchParent v zone keys) := by
  refine bind ((findAddresses hc (Name.parentZone zone)).inZone zone) fun servers => ?_
  refine bind (foldlM (fun matched server => ?_) servers []) fun matched => ?_
  · exact lift (Steady.bind (Resolver.steady_query hc _ server) fun answer => Steady.pure _)
  · split
    · exact throw _
    · exact pure _

/-- Validating a zone does not notice what is known. -/
theorem validateZone (hc : r.client.AnswersBy answers) (v : Verifier) (now : Int) (zone : String) :
    Transparent r (r.validateZone v now zone) :=
  bind ((findAddresses hc _).inZone _) fun servers =>
    bind (collectKeys hc v now _ servers) fun collected =>
      bind (matchParent hc v _ collected.keys) fun _ => pure _

/-- The validation of a chain gives the same whatever is known already. -/
theorem validateChain (hc : r.client.AnswersBy answers) (v : Verifier) (now : Int)
    (domain : String) : Transparent r (r.validateChain v now domain) :=
  bind (each (fun zone => validateZone hc v now zone) (Name.zonesToRoot domain)) fun _ => pure true

end Lookup.Transparent

namespace Resolver

open Lookup

/-- Validates the first few zones on the way from a domain to the root. -/
def validateFirst (r : Resolver (StateM σ)) (v : Verifier) (now : Int) (domain : String)
    (count : Nat) : Lookup (StateM σ) Bool := do
  Lookup.each (r.validateZone v now) ((List.range count).map (Name.ancestor domain))
  return true

/-- A walk validates as many zones as there are before the root. -/
theorem exists_validateChain_eq (r : Resolver (StateM σ)) (v : Verifier) (now : Int)
    (domain : String) :
    ∃ count, r.validateChain v now domain = r.validateFirst v now domain count ∧
      ∀ steps, Name.isRoot (Name.ancestor domain steps).toList = false ↔ steps < count := by
  obtain ⟨count, hzones, hend⟩ := Name.exists_zonesToRoot_eq domain
  refine ⟨count, ?_, hend⟩
  rw [validateChain, validateChainBy, hzones]
  rfl

/-- The caches that calls on one client lead to, beginning with the empty one. -/
inductive Filled (r : Resolver (StateM σ)) : NameserverCache → Prop where
  /-- Nothing is known at first. -/
  | empty : r.Filled .empty
  /-- Nameservers were looked for. -/
  | findNameservers {cache : NameserverCache} (before : r.Filled cache) (domain : String) (st : σ) :
      r.Filled ((r.findNameservers domain).exec cache st).cache
  /-- Addresses of nameservers were looked for. -/
  | findAddresses {cache : NameserverCache} (before : r.Filled cache) (domain : String) (st : σ) :
      r.Filled ((r.findAddresses domain).exec cache st).cache
  /-- A zone was validated. -/
  | validateZone {cache : NameserverCache} (before : r.Filled cache) (v : Verifier) (now : Int)
      (zone : String) (st : σ) : r.Filled ((r.validateZone v now zone).exec cache st).cache
  /-- A chain was validated. -/
  | validateChain {cache : NameserverCache} (before : r.Filled cache) (v : Verifier) (now : Int)
      (domain : String) (st : σ) : r.Filled ((r.validateChain v now domain).exec cache st).cache

/-- A domain fails at one of its ancestors if that is the first before the root that does not
validate when nothing is known. -/
structure FirstFailure (r : Resolver (StateM σ)) (v : Verifier) (now : Int) (domain : String)
    (fresh : σ) (steps : Nat) (failure : Failure) : Prop where
  /-- The ancestor lies before the root. -/
  beforeRoot : Name.isRoot (Name.ancestor domain steps).toList = false
  /-- All ancestors before it validate. -/
  earlier : ∀ k < steps, ∃ z,
    ((r.validateZone v now (Name.ancestor domain k)).exec .empty fresh).result = .ok z
  /-- The ancestor does not. -/
  failed : ((r.validateZone v now (Name.ancestor domain steps)).exec .empty fresh).result =
    .error failure

section Walking

variable {r : Resolver (StateM σ)} {answers : Question → Address → Except Failure Answer}

/-- Calls on a client that answers by a function leave nothing in the cache but what searches
find. -/
theorem Filled.faithful {cache : NameserverCache} (h : r.Filled cache)
    (hc : r.client.AnswersBy answers) : r.Faithful cache := by
  induction h with
  | empty => exact r.faithful_empty
  | findNameservers before domain st ih =>
    exact (Transparent.findNameservers hc domain).faithful ih st
  | findAddresses before domain st ih =>
    exact (Transparent.findAddresses hc domain).faithful ih st
  | validateZone before v now zone st ih =>
    exact (Transparent.validateZone hc v now zone).faithful ih st
  | validateChain before v now domain st ih =>
    exact (Transparent.validateChain hc v now domain).faithful ih st

private theorem validateZone_fqdn (r : Resolver (StateM σ)) (v : Verifier) (now : Int)
    (zone : String) : r.validateZone v now (Name.fqdn zone) = r.validateZone v now zone := by
  rw [validateZone, validateZone, Name.fqdn_fqdn]

/-- Validating an ancestor of an ancestor is validating an ancestor. -/
theorem validateZone_ancestor_ancestor (r : Resolver (StateM σ)) (v : Verifier) (now : Int)
    (domain : String) (steps more : Nat) :
    r.validateZone v now (Name.ancestor (Name.ancestor domain steps) more) =
      r.validateZone v now (Name.ancestor domain (steps + more)) := by
  rw [← validateZone_fqdn, Name.fqdn_ancestor_ancestor, validateZone_fqdn]

/-- A walk ends well exactly if its zones validate. -/
theorem result_validateFirst_eq_ok_iff (hc : r.client.AnswersBy answers) (v : Verifier) (now : Int)
    (domain : String) (count : Nat) (fresh : σ) {cache : NameserverCache}
    (hcache : r.Faithful cache) (st : σ) (valid : Bool) :
    ((r.validateFirst v now domain count).exec cache st).result = .ok valid ↔
      valid = true ∧ ∀ k < count, ∃ z,
        ((r.validateZone v now (Name.ancestor domain k)).exec .empty fresh).result = .ok z := by
  have heach := result_each_eq_ok_iff (fun zone => Transparent.validateZone hc v now zone) fresh
    ((List.range count).map (Name.ancestor domain)) hcache st
  rw [validateFirst, exec_bind, Outcome.result_andThen_eq_ok_iff]
  simp only [exec_pure, List.forall_mem_map, List.mem_range] at heach ⊢
  constructor
  · rintro ⟨⟨⟩, hok, hvalid⟩
    cases hvalid
    exact ⟨rfl, heach.mp hok⟩
  · rintro ⟨rfl, hok⟩
    exact ⟨_, heach.mpr hok, rfl⟩

/-- The first zone that does not validate ends the walk. -/
theorem exec_validateFirst_of_firstFailure (hc : r.client.AnswersBy answers) {v : Verifier}
    {now : Int} {domain : String} {fresh : σ} {steps : Nat} {failure : Failure}
    (h : r.FirstFailure v now domain fresh steps failure) (more : Nat) {cache : NameserverCache}
    (hcache : r.Faithful cache) (st : σ) :
    ((r.validateFirst v now domain (steps + 1 + more)).exec cache st).result = .error failure ∧
      (r.validateFirst v now domain (steps + 1 + more)).exec cache st =
        (r.validateFirst v now domain (steps + 1)).exec cache st := by
  have hbefore : ∀ zone ∈ (List.range steps).map (Name.ancestor domain),
      ∃ z, ((r.validateZone v now zone).exec .empty fresh).result = .ok z := by
    simp only [List.forall_mem_map, List.mem_range]
    exact h.earlier
  have hfirst : (List.range (steps + 1)).map (Name.ancestor domain) =
      (List.range steps).map (Name.ancestor domain) ++ [Name.ancestor domain steps] := by
    rw [List.range_succ, List.map_append, List.map_singleton]
  have hzones : (List.range (steps + 1 + more)).map (Name.ancestor domain) =
      (List.range steps).map (Name.ancestor domain) ++ Name.ancestor domain steps ::
        ((List.range more).map (steps + 1 + ·)).map (Name.ancestor domain) := by
    rw [List.range_add, List.map_append, hfirst, List.append_assoc, List.singleton_append]
  obtain ⟨hresult, hexec⟩ := exec_each_of_first_failure
    (fun zone => Transparent.validateZone hc v now zone) fresh hbefore h.failed
    (((List.range more).map (steps + 1 + ·)).map (Name.ancestor domain)) hcache st
  rw [validateFirst, validateFirst, exec_bind, exec_bind, hzones, hfirst, ← hexec]
  refine ⟨?_, rfl⟩
  rcases hrun : (each (r.validateZone v now) _).exec cache st with ⟨result, known, state⟩
  rw [hrun] at hresult
  cases hresult
  rfl

/-- If some zone before the root does not validate, one is the first. -/
theorem exists_firstFailure (r : Resolver (StateM σ)) (v : Verifier) (now : Int) (domain : String)
    (fresh : σ) {count : Nat}
    (hend : ∀ steps, Name.isRoot (Name.ancestor domain steps).toList = false ↔ steps < count)
    (h : ¬∀ k < count, ∃ z,
      ((r.validateZone v now (Name.ancestor domain k)).exec .empty fresh).result = .ok z) :
    ∃ steps failure, r.FirstFailure v now domain fresh steps failure := by
  classical
  have hex : ∃ k, k < count ∧ ¬∃ z,
      ((r.validateZone v now (Name.ancestor domain k)).exec .empty fresh).result = .ok z := by
    by_contra hnone
    exact h fun k hk => not_not.mp fun hno => hnone ⟨k, hk, hno⟩
  obtain ⟨hlt, hno⟩ := Nat.find_spec hex
  cases hresult : ((r.validateZone v now (Name.ancestor domain (Nat.find hex))).exec .empty
      fresh).result with
  | ok z => exact absurd ⟨z, hresult⟩ hno
  | error failure =>
    refine ⟨Nat.find hex, failure, (hend _).mpr hlt, fun k hk => ?_, hresult⟩
    exact not_not.mp fun hnok => Nat.find_min hex hk ⟨hk.trans hlt, hnok⟩

/-- A walk ends well exactly if every ancestor before the root validates when nothing is known. -/
theorem result_validateChain_eq_ok_iff (hc : r.client.AnswersBy answers) (v : Verifier) (now : Int)
    (domain : String) (fresh : σ) {cache : NameserverCache} (hcache : r.Faithful cache) (st : σ)
    (valid : Bool) :
    ((r.validateChain v now domain).exec cache st).result = .ok valid ↔
      valid = true ∧ ∀ steps, Name.isRoot (Name.ancestor domain steps).toList = false →
        ∃ z, ((r.validateZone v now (Name.ancestor domain steps)).exec .empty fresh).result =
          .ok z := by
  obtain ⟨count, heq, hend⟩ := r.exists_validateChain_eq v now domain
  rw [heq, result_validateFirst_eq_ok_iff hc v now domain count fresh hcache]
  simp only [hend]

/-- The first ancestor that does not validate ends the walk with its failure, and the walk is one
over the ancestors up to that one. -/
theorem exec_validateChain_of_firstFailure (hc : r.client.AnswersBy answers) {v : Verifier}
    {now : Int} {domain : String} {fresh : σ} {steps : Nat} {failure : Failure}
    (h : r.FirstFailure v now domain fresh steps failure) {cache : NameserverCache}
    (hcache : r.Faithful cache) (st : σ) :
    ((r.validateChain v now domain).exec cache st).result = .error failure ∧
      (r.validateChain v now domain).exec cache st =
        (r.validateFirst v now domain (steps + 1)).exec cache st := by
  obtain ⟨count, heq, hend⟩ := r.exists_validateChain_eq v now domain
  obtain ⟨more, rfl⟩ := Nat.exists_eq_add_of_le (Nat.succ_le_of_lt ((hend steps).mp h.beforeRoot))
  rw [heq]
  exact exec_validateFirst_of_firstFailure hc h more hcache st

/-- A walk that fails does so as the first ancestor that does not validate. -/
theorem result_validateChain_eq_error_iff (hc : r.client.AnswersBy answers) (v : Verifier)
    (now : Int) (domain : String) (fresh : σ) {cache : NameserverCache} (hcache : r.Faithful cache)
    (st : σ) (failure : Failure) :
    ((r.validateChain v now domain).exec cache st).result = .error failure ↔
      ∃ steps, r.FirstFailure v now domain fresh steps failure := by
  constructor
  · intro herror
    obtain ⟨count, heq, hend⟩ := r.exists_validateChain_eq v now domain
    have hnot : ¬∀ k < count, ∃ z,
        ((r.validateZone v now (Name.ancestor domain k)).exec .empty fresh).result = .ok z := by
      intro hall
      have hok := (result_validateFirst_eq_ok_iff hc v now domain count fresh hcache st true).mpr
        ⟨rfl, hall⟩
      rw [← heq, herror] at hok
      cases hok
    obtain ⟨steps, found, hfirst⟩ := r.exists_firstFailure v now domain fresh hend hnot
    have hfound := (exec_validateChain_of_firstFailure hc hfirst hcache st).1
    cases herror.symm.trans hfound
    exact ⟨steps, hfirst⟩
  · rintro ⟨steps, hfirst⟩
    exact (exec_validateChain_of_firstFailure hc hfirst hcache st).1

/-- A walk that ends well does so from every ancestor, whatever is known there. -/
theorem result_validateChain_ancestor (hc : r.client.AnswersBy answers) {v : Verifier} {now : Int}
    {domain : String} {cache : NameserverCache} (hcache : r.Faithful cache) {st : σ}
    (h : ((r.validateChain v now domain).exec cache st).result = .ok true) (steps : Nat)
    {other : NameserverCache} (hother : r.Faithful other) (later : σ) :
    ((r.validateChain v now (Name.ancestor domain steps)).exec other later).result = .ok true := by
  obtain ⟨-, hall⟩ := (result_validateChain_eq_ok_iff hc v now domain later hcache st true).mp h
  rw [result_validateChain_eq_ok_iff hc v now _ later hother]
  refine ⟨rfl, fun more hmore => ?_⟩
  rw [Name.isRoot_ancestor_ancestor] at hmore
  rw [validateZone_ancestor_ancestor]
  exact hall (steps + more) hmore

/-- Whatever earlier calls left in the cache, a walk succeeds exactly if every ancestor before the
root validates when nothing is known; it never gives a negative answer; it fails exactly as the
first ancestor that does not validate, and then takes no step beyond that one; and success for a
domain is success for each of its ancestors. -/
theorem validateChain_decided_by_zones (hc : r.client.AnswersBy answers) (v : Verifier) (now : Int)
    (domain : String) (fresh : σ) {cache : NameserverCache} (hcache : r.Filled cache) (st : σ) :
    (((r.validateChain v now domain).exec cache st).result = .ok true ↔
      ∀ steps, Name.isRoot (Name.ancestor domain steps).toList = false →
        ∃ z, ((r.validateZone v now (Name.ancestor domain steps)).exec .empty fresh).result =
          .ok z) ∧
    ((r.validateChain v now domain).exec cache st).result ≠ .ok false ∧
    (∀ failure, ((r.validateChain v now domain).exec cache st).result = .error failure ↔
      ∃ steps, r.FirstFailure v now domain fresh steps failure) ∧
    (∀ steps failure, r.FirstFailure v now domain fresh steps failure →
      (r.validateChain v now domain).exec cache st =
        (r.validateFirst v now domain (steps + 1)).exec cache st) ∧
    (((r.validateChain v now domain).exec cache st).result = .ok true →
      ∀ steps other, r.Filled other → ∀ later,
        ((r.validateChain v now (Name.ancestor domain steps)).exec other later).result =
          .ok true) := by
  have hfaithful := hcache.faithful hc
  refine ⟨?_, ?_, ?_, ?_, ?_⟩
  · simp only [result_validateChain_eq_ok_iff hc v now domain fresh hfaithful, true_and]
  · intro hfalse
    obtain ⟨hvalid, -⟩ :=
      (result_validateChain_eq_ok_iff hc v now domain fresh hfaithful st false).mp hfalse
    cases hvalid
  · exact result_validateChain_eq_error_iff hc v now domain fresh hfaithful st
  · exact fun steps failure hfirst =>
      (exec_validateChain_of_firstFailure hc hfirst hfaithful st).2
  · exact fun hok steps other hother later =>
      result_validateChain_ancestor hc hfaithful hok steps (hother.faithful hc) later

end Walking

/-- The delegation signer is that of the domain and not that of its parent, where the walk ends,
though the nameservers of the parent were known before. -/
theorem validateChain_stops_at_parent :
    let ksk : Dnskey := ⟨257, 3, 8, [1, 2]⟩
    let r := ofUniform [⟨192, 0, 2, 1⟩] [.dnskey ksk, .rrsig (.repeating ksk)]
      [.ds (.repeating "b.a." 2 ksk)]
    let cache := ((r.findNameservers "a.").exec .empty ()).cache
    r.Filled cache ∧
    r.FirstFailure .repeating 50 "b.a" () 1 (.digestMismatch "a." ksk.keyTag) ∧
    ((r.validateChain .repeating 50 "b.a").exec cache ()).result =
      .error (.digestMismatch "a." ksk.keyTag) ∧
    (r.validateChain .repeating 50 "b.a").exec cache () =
      (r.validateFirst .repeating 50 "b.a" 2).exec cache () := by
  intro ksk r cache
  have hcache : r.Filled cache := Filled.empty.findNameservers "a." ()
  have hfirst : r.FirstFailure .repeating 50 "b.a" () 1 (.digestMismatch "a." ksk.keyTag) := by
    refine ⟨by decide +kernel, fun k hk => ?_, by decide +kernel⟩
    obtain rfl := Nat.lt_one_iff.mp hk
    exact ⟨⟨"b.a.", 1, some ⟨10, 100⟩, [ksk.keyTag]⟩, by decide +kernel⟩
  obtain ⟨-, -, herror, hstop, -⟩ := validateChain_decided_by_zones
    (Client.answersBy_ofAnswers _) .repeating 50 "b.a" () hcache ()
  exact ⟨hcache, hfirst, (herror _).mpr ⟨1, hfirst⟩, hstop 1 _ hfirst⟩

end Resolver

end DnsHealth
