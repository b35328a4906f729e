import DnsHealth.Chain.Verdict
import DnsHealth.Client.Network
import DnsHealth.Proofs.Chain.Walk
import DnsHealth.Proofs.Client.Results
import DnsHealth.Proofs.Record.KeyTagMap

/-!
# Failures name their zone

Whatever ends the validation of a zone ends it with a failure that names this zone: its own, or one
that wraps what a client, a verifier or a search for nameservers failed with, once. So the failure
of a walk names the first zone on the way that does not validate, also where the parent's servers
were to blame, and shows what its cause shows.
-/

namespace DnsHealth

variable {σ α β : Type}

namespace Failure

/-- The number of zones that are wrapped around a cause. -/
def layers : Failure → Nat
  | zoneQueryFailed _ source => source.layers + 1
  | _ => 0

private theorem layers_of_unnamed {failure : Failure} (h : failure.zone? = none) :
    failure.layers = 0 := by
  cases failure <;> first | rfl | cases h

/-- The failures that end the validation of a zone, with the causes that they may wrap. -/
inductive EndsZone (cause : Failure → Prop) (zone : String) : Failure → Prop where
  /-- The validation itself found fault with the zone. -/
  | own {failure : Failure} (names : failure.zone? = some zone) (bare : failure.layers = 0) :
      EndsZone cause zone failure
  /-- A step of the validation failed without a zone. -/
  | wrapped {source : Failure} (caused : cause source) (unnamed : source.zone? = none) :
      EndsZone cause zone (.zoneQueryFailed zone source)

variable {cause : Failure → Prop} {zone : String} {failure : Failure}

/-- A cause without a zone is wrapped when it gets one. -/
theorem endsZone_inZone (hcause : cause failure) (h : failure.zone? = none) :
    EndsZone cause zone (failure.inZone zone) := by
  rw [inZone, h]
  exact .wrapped hcause h

/-- A failure that ends a zone names it. -/
theorem EndsZone.zone?_eq (h : EndsZone cause zone failure) : failure.zone? = some zone := by
  cases h with
  | own names bare => exact names
  | wrapped caused unnamed => rfl

/-- It does so once at most. -/
theorem EndsZone.layers_le (h : EndsZone cause zone failure) : failure.layers ≤ 1 := by
  cases h with
  | own names bare => exact bare.le.trans (Nat.zero_le 1)
  | wrapped caused unnamed => exact (congrArg (· + 1) (layers_of_unnamed unnamed)).le

/-- What is wrapped is a cause, and the failure shows what the cause shows. -/
theorem EndsZone.of_wrapping {other : String} {source : Failure}
    (h : EndsZone cause zone (.zoneQueryFailed other source)) :
    cause source ∧ (zoneQueryFailed other source).isTransport = source.isTransport ∧
      (zoneQueryFailed other source).isNoData = source.isNoData := by
  cases h with
  | own names bare => cases bare
  | wrapped caused unnamed => exact ⟨caused, rfl, rfl⟩

end Failure

/-- The failures of a client name no zone. -/
def Client.NamesNoZone (c : Client (StateM σ)) : Prop :=
  ∀ q server, Gives (FailsOnly (·.zone? = none)) (c.query q server)

/-- The failures of a verifier to make a digest name no zone. -/
def Verifier.NamesNoZone (v : Verifier) : Prop :=
  ∀ key zone digestType, FailsOnly (·.zone? = none) (v.digest key zone digestType)

namespace Lookup

/-- A lookup fails only with failures of a certain kind. -/
def FailsWith (kind : Failure → Prop) (x : Lookup (StateM σ) α) : Prop :=
  ∀ cache st, FailsOnly kind (x.exec cache st).result

namespace FailsWith

variable {kind : Failure → Prop}

/-- A lookup that has its result fails in no way. -/
theorem pure (a : α) : FailsWith kind (Pure.pure a : Lookup (StateM σ) α) :=
  fun _ _ => FailsOnly.ok a

/-- A failure of the kind may be thrown. -/
theorem throw {failure : Failure} (h : kind failure) :
    FailsWith kind (throw failure : Lookup (StateM σ) α) :=
  fun _ _ => FailsOnly.error h

/-- A step outside the cache fails as its results do. -/
theorem lift {x : StateM σ (Except Failure α)} (h : Gives (FailsOnly kind) x) :
    FailsWith kind (Lookup.lift x) :=
  fun _ st => h st

/-- Two steps in a row fail as each of them does. -/
theorem bind {x : Lookup (StateM σ) α} {f : α → Lookup (StateM σ) β} (hx : FailsWith kind x)
    (hf : ∀ a, FailsWith kind (f a)) : FailsWith kind (x >>= f) := by
  intro cache st
  have hfirst := hx cache st
  rw [exec_bind]
  rcases hrun : x.exec cache st with ⟨result, known, state⟩
  rw [hrun] at hfirst
  cases result with
  | ok a => exact hf a known state
  | error failure => exact FailsOnly.error (hfirst failure rfl)

/-- A fold fails as its steps do. -/
theorem foldlM {f : β → α → Lookup (StateM σ) β} (hf : ∀ b a, FailsWith kind (f b a))
    (xs : List α) (start : β) : FailsWith kind (xs.foldlM f start) := by
  induction xs generalizing start with
  | nil => exact pure start
  | cons x xs ih =>
    rw [List.foldlM_cons]
    exact bind (hf start x) ih

/-- A lookup whose failures name no zone ends a zone with one of them, wrapped. -/
theorem inZone {x : Lookup (StateM σ) α} (hx : FailsWith kind x)
    (hkind : ∀ failure, kind failure → failure.zone? = none) (zone : String) :
    FailsWith (Failure.EndsZone kind zone) (x.inZone zone) := by
  intro cache st
  have hfirst := hx cache st
  rw [exec_inZone]
  rcases hrun : x.exec cache st with ⟨result, known, state⟩
  rw [hrun] at hfirst
  cases result with
  | ok a => exact FailsOnly.ok a
  | error source =>
    have hsource := hfirst source rfl
    exact FailsOnly.error (Failure.endsZone_inZone hsource (hkind source hsource))

end FailsWith

end Lookup

namespace Resolver

open Lookup

/-- The causes for which the validation of a zone may fail without a fault of the zone. -/
inductive Cause (r : Resolver (StateM σ)) (v : Verifier) : Failure → Prop where
  /-- The client failed to answer a question. -/
  | reply {q : Question} {server : Address} {st : σ} {failure : Failure}
      (replied : ((r.client.query q server).run st).1 = .error failure) : Cause r v failure
  /-- The verifier failed to make a digest. -/
  | digest {key : Dnskey} {zone : String} {digestType : UInt8} {failure : Failure}
      (failed : v.digest key zone digestType = .error failure) : Cause r v failure
  /-- The recursive resolver answered without any record of the type that was asked for. -/
  | noRecords (q : Question) : Cause r v (.noData q.name q.recordType.mnemonic r.address.text)
  /-- The recursive resolver knows no nameserver. -/
  | noNameservers (domain : String) : Cause r v (.noNameservers domain)

section Causes

variable (r : Resolver (StateM σ)) (v : Verifier)

/-- Neither a client nor a verifier that names no zone gives a cause that does. -/
theorem Cause.unnamed {r : Resolver (StateM σ)} {v : Verifier} (hc : r.client.NamesNoZone)
    (hv : v.NamesNoZone) (failure : Failure) (h : r.Cause v failure) : failure.zone? = none := by
  cases h with
  | reply replied => exact hc _ _ _ failure replied
  | digest failed => exact hv _ _ _ failure failed
  | noRecords q => rfl
  | noNameservers domain => rfl

private theorem gives_query (q : Question) (server : Address) :
    Gives (FailsOnly (r.Cause v)) (r.client.query q server) :=
  fun _ _ h => .reply h

private theorem gives_recordSet (q : Question) :
    Gives (FailsOnly (r.Cause v)) (r.client.recordSet q r.address) := by
  refine Gives.bind (r.gives_query v q r.address) fun reply hreply => Gives.pure ?_
  refine FailsOnly.bind hreply fun answer => ?_
  unfold Answer.recordSet
  simp only
  split
  · exact FailsOnly.error (.noRecords q)
  · exact FailsOnly.ok _

private theorem gives_search (domain : String) :
    Gives (FailsOnly (r.Cause v)) (r.search domain) := by
  refine Gives.bind (r.gives_recordSet v ⟨domain, .ns, false⟩) fun set hset => ?_
  cases set with
  | error failure => exact Gives.pure (FailsOnly.error (hset failure rfl))
  | ok set =>
    refine Gives.bind (Gives.any _) fun nameservers _ => Gives.pure ?_
    split
    · exact FailsOnly.error (.noNameservers domain)
    · exact FailsOnly.ok _

private theorem failsWith_findNameservers (domain : String) :
    FailsWith (r.Cause v) (r.findNameservers domain) := by
  refine FailsWith.bind (fun _ _ => FailsOnly.ok _) fun cache => ?_
  split
  · exact FailsWith.pure _
  · refine FailsWith.bind (FailsWith.lift (r.gives_search v _)) fun nameservers => ?_
    exact FailsWith.bind (fun _ _ => FailsOnly.ok _) fun _ =>
      FailsWith.bind (fun _ _ => FailsOnly.ok _) fun _ => FailsWith.pure _

/-- The search for addresses fails for a cause without a zone. -/
theorem failsWith_findAddresses (domain : String) :
    FailsWith (r.Cause v) (r.findAddresses domain) :=
  FailsWith.bind (r.failsWith_findNameservers v domain) fun _ => FailsWith.pure _

end Causes

section Zones

variable {r : Resolver (StateM σ)} {v : Verifier}

/-- The keys of one more server fail as the end of the zone. -/
theorem endsZone_of_add (now : Int) (zone : String) (collected : CollectedKeys) (server : Address)
    (answers : List Record) :
    FailsOnly (Failure.EndsZone (r.Cause v) zone) (collected.add v zone now server answers) := by
  have hinsert (keys : KeyTagMap) (key : Dnskey) :
      FailsOnly (Failure.EndsZone (r.Cause v) zone) (keys.insert zone key) := by
    intro failure h
    obtain ⟨-, rfl⟩ := (keys.insert_eq_error_iff zone key failure).mp h
    exact .own rfl rfl
  refine FailsOnly.bind (FailsOnly.foldlM hinsert _ _) fun keys => ?_
  split
  · exact FailsOnly.error (.own rfl rfl)
  · simp only
    split
    · exact FailsOnly.ok _
    · exact FailsOnly.error (.own rfl rfl)

private theorem endsZone_of_matchSigner (hv : v.NamesNoZone) (zone : String) (keys : KeyTagMap)
    (matched : List UInt16) (signer : Ds) :
    FailsOnly (Failure.EndsZone (r.Cause v) zone) (matchSigner v zone keys matched signer) := by
  unfold matchSigner
  split
  · exact FailsOnly.ok _
  · next key _ =>
    split
    · exact FailsOnly.ok _
    · next failure hfailure =>
      exact FailsOnly.error (Failure.endsZone_inZone (.digest hfailure) (hv _ _ _ _ hfailure))
    · split
      · exact FailsOnly.error (.own rfl rfl)
      · split <;> exact FailsOnly.ok _

/-- The delegation signers of one more server of the parent fail as the end of the zone. -/
theorem endsZone_of_matchAnswer (hv : v.NamesNoZone) (zone : String) (keys : KeyTagMap)
    (matched : List UInt16) (server : Address) {answer : Except Failure Answer}
    (hanswer : FailsOnly (r.Cause v) answer) (hunnamed : FailsOnly (·.zone? = none) answer) :
    FailsOnly (Failure.EndsZone (r.Cause v) zone)
      (matchAnswer v zone keys matched server answer) := by
  cases answer with
  | error failure =>
    refine FailsOnly.error ?_
    split
    · exact .own rfl rfl
    · exact Failure.endsZone_inZone (hanswer failure rfl) (hunnamed failure rfl)
  | ok answer =>
    unfold matchAnswer
    simp only
    split
    · exact FailsOnly.error (.own rfl rfl)
    · exact FailsOnly.foldlM (endsZone_of_matchSigner hv zone keys) _ _

private theorem failsWith_collectKeys (hc : r.client.NamesNoZone) (hv : v.NamesNoZone) (now : Int)
    (zone : String) (servers : List Address) :
    FailsWith (Failure.EndsZone (r.Cause v) zone) (r.collectKeys v now zone servers) := by
  refine FailsWith.foldlM (fun collected server => ?_) servers CollectedKeys.empty
  refine FailsWith.bind ?_ fun answer =>
    FailsWith.lift (Gives.pure (endsZone_of_add now zone collected server _))
  exact (FailsWith.lift (r.gives_query v _ server)).inZone (Cause.unnamed hc hv) zone

private theorem failsWith_matchParent (hc : r.client.NamesNoZone) (hv : v.NamesNoZone)
    (zone : String) (keys : KeyTagMap) :
    FailsWith (Failure.EndsZone (r.Cause v) zone) (r.matchParent v zone keys) := by
  refine FailsWith.bind ?_ fun servers =>
    FailsWith.bind (FailsWith.foldlM (fun matched server => ?_) servers []) fun matched => ?_
  · exact (r.failsWith_findAddresses v _).inZone (Cause.unnamed hc hv) zone
  · refine FailsWith.lift
      (Gives.bind (r.gives_query v _ server) fun answer hanswer => Gives.pure ?_)
    exact endsZone_of_matchAnswer hv zone keys matched server hanswer fun failure h =>
      Cause.unnamed hc hv failure (hanswer failure h)
  · split
    · exact FailsWith.throw (.own rfl rfl)
    · exact FailsWith.pure _

/-- Whatever ends the validation of a zone names the zone, also if it was met at the parent. -/
theorem failsWith_validateZone (hc : r.client.NamesNoZone) (hv : v.NamesNoZone) (now : Int)
    (zone : String) :
    FailsWith (Failure.EndsZone (r.Cause v) (Name.fqdn zone)) (r.validateZone v now zone) := by
  refine FailsWith.bind ?_ fun servers =>
    FailsWith.bind (failsWith_collectKeys hc hv now _ servers) fun collected =>
      FailsWith.bind (failsWith_matchParent hc hv _ collected.keys) fun _ => FailsWith.pure _
  exact (r.failsWith_findAddresses v _).inZone (Cause.unnamed hc hv) _

/-- The clock has no part in what a failure names. -/
theorem failsWith_validateZoneBy (hc : r.client.NamesNoZone) (hv : v.NamesNoZone)
    (clock : StateM σ Int) (zone : String) :
    FailsWith (Failure.EndsZone (r.Cause v) (Name.fqdn zone)) (r.validateZoneBy clock v zone) := by
  refine FailsWith.bind (FailsWith.lift ?_) fun now => failsWith_validateZone hc hv now zone
  rw [map_eq_pure_bind]
  exact Gives.bind (Gives.any clock) fun now _ => Gives.pure (FailsOnly.ok now)

end Zones

section Walking

variable (r : Resolver (StateM σ)) (clock : StateM σ Int) (v : Verifier) (domain : String)

/-- Validates the first few zones on the way from a domain to the root, each at the time that a
clock shows then. -/
def validateFirstBy (count : Nat) : Lookup (StateM σ) Bool := do
  Lookup.each (r.validateZoneBy clock v) ((List.range count).map (Name.ancestor domain))
  return true

/-- A walk validates as many zones as there are before the root. -/
theorem exists_validateChainBy_eq :
    ∃ count, r.validateChainBy clock v domain = r.validateFirstBy clock v domain count ∧
      ∀ steps, Name.isRoot (Name.ancestor domain steps).toList = false ↔ steps < count := by
  obtain ⟨count, hzones, hend⟩ := Name.exists_zonesToRoot_eq domain
  refine ⟨count, ?_, hend⟩
  rw [validateChainBy, hzones]
  rfl

/-- One zone more on the way is validated after the others. -/
theorem exec_validateFirstBy_succ (count : Nat) (cache : NameserverCache) (st : σ) :
    (r.validateFirstBy clock v domain (count + 1)).exec cache st =
      ((r.validateFirstBy clock v domain count).exec cache st).andThen fun _ => do
        let _ ← r.validateZoneBy clock v (Name.ancestor domain count)
        return true := by
  rw [validateFirstBy, validateFirstBy, List.range_succ, List.map_append, List.map_singleton,
    exec_bind, exec_bind, exec_each_append]
  rcases (each (r.validateZoneBy clock v) ((List.range count).map (Name.ancestor domain))).exec
    cache st with ⟨result, known, state⟩
  cases result with
  | error failure => rfl
  | ok _ =>
    simp only [Outcome.andThen_ok, exec_pure, exec_each_cons, exec_bind]
    rcases (r.validateZoneBy clock v (Name.ancestor domain count)).exec known state with
      ⟨_ | _, _, _⟩
    · rfl
    · rfl

/-- A walk breaks at an ancestor of its domain: those before it validate, and it does not, with what
they left. -/
structure BreaksAt (cache : NameserverCache) (st : σ) (steps : Nat) (failure : Failure) : Prop where
  /-- The ancestor lies before the root. -/
  beforeRoot : Name.isRoot (Name.ancestor domain steps).toList = false
  /-- All ancestors before it validate. -/
  earlier : ((r.validateFirstBy clock v domain steps).exec cache st).result = .ok true
  /-- The ancestor does not. -/
  failed : ((r.validateZoneBy clock v (Name.ancestor domain steps)).exec
    ((r.validateFirstBy clock v domain steps).exec cache st).cache
    ((r.validateFirstBy clock v domain steps).exec cache st).state).result = .error failure

variable {r clock v domain} {cache : NameserverCache} {st : σ} {failure : Failure}

/-- A walk never gives a negative answer, however the replies change. -/
theorem eq_true_of_validateFirstBy {count : Nat} {valid : Bool}
    (h : ((r.validateFirstBy clock v domain count).exec cache st).result = .ok valid) :
    valid = true := by
  rw [validateFirstBy, exec_bind, Outcome.result_andThen_eq_ok_iff] at h
  obtain ⟨_, -, hvalid⟩ := h
  cases hvalid
  rfl

/-- A walk over the first few ancestors that fails breaks at one of them. -/
theorem exists_breaksAt_of_validateFirstBy {count : Nat}
    (hbefore : ∀ steps < count, Name.isRoot (Name.ancestor domain steps).toList = false)
    (h : ((r.validateFirstBy clock v domain count).exec cache st).result = .error failure) :
    ∃ steps, r.BreaksAt clock v domain cache st steps failure := by
  induction count with
  | zero => cases h
  | succ count ih =>
    rw [exec_validateFirstBy_succ] at h
    rcases hrun : (r.validateFirstBy clock v domain count).exec cache st with ⟨result, known, state⟩
    rw [hrun] at h
    cases result with
    | error found =>
      rw [Outcome.andThen_error] at h
      exact ih (fun steps hsteps => hbefore steps (by omega)) (hrun ▸ h)
    | ok valid =>
      have hvalid : valid = true := eq_true_of_validateFirstBy (congrArg Outcome.result hrun)
      subst hvalid
      refine ⟨count, hbefore count (Nat.lt_succ_self count), congrArg Outcome.result hrun, ?_⟩
      rw [hrun]
      rw [Outcome.andThen_ok, exec_bind] at h
      rcases hzone : (r.validateZoneBy clock v (Name.ancestor domain count)).exec known state with
        ⟨result, _, _⟩
      rw [hzone] at h
      cases result with
      | ok z => cases h
      | error found =>
        cases h
        rfl

end Walking

end Resolver

/-- The failures of a network's client name no zone. -/
theorem Link.namesNoZone_client [Tasks (StateM σ)] (link : Link (StateM σ)) (port : UInt16) :
    (link.client port).NamesNoZone := by
  have hreach {α : Type} (endpoint : String) (x : StateM σ (Except LinkFault α)) :
      Gives (FailsOnly (·.zone? = none)) (Link.reach endpoint x).run := by
    intro st failure h
    change ((x.run st).1).mapError (LinkFault.failure endpoint) = _ at h
    cases hresult : (x.run st).1 with
    | ok a => rw [hresult] at h; cases h
    | error fault =>
      rw [hresult] at h
      cases h
      cases fault <;> rfl
  intro q server
  have hresponse (bytes : List UInt8) :
      Gives (FailsOnly (·.zone? = none))
        (ExceptT.mk (pure (Response.ofWire bytes)) : ExceptT Failure (StateM σ) Response).run := by
    refine Gives.pure ?_
    unfold Response.ofWire
    split
    · exact FailsOnly.error rfl
    · split
      · exact FailsOnly.ok _
      · exact FailsOnly.error rfl
  have hexchange (endpoint : String) (message : List UInt8) :
      Gives (FailsOnly (·.zone? = none)) (link.exchange server endpoint message).run := by
    refine Gives.bind_except (hreach _ _) fun bytes => Gives.bind_except (hresponse bytes) ?_
    intro response
    split
    · exact Gives.bind_except (hreach _ _) hresponse
    · exact Gives.pure (FailsOnly.ok response)
  have hwire (id : UInt16) : FailsOnly (·.zone? = none) (q.toWire id) := by
    unfold Question.toWire
    split
    · exact FailsOnly.error rfl
    · split
      · exact FailsOnly.error rfl
      · exact FailsOnly.ok _
  refine Gives.bind_except (Gives.lift_except _) fun id => ?_
  refine Gives.bind_except (Gives.pure (hwire id)) fun message => ?_
  refine Gives.bind_except (Gives.lift_except _) fun start => ?_
  refine Gives.bind_except (hexchange _ message) fun response => ?_
  refine Gives.bind_except (Gives.lift_except _) fun stop => Gives.pure ?_
  unfold Question.accept
  split
  · exact FailsOnly.error rfl
  · split
    · exact FailsOnly.error rfl
    · exact FailsOnly.ok _

/-- A name that has no wire form is no zone to be named. -/
theorem failsOnly_digestInput (key : Dnskey) (owner : String) :
    FailsOnly (·.zone? = none) (digestInput key owner) := by
  have hlabel (label : List Char) :
      FailsOnly (·.zone? = none) (Name.labelToWire (Name.trimPoints owner.toList) label) := by
    unfold Name.labelToWire
    simp only
    split
    · exact FailsOnly.error rfl
    · split
      · exact FailsOnly.error rfl
      · exact FailsOnly.ok _
  refine FailsOnly.bind ?_ fun _ => FailsOnly.ok _
  unfold Name.toWire Name.encode
  simp only
  split
  · exact FailsOnly.ok _
  · refine FailsOnly.bind (FailsOnly.mapM hlabel _) fun labels => ?_
    split
    · exact FailsOnly.error rfl
    · exact FailsOnly.ok _

/-- The failures of the verifier that is in use name no zone. -/
theorem Verifier.namesNoZone_standard : Verifier.standard.NamesNoZone := by
  intro key zone digestType
  refine FailsOnly.bind (failsOnly_digestInput key zone) fun input => ?_
  split
  · exact FailsOnly.ok _
  · exact FailsOnly.error rfl

private theorem Verifier.namesNoZone_repeating : Verifier.repeating.NamesNoZone := by
  intro key zone digestType
  change FailsOnly _ (if _ then _ else _)
  split
  · cases hinput : digestInput key zone with
    | ok input => exact FailsOnly.ok _
    | error failure => exact FailsOnly.error (failsOnly_digestInput key zone failure hinput)
  · exact FailsOnly.error rfl

namespace Resolver

open Lookup

/-- The clients and the verifier that are in use name no zone in their failures. With any client and
verifier that do not, a walk that fails breaks at one of the ancestors of the domain, and its
failure, and with it the verdict, names that ancestor: not its parent, though questions about the
parent may have failed. The zone is put around a cause at most once, and what was met with is shown
as before: as a server that could not be reached, as a name without data, or as neither. -/
theorem failed_chain_names_zone :
    (∀ {τ : Type} [Tasks (StateM τ)] (link : Link (StateM τ)) (port : UInt16),
      (link.client port).NamesNoZone) ∧
    Verifier.standard.NamesNoZone ∧
    ∀ {σ : Type} (r : Resolver (StateM σ)) (clock : StateM σ Int) (v : Verifier) (domain : String)
      (cache : NameserverCache) (st : σ) (failure : Failure),
      r.client.NamesNoZone → v.NamesNoZone →
      ((r.validateChainBy clock v domain).exec cache st).result = .error failure →
      ∃ steps, r.BreaksAt clock v domain cache st steps failure ∧
        failure.zone? = some (Name.fqdn (Name.ancestor domain steps)) ∧
        failure.layers ≤ 1 ∧
        (∀ zone source, failure = .zoneQueryFailed zone source →
          r.Cause v source ∧ failure.isTransport = source.isTransport ∧
            failure.isNoData = source.isNoData) ∧
        (ChainVerdict.ofResult
            ((r.validateChainBy clock v domain).exec cache st).result).failedZone =
          some (Name.fqdn (Name.ancestor domain steps)) := by
  refine ⟨fun link port => link.namesNoZone_client port, Verifier.namesNoZone_standard, ?_⟩
  intro σ r clock v domain cache st failure hc hv h
  obtain ⟨count, heq, hbefore⟩ := r.exists_validateChainBy_eq clock v domain
  obtain ⟨steps, hbreaks⟩ := exists_breaksAt_of_validateFirstBy
    (fun steps hsteps => (hbefore steps).mpr hsteps) (heq ▸ h)
  have hends := failsWith_validateZoneBy hc hv clock _ _ _ failure hbreaks.failed
  refine ⟨steps, hbreaks, hends.zone?_eq, hends.layers_le, ?_, ?_⟩
  · rintro zone source rfl
    exact hends.of_wrapping
  · rw [h]
    exact hends.zone?_eq

/-- The nameservers of the root cannot be asked for. The walk from a domain two levels below ends at
its parent, which it names, since the signers of the parent are with the root. The clock moves on
each time that it is looked at. -/
theorem failed_chain_names_zone_below_root :
    let ksk : Dnskey := ⟨257, 3, 8, [1, 2]⟩
    let answers (q : Question) (server : Address) : Except Failure Answer :=
      if q.name = "." then .error (.timeout server.text)
      else uniformAnswers [⟨192, 0, 2, 1⟩] [.dnskey ksk, .rrsig (.repeating ksk)]
        [.ds (.repeating "b.a." 2 ksk)] q server
    let client : Client (StateM Int) :=
      { query := fun q server => pure (answers q server)
        transfer := fun zone _ => pure (.error (.timeout zone)) }
    let r : Resolver (StateM Int) := ⟨client, .v4 ⟨192, 0, 2, 53⟩⟩
    let clock : StateM Int Int := fun now => (now, now + 10)
    let failure : Failure := .zoneQueryFailed "a." (.timeout "192.0.2.53")
    r.client.NamesNoZone ∧ Verifier.repeating.NamesNoZone ∧
    ((r.validateChainBy clock .repeating "b.a").exec .empty 50).result = .error failure ∧
    ∃ steps, r.BreaksAt clock .repeating "b.a" .empty 50 steps failure ∧
      failure.zone? = some (Name.fqdn (Name.ancestor "b.a" steps)) := by
  intro ksk answers client r clock failure
  have hc : r.client.NamesNoZone := by
    intro q server st failure h
    change answers q server = _ at h
    unfold answers uniformAnswers at h
    split at h
    · cases h
      rfl
    · simp only at h
      split at h <;> cases h
  have hfailed : ((r.validateChainBy clock .repeating "b.a").exec .empty 50).result =
      .error failure := by decide +kernel
  obtain ⟨-, -, hnames⟩ := failed_chain_names_zone
  obtain ⟨steps, hbreaks, hzone, -⟩ := hnames r clock .repeating "b.a" .empty 50 failure hc
    Verifier.namesNoZone_repeating hfailed
  exact ⟨hc, Verifier.namesNoZone_repeating, hfailed, steps, hbreaks, hzone⟩

end Resolver

end DnsHealth
