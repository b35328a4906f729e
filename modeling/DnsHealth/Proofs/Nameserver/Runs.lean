import DnsHealth.Nameserver.Lookup
import DnsHealth.Proofs.Client.Process
import DnsHealth.Proofs.Nameserver.Agreement

/-!
# Runs of lookups

A lookup whose replies are left to the world comes to a result with some calls on its way, and
leaves some nameservers known. A search for nameservers calls nobody but the recursive resolver, and
only for nameservers and addresses; what it gives is known from then on, and nothing else that is
known changes. So a lookup that finds nameservers a second time gives what the first one gave, and
calls nobody.
-/

namespace DnsHealth

variable {α β : Type}

/-- A question for nameservers or addresses that is put to a recursive resolver. -/
def Call.IsLookup (resolver : Address) : Call → Prop
  | .query q server _ =>
    server = resolver ∧ q.dnssec = false ∧ q.recordType ∈ [RecordType.ns, .a, .aaaa]
  | .transfer .. => False

namespace Lookup

/-- A lookup comes to a result, makes these calls on its way, and leaves these nameservers known. -/
def Run (x : Lookup Process α) (cache : NameserverCache) (calls : List Call)
    (result : Except Failure α) (known : NameserverCache) : Prop :=
  (x.run.run cache).Run calls (result, known)

/-- What a lookup comes to in a world that decides by the calls that were made before: all its
calls, the result, and what is known then. -/
def play (world : List Call → (effect : Effect) → effect.Reply) (cache : NameserverCache)
    (x : Lookup Process α) : List Call × Except Failure α × NameserverCache :=
  (x.run.run cache).play world []

/-- Every world leads to a run. -/
theorem run_play (world : List Call → (effect : Effect) → effect.Reply) (cache : NameserverCache)
    (x : Lookup Process α) :
    x.Run cache (x.play world cache).1 (x.play world cache).2.1 (x.play world cache).2.2 := by
  obtain ⟨calls, hcalls, hrun⟩ := Process.run_play world [] (x.run.run cache)
  rw [List.nil_append] at hcalls
  rw [play, hcalls]
  exact hrun

variable {x : Lookup Process α} {cache known : NameserverCache} {calls : List Call}
  {result : Except Failure α}

/-- What is given already takes no calls and leaves what is known. -/
@[simp] theorem run_pure_iff {a : α} :
    (pure a : Lookup Process α).Run cache calls result known ↔
      calls = [] ∧ result = .ok a ∧ known = cache := by
  change (Process.ended (Except.ok a, cache)).Run calls (result, known) ↔ _
  simp [eq_comm]

/-- So does a failure. -/
@[simp] theorem run_throw_iff {failure : Failure} :
    (throw failure : Lookup Process α).Run cache calls result known ↔
      calls = [] ∧ result = .error failure ∧ known = cache := by
  change (Process.ended (Except.error failure, cache)).Run calls (result, known) ↔ _
  simp [eq_comm]

/-- To look at what is known takes no calls. -/
@[simp] theorem run_get_iff {result : Except Failure NameserverCache} :
    (get : Lookup Process NameserverCache).Run cache calls result known ↔
      calls = [] ∧ result = .ok cache ∧ known = cache := by
  change (Process.ended (Except.ok cache, cache)).Run calls (result, known) ↔ _
  simp [eq_comm]

/-- Nor does a change of it. -/
@[simp] theorem run_modify_iff {f : NameserverCache → NameserverCache}
    {result : Except Failure PUnit} :
    (modify f : Lookup Process PUnit).Run cache calls result known ↔
      calls = [] ∧ result = .ok ⟨⟩ ∧ known = f cache := by
  change (Process.ended (Except.ok PUnit.unit, f cache)).Run calls (result, known) ↔ _
  simp [eq_comm]

/-- A step outside the cache takes its calls and leaves what is known. -/
@[simp] theorem run_lift_iff {x : Process (Except Failure α)} :
    (Lookup.lift x).Run cache calls result known ↔ x.Run calls result ∧ known = cache := by
  change (x >>= fun a => pure (a, cache)).Run calls (result, known) ↔ _
  rw [Process.run_bind_pure_iff]
  constructor
  · rintro ⟨_, hrun, hpair⟩
    cases hpair
    exact ⟨hrun, rfl⟩
  · rintro ⟨hrun, rfl⟩
    exact ⟨result, hrun, rfl⟩

/-- A lookup after another: the first fails, or both run. -/
theorem run_bind_iff {f : α → Lookup Process β} {result : Except Failure β} :
    (x >>= f).Run cache calls result known ↔
      (∃ failure, x.Run cache calls (.error failure) known ∧ result = .error failure) ∨
        ∃ a first mid rest, x.Run cache first (.ok a) mid ∧ (f a).Run mid rest result known ∧
          calls = first ++ rest := by
  change ((x.run.run cache) >>= fun p => (ExceptT.bindCont f p.1).run p.2).Run calls
    (result, known) ↔ _
  rw [Process.run_bind_iff]
  constructor
  · rintro ⟨first, rest, ⟨found, mid⟩, hfirst, hrest, rfl⟩
    cases found with
    | ok a => exact .inr ⟨a, first, mid, rest, hfirst, hrest, rfl⟩
    | error failure =>
      obtain ⟨rfl, hpair⟩ := Process.run_pure_iff.mp hrest
      cases hpair
      exact .inl ⟨failure, by rwa [List.append_nil], rfl⟩
  · rintro (⟨failure, hrun, rfl⟩ | ⟨a, first, mid, rest, hfirst, hrest, rfl⟩)
    · exact ⟨calls, [], (.error failure, known), hrun, .ended _, (List.append_nil _).symm⟩
    · exact ⟨first, rest, (.ok a, mid), hfirst, hrest, rfl⟩

/-- A lookup whose result is only put in another form. -/
theorem run_bind_pure_iff {f : α → β} {result : Except Failure β} :
    (x >>= fun a => pure (f a)).Run cache calls result known ↔
      ∃ found, x.Run cache calls found known ∧ result = found.map f := by
  rw [run_bind_iff]
  constructor
  · rintro (⟨failure, hrun, rfl⟩ | ⟨a, first, mid, rest, hfirst, hrest, rfl⟩)
    · exact ⟨_, hrun, rfl⟩
    · obtain ⟨rfl, rfl, rfl⟩ := run_pure_iff.mp hrest
      exact ⟨_, by rwa [List.append_nil], rfl⟩
  · rintro ⟨failure | a, hrun, rfl⟩
    · exact .inl ⟨failure, hrun, rfl⟩
    · exact .inr ⟨a, calls, known, [], hrun, run_pure_iff.mpr ⟨rfl, rfl, rfl⟩,
        (List.append_nil _).symm⟩

/-- A lookup after a step outside the cache that cannot fail. -/
theorem run_lift_ok_bind_iff {y : Process α} {f : α → Lookup Process β}
    {result : Except Failure β} :
    (Lookup.lift (Except.ok <$> y) >>= f).Run cache calls result known ↔
      ∃ a first rest,
        y.Run first a ∧ (f a).Run cache rest result known ∧ calls = first ++ rest := by
  rw [run_bind_iff]
  constructor
  · rintro (⟨failure, hlift, -⟩ | ⟨a, first, _, rest, hlift, hrest, rfl⟩)
    · obtain ⟨hrun, -⟩ := run_lift_iff.mp hlift
      obtain ⟨_, -, hok⟩ := Process.run_map_iff.mp hrun
      cases hok
    · obtain ⟨hrun, rfl⟩ := run_lift_iff.mp hlift
      obtain ⟨_, hrun, hok⟩ := Process.run_map_iff.mp hrun
      cases hok
      exact ⟨a, first, rest, hrun, hrest, rfl⟩
  · rintro ⟨a, first, rest, hrun, hrest, rfl⟩
    have hok : (Except.ok <$> y : Process (Except Failure α)).Run first (.ok a) :=
      Process.run_map_iff.mpr ⟨a, hrun, rfl⟩
    exact .inr ⟨a, first, cache, rest, run_lift_iff.mpr ⟨hok, rfl⟩, hrest, rfl⟩

/-- Naming a zone in a failure changes nothing but the failure. -/
theorem run_inZone_iff {zone : String} :
    (x.inZone zone).Run cache calls result known ↔
      ∃ found, x.Run cache calls found known ∧ result = found.mapError (·.inZone zone) := by
  change ((x.run.run cache) >>= fun p => pure (p.1.mapError (·.inZone zone), p.2)).Run calls
    (result, known) ↔ _
  rw [Process.run_bind_pure_iff]
  constructor
  · rintro ⟨⟨found, _⟩, hrun, hpair⟩
    cases hpair
    exact ⟨found, hrun, rfl⟩
  · rintro ⟨found, hrun, rfl⟩
    exact ⟨(found, known), hrun, rfl⟩

/-- A success names no zone. -/
theorem run_inZone_ok_iff {zone : String} {a : α} :
    (x.inZone zone).Run cache calls (.ok a) known ↔ x.Run cache calls (.ok a) known := by
  rw [run_inZone_iff]
  constructor
  · rintro ⟨failure | b, hrun, hok⟩
    · cases hok
    · cases hok
      exact hrun
  · exact fun hrun => ⟨_, hrun, rfl⟩

/-- A failure is one of the lookup, with the zone. -/
theorem run_inZone_error_iff {zone : String} {failure : Failure} :
    (x.inZone zone).Run cache calls (.error failure) known ↔
      ∃ cause, x.Run cache calls (.error cause) known ∧ failure = cause.inZone zone := by
  rw [run_inZone_iff]
  constructor
  · rintro ⟨cause | b, hrun, herror⟩
    · cases herror
      exact ⟨cause, hrun, rfl⟩
    · cases herror
  · rintro ⟨cause, hrun, rfl⟩
    exact ⟨_, hrun, rfl⟩

/-- The outcome of a lookup is no failure, whatever the lookup comes to. -/
theorem run_outcome_iff {outcome : Except Failure (Except Failure α)} :
    x.outcome.Run cache calls outcome known ↔
      ∃ found, x.Run cache calls found known ∧ outcome = .ok found := by
  change ((x.run.run cache) >>= fun p => pure (Except.ok p.1, p.2)).Run calls (outcome, known) ↔ _
  rw [Process.run_bind_pure_iff]
  constructor
  · rintro ⟨⟨found, _⟩, hrun, hpair⟩
    cases hpair
    exact ⟨found, hrun, rfl⟩
  · rintro ⟨found, hrun, rfl⟩
    exact ⟨(found, known), hrun, rfl⟩

/-- A lookup after the outcome of another. -/
theorem run_outcome_bind_iff {f : Except Failure α → Lookup Process β}
    {result : Except Failure β} :
    (x.outcome >>= f).Run cache calls result known ↔
      ∃ found first mid rest, x.Run cache first found mid ∧ (f found).Run mid rest result known ∧
        calls = first ++ rest := by
  rw [run_bind_iff]
  constructor
  · rintro (⟨failure, houtcome, -⟩ | ⟨found, first, mid, rest, houtcome, hrest, rfl⟩)
    · obtain ⟨_, -, hok⟩ := run_outcome_iff.mp houtcome
      cases hok
    · obtain ⟨_, hfirst, hok⟩ := run_outcome_iff.mp houtcome
      cases hok
      exact ⟨found, first, mid, rest, hfirst, hrest, rfl⟩
  · rintro ⟨found, first, mid, rest, hfirst, hrest, rfl⟩
    exact .inr ⟨found, first, mid, rest, run_outcome_iff.mpr ⟨found, hfirst, rfl⟩, hrest, rfl⟩

/-- Whatever a lookup comes to, what is known at its start stays known. -/
def Keeps (x : Lookup Process α) : Prop :=
  ∀ cache calls result known, x.Run cache calls result known → cache.Within known

namespace Keeps

/-- What is given already keeps what is known. -/
theorem pure (a : α) : Keeps (Pure.pure a) := by
  intro cache calls result known h
  obtain ⟨-, -, rfl⟩ := run_pure_iff.mp h
  exact .refl known

/-- A failure keeps what is known. -/
theorem throw (failure : Failure) : Keeps (throw failure : Lookup Process α) := by
  intro cache calls result known h
  obtain ⟨-, -, rfl⟩ := run_throw_iff.mp h
  exact .refl known

/-- A step outside the cache keeps what is known. -/
theorem lift (x : Process (Except Failure α)) : Keeps (Lookup.lift x) := by
  intro cache calls result known h
  obtain ⟨-, rfl⟩ := run_lift_iff.mp h
  exact .refl known

/-- Two steps in a row keep what each of them keeps. -/
theorem bind {x : Lookup Process α} {f : α → Lookup Process β} (hx : Keeps x)
    (hf : ∀ a, Keeps (f a)) : Keeps (x >>= f) := by
  intro cache calls result known h
  rcases run_bind_iff.mp h with ⟨failure, hrun, -⟩ | ⟨a, first, mid, rest, hfirst, hrest, -⟩
  · exact hx _ _ _ _ hrun
  · exact (hx _ _ _ _ hfirst).trans (hf a _ _ _ _ hrest)

/-- Naming a zone keeps what is known. -/
theorem inZone {x : Lookup Process α} (hx : Keeps x) (zone : String) : Keeps (x.inZone zone) := by
  intro cache calls result known h
  obtain ⟨found, hrun, -⟩ := run_inZone_iff.mp h
  exact hx _ _ _ _ hrun

/-- A fold keeps what its steps keep. -/
theorem foldlM {f : β → α → Lookup Process β} (hf : ∀ b a, Keeps (f b a)) (xs : List α)
    (start : β) : Keeps (xs.foldlM f start) := by
  induction xs generalizing start with
  | nil => exact pure start
  | cons x xs ih =>
    rw [List.foldlM_cons]
    exact bind (hf start x) ih

/-- Steps for all members keep what each of them keeps. -/
theorem forM {f : α → Lookup Process PUnit} (hf : ∀ a, Keeps (f a)) (xs : List α) :
    Keeps (xs.forM f) := by
  induction xs with
  | nil => exact pure PUnit.unit
  | cons x xs ih =>
    exact bind (hf x) fun _ => ih

end Keeps

end Lookup

namespace Resolver

open Lookup

/-- The recursive resolver at an address, asked by a client whose replies are left to the world. -/
def ofAddress (address : Address) : Resolver Process := ⟨Process.client, address⟩

@[simp] theorem client_ofAddress (address : Address) :
    (ofAddress address).client = Process.client := rfl

@[simp] theorem address_ofAddress (address : Address) : (ofAddress address).address = address := rfl

variable {address : Address} {domain : String} {cache known : NameserverCache} {calls : List Call}
  {result : Except Failure (List Nameserver)}

/-- What is known of a domain is found without a call. -/
theorem run_findNameservers_of_known {nameservers : List Nameserver}
    (h : cache.get? (Name.fqdn domain) = some nameservers) :
    ((ofAddress address).findNameservers domain).Run cache calls result known ↔
      calls = [] ∧ result = .ok nameservers ∧ known = cache := by
  rw [findNameservers, run_bind_iff]
  constructor
  · rintro (⟨failure, hrun, rfl⟩ | ⟨found, first, mid, rest, hfirst, hrest, rfl⟩)
    · obtain ⟨-, hfailure, -⟩ := run_get_iff.mp hrun
      cases hfailure
    · obtain ⟨rfl, hfound, rfl⟩ := run_get_iff.mp hfirst
      cases hfound
      rw [h] at hrest
      exact run_pure_iff.mp hrest
  · rintro ⟨rfl, rfl, rfl⟩
    refine .inr ⟨known, [], known, [], run_get_iff.mpr ⟨rfl, rfl, rfl⟩, ?_, rfl⟩
    rw [h]
    exact run_pure_iff.mpr ⟨rfl, rfl, rfl⟩

/-- Without an entry for a domain the search decides, and what it finds is added. -/
theorem run_findNameservers_of_unknown (h : cache.get? (Name.fqdn domain) = none)
    (hrun : ((ofAddress address).findNameservers domain).Run cache calls result known) :
    ((ofAddress address).search (Name.fqdn domain)).Run calls result ∧
      ((∃ failure, result = .error failure) ∧ known = cache ∨
        ∃ nameservers, result = .ok nameservers ∧
          known = cache.insertIfAbsent (Name.fqdn domain) nameservers) := by
  rw [findNameservers, run_bind_iff] at hrun
  rcases hrun with ⟨failure, hget, -⟩ | ⟨_, _, _, _, hget, hrest, rfl⟩
  · obtain ⟨-, hfailure, -⟩ := run_get_iff.mp hget
    cases hfailure
  obtain ⟨rfl, hfound, rfl⟩ := run_get_iff.mp hget
  cases hfound
  rw [h] at hrest
  rcases run_bind_iff.mp hrest with
    ⟨failure, hlift, rfl⟩ | ⟨nameservers, first, _, rest, hlift, hinsert, rfl⟩
  · obtain ⟨hsearch, rfl⟩ := run_lift_iff.mp hlift
    exact ⟨hsearch, .inl ⟨⟨failure, rfl⟩, rfl⟩⟩
  · obtain ⟨hsearch, rfl⟩ := run_lift_iff.mp hlift
    rcases run_bind_iff.mp hinsert with ⟨_, hmodify, -⟩ | ⟨_, _, _, _, hmodify, hlast, rfl⟩
    · obtain ⟨-, hfailure, -⟩ := run_modify_iff.mp hmodify
      cases hfailure
    obtain ⟨rfl, -, rfl⟩ := run_modify_iff.mp hmodify
    rcases run_bind_iff.mp hlast with ⟨_, hget, -⟩ | ⟨_, _, _, _, hget, hpure, rfl⟩
    · obtain ⟨-, hfailure, -⟩ := run_get_iff.mp hget
      cases hfailure
    obtain ⟨rfl, hfound, rfl⟩ := run_get_iff.mp hget
    cases hfound
    obtain ⟨rfl, rfl, rfl⟩ := run_pure_iff.mp hpure
    rw [NameserverCache.get?_insertIfAbsent_self, h]
    exact ⟨by simpa using hsearch, .inr ⟨nameservers, rfl, rfl⟩⟩

/-- What was found is known from then on. -/
theorem get?_of_run_findNameservers {nameservers : List Nameserver}
    (h : ((ofAddress address).findNameservers domain).Run cache calls (.ok nameservers) known) :
    known.get? (Name.fqdn domain) = some nameservers := by
  cases hknown : cache.get? (Name.fqdn domain) with
  | some found =>
    obtain ⟨-, hresult, rfl⟩ := (run_findNameservers_of_known hknown).mp h
    cases hresult
    exact hknown
  | none =>
    obtain ⟨-, ⟨⟨failure, hresult⟩, -⟩ | ⟨found, hresult, rfl⟩⟩ :=
      run_findNameservers_of_unknown hknown h
    · cases hresult
    · cases hresult
      rw [NameserverCache.get?_insertIfAbsent_self, hknown, Option.getD_none]

/-- The search for nameservers keeps what is known. -/
theorem keeps_findNameservers (address : Address) (domain : String) :
    Keeps ((ofAddress address).findNameservers domain) := by
  intro cache calls result known h
  cases hknown : cache.get? (Name.fqdn domain) with
  | some found =>
    obtain ⟨-, -, rfl⟩ := (run_findNameservers_of_known hknown).mp h
    exact .refl known
  | none =>
    obtain ⟨-, ⟨-, rfl⟩ | ⟨found, -, rfl⟩⟩ := run_findNameservers_of_unknown hknown h
    · exact .refl known
    · exact NameserverCache.within_insertIfAbsent cache _ found

/-- The search for addresses keeps what is known. -/
theorem keeps_findAddresses (address : Address) (domain : String) :
    Keeps ((ofAddress address).findAddresses domain) :=
  (keeps_findNameservers address domain).bind fun _ => .pure _

/-- A search asks for nameservers and for their addresses. -/
theorem makes_search (address : Address) (domain : String) :
    Process.Makes (Call.IsLookup address) ((ofAddress address).search domain) := by
  have haddresses (host : String) (type : RecordType) (htype : type ∈ [RecordType.a, .aaaa]) :
      Process.Makes (Call.IsLookup address) ((ofAddress address).hostAddresses host type) := by
    refine Process.Makes.bind (Process.Makes.recordSet fun reply => ?_) fun reply => ?_
    · exact ⟨rfl, rfl, List.mem_cons_of_mem _ htype⟩
    · cases reply <;> exact Process.Makes.pure _
  refine Process.Makes.bind (Process.Makes.recordSet fun reply => ?_) fun reply => ?_
  · exact ⟨rfl, rfl, List.mem_cons_self ..⟩
  · cases reply with
    | error failure => exact Process.Makes.pure _
    | ok set =>
      refine Process.Makes.bind (Process.Makes.mapM (fun host => ?_) _) fun _ =>
        Process.Makes.pure _
      exact Process.Makes.bind (haddresses host .a (by decide)) fun _ =>
        Process.Makes.bind (haddresses host .aaaa (by decide)) fun _ => Process.Makes.pure _

/-- A lookup for nameservers calls nobody but the recursive resolver. -/
theorem isLookup_of_run_findNameservers
    (h : ((ofAddress address).findNameservers domain).Run cache calls result known) :
    ∀ call ∈ calls, call.IsLookup address := by
  cases hknown : cache.get? (Name.fqdn domain) with
  | some found =>
    obtain ⟨rfl, -, -⟩ := (run_findNameservers_of_known hknown).mp h
    exact fun call hcall => absurd hcall List.not_mem_nil
  | none =>
    obtain ⟨hsearch, -⟩ := run_findNameservers_of_unknown hknown h
    exact makes_search address _ calls result hsearch

/-- The addresses of a domain are those of the nameservers that are found for it. -/
theorem run_findAddresses_iff {found : Except Failure (List Address)} :
    ((ofAddress address).findAddresses domain).Run cache calls found known ↔
      ∃ result, ((ofAddress address).findNameservers domain).Run cache calls result known ∧
        found = result.map Nameserver.allAddresses := by
  rw [findAddresses, run_bind_pure_iff]

/-- The search for addresses calls nobody but the recursive resolver. -/
theorem isLookup_of_run_findAddresses {found : Except Failure (List Address)}
    (h : ((ofAddress address).findAddresses domain).Run cache calls found known) :
    ∀ call ∈ calls, call.IsLookup address := by
  obtain ⟨result, hrun, -⟩ := run_findAddresses_iff.mp h
  exact isLookup_of_run_findNameservers hrun

end Resolver

end DnsHealth
