import DnsHealth.Nameserver.Lookup
import DnsHealth.Proofs.Client.Exchange
import DnsHealth.Proofs.Name.Ancestors

/-!
# Running lookups

A lookup runs with the nameservers that are known and a client in some state; it leaves a result,
the nameservers that are known afterwards, and the client in another state. Steps that follow one
another hand on what the former left, and none is taken after a failure. Servers that are asked one
after the other come to a fold over their replies. The search for the nameservers of a domain ends
at once with what is known of it, and otherwise adds what it finds.
-/

namespace DnsHealth

variable {σ α β : Type}

namespace Lookup

/-- What a lookup leaves. -/
structure Outcome (σ α : Type) where
  /-- The result. -/
  result : Except Failure α
  /-- The nameservers that are known afterwards. -/
  cache : NameserverCache
  /-- The state of the client afterwards. -/
  state : σ

/-- Runs a lookup with the nameservers that are known and the state of the client. -/
def exec (x : Lookup (StateM σ) α) (cache : NameserverCache) (st : σ) : Outcome σ α :=
  let run := (x.run.run cache).run st
  ⟨run.1.1, run.1.2, run.2⟩

/-- Goes on after a lookup, unless that failed. -/
def Outcome.andThen (o : Outcome σ α) (f : α → Lookup (StateM σ) β) : Outcome σ β :=
  match o.result with
  | .ok a => (f a).exec o.cache o.state
  | .error failure => ⟨.error failure, o.cache, o.state⟩

@[simp] theorem Outcome.andThen_ok (a : α) (cache : NameserverCache) (st : σ)
    (f : α → Lookup (StateM σ) β) :
    (Outcome.mk (.ok a) cache st).andThen f = (f a).exec cache st := rfl

@[simp] theorem Outcome.andThen_error (failure : Failure) (cache : NameserverCache) (st : σ)
    (f : α → Lookup (StateM σ) β) :
    (Outcome.mk (.error failure) cache st).andThen f = ⟨.error failure, cache, st⟩ := rfl

/-- Going on succeeds exactly if the lookup did and what follows does. -/
theorem Outcome.result_andThen_eq_ok_iff (o : Outcome σ α) (f : α → Lookup (StateM σ) β) (b : β) :
    (o.andThen f).result = .ok b ↔
      ∃ a, o.result = .ok a ∧ ((f a).exec o.cache o.state).result = .ok b := by
  obtain ⟨result, cache, state⟩ := o
  cases result with
  | ok a => simp
  | error failure => simp

/-- What is given already changes neither the cache nor the state. -/
@[simp] theorem exec_pure (a : α) (cache : NameserverCache) (st : σ) :
    (pure a : Lookup (StateM σ) α).exec cache st = ⟨.ok a, cache, st⟩ := rfl

@[simp] theorem exec_throw (failure : Failure) (cache : NameserverCache) (st : σ) :
    (throw failure : Lookup (StateM σ) α).exec cache st = ⟨.error failure, cache, st⟩ := rfl

@[simp] theorem exec_get (cache : NameserverCache) (st : σ) :
    (get : Lookup (StateM σ) NameserverCache).exec cache st = ⟨.ok cache, cache, st⟩ := rfl

@[simp] theorem exec_modify (f : NameserverCache → NameserverCache) (cache : NameserverCache)
    (st : σ) :
    (modify f : Lookup (StateM σ) PUnit).exec cache st = ⟨.ok ⟨⟩, f cache, st⟩ := rfl

/-- A step outside the cache changes the state of the client only. -/
@[simp] theorem exec_lift (x : StateM σ (Except Failure α)) (cache : NameserverCache) (st : σ) :
    (Lookup.lift x).exec cache st = ⟨(x.run st).1, cache, (x.run st).2⟩ := rfl

/-- Naming a zone changes nothing but a failure. -/
@[simp] theorem exec_inZone (x : Lookup (StateM σ) α) (zone : String) (cache : NameserverCache)
    (st : σ) :
    (x.inZone zone).exec cache st =
      { x.exec cache st with result := (x.exec cache st).result.mapError (·.inZone zone) } := rfl

/-- The second step goes on with what the first one has left. -/
@[simp] theorem exec_bind (x : Lookup (StateM σ) α) (f : α → Lookup (StateM σ) β)
    (cache : NameserverCache) (st : σ) :
    (x >>= f).exec cache st = (x.exec cache st).andThen f := by
  rcases hrun : (x.run.run cache).run st with ⟨⟨result, known⟩, state⟩
  have hexec : x.exec cache st = ⟨result, known, state⟩ := by simp only [exec, hrun]
  have hbind : ((x >>= f).run.run cache).run st =
      ((ExceptT.bindCont f result).run known).run state := by
    change (match (x.run.run cache).run st with
      | (p, s) => ((ExceptT.bindCont f p.1).run p.2).run s) = _
    rw [hrun]
  rw [hexec]
  cases result with
  | ok a => simp only [exec, hbind]; rfl
  | error failure => simp only [exec, hbind]; rfl

/-- What follows a lookup that succeeded goes on from what that left. -/
theorem exec_bind_of_ok {x : Lookup (StateM σ) α} {cache : NameserverCache} {st : σ} {a : α}
    (h : (x.exec cache st).result = .ok a) (f : α → Lookup (StateM σ) β) :
    (x >>= f).exec cache st = (f a).exec (x.exec cache st).cache (x.exec cache st).state := by
  rw [exec_bind, Outcome.andThen, h]

/-- The zone of a step that succeeded makes no difference. -/
theorem exec_inZone_bind_of_ok {x : Lookup (StateM σ) α} {cache : NameserverCache} {st : σ} {a : α}
    (h : (x.exec cache st).result = .ok a) (zone : String) (f : α → Lookup (StateM σ) β) :
    (x.inZone zone >>= f).exec cache st =
      (f a).exec (x.exec cache st).cache (x.exec cache st).state := by
  rw [exec_bind, exec_inZone, Outcome.andThen, h]
  rfl

section Asking

variable {c : Client (StateM σ)} {q : Question} {step : β → Exchange → Except Failure β}
  {body : β → Address → Lookup (StateM σ) β}

/-- A lookup that puts a question to one server and takes in the reply. -/
def Asks (c : Client (StateM σ)) (q : Question) (step : β → Exchange → Except Failure β)
    (body : β → Address → Lookup (StateM σ) β) : Prop :=
  ∀ acc server cache st, (body acc server).exec cache st =
    ⟨step acc ⟨q, server, ((c.query q server).run st).1⟩, cache, ((c.query q server).run st).2⟩

/-- Asking servers one after the other comes to a fold over their replies, and what is known of
nameservers stays as it is. -/
theorem Asks.exec_foldlM (h : Asks c q step body) (servers : List Address) (acc : β)
    (cache : NameserverCache) (st : σ) :
    ((servers.foldlM body acc).exec cache st).result = (c.ask q servers st).foldlM step acc ∧
      ((servers.foldlM body acc).exec cache st).cache = cache := by
  induction servers generalizing acc st with
  | nil => exact ⟨rfl, rfl⟩
  | cons server servers ih =>
    rw [List.foldlM_cons, exec_bind, h, Client.ask, List.foldlM_cons]
    cases step acc ⟨q, server, ((c.query q server).run st).1⟩ with
    | ok next => exact ih next _
    | error failure => exact ⟨rfl, rfl⟩

/-- Unless a step fails, every server is asked. -/
theorem Asks.state_foldlM (h : Asks c q step body) {servers : List Address} {acc out : β}
    {cache : NameserverCache} {st : σ}
    (hok : ((servers.foldlM body acc).exec cache st).result = .ok out) :
    ((servers.foldlM body acc).exec cache st).state = c.stateAfter q servers st := by
  induction servers generalizing acc st with
  | nil => rfl
  | cons server servers ih =>
    rw [List.foldlM_cons, exec_bind, h] at hok ⊢
    cases hstep : step acc ⟨q, server, ((c.query q server).run st).1⟩ with
    | ok next =>
      rw [hstep] at hok
      exact ih hok
    | error failure =>
      rw [hstep] at hok
      cases hok

end Asking

end Lookup

/-- Naming a zone in a failure makes no success of it. -/
theorem mapError_inZone_eq_ok_iff (result : Except Failure α) (zone : String) (a : α) :
    result.mapError (·.inZone zone) = .ok a ↔ result = .ok a := by
  cases result with
  | ok b => exact Iff.rfl
  | error failure => constructor <;> intro h <;> cases h

namespace Resolver

open Lookup

/-- What is known of a domain is its result, and nothing else changes. -/
theorem exec_findNameservers_of_known (r : Resolver (StateM σ)) {domain : String}
    {cache : NameserverCache} {nameservers : List Nameserver}
    (h : cache.get? (Name.fqdn domain) = some nameservers) (st : σ) :
    (r.findNameservers domain).exec cache st = ⟨.ok nameservers, cache, st⟩ := by
  simp only [findNameservers, exec_bind, exec_get, Outcome.andThen_ok, h, exec_pure]

/-- Without an entry for a domain the search decides, and what it finds is added. -/
theorem exec_findNameservers_of_unknown (r : Resolver (StateM σ)) {domain : String}
    {cache : NameserverCache} (h : cache.get? (Name.fqdn domain) = none) (st : σ) :
    (r.findNameservers domain).exec cache st =
      match (r.search (Name.fqdn domain)).run st with
      | (.ok nameservers, st) =>
        ⟨.ok nameservers, cache.insertIfAbsent (Name.fqdn domain) nameservers, st⟩
      | (.error failure, st) => ⟨.error failure, cache, st⟩ := by
  simp only [findNameservers, exec_bind, exec_get, Outcome.andThen_ok, h, exec_lift]
  rcases (r.search (Name.fqdn domain)).run st with ⟨result, state⟩
  cases result with
  | ok nameservers =>
    simp only [Outcome.andThen_ok, exec_bind, exec_modify, exec_get, exec_pure,
      NameserverCache.get?_insertIfAbsent_self, h, Option.getD_none, Option.getD_some]
  | error failure => rfl

/-- A search for the nameservers of a domain changes no entry of another. -/
theorem get?_cache_findNameservers_of_ne (r : Resolver (StateM σ)) {domain other : String}
    (hne : other ≠ Name.fqdn domain) (cache : NameserverCache) (st : σ) :
    ((r.findNameservers domain).exec cache st).cache.get? other = cache.get? other := by
  cases hknown : cache.get? (Name.fqdn domain) with
  | some nameservers => rw [r.exec_findNameservers_of_known hknown]
  | none =>
    rw [r.exec_findNameservers_of_unknown hknown]
    rcases (r.search (Name.fqdn domain)).run st with ⟨_ | _, state⟩
    · rfl
    · exact NameserverCache.get?_insertIfAbsent_of_ne hne

/-- The search for addresses takes them from the nameservers that are found. -/
theorem exec_findAddresses (r : Resolver (StateM σ)) (domain : String) (cache : NameserverCache)
    (st : σ) :
    (r.findAddresses domain).exec cache st =
      { result := ((r.findNameservers domain).exec cache st).result.map Nameserver.allAddresses
        cache := ((r.findNameservers domain).exec cache st).cache
        state := ((r.findNameservers domain).exec cache st).state } := by
  rw [findAddresses, exec_bind]
  rcases (r.findNameservers domain).exec cache st with ⟨_ | _, known, state⟩ <;> rfl

/-- The nameservers of a domain are those of its absolute form. -/
@[simp] theorem findNameservers_fqdn {m : Type → Type} [Monad m] (r : Resolver m)
    (domain : String) : r.findNameservers (Name.fqdn domain) = r.findNameservers domain := by
  rw [findNameservers, findNameservers, Name.fqdn_fqdn]

/-- The addresses of a domain are those of its absolute form. -/
@[simp] theorem findAddresses_fqdn {m : Type → Type} [Monad m] (r : Resolver m) (domain : String) :
    r.findAddresses (Name.fqdn domain) = r.findAddresses domain := by
  rw [findAddresses, findAddresses, findNameservers_fqdn]

end Resolver

end DnsHealth
