import DnsHealth.Proofs.Nameserver.Execution

/-!
# Lookups that do not notice what is known

With a client that answers as a function of the question, a search for nameservers has one result
whatever the state of the client. A cache that holds nothing but results of searches then changes
no result of any lookup, and every lookup leaves such a cache behind. Hence two runs of one lookup
give the same result, however much is known at the start of each.
-/

namespace DnsHealth

variable {σ α β : Type}

/-- The result of a computation does not depend on the state it starts in. -/
def Steady (x : StateM σ α) : Prop := ∀ st other, (x.run st).1 = (x.run other).1

namespace Steady

/-- A value does not depend on the state. -/
theorem pure (a : α) : Steady (pure a : StateM σ α) := fun _ _ => rfl

/-- Two steps in a row are steady if each of them is. -/
theorem bind {x : StateM σ α} {f : α → StateM σ β} (hx : Steady x) (hf : ∀ a, Steady (f a)) :
    Steady (x >>= f) := by
  intro st other
  change ((f (x.run st).1).run (x.run st).2).1 = ((f (x.run other).1).run (x.run other).2).1
  rw [hx st other]
  exact hf _ _ _

/-- A traversal is steady if its steps are. -/
theorem mapM {f : α → StateM σ β} (hf : ∀ a, Steady (f a)) (xs : List α) :
    Steady (xs.mapM f) := by
  induction xs with
  | nil => exact pure []
  | cons x xs ih =>
    rw [List.mapM_cons]
    exact bind (hf x) fun b => bind ih fun bs => pure (b :: bs)

end Steady

namespace Resolver

open Lookup

section Searching

variable {r : Resolver (StateM σ)} {answers : Question → Address → Except Failure Answer}

/-- A client that answers by its answers is steady. -/
theorem steady_query (hc : r.client.AnswersBy answers) (q : Question) (server : Address) :
    Steady (r.client.query q server) := by
  intro st other
  rw [hc, hc]

/-- So is its search for records of one type. -/
theorem steady_recordSet (hc : r.client.AnswersBy answers) (q : Question) (server : Address) :
    Steady (r.client.recordSet q server) :=
  Steady.bind (steady_query hc q server) fun _ => Steady.pure _

private theorem steady_nameserver (hc : r.client.AnswersBy answers) (host : String) :
    Steady (r.nameserver host) := by
  have haddresses (type : RecordType) : Steady (r.hostAddresses host type) := by
    refine Steady.bind (steady_recordSet hc _ _) fun set => ?_
    cases set <;> exact Steady.pure _
  exact Steady.bind (haddresses .a) fun v4 => Steady.bind (haddresses .aaaa) fun v6 => Steady.pure _

/-- A search has one result, whatever the state of the client. -/
theorem steady_search (hc : r.client.AnswersBy answers) (domain : String) :
    Steady (r.search domain) := by
  refine Steady.bind (steady_recordSet hc _ _) fun set => ?_
  cases set with
  | ok set =>
    exact Steady.bind (Steady.mapM (steady_nameserver hc) _) fun nameservers => Steady.pure _
  | error failure => exact Steady.pure _

/-- What is known of a domain, and otherwise the search, decides about its addresses. -/
theorem result_findAddresses_congr (hc : r.client.AnswersBy answers) {domain : String}
    {cache other : NameserverCache}
    (h : cache.get? (Name.fqdn domain) = other.get? (Name.fqdn domain)) (st later : σ) :
    ((r.findAddresses domain).exec cache st).result =
      ((r.findAddresses domain).exec other later).result := by
  rw [r.exec_findAddresses, r.exec_findAddresses]
  cases hknown : cache.get? (Name.fqdn domain) with
  | some nameservers =>
    rw [r.exec_findNameservers_of_known hknown, r.exec_findNameservers_of_known (h ▸ hknown)]
  | none =>
    rw [r.exec_findNameservers_of_unknown hknown, r.exec_findNameservers_of_unknown (h ▸ hknown)]
    have hsearch := steady_search hc (Name.fqdn domain) st later
    rcases hfirst : (r.search (Name.fqdn domain)).run st with ⟨first, _⟩
    rcases hsecond : (r.search (Name.fqdn domain)).run later with ⟨second, _⟩
    rw [hfirst, hsecond] at hsearch
    cases hsearch
    cases first <;> rfl

/-- An earlier search changes no later result: what it adds is what a search finds anyway. -/
theorem result_findAddresses_after (hc : r.client.AnswersBy answers) (domain other : String)
    (cache : NameserverCache) (st later : σ) :
    ((r.findAddresses other).exec ((r.findAddresses domain).exec cache st).cache later).result =
      ((r.findAddresses other).exec cache st).result := by
  rw [exec_findAddresses r domain]
  by_cases hsame : Name.fqdn other = Name.fqdn domain
  · cases hknown : cache.get? (Name.fqdn domain) with
    | some nameservers =>
      rw [r.exec_findNameservers_of_known hknown]
      exact result_findAddresses_congr hc rfl later st
    | none =>
      rw [r.exec_findNameservers_of_unknown hknown]
      rcases hrun : (r.search (Name.fqdn domain)).run st with ⟨result, state⟩
      cases result with
      | error failure => exact result_findAddresses_congr hc rfl later st
      | ok nameservers =>
        have hadded : (cache.insertIfAbsent (Name.fqdn domain) nameservers).get?
            (Name.fqdn other) = some nameservers := by
          rw [hsame, NameserverCache.get?_insertIfAbsent_self, hknown, Option.getD_none]
        rw [← hsame] at hknown hrun
        rw [r.exec_findAddresses, r.exec_findAddresses, r.exec_findNameservers_of_known hadded,
          r.exec_findNameservers_of_unknown hknown, hrun]
  · exact result_findAddresses_congr hc (r.get?_cache_findNameservers_of_ne hsame cache st) later st

end Searching

/-- A cache that holds nothing but what searches find. -/
def Faithful (r : Resolver (StateM σ)) (cache : NameserverCache) : Prop :=
  ∀ domain nameservers, cache.get? domain = some nameservers →
    ∀ st, ((r.search domain).run st).1 = .ok nameservers

/-- An empty cache holds nothing that is not found. -/
theorem faithful_empty (r : Resolver (StateM σ)) : r.Faithful .empty :=
  fun _ _ h => nomatch h

end Resolver

/-- A lookup that gives the same result with every cache that holds nothing but what searches find,
and leaves such a cache behind. -/
structure Lookup.Transparent (r : Resolver (StateM σ)) (x : Lookup (StateM σ) α) : Prop where
  /-- The result depends neither on the cache nor on the state of the client. -/
  result_eq : ∀ {cache other}, r.Faithful cache → r.Faithful other → ∀ st later,
    (x.exec cache st).result = (x.exec other later).result
  /-- The cache that is left holds nothing but what searches find. -/
  faithful : ∀ {cache}, r.Faithful cache → ∀ st, r.Faithful (x.exec cache st).cache

namespace Lookup.Transparent

variable {r : Resolver (StateM σ)} {answers : Question → Address → Except Failure Answer}

/-- A value does not depend on what is known. -/
theorem pure (a : α) : Transparent r (pure a) :=
  ⟨fun _ _ _ _ => rfl, fun h _ => h⟩

/-- Nor does a failure. -/
theorem throw (failure : Failure) : Transparent r (throw failure : Lookup (StateM σ) α) :=
  ⟨fun _ _ _ _ => rfl, fun h _ => h⟩

/-- A steady step outside the cache does not depend on what is known. -/
theorem lift {x : StateM σ (Except Failure α)} (hx : Steady x) : Transparent r (Lookup.lift x) :=
  ⟨fun _ _ st later => hx st later, fun h _ => h⟩

/-- Naming a zone makes no difference. -/
theorem inZone {x : Lookup (StateM σ) α} (hx : Transparent r x) (zone : String) :
    Transparent r (x.inZone zone) := by
  refine ⟨fun hcache hother st later => ?_, hx.faithful⟩
  rw [exec_inZone, exec_inZone, hx.result_eq hcache hother st later]

/-- Two steps in a row do not depend on what is known if neither of them does. -/
theorem bind {x : Lookup (StateM σ) α} {f : α → Lookup (StateM σ) β} (hx : Transparent r x)
    (hf : ∀ a, Transparent r (f a)) : Transparent r (x >>= f) := by
  constructor
  · intro cache other hcache hother st later
    have hresult := hx.result_eq hcache hother st later
    have hfirst := hx.faithful hcache st
    have hsecond := hx.faithful hother later
    rw [exec_bind, exec_bind]
    rcases hrun : x.exec cache st with ⟨result, known, state⟩
    rcases hrun' : x.exec other later with ⟨result', known', state'⟩
    rw [hrun, hrun'] at hresult
    rw [hrun] at hfirst
    rw [hrun'] at hsecond
    cases hresult
    cases result with
    | ok a => exact (hf a).result_eq hfirst hsecond state state'
    | error failure => rfl
  · intro cache hcache st
    have hfirst := hx.faithful hcache st
    rw [exec_bind]
    rcases hrun : x.exec cache st with ⟨result, known, state⟩
    rw [hrun] at hfirst
    cases result with
    | ok a => exact (hf a).faithful hfirst state
    | error failure => exact hfirst

/-- A fold does not depend on what is known if its steps do not. -/
theorem foldlM {f : β → α → Lookup (StateM σ) β} (hf : ∀ b a, Transparent r (f b a))
    (xs : List α) (start : β) : Transparent r (xs.foldlM f start) := by
  induction xs generalizing start with
  | nil => exact pure start
  | cons x xs ih =>
    rw [List.foldlM_cons]
    exact bind (hf start x) ih

/-- Looking for nameservers does not notice what is known. -/
theorem findNameservers (hc : r.client.AnswersBy answers) (domain : String) :
    Transparent r (r.findNameservers domain) := by
  -- Either way the result is that of the search.
  have hsearch {cache : NameserverCache} (hcache : r.Faithful cache) (st later : σ) :
      ((r.findNameservers domain).exec cache st).result =
        ((r.search (Name.fqdn domain)).run later).1 := by
    cases hknown : cache.get? (Name.fqdn domain) with
    | some nameservers =>
      rw [r.exec_findNameservers_of_known hknown]
      exact (hcache _ _ hknown later).symm
    | none =>
      rw [r.exec_findNameservers_of_unknown hknown,
        Resolver.steady_search hc (Name.fqdn domain) later st]
      rcases (r.search (Name.fqdn domain)).run st with ⟨result, state⟩
      cases result <;> rfl
  constructor
  · intro cache other hcache hother st later
    rw [hsearch hcache st later, hsearch hother later later]
  · intro cache hcache st
    cases hknown : cache.get? (Name.fqdn domain) with
    | some nameservers =>
      rw [r.exec_findNameservers_of_known hknown]
      exact hcache
    | none =>
      have hresult := hsearch hcache st
      rw [r.exec_findNameservers_of_unknown hknown] at hresult ⊢
      rcases hrun : (r.search (Name.fqdn domain)).run st with ⟨result, state⟩
      rw [hrun] at hresult
      cases result with
      | error failure => exact hcache
      | ok nameservers =>
        intro other found hentry later
        by_cases heq : other = Name.fqdn domain
        · subst heq
          rw [NameserverCache.get?_insertIfAbsent_self, hknown] at hentry
          cases hentry
          exact (hresult later).symm
        · rw [NameserverCache.get?_insertIfAbsent_of_ne heq] at hentry
          exact hcache other found hentry later

/-- The search for addresses gives the same whatever is known already. -/
theorem findAddresses (hc : r.client.AnswersBy answers) (domain : String) :
    Transparent r (r.findAddresses domain) :=
  bind (findNameservers hc domain) fun _ => pure _

end Lookup.Transparent

namespace Lookup

/-- Runs a lookup for each member of a list, up to the first that fails. -/
def each (f : α → Lookup (StateM σ) β) (xs : List α) : Lookup (StateM σ) PUnit :=
  xs.forM fun a => do let _ ← f a

section Each

variable {r : Resolver (StateM σ)} {f : α → Lookup (StateM σ) β}

private theorem exec_each_nil (cache : NameserverCache) (st : σ) :
    (each f []).exec cache st = ⟨.ok PUnit.unit, cache, st⟩ := rfl

/-- The first member comes first, and the others if it succeeds. -/
theorem exec_each_cons (a : α) (xs : List α) (cache : NameserverCache) (st : σ) :
    (each f (a :: xs)).exec cache st = ((f a).exec cache st).andThen fun _ => each f xs := by
  change ((f a >>= fun _ => pure PUnit.unit) >>= fun _ => each f xs).exec cache st = _
  rw [exec_bind, exec_bind]
  rcases (f a).exec cache st with ⟨result, known, state⟩
  cases result <;> rfl

/-- The lookups for two lists in a row are taken one list after the other. -/
theorem exec_each_append (xs ys : List α) (cache : NameserverCache) (st : σ) :
    (each f (xs ++ ys)).exec cache st = ((each f xs).exec cache st).andThen fun _ => each f ys := by
  induction xs generalizing cache st with
  | nil => rfl
  | cons a xs ih =>
    rw [List.cons_append, exec_each_cons, exec_each_cons]
    rcases (f a).exec cache st with ⟨result, known, state⟩
    cases result with
    | ok b => exact ih known state
    | error failure => rfl

/-- Steps for all members do not depend on what is known if none of them does. -/
theorem Transparent.each (hf : ∀ a, Transparent r (f a)) (xs : List α) :
    Transparent r (Lookup.each f xs) := by
  induction xs with
  | nil => exact pure PUnit.unit
  | cons a xs ih => exact bind (bind (hf a) fun _ => pure PUnit.unit) fun _ => ih

/-- With a faithful cache a list of transparent lookups succeeds exactly if each of them does with
an empty one. -/
theorem result_each_eq_ok_iff (hf : ∀ a, Transparent r (f a)) (fresh : σ) (xs : List α)
    {cache : NameserverCache} (hcache : r.Faithful cache) (st : σ) :
    ((each f xs).exec cache st).result = .ok PUnit.unit ↔
      ∀ a ∈ xs, ∃ b, ((f a).exec .empty fresh).result = .ok b := by
  induction xs generalizing cache st with
  | nil => simp [exec_each_nil]
  | cons a xs ih =>
    rw [exec_each_cons, Outcome.result_andThen_eq_ok_iff, List.forall_mem_cons,
      (hf a).result_eq hcache r.faithful_empty st fresh, exists_and_right]
    exact and_congr_right fun _ => ih ((hf a).faithful hcache st) _

/-- The first failure among transparent lookups is that of the list, and no lookup after it has a
part in what is left. -/
theorem exec_each_of_first_failure (hf : ∀ a, Transparent r (f a)) (fresh : σ) {before : List α}
    {a : α} {failure : Failure}
    (hbefore : ∀ b ∈ before, ∃ out, ((f b).exec .empty fresh).result = .ok out)
    (hfail : ((f a).exec .empty fresh).result = .error failure) (after : List α)
    {cache : NameserverCache} (hcache : r.Faithful cache) (st : σ) :
    ((each f (before ++ a :: after)).exec cache st).result = .error failure ∧
      (each f (before ++ a :: after)).exec cache st = (each f (before ++ [a])).exec cache st := by
  induction before generalizing cache st with
  | nil =>
    have hresult := (hf a).result_eq hcache r.faithful_empty st fresh
    rw [hfail] at hresult
    rw [List.nil_append, List.nil_append, exec_each_cons, exec_each_cons]
    rcases hrun : (f a).exec cache st with ⟨result, known, state⟩
    rw [hrun] at hresult
    cases hresult
    exact ⟨rfl, rfl⟩
  | cons b before ih =>
    obtain ⟨⟨out, hout⟩, hrest⟩ := List.forall_mem_cons.mp hbefore
    have hresult := (hf b).result_eq hcache r.faithful_empty st fresh
    have hknown := (hf b).faithful hcache st
    rw [hout] at hresult
    rw [List.cons_append, List.cons_append, exec_each_cons, exec_each_cons]
    rcases hrun : (f b).exec cache st with ⟨result, known, state⟩
    rw [hrun] at hresult hknown
    cases hresult
    exact ih hrest hknown state

end Each

end Lookup

end DnsHealth
