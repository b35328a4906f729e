import DnsHealth.Nameserver.Race
import DnsHealth.Proofs.Client.Inquiry
import DnsHealth.Proofs.Nameserver.Execution

/-!
# Agreement of callers

However the steps of the callers are interleaved, an entry that is there stays as it is, and a
caller that succeeds leaves with the entry that is there from then on. So callers agree about a
domain even where their searches found different nameservers. Left alone, a caller does what a
lookup does that runs by itself.
-/

namespace DnsHealth

namespace Resolver

variable {m : Type → Type} [Monad m] [LawfulMonad m]

/-- A search that was cut open asks the same as the search itself. -/
theorem run_search (r : Resolver m) (domain : String) :
    (Resolver.search ⟨Inquiry.client, r.address⟩ domain).run r.client = r.search domain := by
  have haddresses (host : String) (type : RecordType) :
      (Resolver.hostAddresses ⟨Inquiry.client, r.address⟩ host type).run r.client =
        r.hostAddresses host type := by
    simp only [hostAddresses, Inquiry.run_bind, Inquiry.run_recordSet]
    refine bind_congr fun reply => ?_
    cases reply <;> rfl
  have hnameserver (host : String) :
      (Resolver.nameserver ⟨Inquiry.client, r.address⟩ host).run r.client = r.nameserver host := by
    simp only [nameserver, Inquiry.run_bind, Inquiry.run_pure, haddresses]
  simp only [search, Inquiry.run_bind, Inquiry.run_recordSet]
  refine bind_congr fun reply => ?_
  cases reply with
  | error failure => rfl
  | ok set =>
    simp only [Inquiry.run_bind, Inquiry.run_mapM, Inquiry.run_pure, hnameserver]

/-- If a search succeeded, it has found something. -/
def FoundAny (outcome : Except Failure (List Nameserver)) : Prop :=
  ∀ nameservers, outcome = .ok nameservers → nameservers ≠ []

/-- Whatever the replies are, a search that succeeds finds at least one nameserver. -/
theorem search_ends (address : Address) (domain : String) :
    (Resolver.search ⟨Inquiry.client, address⟩ domain).Ends FoundAny := by
  refine Inquiry.ends_bind _ fun reply => ?_
  cases reply with
  | error failure => exact nofun
  | ok set =>
    refine Inquiry.ends_bind _ fun found => ?_
    change FoundAny (if found = [] then _ else _)
    split
    · exact nofun
    · next hfound =>
      rintro nameservers ⟨⟩
      exact hfound

end Resolver

namespace NameserverCache

/-- The entries of a cache are in another one as they are. -/
def Within (cache other : NameserverCache) : Prop :=
  ∀ name nameservers, cache.get? name = some nameservers → other.get? name = some nameservers

/-- A cache lies within itself. -/
theorem Within.refl (cache : NameserverCache) : cache.Within cache := fun _ _ h => h

/-- A cache lies within all that the next one lies within. -/
theorem Within.trans {cache other third : NameserverCache} (h : cache.Within other)
    (h' : other.Within third) : cache.Within third := fun name _ hentry =>
  h' name _ (h name _ hentry)

/-- An insertion loses no entry. -/
theorem within_insertIfAbsent (cache : NameserverCache) (domain : String)
    (nameservers : List Nameserver) : cache.Within (cache.insertIfAbsent domain nameservers) := by
  intro name found hentry
  by_cases hname : name = domain
  · rw [hname] at hentry ⊢
    rw [get?_insertIfAbsent_self, hentry, Option.getD_some]
  · rw [get?_insertIfAbsent_of_ne hname, hentry]

/-- What is there after an insertion was there before, or it is new. -/
theorem get?_eq_or_eq_of_insertIfAbsent {cache : NameserverCache} {domain name : String}
    {nameservers found : List Nameserver}
    (h : (cache.insertIfAbsent domain nameservers).get? name = some found) :
    cache.get? name = some found ∨ found = nameservers := by
  by_cases hname : name = domain
  · rw [hname, get?_insertIfAbsent_self] at h
    cases hknown : cache.get? domain with
    | none =>
      rw [hknown, Option.getD_none] at h
      exact .inr (Option.some.inj h).symm
    | some known =>
      rw [hknown, Option.getD_some] at h
      exact .inl (by rw [hname, hknown, h])
  · rw [get?_insertIfAbsent_of_ne hname] at h
    exact .inl h

end NameserverCache

/-- What a caller knows is right: a search that succeeds has found something, and the nameservers
that the caller left with are those of the entry. -/
def Caller.Sound (cache : NameserverCache) : Caller → Prop
  | ready _ | done _ (.error _) => True
  | searching _ search => search.Ends Resolver.FoundAny
  | done domain (.ok nameservers) => cache.get? (Name.fqdn domain) = some nameservers

/-- A caller that is sound stays so while the cache grows. -/
theorem Caller.Sound.mono {cache other : NameserverCache} {caller : Caller}
    (h : caller.Sound cache) (hwithin : cache.Within other) : caller.Sound other := by
  match caller with
  | ready _ | done _ (.error _) => exact True.intro
  | searching _ _ => exact h
  | done _ (.ok _) => exact hwithin _ _ h

namespace CallerRace

variable {resolver : Address} {race next later : CallerRace} {i : Nat} {domain : String}

private theorem setCaller_self {caller : Caller} (h : race.callers[i]? = some caller) :
    race.setCaller i caller = race := by
  obtain ⟨hlt, hget⟩ := List.getElem?_eq_some_iff.mp h
  simp [setCaller, ← hget]

/-- A caller takes the place of the one that it replaces. -/
theorem callers_setCaller {caller : Caller} (h : race.callers[i]? = some caller) (other : Caller) :
    (race.setCaller i other).callers[i]? = some other := by
  obtain ⟨hlt, -⟩ := List.getElem?_eq_some_iff.mp h
  exact List.getElem?_set_self hlt

/-- What a race keeps to. -/
structure Sound (race : CallerRace) : Prop where
  /-- No entry is empty. -/
  entries : ∀ name nameservers, race.cache.get? name = some nameservers → nameservers ≠ []
  /-- The callers are right in what they know. -/
  callers : ∀ caller ∈ race.callers, caller.Sound race.cache

private theorem sound_initial (domains : List String) : (initial domains).Sound := by
  refine ⟨nofun, fun caller hcaller => ?_⟩
  obtain ⟨domain, -, rfl⟩ := List.mem_map.mp hcaller
  exact True.intro

/-- A step that sets one caller and adds to the entries keeps a race sound. -/
theorem Sound.update {caller : Caller} {cache : NameserverCache} (h : race.Sound)
    (hcache : race.cache.Within cache)
    (hentries : ∀ name nameservers, cache.get? name = some nameservers → nameservers ≠ [])
    (hcaller : caller.Sound cache) :
    ((race.setCaller i caller).setCache cache).Sound := by
  refine ⟨hentries, fun other hother => ?_⟩
  rcases List.mem_or_eq_of_mem_set hother with hmem | rfl
  · exact (h.callers other hmem).mono hcache
  · exact hcaller

/-- A step takes no entry away. -/
theorem Step.within (h : Step resolver i race next) : race.cache.Within next.cache := by
  cases h with
  | hit | miss | reply | fail => exact .refl _
  | insert at_end inserted =>
    rw [inserted]
    exact NameserverCache.within_insertIfAbsent _ _ _

/-- A step keeps a race sound. -/
theorem Step.sound (hstep : Step resolver i race next) (h : race.Sound) : next.Sound := by
  cases hstep with
  | hit at_ready entry => exact h.update (.refl _) h.entries entry
  | miss at_ready no_entry => exact h.update (.refl _) h.entries (Resolver.search_ends _ _)
  | reply at_search replied =>
    have hsearch := h.callers _ (List.mem_of_getElem? at_search)
    exact h.update (.refl _) h.entries (hsearch.replied replied)
  | fail at_end => exact h.update (.refl _) h.entries True.intro
  | @insert domain nameservers cache at_end inserted =>
    have hfound : nameservers ≠ [] := h.callers _ (List.mem_of_getElem? at_end) _ rfl
    subst inserted
    refine h.update (NameserverCache.within_insertIfAbsent _ _ _) (fun name known hname => ?_) ?_
    · rcases NameserverCache.get?_eq_or_eq_of_insertIfAbsent hname with hold | rfl
      · exact h.entries name known hold
      · exact hfound
    · have hentry := race.cache.get?_insertIfAbsent_self (Name.fqdn domain) nameservers
      change _ = some _
      rw [hentry, Option.getD_some]

/-- However the steps are interleaved, no entry is taken away. -/
theorem within_of_turns (h : Relation.ReflTransGen (Turn resolver) race later) :
    race.cache.Within later.cache := by
  induction h with
  | refl => exact .refl _
  | tail _ hturn ih =>
    obtain ⟨_, hstep⟩ := hturn
    exact ih.trans hstep.within

/-- Turns keep a race sound. -/
theorem sound_of_turns (h : Relation.ReflTransGen (Turn resolver) race later) (hrace : race.Sound) :
    later.Sound := by
  induction h with
  | refl => exact hrace
  | tail _ hturn ih =>
    obtain ⟨_, hstep⟩ := hturn
    exact hstep.sound ih

/-- A step changes no caller but the one whose step it is. -/
theorem Step.callers_of_ne (h : Step resolver i race next) {j : Nat} (hne : i ≠ j) :
    next.callers[j]? = race.callers[j]? := by
  cases h <;> exact List.getElem?_set_ne hne

/-- A caller who has its result takes no step. -/
theorem Step.not_done (h : Step resolver i race next) {result : Except Failure (List Nameserver)} :
    race.callers[i]? ≠ some (.done domain result) := by
  intro hdone
  cases h <;> simp_all

/-- A result is never taken back. -/
theorem done_of_turns (h : Relation.ReflTransGen (Turn resolver) race later)
    {result : Except Failure (List Nameserver)}
    (hdone : race.callers[i]? = some (.done domain result)) :
    later.callers[i]? = some (.done domain result) := by
  induction h with
  | refl => exact hdone
  | tail _ hturn ih =>
    obtain ⟨j, hstep⟩ := hturn
    by_cases hmover : j = i
    · subst hmover
      exact absurd ih hstep.not_done
    · rw [hstep.callers_of_ne hmover, ih]

/-- Only a step after which its caller has succeeded changes the entries. -/
theorem Step.cache_eq_or_done (h : Step resolver i race next) :
    next.cache = race.cache ∨
      ∃ domain nameservers, next.callers[i]? = some (.done domain (.ok nameservers)) := by
  cases h with
  | hit | miss | reply | fail => exact .inl rfl
  | insert at_end inserted => exact .inr ⟨_, _, callers_setCaller at_end _⟩

/-- A caller who has not looked yet takes the entry if there is one. -/
theorem Step.eq_setCaller_of_ready (h : Step resolver i race next)
    (hready : race.callers[i]? = some (.ready domain)) {nameservers : List Nameserver}
    (hentry : race.cache.get? (Name.fqdn domain) = some nameservers) :
    next = race.setCaller i (.done domain (.ok nameservers)) := by
  cases h <;> simp_all

/-- Once there is an entry, a caller who has not looked yet goes straight to its result. -/
theorem ready_or_done_of_turns (h : Relation.ReflTransGen (Turn resolver) race later)
    (hready : race.callers[i]? = some (.ready domain)) {nameservers : List Nameserver}
    (hentry : race.cache.get? (Name.fqdn domain) = some nameservers) :
    later.callers[i]? = some (.ready domain) ∨
      later.callers[i]? = some (.done domain (.ok nameservers)) := by
  induction h with
  | refl => exact .inl hready
  | tail hturns hturn ih =>
    rcases ih with hstill | hdone
    · obtain ⟨j, hstep⟩ := hturn
      by_cases hmover : j = i
      · subst hmover
        rw [hstep.eq_setCaller_of_ready hstill (within_of_turns hturns _ _ hentry)]
        exact .inr (callers_setCaller hstill _)
      · rw [hstep.callers_of_ne hmover]
        exact .inl hstill
    · exact .inr (done_of_turns (.single hturn) hdone)

section Alone

variable {search rest : Inquiry (Except Failure (List Nameserver))}

private theorem turns_of_replied (hsearch : race.callers[i]? = some (.searching domain search))
    (h : Relation.ReflTransGen Inquiry.Replied search rest) :
    Relation.ReflTransGen (Turn resolver) race (race.setCaller i (.searching domain rest)) := by
  induction h with
  | refl => rw [setCaller_self hsearch]
  | @tail search rest _ hreplied ih =>
    have hstep : Step resolver i (race.setCaller i (.searching domain search)) _ :=
      .reply (callers_setCaller hsearch _) hreplied
    rw [setCaller_setCaller] at hstep
    exact ih.tail ⟨i, hstep⟩

variable {σ : Type}

/-- A caller can go through its search with the replies of a client. -/
theorem turns_search (r : Resolver (StateM σ)) (st : σ)
    (hsearch : race.callers[i]? = some
      (.searching domain (Resolver.search ⟨Inquiry.client, r.address⟩ (Name.fqdn domain)))) :
    Relation.ReflTransGen (Turn resolver) race (race.setCaller i
      (.searching domain (.ended ((r.search (Name.fqdn domain)).run st).1))) := by
  rw [← r.run_search]
  exact turns_of_replied hsearch (Inquiry.replied_run r.client _ st)

/-- A caller whom no other one interrupts does what a lookup does that runs by itself. -/
theorem turns_findNameservers (r : Resolver (StateM σ)) (st : σ)
    (hready : race.callers[i]? = some (.ready domain)) :
    let outcome := (r.findNameservers domain).exec race.cache st
    Relation.ReflTransGen (Turn r.address) race
      ((race.setCaller i (.done domain outcome.result)).setCache outcome.cache) := by
  intro outcome
  unfold outcome
  cases hentry : race.cache.get? (Name.fqdn domain) with
  | some nameservers =>
    rw [r.exec_findNameservers_of_known hentry]
    exact .single ⟨i, .hit hready hentry⟩
  | none =>
    rw [r.exec_findNameservers_of_unknown hentry]
    have hmiss : Step r.address i race _ := .miss hready hentry
    have hturns := (turns_search r st (callers_setCaller hready _)).head ⟨i, hmiss⟩
    rw [setCaller_setCaller] at hturns
    rcases hrun : (r.search (Name.fqdn domain)).run st with ⟨failure | nameservers, state⟩ <;>
      rw [hrun] at hturns
    · have hend := callers_setCaller hready (.searching domain (.ended (.error failure)))
      have hstep : Step r.address i _ _ := .fail hend
      rw [setCaller_setCaller] at hstep
      exact hturns.tail ⟨i, hstep⟩
    · have hend := callers_setCaller hready (.searching domain (.ended (.ok nameservers)))
      have hstep : Step r.address i _ _ := .insert hend rfl
      rw [setCaller_setCaller, cache_setCaller, NameserverCache.get?_insertIfAbsent_self, hentry,
        Option.getD_some, Option.getD_none] at hstep
      exact hturns.tail ⟨i, hstep⟩

end Alone

/-- Whatever steps lead to a race and from there to a later one: every entry stays as it is. A
caller that has succeeded has the entry that is there from then on, which is not empty, so two
callers that succeed with the same absolute name have the same nameservers. No step of a caller that
fails changes an entry. A caller who has not looked yet when there is an entry never searches, and
succeeds with the entry in its first step, as a lookup does that leaves the client as it is. -/
theorem callers_agree {domains : List String}
    (hrace : Relation.ReflTransGen (Turn resolver) (initial domains) race)
    (hlater : Relation.ReflTransGen (Turn resolver) race later) :
    (∀ name nameservers, race.cache.get? name = some nameservers →
      later.cache.get? name = some nameservers) ∧
    (∀ domain nameservers, .done domain (.ok nameservers) ∈ race.callers →
      later.cache.get? (Name.fqdn domain) = some nameservers ∧ nameservers ≠ []) ∧
    (∀ domain nameservers other others, .done domain (.ok nameservers) ∈ race.callers →
      .done other (.ok others) ∈ later.callers → Name.fqdn domain = Name.fqdn other →
      nameservers = others) ∧
    (∀ i next domain failure, Step resolver i race next →
      Relation.ReflTransGen (Turn resolver) next later →
      later.callers[i]? = some (.done domain (.error failure)) → next.cache = race.cache) ∧
    ∀ i domain nameservers, race.callers[i]? = some (.ready domain) →
      race.cache.get? (Name.fqdn domain) = some nameservers →
      (later.callers[i]? = some (.done domain (.ok nameservers)) ∨
        later.callers[i]? = some (.ready domain) ∧
        ∀ next, Step resolver i later next ↔
          next = later.setCaller i (.done domain (.ok nameservers))) ∧
      ∀ {σ : Type} (r : Resolver (StateM σ)) (st : σ),
        (r.findNameservers domain).exec later.cache st = ⟨.ok nameservers, later.cache, st⟩ := by
  have hsound := sound_of_turns hrace (sound_initial domains)
  have hlaterSound := sound_of_turns hlater hsound
  have hwithin := within_of_turns hlater
  have hentry {domain nameservers} (hdone : .done domain (.ok nameservers) ∈ race.callers) :
      race.cache.get? (Name.fqdn domain) = some nameservers :=
    hsound.callers (.done domain (.ok nameservers)) hdone
  refine ⟨hwithin, fun domain nameservers hdone => ?_,
    fun domain nameservers other others hdone hother hname => ?_,
    fun i next domain failure hstep hturns hfailed => ?_,
    fun i domain nameservers hready hknown => ⟨?_, fun r st => ?_⟩⟩
  · exact ⟨hwithin _ _ (hentry hdone), hsound.entries _ _ (hentry hdone)⟩
  · have hkept := hwithin _ _ (hentry hdone)
    have hfound : later.cache.get? (Name.fqdn other) = some others :=
      hlaterSound.callers (.done other (.ok others)) hother
    rw [hname, hfound] at hkept
    exact (Option.some.inj hkept).symm
  · rcases hstep.cache_eq_or_done with hcache | ⟨other, nameservers, hdone⟩
    · exact hcache
    · rw [done_of_turns hturns hdone] at hfailed
      cases hfailed
  · rcases ready_or_done_of_turns hlater hready hknown with hstill | hdone
    · refine .inr ⟨hstill, fun next => ⟨fun hstep => ?_, ?_⟩⟩
      · exact hstep.eq_setCaller_of_ready hstill (hwithin _ _ hknown)
      · rintro rfl
        exact .hit hstill (hwithin _ _ hknown)
    · exact .inl hdone
  · exact r.exec_findNameservers_of_known (hwithin _ _ hknown) st

/-- Two callers ask about one domain, with and without the point at its end, and both search before
one of them adds what it found. The second to come back found another nameserver, and gets the one
that is there. A third caller, who comes later, does not search. -/
theorem callers_agree_two_searches :
    let server : Address := .v4 ⟨192, 0, 2, 53⟩
    let first : List Nameserver := [.ofAddresses "n1." []]
    let second : List Nameserver := [.ofAddresses "n2." []]
    let race : CallerRace := ⟨⟨[("a.", first)]⟩,
      [.done "a" (.ok first), .searching "a." (.ended (.ok second)), .ready "a"]⟩
    let later : CallerRace := ⟨⟨[("a.", first)]⟩,
      [.done "a" (.ok first), .done "a." (.ok first), .ready "a"]⟩
    first ≠ second ∧
      Relation.ReflTransGen (Turn server) (initial ["a", "a.", "a"]) race ∧
      Relation.ReflTransGen (Turn server) race later ∧
      later.cache.get? (Name.fqdn "a") = some first ∧ first ≠ [] ∧
      ∀ r : Resolver (StateM Unit),
        (r.findNameservers "a").exec later.cache () = ⟨.ok first, later.cache, ()⟩ := by
  intro server first second race later
  let finding (host : String) : Resolver (StateM Unit) :=
    { address := server
      client :=
        { query := fun q server => pure <|
            if q.recordType = .ns then
              .ok ⟨[⟨q.name, 60, .ns host⟩], [], true, false, server, .zero⟩
            else .error (.timeout q.name)
          transfer := fun zone _ => pure (.error (.timeout zone)) } }
  let both : CallerRace := (initial ["a", "a.", "a"]).setCaller 1
    (.searching "a." (Resolver.search ⟨Inquiry.client, server⟩ (Name.fqdn "a.")))
  let found : CallerRace := both.setCaller 1 (.searching "a." (.ended (.ok second)))
  have hsecond : (((finding "n2.").search (Name.fqdn "a.")).run ()).1 = .ok second := by rfl
  have hfirst : ((finding "n1.").findNameservers "a").exec .empty () =
      ⟨.ok first, ⟨[("a.", first)]⟩, ()⟩ := by
    rw [Resolver.exec_findNameservers_of_unknown _ rfl]
    rfl
  have hmiss : Step server 1 (initial ["a", "a.", "a"]) both := .miss rfl rfl
  have hsearch : Relation.ReflTransGen (Turn server) both (both.setCaller 1 (.searching "a."
      (.ended (((finding "n2.").search (Name.fqdn "a.")).run ()).1))) :=
    turns_search (finding "n2.") () rfl
  rw [hsecond] at hsearch
  have hready : found.callers[0]? = some (.ready "a") := rfl
  have halone := turns_findNameservers (finding "n1.") () hready
  have hcache : found.cache = .empty := rfl
  rw [hcache, hfirst] at halone
  have hrace : Relation.ReflTransGen (Turn server) (initial ["a", "a.", "a"]) race :=
    (hsearch.head ⟨1, hmiss⟩).trans halone
  have hlater : Relation.ReflTransGen (Turn server) race later := .single ⟨1, .insert rfl rfl⟩
  obtain ⟨-, hentry, -, -, hlate⟩ := callers_agree hrace hlater
  obtain ⟨hkept, hne⟩ := hentry "a" first (List.mem_cons_self ..)
  exact ⟨by decide, hrace, hlater, hkept, hne, fun r => (hlate 2 "a" first rfl rfl).2 r ()⟩

end CallerRace

end DnsHealth
