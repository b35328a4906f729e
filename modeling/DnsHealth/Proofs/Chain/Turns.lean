import DnsHealth.Proofs.Chain.Keys
import DnsHealth.Proofs.Chain.Signers
import DnsHealth.Proofs.Nameserver.Runs

/-!
# Whom a validation calls

The validation of a zone asks the servers of the zone for their keys and the servers of the parent
for delegation signers, one after the other in the order in which they were found, and nobody else
but the recursive resolver that finds them. The first reply that cannot be taken in ends the
validation; as long as there is none, every server has its turn.
-/

namespace DnsHealth

variable {β : Type}

/-- The call in which an exchange came about. -/
def Exchange.call (e : Exchange) : Call := .query e.question e.server e.reply

/-- Servers are asked one question in turn, as long as the replies can be taken in. -/
structure AskedInTurn (q : Question) (take : β → Exchange → Except Failure β) (start : β)
    (servers : List Address) (asked : List Exchange) (result : Except Failure β) : Prop where
  /-- It is the same question every time. -/
  question : ∀ e ∈ asked, e.question = q
  /-- The servers are asked in their order, and nobody else is. -/
  in_order : asked.map (·.server) <+: servers
  /-- The result is what taking in the replies comes to. -/
  result_eq : asked.foldlM take start = result
  /-- All servers are asked unless that fails. -/
  complete : ∀ b, result = .ok b → asked.map (·.server) = servers
  /-- Nobody is asked after a reply that cannot be taken in. -/
  stops : ∃ b, asked.dropLast.foldlM take start = .ok b

namespace AskedInTurn

variable {q : Question} {take : β → Exchange → Except Failure β} {start : β}

/-- No server is left. -/
theorem done (start : β) : AskedInTurn q take start [] [] (.ok start) where
  question _ he := absurd he List.not_mem_nil
  in_order := List.prefix_rfl
  result_eq := rfl
  complete _ _ := rfl
  stops := ⟨start, rfl⟩

/-- A reply cannot be taken in. -/
theorem ended {server : Address} {reply : Except Failure Answer} {failure : Failure}
    (h : take start ⟨q, server, reply⟩ = .error failure) (servers : List Address) :
    AskedInTurn q take start (server :: servers) [⟨q, server, reply⟩] (.error failure) where
  question e he := by rw [List.mem_singleton.mp he]
  in_order := List.cons_prefix_cons.mpr ⟨rfl, List.nil_prefix⟩
  result_eq := by rw [List.foldlM_cons, h]; rfl
  complete _ hok := by cases hok
  stops := ⟨start, rfl⟩

/-- A reply is taken in, and the next server has its turn. -/
theorem next {server : Address} {reply : Except Failure Answer} {b : β} {servers : List Address}
    {asked : List Exchange} {result : Except Failure β}
    (h : take start ⟨q, server, reply⟩ = .ok b)
    (later : AskedInTurn q take b servers asked result) :
    AskedInTurn q take start (server :: servers) (⟨q, server, reply⟩ :: asked) result where
  question := List.forall_mem_cons.mpr ⟨rfl, later.question⟩
  in_order := List.cons_prefix_cons.mpr ⟨rfl, later.in_order⟩
  result_eq := by
    rw [List.foldlM_cons, h]
    exact later.result_eq
  complete c hok := by rw [List.map_cons, later.complete c hok]
  stops := by
    cases asked with
    | nil => exact ⟨start, rfl⟩
    | cons e asked =>
      rw [List.dropLast_cons_cons, List.foldlM_cons, h]
      exact later.stops

end AskedInTurn

namespace Lookup

variable {q : Question} {take : β → Exchange → Except Failure β}
  {body : β → Address → Lookup Process β}

/-- A step that puts a question to a server and takes in the reply, whatever it is. -/
def TakesReply (q : Question) (take : β → Exchange → Except Failure β)
    (body : β → Address → Lookup Process β) : Prop :=
  ∀ b server cache calls result known, (body b server).Run cache calls result known →
    ∃ reply, calls = [.query q server reply] ∧ result = take b ⟨q, server, reply⟩ ∧ known = cache

/-- Such steps for several servers ask them in turn. -/
theorem TakesReply.exists_of_run_foldlM (h : TakesReply q take body) {servers : List Address}
    {start : β} {cache known : NameserverCache} {calls : List Call} {result : Except Failure β}
    (hrun : (servers.foldlM body start).Run cache calls result known) :
    ∃ asked, calls = asked.map Exchange.call ∧ known = cache ∧
      AskedInTurn q take start servers asked result := by
  induction servers generalizing start calls with
  | nil =>
    obtain ⟨rfl, rfl, rfl⟩ := run_pure_iff.mp hrun
    exact ⟨[], rfl, rfl, .done start⟩
  | cons server servers ih =>
    rw [List.foldlM_cons] at hrun
    rcases run_bind_iff.mp hrun with
      ⟨failure, hfirst, rfl⟩ | ⟨b, first, mid, rest, hfirst, hrest, rfl⟩
    · obtain ⟨reply, rfl, htake, rfl⟩ := h _ _ _ _ _ _ hfirst
      exact ⟨[⟨q, server, reply⟩], rfl, rfl, .ended htake.symm servers⟩
    · obtain ⟨reply, rfl, htake, rfl⟩ := h _ _ _ _ _ _ hfirst
      obtain ⟨asked, rfl, rfl, hturns⟩ := ih hrest
      exact ⟨⟨q, server, reply⟩ :: asked, rfl, rfl, .next htake.symm hturns⟩

end Lookup

/-- Of the tags that match there has to be one at least. -/
def someMatch (zone : String) (tags : List UInt16) : Except Failure (List UInt16) :=
  if tags = [] then .error (.noMatchingDnskey zone (Name.parentZone zone)) else .ok tags

namespace Resolver

open Lookup

variable {address : Address} {v : Verifier} {now : Int} {zone : String} {keys : KeyTagMap}
  {cache known : NameserverCache} {calls : List Call}

/-- The collection of keys puts the question for keys to each server and takes in its reply. -/
theorem takesReply_collectKeys (address : Address) (v : Verifier) (now : Int) (zone : String) :
    TakesReply (keyQuestion zone) (CollectedKeys.take v now zone) (fun collected server => do
      let answer ← (Lookup.lift ((ofAddress address).client.query (keyQuestion zone) server)).inZone
        zone
      Lookup.lift (pure (collected.add v zone now server answer.answers))) := by
  intro collected server cache calls result known h
  rcases run_bind_iff.mp h with
    ⟨failure, hquery, rfl⟩ | ⟨answer, first, mid, rest, hquery, hadd, rfl⟩
  · obtain ⟨cause, hreply, rfl⟩ := run_inZone_error_iff.mp hquery
    obtain ⟨hcall, rfl⟩ := run_lift_iff.mp hreply
    exact ⟨_, Process.run_query_iff.mp hcall, rfl, rfl⟩
  · obtain ⟨hcall, rfl⟩ := run_lift_iff.mp (run_inZone_ok_iff.mp hquery)
    obtain ⟨hpure, rfl⟩ := run_lift_iff.mp hadd
    obtain ⟨rfl, rfl⟩ := Process.run_pure_iff.mp hpure
    obtain rfl := Process.run_query_iff.mp hcall
    exact ⟨.ok answer, rfl, rfl, rfl⟩

/-- The comparison with the parent puts the question for delegation signers to each server and takes
in its reply. -/
theorem takesReply_matchAnswer (address : Address) (v : Verifier) (zone : String)
    (keys : KeyTagMap) :
    TakesReply (signerQuestion zone) (takeSigners v zone keys) (fun matched server =>
      Lookup.lift (do
        return matchAnswer v zone keys matched server
          (← (ofAddress address).client.query (signerQuestion zone) server))) := by
  intro matched server cache calls result known h
  obtain ⟨hrun, rfl⟩ := run_lift_iff.mp h
  obtain ⟨reply, hcall, rfl⟩ := Process.run_bind_pure_iff.mp hrun
  exact ⟨reply, Process.run_query_iff.mp hcall, rfl, rfl⟩

/-- Matching with the parent asks its servers in turn, once these are found, and fails if no tag
matches in the end. -/
theorem exists_of_run_matchParent {result : Except Failure (List UInt16)}
    (h : ((ofAddress address).matchParent v zone keys).Run cache calls result known) :
    (∃ failure,
        ((ofAddress address).findAddresses (Name.parentZone zone)).Run cache calls
          (.error failure) known ∧
        result = .error (failure.inZone zone)) ∨
      ∃ lookups parents asked matched,
        ((ofAddress address).findAddresses (Name.parentZone zone)).Run cache lookups (.ok parents)
          known ∧
        calls = lookups ++ asked.map Exchange.call ∧
        AskedInTurn (signerQuestion zone) (takeSigners v zone keys) [] parents asked matched ∧
        result = matched >>= someMatch zone := by
  rcases run_bind_iff.mp h with
    ⟨failure, hfind, rfl⟩ | ⟨parents, lookups, mid, rest, hfind, hrest, rfl⟩
  · obtain ⟨cause, hparents, rfl⟩ := run_inZone_error_iff.mp hfind
    exact .inl ⟨cause, hparents, rfl⟩
  refine .inr ⟨lookups, parents, ?_⟩
  have hparents := run_inZone_ok_iff.mp hfind
  rcases run_bind_iff.mp hrest with
    ⟨failure, hturns, rfl⟩ | ⟨tags, first, last, _, hturns, hlast, rfl⟩
  · obtain ⟨asked, rfl, rfl, hasked⟩ :=
      (takesReply_matchAnswer address v zone keys).exists_of_run_foldlM hturns
    exact ⟨asked, _, hparents, rfl, hasked, rfl⟩
  · obtain ⟨asked, rfl, rfl, hasked⟩ :=
      (takesReply_matchAnswer address v zone keys).exists_of_run_foldlM hturns
    by_cases htags : tags = []
    · rw [if_pos htags] at hlast
      obtain ⟨rfl, rfl, rfl⟩ := run_throw_iff.mp hlast
      rw [List.append_nil]
      exact ⟨asked, _, hparents, rfl, hasked, (if_pos htags).symm⟩
    · rw [if_neg htags] at hlast
      obtain ⟨rfl, rfl, rfl⟩ := run_pure_iff.mp hlast
      rw [List.append_nil]
      exact ⟨asked, _, hparents, rfl, hasked, (if_neg htags).symm⟩

end Resolver

/-- Whom the validation of a zone calls, and what it comes to. -/
inductive ZoneCourse (address : Address) (v : Verifier) (now : Int) (zone : String)
    (cache known : NameserverCache) : List Call → Except Failure ZoneValidation → Prop where
  /-- The servers of the zone are not found. -/
  | unknown {lookups : List Call} {failure : Failure}
      (own : ((Resolver.ofAddress address).findAddresses zone).Run cache lookups
        (.error failure) known) :
      ZoneCourse address v now zone cache known lookups (.error (failure.inZone zone))
  /-- The keys of a server of the zone cannot be taken in. -/
  | refused {lookups : List Call} {servers : List Address} {asked : List Exchange}
      {failure : Failure}
      (own : ((Resolver.ofAddress address).findAddresses zone).Run cache lookups
        (.ok servers) known)
      (keys : AskedInTurn (Resolver.keyQuestion zone) (CollectedKeys.take v now zone) .empty servers
        asked (.error failure)) :
      ZoneCourse address v now zone cache known (lookups ++ asked.map Exchange.call)
        (.error failure)
  /-- All servers of the zone give keys, and those of the parent are not found. -/
  | orphaned {lookups parentLookups : List Call} {servers : List Address} {asked : List Exchange}
      {collected : CollectedKeys} {mid : NameserverCache} {failure : Failure}
      (own : ((Resolver.ofAddress address).findAddresses zone).Run cache lookups
        (.ok servers) mid)
      (keys : AskedInTurn (Resolver.keyQuestion zone) (CollectedKeys.take v now zone) .empty servers
        asked (.ok collected))
      (above : ((Resolver.ofAddress address).findAddresses (Name.parentZone zone)).Run mid
        parentLookups (.error failure) known) :
      ZoneCourse address v now zone cache known
        (lookups ++ asked.map Exchange.call ++ parentLookups) (.error (failure.inZone zone))
  /-- All servers of the zone give keys, and those of the parent are asked about them. -/
  | judged {lookups parentLookups : List Call} {servers parents : List Address}
      {asked vouchers : List Exchange} {collected : CollectedKeys} {mid : NameserverCache}
      {matched : Except Failure (List UInt16)}
      (own : ((Resolver.ofAddress address).findAddresses zone).Run cache lookups
        (.ok servers) mid)
      (keys : AskedInTurn (Resolver.keyQuestion zone) (CollectedKeys.take v now zone) .empty servers
        asked (.ok collected))
      (above : ((Resolver.ofAddress address).findAddresses (Name.parentZone zone)).Run mid
        parentLookups (.ok parents) known)
      (signers : AskedInTurn (Resolver.signerQuestion zone) (takeSigners v zone collected.keys) []
        parents vouchers matched) :
      ZoneCourse address v now zone cache known
        (lookups ++ asked.map Exchange.call ++ (parentLookups ++ vouchers.map Exchange.call))
        ((matched >>= someMatch zone).map fun tags =>
          ⟨zone, collected.keys.size, collected.window, tags⟩)

namespace Resolver

open Lookup

/-- Whatever the replies, the validation of a zone takes one of these courses. -/
theorem zoneCourse_of_run {address : Address} {v : Verifier} {now : Int} {zone : String}
    {cache known : NameserverCache} {calls : List Call} {result : Except Failure ZoneValidation}
    (h : ((ofAddress address).validateZone v now zone).Run cache calls result known) :
    ZoneCourse address v now (Name.fqdn zone) cache known calls result := by
  rcases run_bind_iff.mp h with
    ⟨failure, hfind, rfl⟩ | ⟨servers, lookups, mid, rest, hfind, hrest, rfl⟩
  · obtain ⟨cause, hown, rfl⟩ := run_inZone_error_iff.mp hfind
    exact .unknown hown
  have hown := run_inZone_ok_iff.mp hfind
  rcases run_bind_iff.mp hrest with
    ⟨failure, hcollect, rfl⟩ | ⟨collected, first, _, later, hcollect, hlater, rfl⟩
  · obtain ⟨asked, rfl, rfl, hkeys⟩ :=
      (takesReply_collectKeys address v now _).exists_of_run_foldlM hcollect
    exact .refused hown hkeys
  obtain ⟨asked, rfl, rfl, hkeys⟩ :=
    (takesReply_collectKeys address v now _).exists_of_run_foldlM hcollect
  obtain ⟨found, hmatch, rfl⟩ := run_bind_pure_iff.mp hlater
  rw [← List.append_assoc]
  rcases exists_of_run_matchParent hmatch with
    ⟨failure, habove, rfl⟩ | ⟨parentLookups, parents, vouchers, matched, habove, rfl, hsigners, rfl⟩
  · exact .orphaned hown hkeys habove
  · exact .judged hown hkeys habove hsigners

end Resolver

end DnsHealth
