import DnsHealth.Chain.Zone
import DnsHealth.Proofs.Nameserver.Execution
import DnsHealth.Proofs.Record.KeyTagMap
import DnsHealth.Proofs.Signature.Check

/-!
# Collecting the keys of a zone

The keys of a zone are collected exactly if every server that is asked holds keys that one of them
signs, and no two keys of all servers together collide. What is collected is then the map of all
keys in the order in which they came, and the window of the last server.
-/

namespace DnsHealth

variable {σ : Type}

namespace Exchange

/-- What the search for a good signature over the keys of a reply finds, the keys of the same reply
being tried. -/
def keyCheck (v : Verifier) (now : Int) (zone : String) (e : Exchange) : SignatureCheck :=
  .run v e.keys zone .dnskey e.records now

/-- A reply that holds keys of a zone, with a good and current signature over them. -/
structure HoldsSignedKeys (v : Verifier) (now : Int) (zone : String) (e : Exchange) : Prop where
  /-- The server gave an answer. -/
  answered : ∃ answer, e.reply = .ok answer
  /-- There are keys in it. -/
  keys_ne_nil : e.keys ≠ []
  /-- One of them signs them all. -/
  signed : (e.keyCheck v now zone).valid = true

end Exchange

namespace CollectedKeys

/-- Takes in a reply to the question for the keys of a zone. -/
def take (v : Verifier) (now : Int) (zone : String) (collected : CollectedKeys) (e : Exchange) :
    Except Failure CollectedKeys :=
  match e.reply with
  | .ok answer => collected.add v zone now e.server answer.answers
  | .error failure => .error (failure.inZone zone)

/-- What is collected from replies when all goes well. -/
def ofExchanges (v : Verifier) (now : Int) (zone : String) (asked : List Exchange) :
    CollectedKeys :=
  ⟨.ofKeys (asked.flatMap Exchange.keys),
    asked.getLast?.bind fun e => (e.keyCheck v now zone).window⟩

/-- One more reply is taken in exactly if it holds signed keys that do not collide with the keys of
the former. -/
theorem take_ofExchanges_eq_ok_iff {v : Verifier} {now : Int} {zone : String}
    {asked : List Exchange} (hkeys : NoTagCollision (asked.flatMap Exchange.keys)) (e : Exchange)
    (out : CollectedKeys) :
    take v now zone (ofExchanges v now zone asked) e = .ok out ↔
      e.HoldsSignedKeys v now zone ∧ NoTagCollision ((asked ++ [e]).flatMap Exchange.keys) ∧
        out = ofExchanges v now zone (asked ++ [e]) := by
  have hmore : (asked ++ [e]).flatMap Exchange.keys = asked.flatMap Exchange.keys ++ e.keys := by
    rw [List.flatMap_append, List.flatMap_singleton]
  have hlast : ofExchanges v now zone (asked ++ [e]) =
      ⟨.ofKeys (asked.flatMap Exchange.keys ++ e.keys), (e.keyCheck v now zone).window⟩ := by
    rw [ofExchanges, hmore, List.getLast?_concat, Option.bind_some]
  rw [hmore, hlast, take]
  cases hreply : e.reply with
  | error failure =>
    simp only [reduceCtorEq, false_iff]
    rintro ⟨⟨⟨answer, hanswer⟩, -, -⟩, -⟩
    rw [hreply] at hanswer
    cases hanswer
  | ok answer =>
    have hfound : answer.answers.filterMap Record.dnskey? = e.keys := by
      rw [Exchange.keys, Exchange.records_of_ok hreply]
    have hcheck : SignatureCheck.run v e.keys zone .dnskey answer.answers now =
        e.keyCheck v now zone := by
      rw [Exchange.keyCheck, Exchange.records_of_ok hreply]
    simp only [add, hfound, hcheck, bind_eq_ok_iff, ofExchanges,
      KeyTagMap.foldlM_insert_ofKeys_eq_ok_iff zone hkeys]
    constructor
    · rintro ⟨keys, ⟨hcollision, rfl⟩, hout⟩
      split at hout
      · cases hout
      · next hne =>
        split at hout
        · next hvalid =>
          cases hout
          exact ⟨⟨⟨answer, hreply⟩, hne, hvalid⟩, hcollision, rfl⟩
        · cases hout
    · rintro ⟨⟨-, hne, hvalid⟩, hcollision, rfl⟩
      exact ⟨_, ⟨hcollision, rfl⟩, by rw [if_neg hne, if_pos hvalid]⟩

/-- All replies are taken in exactly if each holds signed keys and no two keys collide. -/
theorem foldlM_take_eq_ok_iff (v : Verifier) (now : Int) (zone : String) (asked : List Exchange)
    (out : CollectedKeys) :
    asked.foldlM (take v now zone) empty = .ok out ↔
      (∀ e ∈ asked, e.HoldsSignedKeys v now zone) ∧
        NoTagCollision (asked.flatMap Exchange.keys) ∧ out = ofExchanges v now zone asked := by
  induction asked using List.reverseRecOn generalizing out with
  | nil =>
    constructor
    · intro h
      cases h
      exact ⟨fun e he => absurd he List.not_mem_nil, fun key hkey => absurd hkey List.not_mem_nil,
        rfl⟩
    · rintro ⟨-, -, rfl⟩
      rfl
  | append_singleton asked e ih =>
    rw [foldlM_append_singleton_eq_ok_iff]
    constructor
    · rintro ⟨middle, hmiddle, htake⟩
      obtain ⟨hsigned, hkeys, rfl⟩ := (ih middle).mp hmiddle
      obtain ⟨he, hcollision, hout⟩ := (take_ofExchanges_eq_ok_iff hkeys e out).mp htake
      refine ⟨fun other hother => ?_, hcollision, hout⟩
      rcases List.mem_append.mp hother with hother | hother
      · exact hsigned other hother
      · exact List.mem_singleton.mp hother ▸ he
    · rintro ⟨hsigned, hcollision, hout⟩
      have hkeys : NoTagCollision (asked.flatMap Exchange.keys) := by
        rw [List.flatMap_append] at hcollision
        exact fun a ha b hb => hcollision a (List.mem_append_left _ ha) b
          (List.mem_append_left _ hb)
      refine ⟨ofExchanges v now zone asked, (ih _).mpr ⟨fun other hother => ?_, hkeys, rfl⟩,
        (take_ofExchanges_eq_ok_iff hkeys e out).mpr ⟨hsigned e ?_, hcollision, hout⟩⟩
      · exact hsigned other (List.mem_append_left _ hother)
      · exact List.mem_append_right _ (List.mem_singleton_self e)

end CollectedKeys

namespace Resolver

open Lookup

/-- The question for the keys of a zone. -/
def keyQuestion (zone : String) : Question := ⟨zone, .dnskey, true⟩

/-- Collecting the keys of a zone asks its servers for them, one after the other. -/
theorem asks_collectKeys (r : Resolver (StateM σ)) (v : Verifier) (now : Int) (zone : String) :
    Asks r.client (keyQuestion zone) (CollectedKeys.take v now zone) (fun collected server => do
      let answer ← (Lookup.lift (r.client.query (keyQuestion zone) server)).inZone zone
      Lookup.lift (pure (collected.add v zone now server answer.answers))) := by
  intro collected server cache st
  simp only [exec_bind, exec_inZone, exec_lift, CollectedKeys.take]
  cases ((r.client.query (keyQuestion zone) server).run st).1 with
  | ok answer => rfl
  | error failure => rfl

/-- What collecting keys comes to: a fold over the replies of the servers. -/
theorem exec_collectKeys (r : Resolver (StateM σ)) (v : Verifier) (now : Int) (zone : String)
    (servers : List Address) (cache : NameserverCache) (st : σ) :
    ((r.collectKeys v now zone servers).exec cache st).result =
        (r.client.ask (keyQuestion zone) servers st).foldlM (CollectedKeys.take v now zone)
          .empty ∧
      ((r.collectKeys v now zone servers).exec cache st).cache = cache :=
  (r.asks_collectKeys v now zone).exec_foldlM servers .empty cache st

/-- Servers that all give keys were all asked for them, one after the other. -/
theorem state_collectKeys (r : Resolver (StateM σ)) {v : Verifier} {now : Int} {zone : String}
    {servers : List Address} {cache : NameserverCache} {st : σ} {out : CollectedKeys}
    (hok : ((r.collectKeys v now zone servers).exec cache st).result = .ok out) :
    ((r.collectKeys v now zone servers).exec cache st).state =
      r.client.stateAfter (keyQuestion zone) servers st :=
  (r.asks_collectKeys v now zone).state_foldlM hok

end Resolver

end DnsHealth
