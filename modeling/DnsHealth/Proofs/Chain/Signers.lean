import DnsHealth.Chain.Zone
import DnsHealth.Proofs.Fallible
import DnsHealth.Proofs.Nameserver.Execution
import Mathlib.Data.List.Nodup

/-!
# Matching delegation signers with keys

The delegation signers that the servers of a parent give are taken in exactly if every server gives
some, and none is at odds with the key that has its tag. The tags that match are then, each once,
the tags of the signers that vouch for a key.
-/

namespace DnsHealth

variable {σ : Type}

namespace Ds

/-- The digest type of a delegation signer is not known, so that it says nothing about a key. -/
def PassesOver (v : Verifier) (zone : String) (d : Ds) (key : Dnskey) : Prop :=
  ∃ code, v.digest key zone d.digestType = .error (.unsupportedDigestType code)

/-- A delegation signer carries the digest of a key. -/
def VouchesFor (v : Verifier) (zone : String) (d : Ds) (key : Dnskey) : Prop :=
  v.digest key zone d.digestType = .ok d.digest

instance (v : Verifier) (zone : String) (d : Ds) (key : Dnskey) :
    Decidable (d.VouchesFor v zone key) :=
  inferInstanceAs (Decidable (v.digest key zone d.digestType = .ok d.digest))

/-- A delegation signer is not at odds with the key that is known under its tag, if there is
one. -/
def AgreesWith (v : Verifier) (zone : String) (known : UInt16 → Option Dnskey) (d : Ds) : Prop :=
  ∀ key, known d.keyTag = some key → d.PassesOver v zone key ∨ d.VouchesFor v zone key

/-- A delegation signer vouches for the key that is known under its tag. -/
def Matches (v : Verifier) (zone : String) (known : UInt16 → Option Dnskey) (d : Ds) : Prop :=
  ∃ key, known d.keyTag = some key ∧ d.VouchesFor v zone key

end Ds

/-- The tags that match, each once, are those of the delegation signers that vouch for a key. -/
structure MatchedTags (v : Verifier) (zone : String) (known : UInt16 → Option Dnskey)
    (signers : List Ds) (matched : List UInt16) : Prop where
  /-- No tag stands twice. -/
  nodup : matched.Nodup
  /-- A tag matches exactly if a signer with that tag vouches for a key. -/
  mem_iff : ∀ tag, tag ∈ matched ↔ ∃ d ∈ signers, d.keyTag = tag ∧ d.Matches v zone known

/-- A reply that holds delegation signers. -/
structure Exchange.GivesSigners (e : Exchange) : Prop where
  /-- The server gave an answer. -/
  answered : ∃ answer, e.reply = .ok answer
  /-- There are delegation signers in it. -/
  signers_ne_nil : e.signers ≠ []

section Matching

variable {v : Verifier} {zone : String} {keys : KeyTagMap}

private theorem matchedTags_nil : MatchedTags v zone keys.get? [] [] :=
  ⟨List.nodup_nil, fun tag => by simp⟩

/-- One signer is taken in exactly if it is not at odds with the key that has its tag. -/
theorem exists_matchSigner_eq_ok_iff (matched : List UInt16) (d : Ds) :
    (∃ out, matchSigner v zone keys matched d = .ok out) ↔ d.AgreesWith v zone keys.get? := by
  unfold matchSigner Ds.AgreesWith Ds.PassesOver Ds.VouchesFor
  cases hkey : keys.get? d.keyTag with
  | none => simp
  | some key =>
    simp only [Option.some.injEq, forall_eq']
    cases hdigest : v.digest key zone d.digestType with
    | error failure => cases failure <;> simp
    | ok digest =>
      by_cases heq : digest = d.digest
      · simp only [heq, ne_eq, not_true_eq_false, ite_false, reduceCtorEq, exists_false, false_or,
          iff_true]
        split
        · exact ⟨matched, rfl⟩
        · exact ⟨matched ++ [d.keyTag], rfl⟩
      · simp [heq]

/-- What one signer does to the tags: nothing, unless it vouches for a key whose tag is new. -/
theorem matchSigner_eq_ok {matched out : List UInt16} {d : Ds}
    (h : matchSigner v zone keys matched d = .ok out) :
    (¬d.Matches v zone keys.get? ∧ out = matched) ∨
      (d.Matches v zone keys.get? ∧ d.keyTag ∈ matched ∧ out = matched) ∨
      (d.Matches v zone keys.get? ∧ d.keyTag ∉ matched ∧ out = matched ++ [d.keyTag]) := by
  unfold matchSigner at h
  unfold Ds.Matches Ds.VouchesFor
  cases hkey : keys.get? d.keyTag with
  | none =>
    rw [hkey] at h
    cases h
    exact Or.inl ⟨by simp, rfl⟩
  | some key =>
    simp only [hkey, Option.some.injEq, exists_eq_left'] at h ⊢
    cases hdigest : v.digest key zone d.digestType with
    | error failure =>
      rw [hdigest] at h
      refine Or.inl ⟨by simp, ?_⟩
      split at h
      · next heq => cases h; rfl
      · cases h
      · next heq => cases heq
    | ok digest =>
      rw [hdigest] at h
      simp only [ne_eq, ite_not] at h
      split at h
      · next heq =>
        subst heq
        split at h
        · next hmem => cases h; exact Or.inr (Or.inl ⟨rfl, hmem, rfl⟩)
        · next hnew => cases h; exact Or.inr (Or.inr ⟨rfl, hnew, rfl⟩)
      · cases h

/-- Taking in one more signer keeps account of the tags that match. -/
theorem MatchedTags.matchSigner {signers : List Ds} {matched out : List UInt16} {d : Ds}
    (h : MatchedTags v zone keys.get? signers matched)
    (hok : DnsHealth.matchSigner v zone keys matched d = .ok out) :
    MatchedTags v zone keys.get? (signers ++ [d]) out := by
  have hmem (tag : UInt16) :
      (∃ other ∈ signers ++ [d], other.keyTag = tag ∧ other.Matches v zone keys.get?) ↔
        tag ∈ matched ∨ (d.keyTag = tag ∧ d.Matches v zone keys.get?) := by
    rw [h.mem_iff]
    simp only [List.mem_append, List.mem_singleton, or_and_right, exists_or, exists_eq_left]
  rcases matchSigner_eq_ok hok with ⟨hno, rfl⟩ | ⟨hyes, hold, rfl⟩ | ⟨hyes, hnew, rfl⟩
  · refine ⟨h.nodup, fun tag => ?_⟩
    rw [hmem]
    exact ⟨Or.inl, fun hor => hor.resolve_right fun hd => hno hd.2⟩
  · refine ⟨h.nodup, fun tag => ?_⟩
    rw [hmem]
    refine ⟨Or.inl, fun hor => hor.elim id ?_⟩
    rintro ⟨rfl, -⟩
    exact hold
  · refine ⟨?_, fun tag => ?_⟩
    · rw [List.nodup_append]
      refine ⟨h.nodup, List.nodup_singleton _, fun a ha b hb hab => hnew ?_⟩
      rw [List.mem_singleton] at hb
      exact hb ▸ hab ▸ ha
    · rw [hmem, List.mem_append, List.mem_singleton]
      exact or_congr Iff.rfl ⟨fun heq => ⟨heq.symm, hyes⟩, fun hd => hd.1.symm⟩

/-- Taking in a list of signers keeps account of the tags that match. -/
theorem MatchedTags.foldlM_matchSigner {before signers : List Ds} {matched out : List UInt16}
    (h : MatchedTags v zone keys.get? before matched)
    (hok : signers.foldlM (DnsHealth.matchSigner v zone keys) matched = .ok out) :
    MatchedTags v zone keys.get? (before ++ signers) out := by
  induction signers using List.reverseRecOn generalizing out with
  | nil =>
    cases hok
    rwa [List.append_nil]
  | append_singleton signers d ih =>
    obtain ⟨middle, hmiddle, hlast⟩ := (foldlM_append_singleton_eq_ok_iff _ _ _ _ _).mp hok
    rw [← List.append_assoc]
    exact (ih hmiddle).matchSigner hlast

/-- Takes in a reply to the question for the delegation signers of a zone. -/
def takeSigners (v : Verifier) (zone : String) (keys : KeyTagMap) (matched : List UInt16)
    (e : Exchange) : Except Failure (List UInt16) :=
  matchAnswer v zone keys matched e.server e.reply

/-- A reply is taken in exactly if its signers are. -/
theorem takeSigners_eq_ok_iff (matched out : List UInt16) (e : Exchange) :
    takeSigners v zone keys matched e = .ok out ↔
      e.GivesSigners ∧ e.signers.foldlM (DnsHealth.matchSigner v zone keys) matched = .ok out := by
  unfold takeSigners matchAnswer
  cases hreply : e.reply with
  | error failure =>
    simp only [reduceCtorEq, false_iff]
    rintro ⟨⟨⟨answer, hanswer⟩, -⟩, -⟩
    rw [hreply] at hanswer
    cases hanswer
  | ok answer =>
    have hfound : answer.answers.filterMap Record.ds? = e.signers := by
      rw [Exchange.signers, Exchange.records_of_ok hreply]
    simp only [hfound]
    split
    · next hnil =>
      simp only [reduceCtorEq, false_iff]
      exact fun h => h.1.signers_ne_nil hnil
    · next hne => exact ⟨fun h => ⟨⟨⟨answer, hreply⟩, hne⟩, h⟩, fun h => h.2⟩

/-- All replies are taken in exactly if each gives signers and none of these is at odds with a
key. -/
theorem exists_foldlM_takeSigners_eq_ok_iff (asked : List Exchange) (matched : List UInt16) :
    (∃ out, asked.foldlM (takeSigners v zone keys) matched = .ok out) ↔
      ∀ e ∈ asked, e.GivesSigners ∧ ∀ d ∈ e.signers, d.AgreesWith v zone keys.get? := by
  refine exists_foldlM_eq_ok_iff (fun matched e => ?_) asked matched
  simp only [takeSigners_eq_ok_iff, exists_and_left,
    exists_foldlM_eq_ok_iff exists_matchSigner_eq_ok_iff]

/-- After all replies the tags are those of the signers that vouch for a key. -/
theorem matchedTags_of_foldlM {asked : List Exchange} {out : List UInt16}
    (hok : asked.foldlM (takeSigners v zone keys) [] = .ok out) :
    MatchedTags v zone keys.get? (asked.flatMap Exchange.signers) out := by
  induction asked using List.reverseRecOn generalizing out with
  | nil =>
    cases hok
    exact matchedTags_nil
  | append_singleton asked e ih =>
    obtain ⟨middle, hmiddle, hlast⟩ := (foldlM_append_singleton_eq_ok_iff _ _ _ _ _).mp hok
    rw [List.flatMap_append, List.flatMap_singleton]
    exact (ih hmiddle).foldlM_matchSigner ((takeSigners_eq_ok_iff _ _ _).mp hlast).2

/-- Some tag matches exactly if some signer vouches for a key. -/
theorem MatchedTags.ne_nil_iff {signers : List Ds} {matched : List UInt16}
    (h : MatchedTags v zone keys.get? signers matched) :
    matched ≠ [] ↔ ∃ d ∈ signers, d.Matches v zone keys.get? := by
  constructor
  · intro hne
    obtain ⟨tag, htag⟩ := List.exists_mem_of_ne_nil matched hne
    obtain ⟨d, hd, -, hmatches⟩ := (h.mem_iff tag).mp htag
    exact ⟨d, hd, hmatches⟩
  · rintro ⟨d, hd, hmatches⟩
    exact List.ne_nil_of_mem ((h.mem_iff d.keyTag).mpr ⟨d, hd, rfl, hmatches⟩)

end Matching

namespace Resolver

open Lookup

/-- The question for the delegation signers of a zone. -/
def signerQuestion (zone : String) : Question := ⟨zone, .ds, true⟩

/-- Matching delegation signers asks the servers of the parent for them, one after the other. -/
theorem asks_matchAnswer (r : Resolver (StateM σ)) (v : Verifier) (zone : String)
    (keys : KeyTagMap) :
    Asks r.client (signerQuestion zone) (takeSigners v zone keys) (fun matched server =>
      Lookup.lift (do
        return matchAnswer v zone keys matched server
          (← r.client.query (signerQuestion zone) server))) :=
  fun _ _ _ _ => rfl

/-- What matching with the parent comes to: the servers of the parent are known, and the fold over
their replies finds a tag that matches. -/
theorem result_matchParent_eq_ok_iff (r : Resolver (StateM σ)) (v : Verifier) (zone : String)
    (keys : KeyTagMap) (cache : NameserverCache) (st : σ) (out : List UInt16) :
    ((r.matchParent v zone keys).exec cache st).result = .ok out ↔
      ∃ servers, ((r.findAddresses (Name.parentZone zone)).exec cache st).result = .ok servers ∧
        (r.client.ask (signerQuestion zone) servers
          ((r.findAddresses (Name.parentZone zone)).exec cache st).state).foldlM
            (takeSigners v zone keys) [] = .ok out ∧
        out ≠ [] := by
  simp only [matchParent, exec_bind, Outcome.result_andThen_eq_ok_iff, exec_inZone,
    mapError_inZone_eq_ok_iff]
  refine exists_congr fun servers => and_congr_right fun _ => ?_
  have hasks := (r.asks_matchAnswer v zone keys).exec_foldlM servers []
    ((r.findAddresses (Name.parentZone zone)).exec cache st).cache
    ((r.findAddresses (Name.parentZone zone)).exec cache st).state
  rw [← hasks.1]
  constructor
  · rintro ⟨matched, hfold, hlast⟩
    split at hlast
    · cases hlast
    · next hne => cases hlast; exact ⟨hfold, hne⟩
  · rintro ⟨hfold, hne⟩
    exact ⟨out, hfold, by rw [if_neg hne]; rfl⟩

/-- When some tag matches, every server of the parent was asked. -/
theorem state_matchParent (r : Resolver (StateM σ)) {v : Verifier} {zone : String}
    {keys : KeyTagMap} {cache : NameserverCache} {st : σ} {servers : List Address}
    {out : List UInt16}
    (hservers : ((r.findAddresses (Name.parentZone zone)).exec cache st).result = .ok servers)
    (hok : ((r.matchParent v zone keys).exec cache st).result = .ok out) :
    ((r.matchParent v zone keys).exec cache st).state =
      r.client.stateAfter (signerQuestion zone) servers
        ((r.findAddresses (Name.parentZone zone)).exec cache st).state := by
  obtain ⟨found, hfound, hfold, hne⟩ :=
    (r.result_matchParent_eq_ok_iff v zone keys cache st out).mp hok
  cases hservers.symm.trans hfound
  have hasks := r.asks_matchAnswer v zone keys
  rw [← (hasks.exec_foldlM servers []
    ((r.findAddresses (Name.parentZone zone)).exec cache st).cache _).1] at hfold
  rw [matchParent, exec_inZone_bind_of_ok hservers]
  refine (congrArg Outcome.state (exec_bind_of_ok hfold _)).trans ?_
  rw [if_neg hne]
  exact hasks.state_foldlM hfold

end Resolver

end DnsHealth
