import DnsHealth.Proofs.Chain.Keys
import DnsHealth.Proofs.Chain.Signers
import DnsHealth.Proofs.Nameserver.Transparency

/-!
# When a zone validates

A zone validates exactly if its servers and those of its parent are known and their replies are
evidence for the zone: every server of the zone holds keys that one of them signs, no two of all
these keys collide, every server of the parent gives delegation signers, none of these is at odds
with the last key that has its tag, and one of them vouches for such a key. What a validation
reports is read off the same replies.
-/

namespace DnsHealth

variable {σ : Type}

/-- The replies of the servers of a zone and of its parent are evidence for the zone. -/
structure ZoneEvidence (v : Verifier) (now : Int) (zone : String) (own above : List Exchange) :
    Prop where
  /-- Every server of the zone holds keys that one of them signs. -/
  signed : ∀ e ∈ own, e.HoldsSignedKeys v now zone
  /-- No two keys of all servers of the zone collide. -/
  noCollision : NoTagCollision (own.flatMap Exchange.keys)
  /-- Every server of the parent gives delegation signers. -/
  given : ∀ e ∈ above, e.GivesSigners
  /-- No delegation signer is at odds with the last key that has its tag. -/
  agreed : ∀ d ∈ above.flatMap Exchange.signers,
    d.AgreesWith v zone (lastWithTag (own.flatMap Exchange.keys))
  /-- Some delegation signer vouches for the last key that has its tag. -/
  vouched : ∃ d ∈ above.flatMap Exchange.signers,
    d.Matches v zone (lastWithTag (own.flatMap Exchange.keys))

namespace ZoneEvidence

variable {v : Verifier} {now : Int} {zone : String} {own above : List Exchange}

/-- Without servers there is no evidence for a zone. -/
theorem own_ne_nil (h : ZoneEvidence v now zone own above) : own ≠ [] := by
  rintro rfl
  obtain ⟨d, -, key, hkey, -⟩ := h.vouched
  cases hkey

/-- Without servers of the parent there is no evidence for a zone. -/
theorem above_ne_nil (h : ZoneEvidence v now zone own above) : above ≠ [] := by
  rintro rfl
  obtain ⟨d, hd, -⟩ := h.vouched
  cases hd

end ZoneEvidence

namespace ZoneValidation

/-- What a validation reports about a zone, read off the replies of the servers of the zone and of
its parent. -/
structure Reports (v : Verifier) (now : Int) (zone : String) (own above : List Exchange)
    (z : ZoneValidation) : Prop where
  /-- The zone is the one that was asked about. -/
  zone_eq : z.zone = zone
  /-- The number of keys is that of the different tags. -/
  keyCount_eq : z.keyCount = ((own.flatMap Exchange.keys).map Dnskey.keyTag).toFinset.card
  /-- The window is that of the signature over the keys of the last server. -/
  window_eq : z.window = own.getLast?.bind fun e => (e.keyCheck v now zone).window
  /-- Some tag matches. -/
  matched_ne_nil : z.matchedKeyTags ≠ []
  /-- The tags that match are those of the delegation signers that vouch for a key. -/
  matched : MatchedTags v zone (lastWithTag (own.flatMap Exchange.keys))
    (above.flatMap Exchange.signers) z.matchedKeyTags

/-- A validation is what taking in the replies of the servers of a zone and of its parent leads
to. -/
def DrawnFrom (v : Verifier) (now : Int) (zone : String) (own above : List Exchange)
    (z : ZoneValidation) : Prop :=
  ∃ collected matched,
    own.foldlM (CollectedKeys.take v now zone) .empty = .ok collected ∧
    above.foldlM (takeSigners v zone collected.keys) [] = .ok matched ∧
    matched ≠ [] ∧ z = ⟨zone, collected.keys.size, collected.window, matched⟩

variable {v : Verifier} {now : Int} {zone : String} {own above : List Exchange}

private theorem get?_ofExchanges_eq (v : Verifier) (now : Int) (zone : String)
    (own : List Exchange) :
    (CollectedKeys.ofExchanges v now zone own).keys.get? =
      lastWithTag (own.flatMap Exchange.keys) :=
  KeyTagMap.get?_ofKeys_eq _

/-- Taking in the replies leads to a validation exactly if they are evidence for the zone. -/
theorem exists_drawnFrom_iff :
    (∃ z, DrawnFrom v now zone own above z) ↔ ZoneEvidence v now zone own above := by
  constructor
  · rintro ⟨z, collected, matched, hown, habove, hne, rfl⟩
    obtain ⟨hsigned, hcollision, rfl⟩ := (CollectedKeys.foldlM_take_eq_ok_iff ..).mp hown
    have hgiven := (exists_foldlM_takeSigners_eq_ok_iff above []).mp ⟨matched, habove⟩
    have hmatched := (matchedTags_of_foldlM habove).ne_nil_iff.mp hne
    rw [get?_ofExchanges_eq] at hgiven hmatched
    refine ⟨hsigned, hcollision, fun e he => (hgiven e he).1, fun d hd => ?_, hmatched⟩
    obtain ⟨e, he, hd⟩ := List.mem_flatMap.mp hd
    exact (hgiven e he).2 d hd
  · intro h
    have hown := (CollectedKeys.foldlM_take_eq_ok_iff v now zone own _).mpr
      ⟨h.signed, h.noCollision, rfl⟩
    have habove : ∃ matched, above.foldlM
        (takeSigners v zone (CollectedKeys.ofExchanges v now zone own).keys) [] = .ok matched := by
      rw [exists_foldlM_takeSigners_eq_ok_iff, get?_ofExchanges_eq]
      exact fun e he => ⟨h.given e he, fun d hd => h.agreed d (List.mem_flatMap.mpr ⟨e, he, hd⟩)⟩
    obtain ⟨matched, habove⟩ := habove
    have hne : matched ≠ [] := by
      rw [(matchedTags_of_foldlM habove).ne_nil_iff, get?_ofExchanges_eq]
      exact h.vouched
    exact ⟨_, _, matched, hown, habove, hne, rfl⟩

/-- What a validation reports is as the replies say. -/
theorem DrawnFrom.reports {z : ZoneValidation} (h : DrawnFrom v now zone own above z) :
    z.Reports v now zone own above := by
  obtain ⟨collected, matched, hown, habove, hne, rfl⟩ := h
  obtain ⟨-, -, rfl⟩ := (CollectedKeys.foldlM_take_eq_ok_iff ..).mp hown
  have hmatched := matchedTags_of_foldlM habove
  rw [get?_ofExchanges_eq] at hmatched
  exact ⟨rfl, KeyTagMap.size_ofKeys _, rfl, hne, hmatched⟩

end ZoneValidation

/-- The answers of a world in which every zone has one nameserver with given addresses, and gives
the same keys and delegation signers as every other. -/
def uniformAnswers (servers : List Ipv4) (keys signers : List RecordData) (q : Question)
    (server : Address) : Except Failure Answer :=
  let give (found : List RecordData) : Except Failure Answer :=
    .ok ⟨found.map fun data => ⟨q.name, 3600, data⟩, [], true, false, server, ⟨5⟩⟩
  match q.recordType with
  | .ns => give [.ns ("ns." ++ q.name)]
  | .a => give (servers.map .a)
  | .dnskey => give keys
  | .ds => give signers
  | _ => give []

namespace Resolver

open Lookup

/-- How the addresses of the parent are found when a zone validates: after those of the zone, and
after the servers of the zone were asked for keys. -/
def parentLookup (r : Resolver (StateM σ)) (zone : String) (servers : List Address)
    (cache : NameserverCache) (st : σ) : Outcome σ (List Address) :=
  let first := (r.findAddresses zone).exec cache st
  (r.findAddresses (Name.parentZone zone)).exec first.cache
    (r.client.stateAfter (keyQuestion (Name.fqdn zone)) servers first.state)

/-- The replies of the servers of a zone to the question for its keys, when it validates. -/
def ownReplies (r : Resolver (StateM σ)) (zone : String) (servers : List Address)
    (cache : NameserverCache) (st : σ) : List Exchange :=
  r.client.ask (keyQuestion (Name.fqdn zone)) servers ((r.findAddresses zone).exec cache st).state

/-- The replies of the servers of the parent to the question for delegation signers, when a zone
validates. -/
def parentReplies (r : Resolver (StateM σ)) (zone : String) (servers parents : List Address)
    (cache : NameserverCache) (st : σ) : List Exchange :=
  r.client.ask (signerQuestion (Name.fqdn zone)) parents
    (r.parentLookup zone servers cache st).state

/-- What validating a zone comes to with any client: the servers of the zone and of its parent are
known, and the validation is drawn from their replies. -/
theorem result_validateZone_eq_ok_iff (r : Resolver (StateM σ)) (v : Verifier) (now : Int)
    (zone : String) (cache : NameserverCache) (st : σ) (z : ZoneValidation) :
    ((r.validateZone v now zone).exec cache st).result = .ok z ↔
      ∃ servers parents,
        ((r.findAddresses zone).exec cache st).result = .ok servers ∧
        (r.parentLookup zone servers cache st).result = .ok parents ∧
        z.DrawnFrom v now (Name.fqdn zone) (r.ownReplies zone servers cache st)
          (r.parentReplies zone servers parents cache st) := by
  simp only [validateZone, exec_bind, Outcome.result_andThen_eq_ok_iff, exec_inZone,
    mapError_inZone_eq_ok_iff, exec_pure, result_matchParent_eq_ok_iff, findAddresses_fqdn,
    Name.parentZone_fqdn]
  constructor
  · rintro ⟨servers, hservers, collected, hcollected, matched, ⟨parents, hparents, hmatched, hne⟩,
      hz⟩
    obtain ⟨hresult, hcache⟩ := r.exec_collectKeys v now (Name.fqdn zone) servers
      ((r.findAddresses zone).exec cache st).cache ((r.findAddresses zone).exec cache st).state
    rw [r.state_collectKeys hcollected, hcache] at hparents hmatched
    cases hz
    exact ⟨servers, parents, hservers, hparents, collected, matched, hresult ▸ hcollected, hmatched,
      hne, rfl⟩
  · rintro ⟨servers, parents, hservers, hparents, collected, matched, hcollected, hmatched, hne,
      rfl⟩
    obtain ⟨hresult, hcache⟩ := r.exec_collectKeys v now (Name.fqdn zone) servers
      ((r.findAddresses zone).exec cache st).cache ((r.findAddresses zone).exec cache st).state
    rw [ownReplies, ← hresult] at hcollected
    refine ⟨servers, hservers, collected, hcollected, matched, ⟨parents, ?_, ?_, hne⟩, rfl⟩
    · rw [r.state_collectKeys hcollected, hcache]
      exact hparents
    · rw [r.state_collectKeys hcollected, hcache]
      exact hmatched

section Answering

variable {r : Resolver (StateM σ)} {answers : Question → Address → Except Failure Answer}

/-- With a client that answers by a function both lookups of addresses start as it were from the
nameservers that are known at first, and the replies are those of the function. -/
theorem result_validateZone_eq_ok_iff_of_answersBy (hc : r.client.AnswersBy answers) (v : Verifier)
    (now : Int) (zone : String) (cache : NameserverCache) (st : σ) (z : ZoneValidation) :
    ((r.validateZone v now zone).exec cache st).result = .ok z ↔
      ∃ servers parents,
        ((r.findAddresses zone).exec cache st).result = .ok servers ∧
        ((r.findAddresses (Name.parentZone zone)).exec cache st).result = .ok parents ∧
        z.DrawnFrom v now (Name.fqdn zone)
          (Exchange.about answers (keyQuestion (Name.fqdn zone)) servers)
          (Exchange.about answers (signerQuestion (Name.fqdn zone)) parents) := by
  simp only [result_validateZone_eq_ok_iff, ownReplies, parentReplies, parentLookup, hc.ask_eq,
    result_findAddresses_after hc]

/-- A zone validates exactly if the addresses of its servers and of those of its parent are found
and their replies are evidence for it, and what is reported is as these replies say. -/
theorem validateZone_accepts_iff (hc : r.client.AnswersBy answers) (v : Verifier) (now : Int)
    (zone : String) (cache : NameserverCache) (st : σ) :
    ((∃ z, ((r.validateZone v now zone).exec cache st).result = .ok z) ↔
      ∃ servers parents,
        ((r.findAddresses zone).exec cache st).result = .ok servers ∧
        ((r.findAddresses (Name.parentZone zone)).exec cache st).result = .ok parents ∧
        ZoneEvidence v now (Name.fqdn zone)
          (Exchange.about answers (keyQuestion (Name.fqdn zone)) servers)
          (Exchange.about answers (signerQuestion (Name.fqdn zone)) parents)) ∧
    ∀ z servers parents,
      ((r.validateZone v now zone).exec cache st).result = .ok z →
      ((r.findAddresses zone).exec cache st).result = .ok servers →
      ((r.findAddresses (Name.parentZone zone)).exec cache st).result = .ok parents →
      z.Reports v now (Name.fqdn zone)
        (Exchange.about answers (keyQuestion (Name.fqdn zone)) servers)
        (Exchange.about answers (signerQuestion (Name.fqdn zone)) parents) := by
  simp only [result_validateZone_eq_ok_iff_of_answersBy hc, ← ZoneValidation.exists_drawnFrom_iff]
  constructor
  · constructor
    · rintro ⟨z, servers, parents, hservers, hparents, hz⟩
      exact ⟨servers, parents, hservers, hparents, z, hz⟩
    · rintro ⟨servers, parents, hservers, hparents, z, hz⟩
      exact ⟨z, servers, parents, hservers, hparents, hz⟩
  · rintro z servers parents ⟨servers', parents', hservers', hparents', hz⟩ hservers hparents
    cases hservers'.symm.trans hservers
    cases hparents'.symm.trans hparents
    exact hz.reports

end Answering

/-- A resolver over a world in which every zone has one nameserver with given addresses, and gives
the same keys and delegation signers as every other. -/
def ofUniform (servers : List Ipv4) (keys signers : List RecordData) : Resolver (StateM Unit) :=
  ⟨.ofAnswers (uniformAnswers servers keys signers), .v4 ⟨192, 0, 2, 53⟩⟩

/-- Two servers hold two keys, of which the first signs. The parent gives a delegation signer for
the first, one of an unknown digest type for the second, and one for a key that is not there. -/
theorem validateZone_accepts_two_keys :
    let ksk : Dnskey := ⟨257, 3, 8, [1, 2]⟩
    let zsk : Dnskey := ⟨256, 3, 8, [3]⟩
    let servers : List Ipv4 := [⟨192, 0, 2, 1⟩, ⟨192, 0, 2, 2⟩]
    let keys := [.dnskey ksk, .dnskey zsk, .rrsig (.repeating ksk)]
    let signers := [.ds (.repeating "a." 2 ksk), .ds ⟨zsk.keyTag, 8, 3, []⟩, .ds ⟨5, 8, 2, []⟩]
    let r := ofUniform servers keys signers
    let answers := uniformAnswers servers keys signers
    r.client.AnswersBy answers ∧
    ∃ found parents,
      ((r.findAddresses "a").exec .empty ()).result = .ok found ∧
      ((r.findAddresses (Name.parentZone "a")).exec .empty ()).result = .ok parents ∧
      ZoneEvidence .repeating 50 (Name.fqdn "a")
        (Exchange.about answers (keyQuestion (Name.fqdn "a")) found)
        (Exchange.about answers (signerQuestion (Name.fqdn "a")) parents) ∧
      ZoneValidation.Reports .repeating 50 (Name.fqdn "a")
        (Exchange.about answers (keyQuestion (Name.fqdn "a")) found)
        (Exchange.about answers (signerQuestion (Name.fqdn "a")) parents)
        ⟨"a.", 2, some ⟨10, 100⟩, [ksk.keyTag]⟩ := by
  intro ksk zsk servers keys signers r answers
  have hrun : ((r.validateZone .repeating 50 "a").exec .empty ()).result =
      .ok ⟨"a.", 2, some ⟨10, 100⟩, [ksk.keyTag]⟩ := by decide +kernel
  have hc : r.client.AnswersBy answers := Client.answersBy_ofAnswers answers
  obtain ⟨haccepts, hreports⟩ := validateZone_accepts_iff hc .repeating 50 "a" .empty ()
  obtain ⟨found, parents, hfound, hparents, hevidence⟩ := haccepts.mp ⟨_, hrun⟩
  exact ⟨hc, found, parents, hfound, hparents, hevidence, hreports _ _ _ hrun hfound hparents⟩

end Resolver

end DnsHealth
