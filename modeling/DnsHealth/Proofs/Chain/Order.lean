import DnsHealth.Proofs.Chain.Acceptance
import Mathlib.Data.List.Perm.Basic
import Mathlib.Tactic.Push

/-!
# Validation and the order of records

Two worlds that differ only in the order of the addresses of a zone and its parent and of the
records about its keys and delegation signers agree on the zone, with one exception. Two different
keys may share their tag and their public key; the last of them counts, and a delegation signer
that tells them apart makes the order matter.
-/

namespace DnsHealth

variable {σ τ α β : Type}

/-- Two results with the same members in some order, or two failures. -/
def SameUpToOrder (members : α → List β) : Except Failure α → Except Failure α → Prop
  | .ok a, .ok b => (members a).Perm (members b)
  | .error _, .error _ => True
  | _, _ => False

instance [DecidableEq β] (members : α → List β) (x y : Except Failure α) :
    Decidable (SameUpToOrder members x y) :=
  match x, y with
  | .ok a, .ok b => inferInstanceAs (Decidable ((members a).Perm (members b)))
  | .error _, .error _ => inferInstanceAs (Decidable True)
  | .ok _, .error _ => inferInstanceAs (Decidable False)
  | .error _, .ok _ => inferInstanceAs (Decidable False)

namespace SameUpToOrder

variable {members : α → List β} {x y : Except Failure α}

/-- It does not matter which of two results is taken first. -/
theorem symm (h : SameUpToOrder members x y) : SameUpToOrder members y x := by
  cases x <;> cases y <;> first | exact List.Perm.symm h | exact h

/-- A result is the same up to order as a result only, and never as a failure. -/
theorem exists_eq_ok {a : α} (h : SameUpToOrder members (.ok a) y) :
    ∃ b, y = .ok b ∧ (members a).Perm (members b) := by
  cases y with
  | ok b => exact ⟨b, rfl, h⟩
  | error failure => cases h

end SameUpToOrder

namespace Exchange

/-- Two exchanges that brought the same records in some order, or both failed. -/
def SameRecords (e other : Exchange) : Prop :=
  SameUpToOrder Answer.answers e.reply other.reply

namespace SameRecords

variable {e other : Exchange} {v : Verifier} {now : Int} {zone : String}

private theorem exists_answer (h : e.SameRecords other) (hok : ∃ answer, e.reply = .ok answer) :
    ∃ answer, other.reply = .ok answer := by
  obtain ⟨answer, hanswer⟩ := hok
  rw [SameRecords, hanswer] at h
  obtain ⟨found, hfound, -⟩ := h.exists_eq_ok
  exact ⟨found, hfound⟩

/-- The records of the two exchanges are the same up to order. -/
theorem records_perm (h : e.SameRecords other) : e.records.Perm other.records := by
  unfold SameRecords at h
  unfold records
  cases hfirst : e.reply with
  | ok answer =>
    rw [hfirst] at h
    obtain ⟨found, hfound, hperm⟩ := h.exists_eq_ok
    rw [hfound]
    exact hperm
  | error failure =>
    cases hsecond : other.reply with
    | ok answer => rw [hfirst, hsecond] at h; cases h
    | error failure => exact List.Perm.refl []

/-- So are their keys. -/
theorem keys_perm (h : e.SameRecords other) : e.keys.Perm other.keys :=
  h.records_perm.filterMap _

/-- So are their delegation signers. -/
theorem signers_perm (h : e.SameRecords other) : e.signers.Perm other.signers :=
  h.records_perm.filterMap _

/-- If the verifier ignores order, signed keys stay signed. -/
theorem holdsSignedKeys (h : e.SameRecords other) (hv : v.IgnoresOrder)
    (he : e.HoldsSignedKeys v now zone) : other.HoldsSignedKeys v now zone where
  answered := h.exists_answer he.answered
  keys_ne_nil := fun hnil => he.keys_ne_nil (hnil ▸ h.keys_perm).eq_nil
  signed := SignatureCheck.valid_run_perm hv h.keys_perm h.records_perm he.signed

/-- Delegation signers that were given stay given. -/
theorem givesSigners (h : e.SameRecords other) (he : e.GivesSigners) : other.GivesSigners where
  answered := h.exists_answer he.answered
  signers_ne_nil := fun hnil => he.signers_ne_nil (hnil ▸ h.signers_perm).eq_nil

end SameRecords

/-- Two lists of exchanges that brought the same keys and delegation signers in some order, each of
the second the same records as one of the first. -/
structure Rearranged (asked others : List Exchange) : Prop where
  /-- Every exchange of the second list brought the same records as one of the first. -/
  exists_sameRecords : ∀ other ∈ others, ∃ e ∈ asked, e.SameRecords other
  /-- The keys are the same. -/
  keys_perm : (asked.flatMap keys).Perm (others.flatMap keys)
  /-- The delegation signers are the same. -/
  signers_perm : (asked.flatMap signers).Perm (others.flatMap signers)

/-- Asking the same servers in another order, where each gives the same records in another order,
rearranges the exchanges. -/
theorem rearranged_about {answers others : Question → Address → Except Failure Answer}
    {q : Question} {servers shuffled : List Address} (hservers : servers.Perm shuffled)
    (h : ∀ server, SameUpToOrder Answer.answers (answers q server) (others q server)) :
    Rearranged (about answers q servers) (about others q shuffled) := by
  have hsame (server : Address) :
      SameRecords ⟨q, server, answers q server⟩ ⟨q, server, others q server⟩ := h server
  refine ⟨fun other hother => ?_, ?_, ?_⟩
  · obtain ⟨server, hserver, rfl⟩ := List.mem_map.mp hother
    exact ⟨_, List.mem_map_of_mem (hservers.mem_iff.mpr hserver), hsame server⟩
  · rw [about, about, List.flatMap_map, List.flatMap_map]
    exact hservers.flatMap fun server _ => (hsame server).keys_perm
  · rw [about, about, List.flatMap_map, List.flatMap_map]
    exact hservers.flatMap fun server _ => (hsame server).signers_perm

end Exchange

namespace Ds

variable {v : Verifier} {zone : String} {keys others : List Dnskey} {d : Ds}

/-- A delegation signer says different things of two different keys that have its tag and the same
public key. -/
structure TellsApart (v : Verifier) (zone : String) (d : Ds) (first second : Dnskey) : Prop where
  /-- The first key has the tag of the delegation signer. -/
  first_tag : first.keyTag = d.keyTag
  /-- The second key has the tag of the delegation signer. -/
  second_tag : second.keyTag = d.keyTag
  /-- The keys have the same public key. -/
  publicKey_eq : first.publicKey = second.publicKey
  /-- The keys differ. -/
  ne : first ≠ second
  /-- The delegation signer passes over the first alone, or vouches for the first alone. -/
  verdict : ¬(d.PassesOver v zone first → d.PassesOver v zone second) ∨
    ¬(d.VouchesFor v zone first → d.VouchesFor v zone second)

/-- A delegation signer tells no two keys of a list apart. -/
def TellsNoneApart (v : Verifier) (zone : String) (keys : List Dnskey) (d : Ds) : Prop :=
  ∀ first ∈ keys, ∀ second ∈ keys, ¬d.TellsApart v zone first second

/-- Whether a delegation signer tells keys apart does not depend on their order. -/
theorem TellsNoneApart.perm (h : d.TellsNoneApart v zone keys) (hperm : keys.Perm others) :
    d.TellsNoneApart v zone others :=
  fun first hfirst second hsecond =>
    h first (hperm.mem_iff.mpr hfirst) second (hperm.mem_iff.mpr hsecond)

/-- A delegation signer that tells no keys apart says the same of two keys with its tag and the same
public key. -/
theorem TellsNoneApart.verdict (h : d.TellsNoneApart v zone keys) {first second : Dnskey}
    (hfirst : first ∈ keys) (hsecond : second ∈ keys) (htag : first.keyTag = d.keyTag)
    (htag' : second.keyTag = d.keyTag) (hpublic : first.publicKey = second.publicKey) :
    (d.PassesOver v zone first → d.PassesOver v zone second) ∧
      (d.VouchesFor v zone first → d.VouchesFor v zone second) := by
  by_cases heq : first = second
  · subst heq
    exact ⟨id, id⟩
  · by_contra hnot
    rw [not_and_or] at hnot
    exact h first hfirst second hsecond ⟨htag, htag', hpublic, heq, hnot⟩

/-- A delegation signer that tells no keys apart agrees with the last key of its tag in any
order. -/
theorem AgreesWith.perm (h : d.AgreesWith v zone (lastWithTag keys)) (hkeys : NoTagCollision keys)
    (hperm : keys.Perm others) (halike : d.TellsNoneApart v zone keys) :
    d.AgreesWith v zone (lastWithTag others) := by
  intro key hkey
  obtain ⟨last, hlast, hmem, htag, hmem', htag', hpublic⟩ :=
    exists_lastWithTag_of_perm hkeys hperm hkey
  obtain ⟨hpasses, hvouches⟩ := halike.verdict hmem hmem' htag htag' hpublic
  exact (h last hlast).imp hpasses hvouches

/-- A delegation signer that tells no keys apart vouches for the last key of its tag in any
order. -/
theorem Matches.perm (h : d.Matches v zone (lastWithTag keys)) (hkeys : NoTagCollision keys)
    (hperm : keys.Perm others) (halike : d.TellsNoneApart v zone keys) :
    d.Matches v zone (lastWithTag others) := by
  obtain ⟨key, hkey, hvouches⟩ := h
  obtain ⟨last, hlast, hmem, htag, hmem', htag', hpublic⟩ :=
    exists_lastWithTag_of_perm (hkeys.perm hperm) hperm.symm hkey
  rw [← hperm.mem_iff] at hmem hmem'
  exact ⟨last, hlast, (halike.verdict hmem' hmem htag' htag hpublic.symm).2 hvouches⟩

end Ds

section Rearranging

variable {v : Verifier} {now : Int} {zone : String} {own own' above above' : List Exchange}

/-- Rearranged replies are evidence for the same zones, unless a delegation signer tells keys
apart. -/
theorem ZoneEvidence.rearranged (h : ZoneEvidence v now zone own above) (hv : v.IgnoresOrder)
    (hown : Exchange.Rearranged own own') (habove : Exchange.Rearranged above above')
    (halike : ∀ d ∈ above.flatMap Exchange.signers,
      d.TellsNoneApart v zone (own.flatMap Exchange.keys)) :
    ZoneEvidence v now zone own' above' where
  signed := by
    intro other hother
    obtain ⟨e, he, hsame⟩ := hown.exists_sameRecords other hother
    exact hsame.holdsSignedKeys hv (h.signed e he)
  noCollision := h.noCollision.perm hown.keys_perm
  given := by
    intro other hother
    obtain ⟨e, he, hsame⟩ := habove.exists_sameRecords other hother
    exact hsame.givesSigners (h.given e he)
  agreed := by
    intro d hd
    rw [← habove.signers_perm.mem_iff] at hd
    exact (h.agreed d hd).perm h.noCollision hown.keys_perm (halike d hd)
  vouched := by
    obtain ⟨d, hd, hmatches⟩ := h.vouched
    exact ⟨d, habove.signers_perm.mem_iff.mp hd,
      hmatches.perm h.noCollision hown.keys_perm (halike d hd)⟩

/-- Rearranged replies lead to the same tags, unless a delegation signer tells keys apart. -/
theorem MatchedTags.mem_of_rearranged {matched matched' : List UInt16} {keys others : List Dnskey}
    {signers signers' : List Ds} (h : MatchedTags v zone (lastWithTag keys) signers matched)
    (h' : MatchedTags v zone (lastWithTag others) signers' matched')
    (hkeys : NoTagCollision keys) (hperm : keys.Perm others) (hsigners : signers.Perm signers')
    (halike : ∀ d ∈ signers, d.TellsNoneApart v zone keys) {tag : UInt16} (htag : tag ∈ matched) :
    tag ∈ matched' := by
  obtain ⟨d, hd, rfl, hmatches⟩ := (h.mem_iff tag).mp htag
  exact (h'.mem_iff d.keyTag).mpr
    ⟨d, hsigners.mem_iff.mp hd, rfl, hmatches.perm hkeys hperm (halike d hd)⟩

end Rearranging

/-- Two worlds show a zone in different orders: the addresses of its servers and of those of its
parent are the same, found or not, and each server gives the same keys and delegation signers. -/
structure ZoneShuffled (zone : String) (answers others : Question → Address → Except Failure Answer)
    (servers servers' parents parents' : Except Failure (List Address)) : Prop where
  /-- The zone has the same servers. -/
  servers : SameUpToOrder id servers servers'
  /-- The parent has the same servers. -/
  parents : SameUpToOrder id parents parents'
  /-- Every server gives the same records about keys. -/
  keys : ∀ server, SameUpToOrder Answer.answers
    (answers (Resolver.keyQuestion (Name.fqdn zone)) server)
    (others (Resolver.keyQuestion (Name.fqdn zone)) server)
  /-- Every server gives the same records about delegation signers. -/
  signers : ∀ server, SameUpToOrder Answer.answers
    (answers (Resolver.signerQuestion (Name.fqdn zone)) server)
    (others (Resolver.signerQuestion (Name.fqdn zone)) server)

/-- It does not matter which of two shuffled zones is taken first. -/
theorem ZoneShuffled.symm {zone : String}
    {answers others : Question → Address → Except Failure Answer}
    {servers servers' parents parents' : Except Failure (List Address)}
    (h : ZoneShuffled zone answers others servers servers' parents parents') :
    ZoneShuffled zone others answers servers' servers parents' parents :=
  ⟨h.servers.symm, h.parents.symm, fun server => (h.keys server).symm,
    fun server => (h.signers server).symm⟩

namespace Resolver

open Lookup

variable {r : Resolver (StateM σ)} {r' : Resolver (StateM τ)} {v : Verifier} {now : Int}
  {zone : String} {cache cache' : NameserverCache} {st : σ} {st' : τ}
  {answers others : Question → Address → Except Failure Answer}

/-- No delegation signer that the servers of the parent give tells two keys apart that the servers
of the zone hold. -/
def NoneTellsApart (v : Verifier) (zone : String)
    (answers : Question → Address → Except Failure Answer) (servers parents : List Address) :
    Prop :=
  ∀ d ∈ (Exchange.about answers (signerQuestion (Name.fqdn zone)) parents).flatMap Exchange.signers,
    d.TellsNoneApart v (Name.fqdn zone)
      ((Exchange.about answers (keyQuestion (Name.fqdn zone)) servers).flatMap Exchange.keys)

private theorem NoneTellsApart.rearranged {servers servers' parents parents' : List Address}
    (h : NoneTellsApart v zone answers servers parents)
    (hown : Exchange.Rearranged
      (Exchange.about answers (keyQuestion (Name.fqdn zone)) servers)
      (Exchange.about others (keyQuestion (Name.fqdn zone)) servers'))
    (habove : Exchange.Rearranged
      (Exchange.about answers (signerQuestion (Name.fqdn zone)) parents)
      (Exchange.about others (signerQuestion (Name.fqdn zone)) parents')) :
    NoneTellsApart v zone others servers' parents' :=
  fun d hd => (h d (habove.signers_perm.mem_iff.mpr hd)).perm hown.keys_perm

private theorem exists_tellsApart {servers parents : List Address}
    (h : ¬NoneTellsApart v zone answers servers parents) :
    ∃ d ∈ (Exchange.about answers (signerQuestion (Name.fqdn zone)) parents).flatMap
      Exchange.signers,
    ∃ first ∈ (Exchange.about answers (keyQuestion (Name.fqdn zone)) servers).flatMap Exchange.keys,
    ∃ second ∈ (Exchange.about answers (keyQuestion (Name.fqdn zone)) servers).flatMap
      Exchange.keys, d.TellsApart v (Name.fqdn zone) first second := by
  simp only [NoneTellsApart, Ds.TellsNoneApart] at h
  push Not at h
  exact h

/-- A zone that validates does so too in the other order, with the same tags, unless a delegation
signer tells keys apart. -/
theorem exists_validateZone_shuffled (hc : r.client.AnswersBy answers)
    (hc' : r'.client.AnswersBy others) (hv : v.IgnoresOrder)
    (h : ZoneShuffled zone answers others ((r.findAddresses zone).exec cache st).result
      ((r'.findAddresses zone).exec cache' st').result
      ((r.findAddresses (Name.parentZone zone)).exec cache st).result
      ((r'.findAddresses (Name.parentZone zone)).exec cache' st').result)
    (halike : ∀ servers parents,
      ((r.findAddresses zone).exec cache st).result = .ok servers →
      ((r.findAddresses (Name.parentZone zone)).exec cache st).result = .ok parents →
      NoneTellsApart v zone answers servers parents)
    {z : ZoneValidation} (hz : ((r.validateZone v now zone).exec cache st).result = .ok z) :
    ∃ z', ((r'.validateZone v now zone).exec cache' st').result = .ok z' ∧
      ∀ tag ∈ z.matchedKeyTags, tag ∈ z'.matchedKeyTags := by
  obtain ⟨servers, parents, hservers, hparents, hdrawn⟩ :=
    (result_validateZone_eq_ok_iff_of_answersBy hc v now zone cache st z).mp hz
  have halike := halike servers parents hservers hparents
  have hevidence := ZoneValidation.exists_drawnFrom_iff.mp ⟨z, hdrawn⟩
  obtain ⟨servers', hservers', hserversPerm⟩ := (hservers ▸ h.servers).exists_eq_ok
  obtain ⟨parents', hparents', hparentsPerm⟩ := (hparents ▸ h.parents).exists_eq_ok
  have hown := Exchange.rearranged_about hserversPerm h.keys
  have habove := Exchange.rearranged_about hparentsPerm h.signers
  obtain ⟨z', hdrawn'⟩ :=
    ZoneValidation.exists_drawnFrom_iff.mpr (hevidence.rearranged hv hown habove halike)
  refine ⟨z', ?_, fun tag htag => ?_⟩
  · rw [result_validateZone_eq_ok_iff_of_answersBy hc']
    exact ⟨servers', parents', hservers', hparents', hdrawn'⟩
  · exact hdrawn.reports.matched.mem_of_rearranged hdrawn'.reports.matched hevidence.noCollision
      hown.keys_perm habove.signers_perm halike htag

/-- Two worlds that show a zone in different orders agree on whether it validates and on the tags
that match, or else a delegation signer tells two keys of the zone apart that share their tag and
their public key. -/
theorem validateZone_agrees_or_tellsApart (hc : r.client.AnswersBy answers)
    (hc' : r'.client.AnswersBy others) (hv : v.IgnoresOrder)
    (h : ZoneShuffled zone answers others ((r.findAddresses zone).exec cache st).result
      ((r'.findAddresses zone).exec cache' st').result
      ((r.findAddresses (Name.parentZone zone)).exec cache st).result
      ((r'.findAddresses (Name.parentZone zone)).exec cache' st').result) :
    (((∃ z, ((r.validateZone v now zone).exec cache st).result = .ok z) ↔
        ∃ z, ((r'.validateZone v now zone).exec cache' st').result = .ok z) ∧
      ∀ z z', ((r.validateZone v now zone).exec cache st).result = .ok z →
        ((r'.validateZone v now zone).exec cache' st').result = .ok z' →
        ∀ tag, tag ∈ z.matchedKeyTags ↔ tag ∈ z'.matchedKeyTags) ∨
    ∃ servers parents,
      ((r.findAddresses zone).exec cache st).result = .ok servers ∧
      ((r.findAddresses (Name.parentZone zone)).exec cache st).result = .ok parents ∧
      ∃ d ∈ (Exchange.about answers (signerQuestion (Name.fqdn zone)) parents).flatMap
        Exchange.signers,
      ∃ first ∈ (Exchange.about answers (keyQuestion (Name.fqdn zone)) servers).flatMap
        Exchange.keys,
      ∃ second ∈ (Exchange.about answers (keyQuestion (Name.fqdn zone)) servers).flatMap
        Exchange.keys,
      d.TellsApart v (Name.fqdn zone) first second := by
  by_cases halike : ∀ servers parents,
      ((r.findAddresses zone).exec cache st).result = .ok servers →
      ((r.findAddresses (Name.parentZone zone)).exec cache st).result = .ok parents →
      NoneTellsApart v zone answers servers parents
  · left
    -- The other world has no such keys either, so that each follows from the other.
    have halike' : ∀ servers' parents',
        ((r'.findAddresses zone).exec cache' st').result = .ok servers' →
        ((r'.findAddresses (Name.parentZone zone)).exec cache' st').result = .ok parents' →
        NoneTellsApart v zone others servers' parents' := by
      intro servers' parents' hservers' hparents'
      obtain ⟨servers, hservers, hserversPerm⟩ := (hservers' ▸ h.servers.symm).exists_eq_ok
      obtain ⟨parents, hparents, hparentsPerm⟩ := (hparents' ▸ h.parents.symm).exists_eq_ok
      exact (halike servers parents hservers hparents).rearranged
        (Exchange.rearranged_about hserversPerm.symm h.keys)
        (Exchange.rearranged_about hparentsPerm.symm h.signers)
    refine ⟨⟨?_, ?_⟩, fun z z' hz hz' tag => ⟨fun htag => ?_, fun htag => ?_⟩⟩
    · rintro ⟨z, hz⟩
      obtain ⟨z', hz', -⟩ := exists_validateZone_shuffled hc hc' hv h halike hz
      exact ⟨z', hz'⟩
    · rintro ⟨z, hz⟩
      obtain ⟨z', hz', -⟩ := exists_validateZone_shuffled hc' hc hv h.symm halike' hz
      exact ⟨z', hz'⟩
    · obtain ⟨found, hfound, htags⟩ := exists_validateZone_shuffled hc hc' hv h halike hz
      cases hfound.symm.trans hz'
      exact htags tag htag
    · obtain ⟨found, hfound, htags⟩ := exists_validateZone_shuffled hc' hc hv h.symm halike' hz'
      cases hfound.symm.trans hz
      exact htags tag htag
  · right
    simp only [not_forall] at halike
    obtain ⟨servers, parents, hservers, hparents, happart⟩ := halike
    exact ⟨servers, parents, hservers, hparents, exists_tellsApart happart⟩

/-- Two servers, two keys and two delegation signers change places. -/
theorem validateZone_agrees_two_servers :
    let ksk : Dnskey := ⟨257, 3, 8, [1, 2]⟩
    let zsk : Dnskey := ⟨256, 3, 8, [3]⟩
    let signers := [.ds (.repeating "a." 2 ksk), .ds (.repeating "a." 4 zsk)]
    let r := ofUniform [⟨192, 0, 2, 1⟩, ⟨192, 0, 2, 2⟩]
      [.dnskey ksk, .dnskey zsk, .rrsig (.repeating ksk)] signers
    let r' := ofUniform [⟨192, 0, 2, 2⟩, ⟨192, 0, 2, 1⟩]
      [.rrsig (.repeating ksk), .dnskey zsk, .dnskey ksk] signers.reverse
    ((∃ z, ((r.validateZone .repeating 50 "a.").exec .empty ()).result = .ok z) ↔
        ∃ z, ((r'.validateZone .repeating 50 "a.").exec .empty ()).result = .ok z) ∧
      ∀ z z', ((r.validateZone .repeating 50 "a.").exec .empty ()).result = .ok z →
        ((r'.validateZone .repeating 50 "a.").exec .empty ()).result = .ok z' →
        ∀ tag, tag ∈ z.matchedKeyTags ↔ tag ∈ z'.matchedKeyTags := by
  intro ksk zsk signers r r'
  refine Or.resolve_right (validateZone_agrees_or_tellsApart (Client.answersBy_ofAnswers _)
    (Client.answersBy_ofAnswers _) Verifier.ignoresOrder_repeating
    ⟨by decide +kernel, by decide +kernel, fun _ => List.Perm.map _ (by decide +kernel),
      fun _ => List.Perm.map _ (by decide +kernel)⟩) ?_
  rintro ⟨servers, parents, hservers, -, d, -, first, hfirst, second, hsecond, happart⟩
  have hown : ((r.findAddresses "a.").exec .empty ()).result =
      .ok [.v4 ⟨192, 0, 2, 1⟩, .v4 ⟨192, 0, 2, 2⟩] := by decide +kernel
  cases hown.symm.trans hservers
  have hdistinct : ∀ a ∈ [ksk, zsk, ksk, zsk], ∀ b ∈ [ksk, zsk, ksk, zsk],
      a.keyTag = b.keyTag → a = b := by decide +kernel
  exact happart.ne (hdistinct first hfirst second hsecond
    (happart.first_tag.trans happart.second_tag.symm))

/-- Two keys with one tag and one public key, of which the parent vouches for the first: the zone
validates if that key comes last, and does not if it comes first. -/
theorem validateZone_depends_on_order :
    let vouched : Dnskey := ⟨256, 3, 8, [1, 2]⟩
    let twin : Dnskey := ⟨257, 3, 7, [1, 2]⟩
    let servers : List Ipv4 := [⟨192, 0, 2, 1⟩]
    let signers := [.ds (.repeating "a." 2 vouched)]
    let keys := [.dnskey twin, .dnskey vouched, .rrsig (.repeating vouched)]
    let keys' := [.dnskey vouched, .dnskey twin, .rrsig (.repeating vouched)]
    let r := ofUniform servers keys signers
    let r' := ofUniform servers keys' signers
    Name.isRoot "a.".toList = false ∧
    r.client.AnswersBy (uniformAnswers servers keys signers) ∧
    r'.client.AnswersBy (uniformAnswers servers keys' signers) ∧
    Verifier.repeating.IgnoresOrder ∧
    ZoneShuffled "a." (uniformAnswers servers keys signers) (uniformAnswers servers keys' signers)
      ((r.findAddresses "a.").exec .empty ()).result
      ((r'.findAddresses "a.").exec .empty ()).result
      ((r.findAddresses (Name.parentZone "a.")).exec .empty ()).result
      ((r'.findAddresses (Name.parentZone "a.")).exec .empty ()).result ∧
    ((r.validateZone .repeating 50 "a.").exec .empty ()).result =
      .ok ⟨"a.", 1, some ⟨10, 100⟩, [vouched.keyTag]⟩ ∧
    ((r'.validateZone .repeating 50 "a.").exec .empty ()).result =
      .error (.digestMismatch "a." vouched.keyTag) := by
  intro vouched twin servers signers keys keys' r r'
  refine ⟨by decide +kernel, Client.answersBy_ofAnswers _, Client.answersBy_ofAnswers _,
    Verifier.ignoresOrder_repeating,
    ⟨by decide +kernel, by decide +kernel, fun _ => ?_, fun _ => ?_⟩,
    by decide +kernel, by decide +kernel⟩
  · exact List.Perm.map _ (List.Perm.swap ..)
  · exact List.Perm.refl _

end Resolver

end DnsHealth
