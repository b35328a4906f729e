import DnsHealth.Proofs.Chain.Acceptance
import DnsHealth.Proofs.Nameserver.Trace

/-!
# What a valid zone rests on

For every client, the record of the exchanges behind a successful validation is evidence for the
zone. The key that signs the keys of a server need not be one that the parent vouches for: what
links the two is that no delegation signer is at odds with the key that has its tag, and that one
vouches for a key of some server.
-/

namespace DnsHealth

variable {σ : Type}

namespace Lookup.Traced

variable {kind : Exchange → Prop}

/-- The collection of keys can be recorded, and exchanges nothing but questions for keys of the
zone. -/
theorem collectKeys (r : Resolver (StateM σ)) (v : Verifier) (now : Int) (zone : String)
    (servers : List Address)
    (hkind : ∀ server reply, kind ⟨Resolver.keyQuestion zone, server, reply⟩) :
    Lookup.Traced kind (r.recorded.collectKeys v now zone servers)
      (r.collectKeys v now zone servers) := by
  refine foldlM (fun collected server => ?_) servers CollectedKeys.empty
  exact bind ((lift (.query r.client hkind server)).inZone zone) fun answer => lift (.pure _)

/-- The comparison with the parent can be recorded, and exchanges nothing but searches for servers
and questions for delegation signers of the zone. -/
theorem matchParent (r : Resolver (StateM σ)) (v : Verifier) (zone : String) (keys : KeyTagMap)
    (hinsecure : ∀ e : Exchange, e.Insecure → kind e)
    (hkind : ∀ server reply, kind ⟨Resolver.signerQuestion zone, server, reply⟩) :
    Lookup.Traced kind (r.recorded.matchParent v zone keys) (r.matchParent v zone keys) := by
  refine bind (((r.traced_findAddresses _).mono hinsecure).inZone zone) fun servers => ?_
  refine bind (foldlM (fun matched server => ?_) servers []) fun matched => ?_
  · exact lift (.bind (.query r.client hkind server) fun answer => .pure _)
  · split
    · exact throw _
    · exact pure _

/-- Validating a zone does the same with a record as without. -/
theorem validateZone (r : Resolver (StateM σ)) (v : Verifier) (now : Int) (zone : String) :
    Lookup.Traced (fun _ => True) (r.recorded.validateZone v now zone)
      (r.validateZone v now zone) := by
  refine bind (((r.traced_findAddresses _).mono fun _ _ => trivial).inZone _) fun servers => ?_
  refine bind (collectKeys r v now _ servers fun _ _ => trivial) fun collected => ?_
  refine bind (matchParent r v _ collected.keys (fun _ _ => trivial) fun _ _ => trivial) fun _ => ?_
  exact pure _

end Lookup.Traced

namespace Resolver

open Lookup

/-- When a zone validates, every server of its parent was asked. -/
theorem state_validateZone (r : Resolver (StateM σ)) {v : Verifier} {now : Int} {zone : String}
    {cache : NameserverCache} {st : σ} {z : ZoneValidation} {servers parents : List Address}
    (hservers : ((r.findAddresses zone).exec cache st).result = .ok servers)
    (hparents : (r.parentLookup zone servers cache st).result = .ok parents)
    (hz : ((r.validateZone v now zone).exec cache st).result = .ok z) :
    ((r.validateZone v now zone).exec cache st).state =
      r.client.stateAfter (signerQuestion (Name.fqdn zone)) parents
        (r.parentLookup zone servers cache st).state := by
  simp only [validateZone, findAddresses_fqdn] at hz ⊢
  rw [exec_inZone_bind_of_ok hservers] at hz ⊢
  simp only [exec_bind, Outcome.result_andThen_eq_ok_iff] at hz
  obtain ⟨collected, hcollected, matched, hmatched, -⟩ := hz
  rw [exec_bind_of_ok hcollected, exec_bind_of_ok hmatched, exec_pure]
  have hcache := (r.exec_collectKeys v now (Name.fqdn zone) servers
    ((r.findAddresses zone).exec cache st).cache ((r.findAddresses zone).exec cache st).state).2
  rw [r.state_collectKeys hcollected, hcache] at hmatched ⊢
  have hlookup : r.parentLookup zone servers cache st =
      (r.findAddresses (Name.parentZone (Name.fqdn zone))).exec
        ((r.findAddresses zone).exec cache st).cache (r.client.stateAfter
          (keyQuestion (Name.fqdn zone)) servers ((r.findAddresses zone).exec cache st).state) := by
    rw [Name.parentZone_fqdn, parentLookup]
  rw [hlookup] at hparents ⊢
  exact r.state_matchParent hparents hmatched

/-- The two questions differ in the type that they ask for. -/
theorem signerQuestion_ne_keyQuestion (zone : String) : signerQuestion zone ≠ keyQuestion zone := by
  intro heq
  cases congrArg Question.recordType heq

/-- What is on record when the addresses of the parent are known: searches for nameservers, and
between them the questions for the keys of the zone. -/
theorem exists_log_parentLookup (r : Resolver (StateM σ)) (zone : String) (servers : List Address)
    (cache : NameserverCache) (st : σ) :
    ∃ before between : List Exchange, (∀ e ∈ before, e.Insecure) ∧ (∀ e ∈ between, e.Insecure) ∧
      (r.recorded.parentLookup zone servers cache (st, [])).state.2 =
        before ++ r.recorded.ownReplies zone servers cache (st, []) ++ between := by
  obtain ⟨before, hbefore, hfirst⟩ := r.traced_findAddresses zone cache st []
  rw [List.nil_append] at hfirst
  have hlog := r.client.log_stateAfter_recorded (keyQuestion (Name.fqdn zone)) servers
    ((r.findAddresses zone).exec cache st).state before
  rcases hasked : r.recorded.client.stateAfter (keyQuestion (Name.fqdn zone)) servers
    (((r.findAddresses zone).exec cache st).state, before) with ⟨state, log⟩
  obtain ⟨between, hbetween, hsecond⟩ := r.traced_findAddresses (Name.parentZone zone)
    ((r.findAddresses zone).exec cache st).cache state log
  refine ⟨before, between, hbefore, hbetween, ?_⟩
  have hasked' : log = before ++ r.recorded.client.ask (keyQuestion (Name.fqdn zone)) servers
      (((r.findAddresses zone).exec cache st).state, before) :=
    (congrArg Prod.snd hasked).symm.trans hlog
  simp only [parentLookup, ownReplies, hfirst, hasked, hsecond]
  rw [hasked']

/-- What is on record about the keys and the delegation signers of a zone when it has validated: the
replies of its servers, and those of the servers of its parent. -/
theorem exists_asking_eq {r : Resolver (StateM σ)} {v : Verifier} {now : Int} {zone : String}
    {cache : NameserverCache} {st : σ} {z : ZoneValidation}
    (hz : ((r.recorded.validateZone v now zone).exec cache (st, [])).result = .ok z) :
    ∃ servers parents,
      ((r.recorded.findAddresses zone).exec cache (st, [])).result = .ok servers ∧
      (r.recorded.parentLookup zone servers cache (st, [])).result = .ok parents ∧
      z.DrawnFrom v now (Name.fqdn zone) (r.recorded.ownReplies zone servers cache (st, []))
        (r.recorded.parentReplies zone servers parents cache (st, [])) ∧
      Exchange.asking (keyQuestion (Name.fqdn zone))
          ((r.recorded.validateZone v now zone).exec cache (st, [])).state.2 =
        r.recorded.ownReplies zone servers cache (st, []) ∧
      Exchange.asking (signerQuestion (Name.fqdn zone))
          ((r.recorded.validateZone v now zone).exec cache (st, [])).state.2 =
        r.recorded.parentReplies zone servers parents cache (st, []) := by
  obtain ⟨servers, parents, hservers, hparents, hdrawn⟩ :=
    (r.recorded.result_validateZone_eq_ok_iff v now zone cache (st, []) z).mp hz
  refine ⟨servers, parents, hservers, hparents, hdrawn, ?_⟩
  obtain ⟨before, between, hbefore, hbetween, hlog⟩ :=
    r.exists_log_parentLookup zone servers cache st
  rw [r.recorded.state_validateZone hservers hparents hz, parentReplies]
  rcases hstate : (r.recorded.parentLookup zone servers cache (st, [])).state with ⟨state, log⟩
  rw [hstate] at hlog
  change log = _ at hlog
  have hown : Exchange.asking (keyQuestion (Name.fqdn zone)) log =
      r.recorded.ownReplies zone servers cache (st, []) := by
    rw [hlog, Exchange.asking_between rfl hbefore hbetween, ownReplies, Exchange.asking_ask_self]
  have habove : Exchange.asking (signerQuestion (Name.fqdn zone)) log = [] := by
    rw [hlog, Exchange.asking_between rfl hbefore hbetween, ownReplies,
      Exchange.asking_ask_of_ne (signerQuestion_ne_keyQuestion _).symm]
  have hfinal : (r.recorded.client.stateAfter (signerQuestion (Name.fqdn zone)) parents
      (state, log)).2 = log ++ r.recorded.client.ask (signerQuestion (Name.fqdn zone)) parents
        (state, log) := r.client.log_stateAfter_recorded ..
  rw [hfinal, Exchange.asking_append, Exchange.asking_append, hown, habove,
    Exchange.asking_ask_of_ne (signerQuestion_ne_keyQuestion _), Exchange.asking_ask_self,
    List.append_nil, List.nil_append]
  exact ⟨rfl, rfl⟩

/-- What a valid zone rests on, with any client. Every server that was asked for keys gave an answer
with a good and current signature over its keys under one of them. The last key with the tag of that
one has the same public key, and every delegation signer of the parent with that tag passes over it
or vouches for it. Some delegation signer vouches for a key that a server of the zone gave. -/
theorem validateZone_linkage (r : Resolver (StateM σ)) {v : Verifier} {now : Int} {zone : String}
    {cache : NameserverCache} {st : σ} {z : ZoneValidation}
    (hz : ((r.validateZone v now zone).exec cache st).result = .ok z) :
    let run := (r.recorded.validateZone v now zone).exec cache (st, [])
    let own := Exchange.asking (keyQuestion (Name.fqdn zone)) run.state.2
    let above := Exchange.asking (signerQuestion (Name.fqdn zone)) run.state.2
    run.result = .ok z ∧
    (∃ servers parents,
      ((r.recorded.findAddresses zone).exec cache (st, [])).result = .ok servers ∧
      own.map Exchange.server = servers ∧
      (r.recorded.parentLookup zone servers cache (st, [])).result = .ok parents ∧
      above.map Exchange.server = parents) ∧
    (∀ e ∈ own, ∃ answer, e.reply = .ok answer ∧
      ∃ signed ∈ SignatureCheck.signatures .dnskey answer.answers,
      ∃ key ∈ answer.answers.filterMap Record.dnskey?,
        SignatureCheck.Current v (Name.fqdn zone) (Record.ofTypes [.dnskey] answer.answers) now
          signed key ∧
        ∃ known, lastWithTag (own.flatMap Exchange.keys) key.keyTag = some known ∧
          known.publicKey = key.publicKey ∧
          ∀ d ∈ above.flatMap Exchange.signers, d.keyTag = key.keyTag →
            d.PassesOver v (Name.fqdn zone) known ∨ d.VouchesFor v (Name.fqdn zone) known) ∧
    ∃ d ∈ above.flatMap Exchange.signers, ∃ known ∈ own.flatMap Exchange.keys,
      known.keyTag = d.keyTag ∧ d.VouchesFor v (Name.fqdn zone) known := by
  intro run own above
  obtain ⟨more, -, htraced⟩ := Lookup.Traced.validateZone r v now zone cache st []
  have hrun : run.result = .ok z := by
    rw [← hz]
    exact congrArg Outcome.result htraced
  obtain ⟨servers, parents, hservers, hparents, hdrawn, hown, habove⟩ := exists_asking_eq hrun
  have hevidence := ZoneValidation.exists_drawnFrom_iff.mp ⟨z, hdrawn⟩
  rw [← hown, ← habove] at hevidence
  refine ⟨hrun, ⟨servers, parents, hservers, ?_, hparents, ?_⟩, fun e he => ?_, ?_⟩
  · exact (congrArg _ hown).trans (Client.map_server_ask ..)
  · exact (congrArg _ habove).trans (Client.map_server_ask ..)
  · obtain ⟨⟨answer, hanswer⟩, -, hsigned⟩ := hevidence.signed e he
    rw [Exchange.keyCheck, SignatureCheck.valid_run_iff] at hsigned
    obtain ⟨-, signed, hcovers, key, hkey, hcurrent⟩ := hsigned
    have hmem : key ∈ own.flatMap Exchange.keys := List.mem_flatMap.mpr ⟨e, he, hkey⟩
    obtain ⟨known, hknown⟩ := exists_lastWithTag hmem
    obtain ⟨hknownMem, htag⟩ := mem_of_lastWithTag hknown
    rw [Exchange.keys, Exchange.records_of_ok hanswer] at hkey
    rw [Exchange.records_of_ok hanswer] at hcovers hcurrent
    refine ⟨answer, hanswer, signed, hcovers, key, hkey, hcurrent, known, hknown,
      hevidence.noCollision known hknownMem key hmem htag, fun d hd hdtag => ?_⟩
    exact hevidence.agreed d hd known (hdtag ▸ hknown)
  · obtain ⟨d, hd, known, hknown, hvouches⟩ := hevidence.vouched
    obtain ⟨hmem, htag⟩ := mem_of_lastWithTag hknown
    exact ⟨d, hd, known, hmem, htag, hvouches⟩

/-- One key signs and the parent vouches for the other: the zone validates with both in place. -/
theorem validateZone_linkage_two_keys :
    let ksk : Dnskey := ⟨257, 3, 8, [1, 2]⟩
    let zsk : Dnskey := ⟨256, 3, 8, [3]⟩
    let r := ofUniform [⟨192, 0, 2, 1⟩] [.dnskey ksk, .dnskey zsk, .rrsig (.repeating zsk)]
      [.ds (.repeating "a." 2 ksk)]
    let run := (r.recorded.validateZone .repeating 50 "a.").exec .empty ((), [])
    let own := Exchange.asking (keyQuestion (Name.fqdn "a.")) run.state.2
    let above := Exchange.asking (signerQuestion (Name.fqdn "a.")) run.state.2
    ((r.validateZone .repeating 50 "a.").exec .empty ()).result =
      .ok ⟨"a.", 2, some ⟨10, 100⟩, [ksk.keyTag]⟩ ∧
    run.result = .ok ⟨"a.", 2, some ⟨10, 100⟩, [ksk.keyTag]⟩ ∧
    ∃ d ∈ above.flatMap Exchange.signers, ∃ known ∈ own.flatMap Exchange.keys,
      known.keyTag = d.keyTag ∧ d.VouchesFor .repeating (Name.fqdn "a.") known := by
  intro ksk zsk r run own above
  have hz : ((r.validateZone .repeating 50 "a.").exec .empty ()).result =
      .ok ⟨"a.", 2, some ⟨10, 100⟩, [ksk.keyTag]⟩ := by decide +kernel
  obtain ⟨hrun, -, -, hvouched⟩ := r.validateZone_linkage hz
  exact ⟨hz, hrun, hvouched⟩

/-- The zone validates though no delegation signer vouches for a key that signs. -/
theorem validateZone_signing_key_not_vouched :
    let ksk : Dnskey := ⟨257, 3, 8, [1, 2]⟩
    let zsk : Dnskey := ⟨256, 3, 8, [3]⟩
    let r := ofUniform [⟨192, 0, 2, 1⟩] [.dnskey ksk, .dnskey zsk, .rrsig (.repeating zsk)]
      [.ds (.repeating "a." 2 ksk)]
    let run := (r.recorded.validateZone .repeating 50 "a.").exec .empty ((), [])
    let own := Exchange.asking (keyQuestion (Name.fqdn "a.")) run.state.2
    let above := Exchange.asking (signerQuestion (Name.fqdn "a.")) run.state.2
    Name.isRoot "a.".toList = false ∧
    run.result = .ok ⟨"a.", 2, some ⟨10, 100⟩, [ksk.keyTag]⟩ ∧
    ¬∀ e ∈ own, ∃ signed ∈ SignatureCheck.signatures .dnskey e.records, ∃ key ∈ e.keys,
      SignatureCheck.Current .repeating (Name.fqdn "a.") (Record.ofTypes [.dnskey] e.records) 50
        signed key ∧
      ∃ d ∈ above.flatMap Exchange.signers, d.keyTag = key.keyTag ∧
        d.VouchesFor .repeating (Name.fqdn "a.") key := by
  decide +kernel

end Resolver

end DnsHealth
