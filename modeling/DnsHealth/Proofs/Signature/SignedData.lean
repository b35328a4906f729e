import DnsHealth.Proofs.Name.Case
import DnsHealth.Proofs.Record.Canonical
import DnsHealth.Proofs.Sorting
import DnsHealth.Signature.Verifier

/-!
# What signed data is made of

Signed data is the signed part of the signature, followed by a line for each different canonical
form among the covered records, in strictly increasing order of these forms. So it depends on the
owner only up to case and on the covered records only through the set of their data, names in it up
to case, and so does what the standard verifier says of the signature.
-/

namespace DnsHealth

/-- The line of a record in signed data, given the wire form of the owner and that of the data. -/
def signedLine (owner : List UInt8) (s : Rrsig) (rdata : List UInt8) : List UInt8 :=
  owner ++ Bytes.of16 s.typeCovered.code ++ Bytes.of16 internetClass ++
    Bytes.of32 s.originalTtl ++ Bytes.of16 (UInt16.ofNat rdata.length) ++ rdata

/-- A record has a line exactly if its data is not too long. -/
theorem canonicalRecord_eq_ok_iff (owner : List UInt8) (s : Rrsig) (rdata line : List UInt8) :
    canonicalRecord owner s rdata = .ok line ↔
      rdata.length ≤ 65535 ∧ line = signedLine owner s rdata := by
  unfold canonicalRecord
  split
  · next h => simp only [reduceCtorEq, false_iff, not_and]; omega
  · next h =>
    simp only [Except.ok.injEq, Nat.le_of_not_lt h, true_and]
    exact eq_comm

/-- The parts of which signed data is made: the signed part of the signature, the wire form of the
owner as it was signed, and the canonical forms of the covered records. -/
structure SignedParts (s : Rrsig) (owner : String) (records : List Record)
    (head ownerWire : List UInt8) (rdatas : List (List UInt8)) : Prop where
  /-- The signature begins with its signed part. -/
  head_eq : s.signedHead = .ok head
  /-- The owner as it was signed has the wire form. -/
  owner_eq : Name.encode (signingOwner owner.toList s.labels.toNat) = .ok ownerWire
  /-- Every covered record has a canonical form. -/
  canonical : ∀ r ∈ s.covered records, ∃ x, r.data.canonical = .ok x
  /-- The forms are those of the covered records. -/
  mem_iff : ∀ x, x ∈ rdatas ↔ ∃ r ∈ s.covered records, r.data.canonical = .ok x
  /-- The forms stand in strictly increasing order. -/
  increasing : rdatas.Pairwise (· < ·)
  /-- The forms are not too long for the wire. -/
  short : ∀ x ∈ rdatas, x.length ≤ 65535

/-- There is signed data exactly if there are all its parts, and then it is made of them. -/
theorem signedData_eq_ok_iff {s : Rrsig} {owner : String} {records : List Record}
    {bytes : List UInt8} :
    signedData s owner records = .ok bytes ↔
      ∃ head ownerWire rdatas, SignedParts s owner records head ownerWire rdatas ∧
        bytes = head ++ rdatas.flatMap (signedLine ownerWire s) := by
  have hsorted (forms : List (List UInt8)) : (sortedSet bytesLe forms).Pairwise (· < ·) :=
    pairwise_lt_sortedSet forms
  simp only [signedData, bind_eq_ok_iff, pure, Except.pure, Except.ok.injEq,
    mapM_eq_ok_iff_map (canonicalRecord_eq_ok_iff _ s)]
  constructor
  · rintro ⟨ownerWire, howner, forms, hforms, head, hhead, _, ⟨hshort, rfl⟩, rfl⟩
    refine ⟨head, ownerWire, sortedSet bytesLe forms, ⟨hhead, howner, ?_, ?_, hsorted forms,
      hshort⟩, by rw [List.flatMap_def]⟩
    · exact exists_mapM_eq_ok_iff.mp ⟨forms, hforms⟩
    · intro x
      rw [mem_sortedSet, mem_of_mapM_eq_ok hforms]
  · rintro ⟨head, ownerWire, rdatas, hparts, rfl⟩
    obtain ⟨forms, hforms⟩ := exists_mapM_eq_ok_iff.mpr hparts.canonical
    have heq : sortedSet bytesLe forms = rdatas := by
      refine (hsorted forms).eq_of_mem_iff hparts.increasing fun x => ?_
      rw [mem_sortedSet, mem_of_mapM_eq_ok hforms, hparts.mem_iff]
    refine ⟨ownerWire, hparts.owner_eq, forms, hforms, head, hparts.head_eq, _, ⟨?_, rfl⟩, ?_⟩
    · rw [heq]
      exact hparts.short
    · rw [heq, List.flatMap_def]

/-- There is signed data exactly if the signature, the owner and every covered record can be
written, none of the records being too long. -/
theorem exists_signedData_eq_ok_iff {s : Rrsig} {owner : String} {records : List Record} :
    (∃ bytes, signedData s owner records = .ok bytes) ↔
      (∃ head, s.signedHead = .ok head) ∧
      (∃ wire, Name.encode (signingOwner owner.toList s.labels.toNat) = .ok wire) ∧
      ∀ r ∈ s.covered records, ∃ x, r.data.canonical = .ok x ∧ x.length ≤ 65535 := by
  constructor
  · rintro ⟨bytes, hbytes⟩
    obtain ⟨head, wire, rdatas, hparts, -⟩ := signedData_eq_ok_iff.mp hbytes
    refine ⟨⟨head, hparts.head_eq⟩, ⟨wire, hparts.owner_eq⟩, fun r hr => ?_⟩
    obtain ⟨x, hx⟩ := hparts.canonical r hr
    exact ⟨x, hx, hparts.short x ((hparts.mem_iff x).mpr ⟨r, hr, hx⟩)⟩
  · rintro ⟨⟨head, hhead⟩, ⟨wire, hwire⟩, hrecords⟩
    have hcanonical : ∀ r ∈ s.covered records, ∃ x, r.data.canonical = .ok x :=
      fun r hr => (hrecords r hr).imp fun _ => And.left
    obtain ⟨forms, hforms⟩ := exists_mapM_eq_ok_iff.mpr hcanonical
    have hmem (x : List UInt8) : x ∈ sortedSet bytesLe forms ↔
        ∃ r ∈ s.covered records, r.data.canonical = .ok x := by
      rw [mem_sortedSet, mem_of_mapM_eq_ok hforms]
    refine ⟨_, signedData_eq_ok_iff.mpr ⟨head, wire, sortedSet bytesLe forms,
      ⟨hhead, hwire, hcanonical, hmem, pairwise_lt_sortedSet forms, fun x hx => ?_⟩, rfl⟩⟩
    obtain ⟨r, hr, hx⟩ := (hmem x).mp hx
    obtain ⟨y, hy, hlength⟩ := hrecords r hr
    rw [hx, Except.ok.injEq] at hy
    rwa [hy]

/-- Case folding goes through the reduction of the owner to the name that was signed. -/
theorem signingOwner_lower (owner : List Char) (labels : Nat) :
    signingOwner (Name.lower owner) labels = Name.lower (signingOwner owner labels) := by
  have hstar (suffix : List Char) : Name.lower (['*', '.'] ++ suffix ++ ['.']) =
      ['*', '.'] ++ Name.lower suffix ++ ['.'] := by
    simp [Name.lower]
  simp only [signingOwner, Name.labelCount_lower, Name.trimPoints_lower, Name.parts_lower,
    List.length_map, ← List.map_drop, ← Name.lower_intercalate, Name.lower_eq_nil_iff]
  split
  · rfl
  · split
    · rfl
    · rw [hstar]

/-- Owners that differ in case only were signed as the same name. -/
theorem bare_signingOwner_congr {owner other : List Char} (h : Name.lower owner = Name.lower other)
    (labels : Nat) :
    Name.bare (signingOwner owner labels) = Name.bare (signingOwner other labels) := by
  rw [← Name.bare_lower, ← signingOwner_lower, h, signingOwner_lower, Name.bare_lower]

/-- The data of the records that a signature covers, with a function applied to every name. -/
def Rrsig.coveredData (s : Rrsig) (f : String → String) (records : List Record) :
    List RecordData :=
  (s.covered records).map (·.data.mapNames f)

/-- Signed data has the same parts for owners that differ in case only and for records with the same
set of covered data, names up to case. -/
theorem SignedParts.congr {s : Rrsig} {owner other : String} {records others : List Record}
    {head ownerWire : List UInt8} {rdatas : List (List UInt8)}
    (howner : Name.lower owner.toList = Name.lower other.toList)
    (hdata : ∀ d, d ∈ s.coveredData Name.folded records ↔ d ∈ s.coveredData Name.folded others)
    (h : SignedParts s owner records head ownerWire rdatas) :
    SignedParts s other others head ownerWire rdatas := by
  simp only [Rrsig.coveredData, List.mem_map] at hdata
  -- A record on one side has a counterpart on the other with the same canonical form.
  have hforth {r : Record} (hr : r ∈ s.covered records) :
      ∃ t ∈ s.covered others, ∀ x, r.data.canonical = .ok x ↔ t.data.canonical = .ok x := by
    obtain ⟨t, ht, heq⟩ := (hdata _).mp ⟨r, hr, rfl⟩
    exact ⟨t, ht, RecordData.canonical_congr heq.symm⟩
  have hback {t : Record} (ht : t ∈ s.covered others) :
      ∃ r ∈ s.covered records, ∀ x, r.data.canonical = .ok x ↔ t.data.canonical = .ok x := by
    obtain ⟨r, hr, heq⟩ := (hdata _).mpr ⟨t, ht, rfl⟩
    exact ⟨r, hr, RecordData.canonical_congr heq⟩
  refine ⟨h.head_eq, ?_, fun t ht => ?_, fun x => ?_, h.increasing, h.short⟩
  · exact (Name.encode_congr (bare_signingOwner_congr howner _) _).mp h.owner_eq
  · obtain ⟨r, hr, hiff⟩ := hback ht
    obtain ⟨x, hx⟩ := h.canonical r hr
    exact ⟨x, (hiff x).mp hx⟩
  · rw [h.mem_iff]
    constructor
    · rintro ⟨r, hr, hx⟩
      obtain ⟨t, ht, hiff⟩ := hforth hr
      exact ⟨t, ht, (hiff x).mp hx⟩
    · rintro ⟨t, ht, hx⟩
      obtain ⟨r, hr, hiff⟩ := hback ht
      exact ⟨r, hr, (hiff x).mpr hx⟩

/-- The standard verifier gives a verdict exactly as the signature names the key or, if it does, as
the check of the signed data gives it. -/
theorem Verifier.accepts_standard_eq_ok_iff {s : Rrsig} {key : Dnskey} {owner : String}
    {records : List Record} {verdict : Bool} :
    Verifier.standard.accepts s key owner records = .ok verdict ↔
      if key.keyTag ≠ s.keyTag ∨ key.algorithm ≠ s.algorithm then verdict = false
      else ∃ bytes, signedData s owner records = .ok bytes ∧
        checkSignedData s key bytes = .ok verdict := by
  simp only [standard]
  split
  · rw [Except.ok.injEq, eq_comm]
  · exact bind_eq_ok_iff ..

/-- Signed data is the same for owners that differ in case only and for records with the same set of
covered data, names up to case. It holds the canonical forms of the covered records in strictly
increasing order, and the standard verifier gives the same verdict on the signature. -/
theorem signedData_congr (s : Rrsig) {owner other : String} {records others : List Record}
    (howner : Name.lower owner.toList = Name.lower other.toList)
    (hdata : ∀ d, d ∈ s.coveredData Name.folded records ↔ d ∈ s.coveredData Name.folded others) :
    (∀ bytes, signedData s owner records = .ok bytes ↔ signedData s other others = .ok bytes) ∧
    (∀ bytes, signedData s owner records = .ok bytes →
      ∃ (head ownerWire : List UInt8) (rdatas : List (List UInt8)),
        s.signedHead = .ok head ∧ rdatas.Pairwise (· < ·) ∧
        (∀ x, x ∈ rdatas ↔ ∃ r ∈ s.covered records, r.data.canonical = .ok x) ∧
        bytes = head ++ rdatas.flatMap (signedLine ownerWire s)) ∧
    ∀ key verdict, Verifier.standard.accepts s key owner records = .ok verdict ↔
      Verifier.standard.accepts s key other others = .ok verdict := by
  have hsame (bytes : List UInt8) :
      signedData s owner records = .ok bytes ↔ signedData s other others = .ok bytes := by
    simp only [signedData_eq_ok_iff]
    constructor
    · rintro ⟨head, ownerWire, rdatas, hparts, hbytes⟩
      exact ⟨head, ownerWire, rdatas, hparts.congr howner hdata, hbytes⟩
    · rintro ⟨head, ownerWire, rdatas, hparts, hbytes⟩
      exact ⟨head, ownerWire, rdatas, hparts.congr howner.symm fun d => (hdata d).symm, hbytes⟩
  refine ⟨hsame, fun bytes hbytes => ?_, fun key verdict => ?_⟩
  · obtain ⟨head, ownerWire, rdatas, hparts, rfl⟩ := signedData_eq_ok_iff.mp hbytes
    exact ⟨head, ownerWire, rdatas, hparts.head_eq, hparts.increasing, hparts.mem_iff, rfl⟩
  · simp only [Verifier.accepts_standard_eq_ok_iff, hsame]

/-- Mail exchangers in another order, one of them twice and in other letters, beside a record of
another type. -/
theorem signedData_congr_shuffled :
    let s : Rrsig := ⟨.mx, 8, 2, 3600, 20, 10, 7, "example.com.", [1]⟩
    let records : List Record := [⟨"example.com.", 60, .mx 10 "a.example.com."⟩,
      ⟨"example.com.", 60, .mx 5 "b.example.com."⟩]
    let others : List Record := [⟨"Example.Com", 30, .mx 5 "B.example.com."⟩,
      ⟨"Example.Com", 30, .ns "c.example.com."⟩, ⟨"Example.Com", 30, .mx 10 "a.example.com."⟩,
      ⟨"Example.Com", 30, .mx 5 "b.Example.com."⟩]
    ∃ bytes, signedData s "example.com." records = .ok bytes ∧
      signedData s "Example.Com." others = .ok bytes := by
  intro s records others
  have howner : Name.lower "example.com.".toList = Name.lower "Example.Com.".toList := by
    decide +kernel
  have hforth : s.coveredData Name.folded records ⊆ s.coveredData Name.folded others := by
    decide +kernel
  have hback : s.coveredData Name.folded others ⊆ s.coveredData Name.folded records := by
    decide +kernel
  obtain ⟨bytes, hbytes⟩ : ∃ bytes, signedData s "example.com." records = .ok bytes := by
    have hcovered : s.covered records = records := by decide
    rw [exists_signedData_eq_ok_iff, hcovered, List.forall_mem_cons, List.forall_mem_singleton,
      exists_eq_ok_iff_isOk, exists_eq_ok_iff_isOk]
    exact ⟨by decide +kernel, by decide +kernel,
      ⟨[0, 10, 1, 97, 7, 101, 120, 97, 109, 112, 108, 101, 3, 99, 111, 109, 0],
        by decide +kernel, by decide⟩,
      ⟨[0, 5, 1, 98, 7, 101, 120, 97, 109, 112, 108, 101, 3, 99, 111, 109, 0],
        by decide +kernel, by decide⟩⟩
  obtain ⟨hsame, -⟩ := signedData_congr s howner fun d => ⟨@hforth d, @hback d⟩
  exact ⟨bytes, hbytes, (hsame bytes).mp hbytes⟩

end DnsHealth
