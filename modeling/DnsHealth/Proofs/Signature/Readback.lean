import DnsHealth.Proofs.Signature.SignedData

/-!
# What signed data says

Signed data can be read back. It begins with the signed part of the signature, which tells where it
ends, and the lines that follow each tell the owner as it was signed and the canonical form of one
covered record. So two signatures over different headers, owners or sets of records never have the
same signed data, unless the records are of type CAA.
-/

namespace DnsHealth

/-- A byte string that begins with the line of a record tells the canonical form and the rest, given
the owner and the signature. -/
theorem signedLine_append_inj {owner : List UInt8} {s : Rrsig} {x y rest tail : List UInt8}
    (hx : x.length ≤ 65535) (hy : y.length ≤ 65535)
    (h : signedLine owner s x ++ rest = signedLine owner s y ++ tail) : x = y ∧ rest = tail := by
  simp only [signedLine, List.append_assoc] at h
  replace h := List.append_cancel_left (List.append_cancel_left (List.append_cancel_left
    (List.append_cancel_left h)))
  obtain ⟨hlength, h⟩ := Bytes.of16_append_inj h
  have hsame : x.length = y.length := by
    have htoNat := congrArg UInt16.toNat hlength
    rw [UInt16.toNat_ofNat', UInt16.toNat_ofNat'] at htoNat
    omega
  exact List.append_inj h hsame

/-- Signatures that agree in all that is signed put the same lines into signed data. -/
theorem Rrsig.SameHead.signedLine_eq {s t : Rrsig} (h : s.SameHead t) (owner : List UInt8) :
    signedLine owner s = signedLine owner t := by
  funext rdata
  rw [signedLine, signedLine, h.typeCovered, h.originalTtl]

namespace SignedParts

variable {s t : Rrsig} {owner other : String} {records others : List Record}
  {head first ownerWire otherWire : List UInt8} {rdatas forms : List (List UInt8)}

private theorem rdatas_ne_nil (h : SignedParts s owner records head ownerWire rdatas)
    (hcovered : s.covered records ≠ []) : rdatas ≠ [] := by
  obtain ⟨r, hr⟩ := List.exists_mem_of_ne_nil _ hcovered
  obtain ⟨x, hx⟩ := h.canonical r hr
  exact List.ne_nil_of_mem ((h.mem_iff x).mpr ⟨r, hr, hx⟩)

/-- The line of the first record tells the wire form of the owner. -/
theorem ownerWire_eq (hs : SignedParts s owner records head ownerWire rdatas)
    (ht : SignedParts t other others first otherWire forms) (hne : rdatas ≠ [])
    (h : rdatas.flatMap (signedLine ownerWire s) = forms.flatMap (signedLine otherWire t)) :
    ownerWire = otherWire := by
  cases rdatas with
  | nil => exact absurd rfl hne
  | cons x xs =>
    cases forms with
    | nil =>
      have hzero := congrArg List.length h
      simp [signedLine, Bytes.of16] at hzero
    | cons y ys =>
      simp only [List.flatMap_cons, signedLine, List.append_assoc] at h
      exact (Name.encode_append_inj hs.owner_eq ht.owner_eq h).2.1

/-- Equal bytes are made of equal parts. -/
theorem eq_of_bytes_eq (hs : SignedParts s owner records head ownerWire rdatas)
    (ht : SignedParts t other others first otherWire forms) (hne : rdatas ≠ [])
    (h : head ++ rdatas.flatMap (signedLine ownerWire s) =
      first ++ forms.flatMap (signedLine otherWire t)) :
    s.SameHead t ∧ ownerWire = otherWire ∧ rdatas = forms := by
  obtain ⟨hhead, hlines⟩ := Rrsig.signedHead_append_inj hs.head_eq ht.head_eq h
  have howner := ownerWire_eq hs ht hne hlines
  rw [howner, hhead.signedLine_eq] at hlines
  refine ⟨hhead, howner, Bytes.flatMap_inj (·.length ≤ 65535) (fun x => ?_)
    (fun x y rest tail => signedLine_append_inj) hs.short ht.short hlines⟩
  simp [signedLine, Bytes.of16]

/-- Covered records with the same canonical forms have the same data, up to the case of names and
the points at their end. -/
theorem coveredData_subset (hs : SignedParts s owner records head ownerWire rdatas)
    (ht : SignedParts t other others first otherWire rdatas) (hcaa : s.typeCovered ≠ .caa)
    (htype : s.typeCovered = t.typeCovered) :
    s.coveredData Name.stripped records ⊆ t.coveredData Name.stripped others := by
  intro d hd
  obtain ⟨r, hr, rfl⟩ := List.mem_map.mp hd
  obtain ⟨x, hx⟩ := hs.canonical r hr
  obtain ⟨u, hu, hux⟩ := (ht.mem_iff x).mp ((hs.mem_iff x).mpr ⟨r, hr, hx⟩)
  have hrtype : r.data.type = s.typeCovered := of_decide_eq_true (List.mem_filter.mp hr).2
  have hutype : u.data.type = t.typeCovered := of_decide_eq_true (List.mem_filter.mp hu).2
  have hdata := RecordData.canonical_inj (hrtype.trans (htype.trans hutype.symm))
    (hrtype ▸ hcaa) hx hux
  exact List.mem_map.mpr ⟨u, hu, hdata.symm⟩

end SignedParts

/-- From signed data over at least one record all that is signed can be told: the signed fields of
the signature, its signer, the wire form of the owner as it was signed and the set of the covered
data, names up to case and the points at their end. -/
theorem signedData_inj {s t : Rrsig} {owner other : String} {records others : List Record}
    {bytes : List UInt8} (hcovered : s.covered records ≠ []) (hcaa : s.typeCovered ≠ .caa)
    (hs : signedData s owner records = .ok bytes) (ht : signedData t other others = .ok bytes) :
    s.SameHead t ∧
    (∃ wire, Name.encode (signingOwner owner.toList s.labels.toNat) = .ok wire ∧
      Name.encode (signingOwner other.toList t.labels.toNat) = .ok wire) ∧
    ∀ d, d ∈ s.coveredData Name.stripped records ↔ d ∈ t.coveredData Name.stripped others := by
  obtain ⟨head, ownerWire, rdatas, hparts, rfl⟩ := signedData_eq_ok_iff.mp hs
  obtain ⟨first, otherWire, forms, hforms, hbytes⟩ := signedData_eq_ok_iff.mp ht
  obtain ⟨hhead, rfl, rfl⟩ :=
    hparts.eq_of_bytes_eq hforms (hparts.rdatas_ne_nil hcovered) hbytes
  have htype := hhead.typeCovered
  refine ⟨hhead, ⟨ownerWire, hparts.owner_eq, hforms.owner_eq⟩, fun d => ⟨?_, ?_⟩⟩
  · exact fun hd => hparts.coveredData_subset hforms hcaa htype hd
  · exact fun hd => hforms.coveredData_subset hparts (htype ▸ hcaa) htype.symm hd

/-- A nameserver under its wildcard: the signer, the owner and the server are told from the bytes up
to case and the points at their end. -/
theorem signedData_inj_wildcard :
    let s : Rrsig := ⟨.ns, 8, 1, 60, 20, 10, 7, "A", [1]⟩
    let t : Rrsig := ⟨.ns, 8, 1, 60, 20, 10, 7, "a.", [2, 3]⟩
    let records : List Record := [⟨"x.a.", 30, .ns "b."⟩]
    let others : List Record := [⟨"y.a.", 60, .ns "B"⟩, ⟨"y.a.", 60, .ns "b.."⟩]
    let bytes : List UInt8 := [0, 2, 8, 1, 0, 0, 0, 60, 0, 0, 0, 20, 0, 0, 0, 10, 0, 7, 1, 97, 0,
      1, 42, 1, 97, 0, 0, 2, 0, 1, 0, 0, 0, 60, 0, 3, 1, 98, 0]
    signedData s "x.a." records = .ok bytes ∧ signedData t "y.a." others = .ok bytes ∧
      s.SameHead t ∧
      (∃ wire, Name.encode (signingOwner "x.a.".toList 1) = .ok wire ∧
        Name.encode (signingOwner "y.a.".toList 1) = .ok wire) ∧
      ∀ d, d ∈ s.coveredData Name.stripped records ↔ d ∈ t.coveredData Name.stripped others := by
  intro s t records others bytes
  have hs : signedData s "x.a." records = .ok bytes := by decide +kernel
  -- Both servers have the same form, which so stands in the data once.
  have hforms : ∀ r ∈ t.covered others, r.data.canonical = .ok [1, 98, 0] := by decide +kernel
  have hparts : SignedParts t "y.a." others
      [0, 2, 8, 1, 0, 0, 0, 60, 0, 0, 0, 20, 0, 0, 0, 10, 0, 7, 1, 97, 0] [1, 42, 1, 97, 0]
      [[1, 98, 0]] := by
    refine ⟨by decide +kernel, by decide +kernel, fun r hr => ⟨_, hforms r hr⟩, fun x => ?_,
      List.pairwise_singleton .., by decide⟩
    rw [List.mem_singleton]
    constructor
    · rintro rfl
      exact ⟨_, List.mem_cons_self .., hforms _ (List.mem_cons_self ..)⟩
    · rintro ⟨r, hr, hx⟩
      exact (Except.ok.inj ((hforms r hr).symm.trans hx)).symm
  have ht : signedData t "y.a." others = .ok bytes :=
    signedData_eq_ok_iff.mpr ⟨_, _, _, hparts, by decide +kernel⟩
  exact ⟨hs, ht, signedData_inj (by decide) (by decide) hs ht⟩

end DnsHealth
