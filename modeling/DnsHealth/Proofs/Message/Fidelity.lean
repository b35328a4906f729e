import DnsHealth.Message.Convert
import DnsHealth.Proofs.Message.Uncompressed
import DnsHealth.Proofs.Record.Canonical
import DnsHealth.Proofs.Record.Rdata

/-!
# Which received data keeps its canonical form

A received record is kept as texts, and its canonical form is made of these texts again. That gives
the canonical form of what was received exactly if the texts can be told from the data: no byte of
an embedded name is escaped, a character string is well-formed text, and the labels of a signer are
well-formed texts without points. All other data comes out with a wrong canonical form or with none.
-/

namespace DnsHealth

namespace Message

/-- What is made of bytes in a record of a type is data of this type. -/
theorem type_of_recordDataOfBytes {type : RecordType} {bytes : List UInt8} {data : RecordData}
    (h : recordDataOfBytes type bytes = .ok (some data)) :
    data.type = type ∧
      (type = .rrsig → ∃ s, data = .rrsig s ∧ Rrsig.ofRdata bytes = .ok (some s)) := by
  cases type with
  | dnskey =>
    simp only [recordDataOfBytes, bind_eq_ok_iff] at h
    obtain ⟨key, -, hsome⟩ := h
    cases hsome
    exact ⟨rfl, nofun⟩
  | ds =>
    simp only [recordDataOfBytes, bind_eq_ok_iff] at h
    obtain ⟨signer, -, hsome⟩ := h
    cases hsome
    exact ⟨rfl, nofun⟩
  | caa =>
    simp only [recordDataOfBytes, bind_eq_ok_iff] at h
    obtain ⟨caa, hcaa, hsome⟩ := h
    cases hsome
    refine ⟨?_, nofun⟩
    unfold RecordData.caaOfRdata at hcaa
    split at hcaa
    · split at hcaa <;> cases hcaa
      rfl
    · cases hcaa
  | rrsig =>
    simp only [recordDataOfBytes, bind_eq_ok_iff] at h
    obtain ⟨s?, hs, hsome⟩ := h
    obtain ⟨s, rfl, rfl⟩ := Option.map_eq_some_iff.mp (Except.ok.inj hsome)
    exact ⟨rfl, fun _ => ⟨s, rfl, hs⟩⟩
  | _ => cases h

private theorem signatureBytes_eq {head signature bytes : List UInt8} {signer : LabelName}
    (h : signatureBytes head signer signature = .ok bytes) :
    bytes = head ++ (LabelName.labelsToWire signer.lower.labels ++ signature) := by
  unfold signatureBytes at h
  split at h
  · next wire hwire =>
    cases h
    unfold LabelName.toWire? at hwire
    simp only at hwire
    split at hwire
    · cases hwire
    · cases hwire
      rw [List.append_assoc]
  · cases h

namespace WireData

/-- The data with all names in small letters. -/
def lower : WireData → WireData
  | ns host => ns host.lower
  | cname target => cname target.lower
  | mx preference exchange => mx preference exchange.lower
  | soa mname rname serial refresh retry expire minimum =>
    soa mname.lower rname.lower serial refresh retry expire minimum
  | srv priority weight port target => srv priority weight port target.lower
  | rrsig head signer signature => rrsig head signer.lower signature
  | data => data

/-- The data can be told from the texts that are kept of it. -/
def Kept : WireData → Prop
  | ns host => host.Unescaped
  | cname target => target.Unescaped
  | mx _ exchange => exchange.Unescaped
  | soa mname rname .. => mname.Unescaped ∧ rname.Unescaped
  | txt strings => ∀ s ∈ strings, Text.Utf8.WellFormed s
  | srv _ _ _ target => target.Unescaped
  | rrsig _ signer _ => signer.Textual
  | _ => True

end WireData

/-- The types whose data holds names or character strings, apart from those of certificate
authorities. -/
def textTypes : List RecordType := [.ns, .cname, .mx, .soa, .srv, .txt, .rrsig]

/-- A name after bytes that are kept as they are. -/
theorem append_toWire_text_iff {name : LabelName} (h : IsCarried name) (bytes : List UInt8) :
    (do return bytes ++ (← Name.toWire name.text) : Except Failure (List UInt8)) =
        .ok (bytes ++ LabelName.labelsToWire name.lower.labels) ↔ name.Unescaped := by
  simp only [bind_eq_ok_iff, pure, Except.pure, Except.ok.injEq, List.append_cancel_left_eq,
    exists_eq_right, LabelName.toWire_text_iff h.valid h.absolute]

/-- The names of an SOA keep their canonical form exactly if no byte of them is escaped. -/
theorem soa_canonical_iff {mname rname : LabelName} (hmname : IsCarried mname)
    (hrname : IsCarried rname) (serial refresh retry expire minimum : UInt32) :
    (RecordData.soa ⟨mname.text, rname.text, serial, refresh, retry, expire, minimum⟩).canonical =
        .ok (WireData.soa mname rname serial refresh retry expire minimum).lower.rdata ↔
      mname.Unescaped ∧ rname.Unescaped := by
  rw [← LabelName.toWire_text_iff hmname.valid hmname.absolute,
    ← LabelName.toWire_text_iff hrname.valid hrname.absolute]
  simp only [RecordData.canonical, bind_eq_ok_iff, pure, Except.pure, Except.ok.injEq,
    WireData.lower, WireData.rdata, List.append_assoc]
  constructor
  · rintro ⟨first, hfirst, second, hsecond, h⟩
    obtain ⟨hvalid, hwire⟩ := Name.encode_eq_ok_iff.mp hfirst
    rw [hwire] at h
    obtain ⟨hlabels, h⟩ := LabelName.labelsToWire_append_inj hvalid hmname.valid.lower h
    rw [hwire, hlabels] at hfirst
    rw [List.append_cancel_right h] at hsecond
    exact ⟨hfirst, hsecond⟩
  · rintro ⟨hfirst, hsecond⟩
    exact ⟨_, hfirst, _, hsecond, rfl⟩

/-- Character strings keep their canonical form exactly if all of them are well-formed text. -/
theorem txt_canonical_iff {strings : List (List UInt8)} (h : ∀ s ∈ strings, s.length ≤ 255) :
    (RecordData.txt (strings.map fun s => String.ofList (Text.Utf8.decodeLossy s))).canonical =
        .ok (strings.flatMap Bytes.sized) ↔ ∀ s ∈ strings, Text.Utf8.WellFormed s := by
  have hreread :
      (strings.map fun s => Bytes.sized (Text.Utf8.encode (Text.Utf8.decodeLossy s))).flatten =
      (strings.map fun s => Text.Utf8.encode (Text.Utf8.decodeLossy s)).flatMap Bytes.sized := by
    rw [List.flatMap_def, List.map_map]
    rfl
  simp only [RecordData.canonical, bind_eq_ok_iff, pure, Except.pure, Except.ok.injEq,
    mapM_eq_ok_iff_map characterString_eq_ok_iff, List.forall_mem_map, List.map_map,
    Function.comp_def, String.toList_ofList, ← Text.Utf8.encode_decodeLossy_eq_iff]
  constructor
  · rintro ⟨_, ⟨hshort, rfl⟩, hbytes⟩
    rw [hreread] at hbytes
    have hsame := Bytes.flatMap_sized_inj (List.forall_mem_map.mpr hshort) h hbytes
    exact List.map_inj_left.mp (hsame.trans (List.map_id _).symm)
  · intro hkept
    have hsame : (strings.map fun s => Text.Utf8.encode (Text.Utf8.decodeLossy s)) = strings :=
      (List.map_congr_left hkept).trans (List.map_id _)
    exact ⟨_, ⟨fun s hs => (hkept s hs).symm ▸ h s hs, rfl⟩, by rw [hreread, hsame]⟩

/-- A signature keeps its canonical form exactly if the labels of its signer are text without
points. -/
theorem rrsig_canonical_iff {head signature : List UInt8} {signer : LabelName} {s : Rrsig}
    (hsigner : IsCarried signer) (hhead : head.length = 18)
    (h : Rrsig.ofRdata (head ++ (LabelName.labelsToWire signer.lower.labels ++ signature)) =
      .ok (some s)) :
    (RecordData.rrsig s).canonical =
        .ok (head ++ (LabelName.labelsToWire signer.lower.labels ++ signature)) ↔
      signer.Textual := by
  obtain ⟨tail, hbytes, hread⟩ := Rrsig.ofRdata_eq_ok_some_iff.mp h
  obtain ⟨rfl, rfl⟩ := List.append_inj hbytes (hhead.trans s.length_fixedFields.symm)
  have hvalid := hsigner.valid.lower
  have hplain : Name.read (LabelName.labelsToWire signer.lower.labels ++ signature) =
      .ok (signer.plainText, signature) :=
    Name.read_eq_ok_iff.mpr ⟨_, fun label hlabel =>
      ⟨hvalid.pos label hlabel, hvalid.short label hlabel⟩, rfl, rfl⟩
  obtain ⟨hname, hsignature⟩ := Prod.mk.inj (Except.ok.inj (hplain.symm.trans hread))
  rw [← LabelName.toWire_plainText_iff hsigner.valid, hname, hsignature]
  simp only [RecordData.canonical, bind_eq_ok_iff, Rrsig.signedHead_eq_ok_iff, pure, Except.pure,
    Except.ok.injEq]
  constructor
  · rintro ⟨_, ⟨wire, hwire, rfl⟩, h⟩
    rw [List.append_assoc, List.append_cancel_left_eq, List.append_cancel_right_eq] at h
    exact h ▸ hwire
  · exact fun hwire => ⟨_, ⟨_, hwire, rfl⟩, List.append_assoc ..⟩

/-- Data of which a record of such a type is made is not just bytes. -/
theorem WireData.IsCarried.mem_structured {code : UInt16} {type : RecordType} {w : WireData}
    {data : RecordData} (hw : w.IsCarried code) (hcode : RecordType.ofCode? code = some type)
    (hdata : w.convert type = .ok (some data)) (htype : data.type ∈ textTypes) :
    code.toNat ∈ structured := by
  have hfits := hw.fits
  cases w with
  | bytes bytes =>
    have htext : type ∈ textTypes := (type_of_recordDataOfBytes hdata).1 ▸ htype
    rw [← RecordType.code_of_ofCode? hcode]
    revert htext
    cases type <;> decide
  | rrsig head signer signature => rcases hfits with h | h <;> simp [structured, h]
  | _ => simp [structured, show code.toNat = _ from hfits]

/-- The canonical form of a record that was received is that of the data exactly if the data is
kept. -/
theorem WireData.IsCarried.canonical_iff {code : UInt16} {type : RecordType} {w : WireData}
    {data : RecordData} (hw : w.IsCarried code) (hcode : RecordType.ofCode? code = some type)
    (hdata : w.convert type = .ok (some data)) (htype : data.type ∈ textTypes) :
    data.canonical = .ok w.lower.rdata ↔ w.Kept := by
  have hstructured := hw.mem_structured hcode hdata htype
  obtain ⟨hformed, hfits⟩ := hw
  cases w with
  | ns host =>
    cases hdata
    exact LabelName.toWire_text_iff hformed.valid hformed.absolute
  | cname target =>
    cases hdata
    exact LabelName.toWire_text_iff hformed.valid hformed.absolute
  | mx preference exchange =>
    cases hdata
    exact append_toWire_text_iff hformed _
  | soa mname rname serial refresh retry expire minimum =>
    cases hdata
    exact soa_canonical_iff hformed.1 hformed.2 ..
  | txt strings =>
    cases hdata
    exact txt_canonical_iff hformed
  | srv priority weight port target =>
    cases hdata
    have h := append_toWire_text_iff hformed
      (Bytes.of16 priority ++ Bytes.of16 weight ++ Bytes.of16 port)
    rwa [List.append_assoc, List.append_assoc] at h
  | rrsig head signer signature =>
    obtain ⟨bytes, hbytes, hread⟩ := (bind_eq_ok_iff ..).mp hdata
    rw [signatureBytes_eq hbytes] at hread
    have hrrsig : type = .rrsig := by
      rw [← RecordType.code_of_ofCode? hcode] at hfits
      change type.code.toNat = 24 ∨ type.code.toNat = 46 at hfits
      revert hfits
      cases type <;> decide
    obtain ⟨s, rfl, hs⟩ := (type_of_recordDataOfBytes hread).2 hrrsig
    exact rrsig_canonical_iff hformed.2 hformed.1 hs
  | bytes bytes => exact absurd hstructured hfits
  | a address =>
    cases hdata
    simp [RecordData.type, textTypes] at htype
  | aaaa address =>
    cases hdata
    simp [RecordData.type, textTypes] at htype

/-- A record of a received message whose data holds names or character strings is made of data that
reads as itself in uncompressed form. Its canonical form is the latter with the names in small
letters exactly if no byte of a name is escaped in its presentation form, every character string is
well-formed text, and the labels of a signer are well-formed texts without points. -/
theorem canonical_of_received_iff {message : List UInt8} {m : Decoded} {r : WireRecord}
    {record : Record} (hm : decoded.run? message = some m) (hr : r ∈ m.answers ++ m.authority)
    (hrecord : r.convert = .ok (some record)) (htype : record.type ∈ textTypes) :
    ∃ data, r.data = some data ∧ (wireData r.code).ReadsAll data.rdata data ∧
      (record.data.canonical = .ok data.lower.rdata ↔ data.Kept) := by
  unfold WireRecord.convert at hrecord
  split at hrecord
  · next type data hcode hdata =>
    rw [bind_eq_ok_iff] at hrecord
    obtain ⟨converted, hconverted, hsome⟩ := hrecord
    obtain ⟨recordData, rfl, rfl⟩ := Option.map_eq_some_iff.mp (Except.ok.inj hsome)
    have hcarried := isCarried_of_decoded hm hr hdata
    exact ⟨data, hdata,
      hcarried.readsAll_rdata (hcarried.mem_structured hcode hconverted htype),
      hcarried.canonical_iff hcode hconverted htype⟩
  · cases hrecord

/-- A nameserver comes out with its canonical form. A mailbox whose first label is `first.last` does
not: there is a backslash in the middle of what comes out. -/
theorem canonical_of_received_mailbox :
    let server : WireData := .ns ⟨[[78, 83]], true⟩
    let authority : WireData :=
      .soa .root ⟨[[102, 105, 114, 115, 116, 46, 108, 97, 115, 116]], true⟩ 1 2 3 4 5
    let message : List UInt8 := [0, 7, 0x84, 0, 0, 0, 0, 2, 0, 0, 0, 0,
      0, 0, 2, 0, 1, 0, 0, 0, 60, 0, 4, 2, 78, 83, 0,
      0, 0, 6, 0, 1, 0, 0, 0, 60, 0, 33, 0, 10, 102, 105, 114, 115, 116, 46, 108, 97, 115, 116, 0,
      0, 0, 0, 1, 0, 0, 0, 2, 0, 0, 0, 3, 0, 0, 0, 4, 0, 0, 0, 5]
    let records : List WireRecord := [⟨.root, 2, 60, some server⟩, ⟨.root, 6, 60, some authority⟩]
    decoded.run? message = some ⟨7, true, true, false, false, 0, records, []⟩ ∧
      (RecordData.ns "NS.").canonical = .ok server.lower.rdata ∧
      (RecordData.soa ⟨".", "first\\.last.", 1, 2, 3, 4, 5⟩).canonical ≠
        .ok authority.lower.rdata := by
  intro server authority message records
  have hm : decoded.run? message = some ⟨7, true, true, false, false, 0, records, []⟩ := by
    decide +kernel
  have hserver : WireRecord.convert ⟨.root, 2, 60, some server⟩ =
      .ok (some ⟨".", 60, .ns "NS."⟩) := by decide +kernel
  have hauthority : WireRecord.convert ⟨.root, 6, 60, some authority⟩ =
      .ok (some ⟨".", 60, .soa ⟨".", "first\\.last.", 1, 2, 3, 4, 5⟩⟩) := by decide +kernel
  obtain ⟨data, hdata, -, hkept⟩ :=
    canonical_of_received_iff hm (by simp [records]) hserver (by decide)
  obtain ⟨other, hother, -, hlost⟩ :=
    canonical_of_received_iff hm (by simp [records]) hauthority (by decide)
  cases hdata
  cases hother
  refine ⟨hm, hkept.mpr ?_, fun h => absurd (hlost.mp h).2 ?_⟩
  · simp only [WireData.Kept, LabelName.Unescaped, server]
    decide +kernel
  · simp only [LabelName.Unescaped]
    decide +kernel

end Message

end DnsHealth
