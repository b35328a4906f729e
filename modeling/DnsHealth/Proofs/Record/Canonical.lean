import DnsHealth.Proofs.Name.Wire
import DnsHealth.Record.Canonical

/-!
# What canonical data says

The canonical form of record data does not depend on the case of embedded names or on the points at
their end. Apart from that it determines the data of every type but CAA, whose tag has its length in
a single byte whatever its length is.
-/

namespace DnsHealth

namespace Name

/-- A name in small letters, as a string. -/
def folded (name : String) : String := String.ofList (lower name.toList)

/-- A name in small letters and without the points at its end, as a string. -/
def stripped (name : String) : String := String.ofList (bare name.toList)

private theorem toWire_folded (name : String) (wire : List UInt8) :
    toWire (folded name) = .ok wire ↔ toWire name = .ok wire := by
  simp only [toWire, folded, String.toList_ofList]
  exact encode_congr (bare_lower _) wire

/-- Names are the same up to case and points at their end exactly if their bare forms are. -/
theorem stripped_eq_iff {name other : String} :
    stripped name = stripped other ↔ bare name.toList = bare other.toList := by
  simp only [stripped, String.ofList_inj]

/-- A byte string that begins with the wire form of a name tells the name, up to its case and the
points at its end, and the rest. -/
theorem toWire_append_inj {name other : String} {wire form rest tail : List UInt8}
    (hname : toWire name = .ok wire) (hother : toWire other = .ok form)
    (h : wire ++ rest = form ++ tail) : stripped name = stripped other ∧ rest = tail := by
  obtain ⟨hbare, -, hrest⟩ := encode_append_inj hname hother h
  exact ⟨stripped_eq_iff.mpr hbare, hrest⟩

/-- Names with the same wire form are the same up to case and points at their end. -/
theorem toWire_inj {name other : String} {wire : List UInt8} (hname : toWire name = .ok wire)
    (hother : toWire other = .ok wire) : stripped name = stripped other :=
  (toWire_append_inj hname hother (show wire ++ [] = wire ++ [] from rfl)).1

end Name

/-- An IPv6 address is told by its bytes. -/
theorem Ipv6.bytes_injective {x y : Ipv6} (h : x.bytes = y.bytes) : x = y := by
  have hlist : x.toList = y.toList := Bytes.flatMap_of16_inj h
  have hx := ofGroups?_toList x
  rw [hlist, ofGroups?_toList] at hx
  exact (Option.some.inj hx).symm

/-- A key is told by its data on the wire. -/
theorem Dnskey.rdata_injective {k l : Dnskey} (h : k.rdata = l.rdata) : k = l := by
  obtain ⟨hflags, hrest⟩ := Bytes.of16_append_inj h
  cases k
  cases l
  simp_all

/-- A delegation signer is told by its data on the wire. -/
theorem Ds.rdata_injective {d e : Ds} (h : d.rdata = e.rdata) : d = e := by
  obtain ⟨htag, hrest⟩ := Bytes.of16_append_inj h
  cases d
  cases e
  simp_all

/-- Two signatures agree in all that is part of what is signed. -/
structure Rrsig.SameHead (s t : Rrsig) : Prop where
  /-- They cover the same type. -/
  typeCovered : s.typeCovered = t.typeCovered
  /-- They use the same algorithm. -/
  algorithm : s.algorithm = t.algorithm
  /-- They count the same number of labels. -/
  labels : s.labels = t.labels
  /-- They give the same time to live. -/
  originalTtl : s.originalTtl = t.originalTtl
  /-- They expire at the same time. -/
  expiration : s.expiration = t.expiration
  /-- They begin at the same time. -/
  inception : s.inception = t.inception
  /-- They name the same key. -/
  keyTag : s.keyTag = t.keyTag
  /-- They name the same signer, up to its case and the points at its end. -/
  signerName : Name.stripped s.signerName = Name.stripped t.signerName

namespace Rrsig

/-- The signed part of a signature is its fixed fields and the wire form of its signer. -/
theorem signedHead_eq_ok_iff {s : Rrsig} {head : List UInt8} :
    s.signedHead = .ok head ↔
      ∃ signer, Name.toWire s.signerName = .ok signer ∧ s.fixedFields ++ signer = head := by
  simp only [signedHead, bind_eq_ok_iff, pure, Except.pure, Except.ok.injEq]

/-- A byte string that begins with the signed part of a signature tells that part and the rest. -/
theorem signedHead_append_inj {s t : Rrsig} {head other rest tail : List UInt8}
    (hs : s.signedHead = .ok head) (ht : t.signedHead = .ok other)
    (h : head ++ rest = other ++ tail) : s.SameHead t ∧ rest = tail := by
  obtain ⟨signer, hsigner, rfl⟩ := signedHead_eq_ok_iff.mp hs
  obtain ⟨name, hname, rfl⟩ := signedHead_eq_ok_iff.mp ht
  simp only [fixedFields, List.append_assoc, List.cons_append, List.nil_append] at h
  obtain ⟨htype, h⟩ := Bytes.of16_append_inj h
  obtain ⟨halgorithm, h⟩ := List.cons.inj h
  obtain ⟨hlabels, h⟩ := List.cons.inj h
  obtain ⟨httl, h⟩ := Bytes.of32_append_inj h
  obtain ⟨hexpiration, h⟩ := Bytes.of32_append_inj h
  obtain ⟨hinception, h⟩ := Bytes.of32_append_inj h
  obtain ⟨htag, h⟩ := Bytes.of16_append_inj h
  obtain ⟨hname, h⟩ := Name.toWire_append_inj hsigner hname h
  exact ⟨⟨RecordType.code_injective htype, halgorithm, hlabels, httl, hexpiration, hinception,
    htag, hname⟩, h⟩

end Rrsig

/-- A character string has a wire form exactly if it has at most 255 bytes. -/
theorem characterString_eq_ok_iff (s : String) (bytes : List UInt8) :
    characterString s = .ok bytes ↔
      (Text.Utf8.encode s.toList).length ≤ 255 ∧
        bytes = Bytes.sized (Text.Utf8.encode s.toList) := by
  unfold characterString
  simp only
  split
  · next h => simp only [reduceCtorEq, false_iff, not_and]; omega
  · next h =>
    simp only [Except.ok.injEq, Nat.le_of_not_lt h, true_and]
    exact eq_comm

namespace RecordData

/-- The data with a function applied to every name in it. -/
def mapNames (f : String → String) : RecordData → RecordData
  | ns host => ns (f host)
  | cname target => cname (f target)
  | mx preference exchange => mx preference (f exchange)
  | soa authority =>
    soa { authority with mname := f authority.mname, rname := f authority.rname }
  | srv priority weight port target => srv priority weight port (f target)
  | rrsig signed => rrsig { signed with signerName := f signed.signerName }
  | data => data

/-- A change of names that keeps their wire forms keeps the canonical form of the data. -/
theorem canonical_mapNames_eq_ok_iff {f : String → String}
    (hf : ∀ name wire, Name.toWire (f name) = .ok wire ↔ Name.toWire name = .ok wire)
    (data : RecordData) (bytes : List UInt8) :
    (data.mapNames f).canonical = .ok bytes ↔ data.canonical = .ok bytes := by
  cases data with
  | ns host => exact hf host bytes
  | cname target => exact hf target bytes
  | mx preference exchange => simp only [mapNames, canonical, bind_eq_ok_iff, hf]
  | soa authority => simp only [mapNames, canonical, bind_eq_ok_iff, hf]
  | srv priority weight port target => simp only [mapNames, canonical, bind_eq_ok_iff, hf]
  | rrsig signed =>
    simp only [mapNames, canonical, bind_eq_ok_iff, Rrsig.signedHead_eq_ok_iff, hf]
    rfl
  | _ => rfl

/-- Data that differ in the case of names only have the same canonical form, if any. -/
theorem canonical_congr {data other : RecordData}
    (h : data.mapNames Name.folded = other.mapNames Name.folded) (bytes : List UInt8) :
    data.canonical = .ok bytes ↔ other.canonical = .ok bytes := by
  rw [← canonical_mapNames_eq_ok_iff Name.toWire_folded, h,
    canonical_mapNames_eq_ok_iff Name.toWire_folded]

/-- The strings of a text can be told from the bytes that they take behind their lengths. -/
theorem txt_inj {xs ys : List String} (hxs : ∀ s ∈ xs, (Text.Utf8.encode s.toList).length ≤ 255)
    (hys : ∀ s ∈ ys, (Text.Utf8.encode s.toList).length ≤ 255)
    (h : (xs.map fun s => Bytes.sized (Text.Utf8.encode s.toList)).flatten =
      (ys.map fun s => Bytes.sized (Text.Utf8.encode s.toList)).flatten) : xs = ys := by
  have hsized : (xs.map fun s => Text.Utf8.encode s.toList) =
      ys.map fun s => Text.Utf8.encode s.toList := by
    refine Bytes.flatMap_sized_inj (by simpa using hxs) (by simpa using hys) ?_
    rw [List.flatMap_def, List.flatMap_def, List.map_map, List.map_map]
    exact h
  exact List.map_injective_iff.mpr
    (fun _ _ hbytes => String.toList_inj.mp (Text.Utf8.encode_injective hbytes)) hsized

/-- Signatures that agree in all that is signed and in the signature itself differ at most in the
name of the signer. -/
theorem mapNames_rrsig_eq {s t : Rrsig} (h : s.SameHead t)
    (hsignature : s.signature = t.signature) :
    (rrsig s).mapNames Name.stripped = (rrsig t).mapNames Name.stripped := by
  obtain ⟨htype, halgorithm, hlabels, httl, hexpiration, hinception, htag, hname⟩ := h
  simp only [mapNames, hname, htype, halgorithm, hlabels, httl, hexpiration, hinception, htag,
    hsignature]

/-- Data of one type that have the same canonical form differ at most in the case of names and in
the points at their end. -/
theorem canonical_inj {data other : RecordData} {bytes : List UInt8}
    (htype : data.type = other.type) (hcaa : data.type ≠ .caa) (hdata : data.canonical = .ok bytes)
    (hother : other.canonical = .ok bytes) :
    data.mapNames Name.stripped = other.mapNames Name.stripped := by
  cases data <;> cases other <;> try cases htype
  all_goals
    simp only [canonical, bind_eq_ok_iff, pure, Except.pure, Except.ok.injEq] at hdata hother
  case a.a x y => rw [Ipv4.bytes_injective (hdata.trans hother.symm)]
  case aaaa.aaaa x y => rw [Ipv6.bytes_injective (hdata.trans hother.symm)]
  case ns.ns host other => exact congrArg ns (Name.toWire_inj hdata hother)
  case cname.cname target other => exact congrArg cname (Name.toWire_inj hdata hother)
  case mx.mx preference exchange preference' exchange' =>
    obtain ⟨wire, hwire, rfl⟩ := hdata
    obtain ⟨form, hform, h⟩ := hother
    obtain ⟨rfl, rfl⟩ := Bytes.of16_append_inj h
    exact congrArg (mx _) (Name.toWire_inj hwire hform)
  case soa.soa s t =>
    obtain ⟨mname, hmname, rname, hrname, rfl⟩ := hdata
    obtain ⟨mname', hmname', rname', hrname', h⟩ := hother
    simp only [List.append_assoc] at h
    obtain ⟨hm, h⟩ := Name.toWire_append_inj hmname' hmname h
    obtain ⟨hr, h⟩ := Name.toWire_append_inj hrname' hrname h
    obtain ⟨hserial, h⟩ := Bytes.of32_append_inj h
    obtain ⟨hrefresh, h⟩ := Bytes.of32_append_inj h
    obtain ⟨hretry, h⟩ := Bytes.of32_append_inj h
    obtain ⟨hexpire, h⟩ := Bytes.of32_append_inj h
    obtain ⟨hminimum, -⟩ := Bytes.of32_append_inj (congrArg (· ++ []) h)
    simp only [mapNames, hm, hr, hserial, hrefresh, hretry, hexpire, hminimum]
  case txt.txt xs ys =>
    obtain ⟨wires, hwires, rfl⟩ := hdata
    obtain ⟨forms, hforms, h⟩ := hother
    obtain ⟨hxs, rfl⟩ := (mapM_eq_ok_iff_map characterString_eq_ok_iff).mp hwires
    obtain ⟨hys, rfl⟩ := (mapM_eq_ok_iff_map characterString_eq_ok_iff).mp hforms
    rw [txt_inj hys hxs h]
  case srv.srv priority weight port target priority' weight' port' target' =>
    obtain ⟨wire, hwire, rfl⟩ := hdata
    obtain ⟨form, hform, h⟩ := hother
    simp only [List.append_assoc] at h
    obtain ⟨hpriority, h⟩ := Bytes.of16_append_inj h
    obtain ⟨hweight, h⟩ := Bytes.of16_append_inj h
    obtain ⟨hport, rfl⟩ := Bytes.of16_append_inj h
    rw [hpriority, hweight, hport]
    exact congrArg (srv _ _ _) (Name.toWire_inj hwire hform)
  case caa.caa => exact absurd rfl hcaa
  case dnskey.dnskey k l => rw [Dnskey.rdata_injective (hdata.trans hother.symm)]
  case ds.ds d e => rw [Ds.rdata_injective (hdata.trans hother.symm)]
  case rrsig.rrsig s t =>
    obtain ⟨head, hhead, rfl⟩ := hdata
    obtain ⟨other, hother, h⟩ := hother
    obtain ⟨hsame, hsignature⟩ := Rrsig.signedHead_append_inj hhead hother h.symm
    exact mapNames_rrsig_eq hsame hsignature

end RecordData

end DnsHealth
