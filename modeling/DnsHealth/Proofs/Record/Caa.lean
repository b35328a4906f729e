import DnsHealth.Proofs.Bytes
import DnsHealth.Proofs.Text.Utf8
import DnsHealth.Record.Canonical

/-!
# Tags of certificate authorities

The data of a CAA record holds a tag behind its length in one byte, and then a value. Reading takes
as many bytes for the tag as the length says, and succeeds exactly if they are there. Writing does
not look at the length of the tag: a tag of more than 255 bytes stands behind the remainder of its
length, and then the boundary between tag and value is lost.
-/

namespace DnsHealth.RecordData

open Text

/-- A tag of at most 255 bytes is read as text, with the rest as the value. -/
theorem caaOfRdata_eq_ok_iff {bytes : List UInt8} {data : RecordData} :
    caaOfRdata bytes = .ok data ↔
      ∃ flags tag value, tag.length ≤ 255 ∧ bytes = flags :: (Bytes.sized tag ++ value) ∧
        data = .caa flags (String.ofList (Utf8.decodeLossy tag)) value := by
  constructor
  · intro h
    unfold caaOfRdata at h
    split at h
    · next flags length rest =>
      split at h
      · cases h
      · next hfits =>
        have hlength : (rest.take length.toNat).length = length.toNat := by
          rw [List.length_take]
          omega
        have hlt := length.toNat_lt
        refine ⟨flags, rest.take length.toNat, rest.drop length.toNat, by omega, ?_,
          (Except.ok.inj h).symm⟩
        rw [Bytes.sized, hlength, UInt8.ofNat_toNat, List.cons_append, List.take_append_drop]
    · cases h
  · rintro ⟨flags, tag, value, hle, rfl, rfl⟩
    have hlength := Bytes.toNat_ofNat_of_le hle
    rw [Bytes.sized, List.cons_append, caaOfRdata, hlength, if_neg (by simp), List.take_left,
      List.drop_left]

private theorem canonical_caa (flags : UInt8) (tag : String) (value : List UInt8) :
    (caa flags tag value).canonical =
      .ok (flags :: (Bytes.sized (Utf8.encode tag.toList) ++ value)) := rfl

/-- The canonical form reads back exactly if the tag has at most 255 bytes. -/
theorem caaOfRdata_sized_iff (flags : UInt8) (tag : String) (value : List UInt8) :
    caaOfRdata (flags :: (Bytes.sized (Utf8.encode tag.toList) ++ value)) =
        .ok (caa flags tag value) ↔ (Utf8.encode tag.toList).length ≤ 255 := by
  rw [caaOfRdata_eq_ok_iff]
  constructor
  · rintro ⟨_, read, _, hle, hbytes, hdata⟩
    obtain ⟨-, -, rfl⟩ := caa.inj hdata
    have htail := (List.cons.inj (List.cons.inj hbytes).2).2
    rwa [List.append_cancel_right htail]
  · intro hle
    refine ⟨flags, _, value, hle, rfl, ?_⟩
    rw [Utf8.decodeLossy_encode, String.ofList_toList]

/-- Two properties have the same canonical form exactly if they have the same flags and the same
bytes of tag and value in a row, and the lengths of their tags leave the same remainder. -/
theorem canonical_caa_eq_iff {flags flags' : UInt8} {tag tag' : String}
    {value value' : List UInt8} :
    (caa flags tag value).canonical = (caa flags' tag' value').canonical ↔
      flags = flags' ∧
        (Utf8.encode tag.toList).length % 256 = (Utf8.encode tag'.toList).length % 256 ∧
        Utf8.encode tag.toList ++ value = Utf8.encode tag'.toList ++ value' := by
  have hlength (m n : Nat) : UInt8.ofNat m = UInt8.ofNat n ↔ m % 256 = n % 256 := by
    rw [← UInt8.toNat_inj, UInt8.toNat_ofNat', UInt8.toNat_ofNat']
  simp only [canonical_caa, Bytes.sized, List.cons_append, Except.ok.injEq, List.cons.injEq,
    hlength]

/-- Properties with tags of at most 255 bytes are told by their canonical forms. -/
theorem canonical_caa_inj {flags flags' : UInt8} {tag tag' : String} {value value' : List UInt8}
    (htag : (Utf8.encode tag.toList).length ≤ 255) (htag' : (Utf8.encode tag'.toList).length ≤ 255)
    (h : (caa flags tag value).canonical = (caa flags' tag' value').canonical) :
    caa flags tag value = caa flags' tag' value' := by
  have hread := (caaOfRdata_sized_iff flags tag value).mpr htag
  have hread' := (caaOfRdata_sized_iff flags' tag' value').mpr htag'
  rw [canonical_caa, canonical_caa, Except.ok.injEq] at h
  rw [h, hread'] at hread
  exact (Except.ok.inj hread).symm

/-- Reads a property from its bytes by positions, and gives nothing if one is out of range. -/
def caaOfRdata? (rdata : List UInt8) : Option (Except Failure RecordData) :=
  if rdata.length < 2 then some (.error (truncatedRdata "CAA"))
  else do
    let stop := 2 + (← rdata[1]?).toNat
    if rdata.length < stop then return .error (truncatedRdata "CAA")
    else
      return .ok (.caa (← rdata[0]?)
        (String.ofList (Utf8.decodeLossy (← Bytes.slice? rdata 2 stop)))
        (← Bytes.slice? rdata stop rdata.length))

/-- No position that is read at is out of range, whatever the bytes are. -/
theorem caaOfRdata?_eq_some (rdata : List UInt8) : caaOfRdata? rdata = some (caaOfRdata rdata) := by
  match rdata with
  | [] => rfl
  | [_] => rfl
  | flags :: length :: rest =>
    have hlong : ¬(flags :: length :: rest).length < 2 := by simp
    have hfits : (flags :: length :: rest).length < 2 + length.toNat ↔
        rest.length < length.toNat := by
      simp only [List.length_cons]
      omega
    rw [caaOfRdata?, if_neg hlong, caaOfRdata]
    simp only [List.getElem?_cons_succ, List.getElem?_cons_zero, Option.bind_eq_bind,
      Option.bind_some, hfits, Option.pure_def]
    split
    · rfl
    · next hle =>
      have htag : Bytes.slice? (flags :: length :: rest) 2 (2 + length.toNat) =
          some (rest.take length.toNat) := by
        rw [Bytes.slice?_of_le (Nat.le_add_right _ _) (Nat.le_of_not_lt (mt hfits.mp hle)),
          Nat.add_sub_cancel_left]
        rfl
      have hvalue : Bytes.slice? (flags :: length :: rest) (2 + length.toNat)
          (flags :: length :: rest).length = some (rest.drop length.toNat) := by
        have hfront : (flags :: length :: rest.take length.toNat).length = 2 + length.toNat := by
          simp only [List.length_cons, List.length_take]
          omega
        have happend := Bytes.slice?_append_length (flags :: length :: rest.take length.toNat)
          (rest.drop length.toNat)
        rwa [List.cons_append, List.cons_append, List.take_append_drop, hfront] at happend
      rw [htag, hvalue]
      rfl

/-- Reading succeeds exactly if there are two bytes, and behind them as many as the second says. -/
theorem exists_caaOfRdata_eq_ok_iff {bytes : List UInt8} :
    (∃ data, caaOfRdata bytes = .ok data) ↔
      2 ≤ bytes.length ∧ ∃ length, bytes[1]? = some length ∧ 2 + length.toNat ≤ bytes.length := by
  match bytes with
  | [] => simp [caaOfRdata]
  | [_] => simp [caaOfRdata]
  | flags :: length :: rest =>
    simp only [caaOfRdata, List.getElem?_cons_succ, List.getElem?_cons_zero, Option.some.injEq,
      exists_eq_left', List.length_cons]
    split
    · next hshort =>
      simp only [reduceCtorEq, exists_false, false_iff, not_and]
      omega
    · next hfits =>
      simp only [Except.ok.injEq, exists_eq', true_iff]
      omega

/-- The canonical form of a property reads back exactly if the tag has at most 255 bytes. Which
properties share it is a matter of their flags, of the bytes of tag and value in a row and of the
remainder of the length of the tag, so of those with tags of at most 255 bytes no other does.
Reading takes no position out of range, and it succeeds exactly if the bytes of the tag are
there. -/
theorem caa_reads_back_iff (flags : UInt8) (tag : String) (value bytes : List UInt8) :
    (∃ form, (caa flags tag value).canonical = .ok form ∧
      (caaOfRdata form = .ok (caa flags tag value) ↔ (Utf8.encode tag.toList).length ≤ 255)) ∧
    (∀ (flags' : UInt8) (tag' : String) (value' : List UInt8),
      ((caa flags tag value).canonical = (caa flags' tag' value').canonical ↔
        flags = flags' ∧
          (Utf8.encode tag.toList).length % 256 = (Utf8.encode tag'.toList).length % 256 ∧
          Utf8.encode tag.toList ++ value = Utf8.encode tag'.toList ++ value') ∧
      ((Utf8.encode tag.toList).length ≤ 255 → (Utf8.encode tag'.toList).length ≤ 255 →
        (caa flags tag value).canonical = (caa flags' tag' value').canonical →
        caa flags tag value = caa flags' tag' value')) ∧
    caaOfRdata? bytes = some (caaOfRdata bytes) ∧
    ((∃ data, caaOfRdata bytes = .ok data) ↔
      2 ≤ bytes.length ∧ ∃ length, bytes[1]? = some length ∧ 2 + length.toNat ≤ bytes.length) :=
  ⟨⟨_, canonical_caa .., caaOfRdata_sized_iff flags tag value⟩,
    fun _ _ _ => ⟨canonical_caa_eq_iff, canonical_caa_inj⟩,
    caaOfRdata?_eq_some bytes, exists_caaOfRdata_eq_ok_iff⟩

/-- Two issuers under one tag are told apart. -/
theorem caa_reads_back_iff_issue :
    let bytes : List UInt8 := [0, 5, 105, 115, 115, 117, 101, 97]
    (caa 0 "issue" [97]).canonical = .ok bytes ∧
      caaOfRdata bytes = .ok (caa 0 "issue" [97]) ∧
      (caa 0 "issue" [97]).canonical ≠ (caa 0 "issue" [98]).canonical := by
  intro bytes
  have hshort : (Utf8.encode "issue".toList).length ≤ 255 := by decide +kernel
  have hbytes : (caa 0 "issue" [97]).canonical = .ok bytes := rfl
  obtain ⟨⟨form, hform, hread⟩, hothers, -⟩ := caa_reads_back_iff 0 "issue" [97] bytes
  obtain rfl : form = bytes := Except.ok.inj (hform.symm.trans hbytes)
  refine ⟨hbytes, hread.mpr hshort, fun heq => ?_⟩
  have hsame := (hothers 0 "issue" [98]).2 hshort hshort heq
  exact absurd hsame (by decide)

/-- A tag of 256 letters has the canonical form of a property without a tag, whose value begins with
these letters. This is what is read from it. -/
theorem caa_long_tag_lost :
    let tag := String.ofList (List.replicate 256 'a')
    let letters : List UInt8 := List.replicate 256 97
    (caa 0 tag []).canonical = (caa 0 "" letters).canonical ∧ caa 0 tag [] ≠ caa 0 "" letters ∧
      caaOfRdata (0 :: 0 :: letters) = .ok (caa 0 "" letters) ∧
      (caa 0 tag []).canonical = .ok (0 :: 0 :: letters) := by
  intro tag letters
  have hletters : Utf8.encode tag.toList = letters := by
    rw [String.toList_ofList]
    decide +kernel
  have hlong : (caa 0 tag []).canonical = .ok (0 :: 0 :: letters) := by
    have hlength : UInt8.ofNat letters.length = 0 := by rw [List.length_replicate]; rfl
    rw [canonical_caa, hletters, List.append_nil, Bytes.sized, hlength]
  have hnone : (caa 0 "" letters).canonical = .ok (0 :: 0 :: letters) := rfl
  refine ⟨hlong.trans hnone.symm, fun heq => ?_, ?_, hlong⟩
  · exact absurd (caa.inj heq).2.2 (by decide)
  · exact caaOfRdata_eq_ok_iff.mpr ⟨0, [], letters, by decide, rfl, by simp [Utf8.decodeLossy]⟩

end DnsHealth.RecordData
