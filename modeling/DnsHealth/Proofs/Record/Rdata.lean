import DnsHealth.Proofs.Name.Reading
import DnsHealth.Record.Ds
import DnsHealth.Record.Rrsig

/-!
# Keys, signers and signatures off the wire

Keys and delegation signers are read from exactly the byte strings of at least four bytes, which are
their wire forms. A signature is read from exactly the byte strings that hold its eighteen bytes of
fields, a name and the signature behind the name, where the labels of the name are kept as text. So
all three read back, the signer with its name in small letters and one point at its end. Reading a
signature by positions comes to the same, and no position is out of range.
-/

namespace DnsHealth

open Text

/-- A byte string of at least four bytes, taken apart. -/
theorem exists_four_cons_iff {bytes : List UInt8} :
    (∃ a b c d rest, bytes = a :: b :: c :: d :: rest) ↔ 4 ≤ bytes.length := by
  constructor
  · rintro ⟨a, b, c, d, rest, rfl⟩
    simp
  · intro h
    match bytes, h with
    | a :: b :: c :: d :: rest, _ => exact ⟨a, b, c, d, rest, rfl⟩

namespace Dnskey

/-- A key is read from its wire form alone. -/
theorem ofRdata_eq_ok_iff {bytes : List UInt8} {k : Dnskey} :
    ofRdata bytes = .ok k ↔ k.rdata = bytes := by
  constructor
  · intro h
    unfold ofRdata at h
    split at h
    · cases h
      simp [rdata]
    · cases h
  · rintro rfl
    simp [rdata, Bytes.of16, ofRdata]

/-- There is a key exactly if there are its fixed fields. -/
theorem exists_ofRdata_eq_ok_iff {bytes : List UInt8} :
    (∃ k, ofRdata bytes = .ok k) ↔ 4 ≤ bytes.length := by
  rw [← exists_four_cons_iff]
  constructor
  · rintro ⟨k, h⟩
    exact ⟨_, _, _, _, _, (ofRdata_eq_ok_iff.mp h).symm⟩
  · rintro ⟨a, b, c, d, rest, rfl⟩
    exact ⟨_, rfl⟩

end Dnskey

namespace Ds

/-- A delegation signer is read from its wire form alone. -/
theorem ofRdata_eq_ok_iff {bytes : List UInt8} {d : Ds} :
    ofRdata bytes = .ok d ↔ d.rdata = bytes := by
  constructor
  · intro h
    unfold ofRdata at h
    split at h
    · cases h
      simp [rdata]
    · cases h
  · rintro rfl
    simp [rdata, Bytes.of16, ofRdata]

/-- There is a delegation signer exactly if there are its fixed fields. -/
theorem exists_ofRdata_eq_ok_iff {bytes : List UInt8} :
    (∃ d, ofRdata bytes = .ok d) ↔ 4 ≤ bytes.length := by
  rw [← exists_four_cons_iff]
  constructor
  · rintro ⟨d, h⟩
    exact ⟨_, _, _, _, _, (ofRdata_eq_ok_iff.mp h).symm⟩
  · rintro ⟨a, b, c, d, rest, rfl⟩
    exact ⟨_, rfl⟩

end Ds

namespace Rrsig

/-- The fixed fields of a signature take 18 bytes. -/
theorem length_fixedFields (s : Rrsig) : s.fixedFields.length = 18 := rfl

/-- Behind the fields of a signature, the name of the signer and the signature are read. -/
theorem ofRdata_fixedFields_append (s : Rrsig) {tail : List UInt8} (h : tail ≠ []) :
    ofRdata (s.fixedFields ++ tail) = (Name.read tail).map fun (signerName, signature) =>
      some { s with signerName, signature } := by
  obtain ⟨b, rest, rfl⟩ := List.exists_cons_of_ne_nil h
  simp only [fixedFields, Bytes.of16, Bytes.of32, List.cons_append, List.nil_append, ofRdata,
    Bytes.to16_of16, Bytes.to32_of32, RecordType.ofCode?_code]
  cases Name.read (b :: rest) <;> rfl

/-- A signature is read from its fields with the name of the signer and the signature behind them,
and from nothing else. -/
theorem ofRdata_eq_ok_some_iff {rdata : List UInt8} {s : Rrsig} :
    ofRdata rdata = .ok (some s) ↔
      ∃ tail, rdata = s.fixedFields ++ tail ∧
        Name.read tail = .ok (s.signerName, s.signature) := by
  constructor
  · intro h
    unfold ofRdata at h
    split at h
    · next t u algorithm labels o1 o2 o3 o4 e1 e2 e3 e4 i1 i2 i3 i4 k l b rest =>
      split at h
      · cases h
      · next covered hcovered =>
        rw [bind_eq_ok_iff] at h
        obtain ⟨⟨name, signature⟩, hread, hsome⟩ := h
        cases hsome
        refine ⟨b :: rest, ?_, hread⟩
        simp only [fixedFields, RecordType.code_of_ofCode? hcovered, Bytes.of16_to16,
          Bytes.of32_to32]
        rfl
    · cases h
  · rintro ⟨tail, rfl, hread⟩
    have hne : tail ≠ [] := by
      rintro rfl
      simp [Name.read, Name.readLabels, bind, Except.bind] at hread
    rw [ofRdata_fixedFields_append s hne, hread]
    rfl

/-- The signed part of a signature, with any signature behind it, reads back. -/
theorem ofRdata_signedHead_append {s : Rrsig} {head : List UInt8} (h : s.signedHead = .ok head) :
    ofRdata (head ++ s.signature) =
      .ok (some { s with signerName := Name.spelled s.signerName }) := by
  obtain ⟨signer, hsigner, hhead⟩ := (bind_eq_ok_iff ..).mp h
  cases hhead
  rw [List.append_assoc]
  exact ofRdata_eq_ok_some_iff.mpr ⟨_, rfl, Name.read_toWire_append hsigner _⟩

/-- Reads a signature from its wire form by positions, and gives nothing if one is out of range. -/
def ofRdata? (rdata : List UInt8) : Option (Except Failure (Option Rrsig)) :=
  if rdata.length < 19 then some (.error (truncatedRdata "RRSIG"))
  else do
    match RecordType.ofCode? (← Bytes.at16? rdata 0) with
    | none => return .ok none
    | some typeCovered =>
      match Name.readAt (← Bytes.slice? rdata 18 rdata.length) with
      | .error failure => return .error failure
      | .ok (signerName, consumed) =>
        return .ok (some {
          typeCovered, signerName
          algorithm := ← rdata[2]?
          labels := ← rdata[3]?
          originalTtl := ← Bytes.at32? rdata 4
          expiration := ← Bytes.at32? rdata 8
          inception := ← Bytes.at32? rdata 12
          keyTag := ← Bytes.at16? rdata 16
          signature := ← Bytes.slice? rdata (18 + consumed) rdata.length })

/-- The signature stands behind the name that is read behind the fields. -/
theorem slice?_of_read {front tail signature : List UInt8} {name : String}
    (h : Name.read tail = .ok (name, signature)) :
    Bytes.slice? (front ++ tail) (front.length + (tail.length - signature.length))
      (front ++ tail).length = some signature := by
  obtain ⟨labels, -, rfl, -⟩ := Name.read_eq_ok_iff.mp h
  have hconsumed : (LabelName.labelsToWire labels ++ signature).length - signature.length =
      (LabelName.labelsToWire labels).length := by
    rw [List.length_append, Nat.add_sub_cancel]
  rw [hconsumed, ← List.length_append, ← List.append_assoc]
  exact Bytes.slice?_append_length _ _

/-- The fields of a signature are found at their positions. -/
theorem fields_at (s : Rrsig) (tail : List UInt8) :
    Bytes.at16? (s.fixedFields ++ tail) 0 = some s.typeCovered.code ∧
      (s.fixedFields ++ tail)[2]? = some s.algorithm ∧
      (s.fixedFields ++ tail)[3]? = some s.labels ∧
      Bytes.at32? (s.fixedFields ++ tail) 4 = some s.originalTtl ∧
      Bytes.at32? (s.fixedFields ++ tail) 8 = some s.expiration ∧
      Bytes.at32? (s.fixedFields ++ tail) 12 = some s.inception ∧
      Bytes.at16? (s.fixedFields ++ tail) 16 = some s.keyTag := by
  simp [fixedFields, Bytes.of16, Bytes.of32, Bytes.at16?, Bytes.at32?]

/-- Reading by positions takes a name and the signature from behind the fields. -/
theorem ofRdata?_fixedFields_append (s : Rrsig) {tail : List UInt8} (h : tail ≠ []) :
    ofRdata? (s.fixedFields ++ tail) = some (ofRdata (s.fixedFields ++ tail)) := by
  obtain ⟨htype, halgorithm, hlabels, httl, hexpiration, hinception, htag⟩ := fields_at s tail
  have hlong : ¬(s.fixedFields ++ tail).length < 19 := by
    have hpos := List.length_pos_iff.mpr h
    rw [List.length_append, length_fixedFields]
    omega
  have htail : Bytes.slice? (s.fixedFields ++ tail) 18 (s.fixedFields ++ tail).length = some tail :=
    Bytes.slice?_append_length s.fixedFields tail
  rw [ofRdata?, if_neg hlong, ofRdata_fixedFields_append s h]
  simp only [htype, halgorithm, hlabels, httl, hexpiration, hinception, htag, htail,
    RecordType.ofCode?_code, Option.bind_eq_bind, Option.bind_some, Name.readAt_eq]
  cases hread : Name.read tail with
  | error failure => rfl
  | ok named =>
    have hsignature : Bytes.slice? (s.fixedFields ++ tail) (18 + (tail.length - named.2.length))
        (s.fixedFields ++ tail).length = some named.2 := slice?_of_read hread
    simp only [Except.map, hsignature, Option.bind_some, Option.pure_def]

/-- A byte string that is long enough for a signature, taken apart. -/
theorem exists_fields_cons {rdata : List UInt8} (h : 19 ≤ rdata.length) :
    ∃ t u algorithm labels o1 o2 o3 o4 e1 e2 e3 e4 i1 i2 i3 i4 k l b rest,
      rdata = t :: u :: algorithm :: labels :: o1 :: o2 :: o3 :: o4 :: e1 :: e2 :: e3 :: e4 ::
        i1 :: i2 :: i3 :: i4 :: k :: l :: b :: rest := by
  refine ⟨rdata[0], rdata[1], rdata[2], rdata[3], rdata[4], rdata[5], rdata[6], rdata[7], rdata[8],
    rdata[9], rdata[10], rdata[11], rdata[12], rdata[13], rdata[14], rdata[15], rdata[16],
    rdata[17], rdata[18], rdata.drop 19, ?_⟩
  simp only [List.getElem_cons_drop, List.drop_zero]

/-- No position that is read at is out of range, whatever the bytes are. -/
theorem ofRdata?_eq_some (rdata : List UInt8) : ofRdata? rdata = some (ofRdata rdata) := by
  by_cases hshort : rdata.length < 19
  · rw [ofRdata?, if_pos hshort]
    unfold ofRdata
    split
    · simp only [List.length_cons] at hshort
      omega
    · rfl
  · obtain ⟨t, u, algorithm, labels, o1, o2, o3, o4, e1, e2, e3, e4, i1, i2, i3, i4, k, l, b, rest,
      rfl⟩ := exists_fields_cons (Nat.le_of_not_lt hshort)
    cases hcovered : RecordType.ofCode? (Bytes.to16 t u) with
    | none =>
      have htype (rest : List UInt8) : Bytes.at16? (t :: u :: rest) 0 = some (Bytes.to16 t u) := rfl
      rw [ofRdata?, if_neg hshort, htype, ofRdata]
      simp only [Option.bind_eq_bind, Option.bind_some, hcovered, Option.pure_def]
    | some typeCovered =>
      let s : Rrsig := ⟨typeCovered, algorithm, labels, Bytes.to32 o1 o2 o3 o4,
        Bytes.to32 e1 e2 e3 e4, Bytes.to32 i1 i2 i3 i4, Bytes.to16 k l, "", []⟩
      have hfields : s.fixedFields = [t, u, algorithm, labels, o1, o2, o3, o4, e1, e2, e3, e4,
          i1, i2, i3, i4, k, l] := by
        simp [s, fixedFields, RecordType.code_of_ofCode? hcovered]
      have happend := ofRdata?_fixedFields_append s (List.cons_ne_nil b rest)
      simpa only [hfields, List.cons_append, List.nil_append] using happend

end Rrsig

/-- The signed part of a signature, with any signature behind it, is read as the signature with its
signer in small letters. Keys and delegation signers are read from their wire forms alone, and these
are the byte strings of at least four bytes. Reading a signature takes no position out of range,
whatever the bytes are, and it succeeds exactly on the fields of the signature, labels of 1 to 63
bytes up to a zero byte, and the signature itself. -/
theorem rdata_reads_back :
    (∀ (s : Rrsig) (head : List UInt8), s.signedHead = .ok head →
      Rrsig.ofRdata (head ++ s.signature) =
        .ok (some { s with signerName := Name.spelled s.signerName })) ∧
    (∀ (bytes : List UInt8) (k : Dnskey), Dnskey.ofRdata bytes = .ok k ↔ k.rdata = bytes) ∧
    (∀ bytes : List UInt8, (∃ k, Dnskey.ofRdata bytes = .ok k) ↔ 4 ≤ bytes.length) ∧
    (∀ (bytes : List UInt8) (d : Ds), Ds.ofRdata bytes = .ok d ↔ d.rdata = bytes) ∧
    (∀ bytes : List UInt8, (∃ d, Ds.ofRdata bytes = .ok d) ↔ 4 ≤ bytes.length) ∧
    (∀ bytes : List UInt8, Rrsig.ofRdata? bytes = some (Rrsig.ofRdata bytes)) ∧
    ∀ (bytes : List UInt8) (s : Rrsig), Rrsig.ofRdata bytes = .ok (some s) ↔
      ∃ labels : List (List UInt8), (∀ label ∈ labels, 0 < label.length ∧ label.length ≤ 63) ∧
        s.fixedFields.length = 18 ∧
        bytes = s.fixedFields ++ (LabelName.labelsToWire labels ++ s.signature) ∧
        s.signerName = String.ofList (Name.join (labels.map fun label =>
          Name.lower (Utf8.decodeLossy label))) := by
  refine ⟨fun s head => Rrsig.ofRdata_signedHead_append, fun _ _ => Dnskey.ofRdata_eq_ok_iff,
    fun _ => Dnskey.exists_ofRdata_eq_ok_iff, fun _ _ => Ds.ofRdata_eq_ok_iff,
    fun _ => Ds.exists_ofRdata_eq_ok_iff, Rrsig.ofRdata?_eq_some, fun bytes s => ?_⟩
  simp only [Rrsig.ofRdata_eq_ok_some_iff, Name.read_eq_ok_iff]
  constructor
  · rintro ⟨_, rfl, labels, hlabels, rfl, hname⟩
    exact ⟨labels, hlabels, s.length_fixedFields, rfl, hname⟩
  · rintro ⟨labels, hlabels, -, rfl, hname⟩
    exact ⟨_, rfl, labels, hlabels, rfl, hname⟩

/-- A signature over keys that is empty, with its signer in mixed case. -/
theorem rdata_reads_back_empty_signature :
    let s : Rrsig := ⟨.dnskey, 13, 2, 3600, 20, 10, 7, "eXample.Org", []⟩
    let head : List UInt8 := [0, 48, 13, 2, 0, 0, 14, 16, 0, 0, 0, 20, 0, 0, 0, 10, 0, 7,
      7, 101, 120, 97, 109, 112, 108, 101, 3, 111, 114, 103, 0]
    s.signedHead = .ok head ∧
      Rrsig.ofRdata head = .ok (some { s with signerName := "example.org." }) := by
  intro s head
  have hhead : s.signedHead = .ok head := by decide +kernel
  have hspelled : Name.spelled "eXample.Org" = "example.org." := by decide +kernel
  have hread := rdata_reads_back.1 s head hhead
  rw [show s.signature = [] from rfl, List.append_nil, show s.signerName = "eXample.Org" from rfl,
    hspelled] at hread
  exact ⟨hhead, hread⟩

end DnsHealth
