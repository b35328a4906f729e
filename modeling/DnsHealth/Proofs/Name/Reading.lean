import DnsHealth.Proofs.Name.Presentation

/-!
# Reading names back

A name has a wire form exactly if its parts have 1 to 63 bytes each and the whole form at most 255.
The reader of uncompressed names takes exactly the byte strings that begin with labels of 1 to 63
bytes and a zero byte, and leaves what follows. So of the wire form of a name it makes the name in
small letters with one point at its end, whatever stands behind the form. Reading by positions in
the byte string comes to the same.
-/

namespace DnsHealth

open Text

namespace LabelName

/-- The reader of uncompressed names takes labels that each stand behind their length, up to a zero
byte. -/
theorem readLabels_eq_ok_iff {bytes rest : List UInt8} {texts : List (List Char)} :
    Name.readLabels bytes = .ok (texts, rest) ↔
      ∃ labels : List (List UInt8), (∀ label ∈ labels, 0 < label.length ∧ label.length ≤ 63) ∧
        bytes = labelsToWire labels ++ rest ∧
        texts = labels.map fun label => Name.lower (Utf8.decodeLossy label) := by
  constructor
  · intro h
    fun_induction Name.readLabels bytes generalizing texts rest with
    | case1 => cases h
    | case2 bytes =>
      cases h
      exact ⟨[], by simp, rfl, rfl⟩
    | case3 => cases h
    | case4 => cases h
    | case5 length bytes hzero hlong hfits ih =>
      obtain ⟨⟨read, tail⟩, hread, hok⟩ := (bind_eq_ok_iff ..).mp h
      cases hok
      obtain ⟨labels, hlabels, hbytes, rfl⟩ := ih hread
      have hlength : (bytes.take length.toNat).length = length.toNat := by
        rw [List.length_take]
        omega
      have hpos : 0 < length.toNat := by
        rw [Nat.pos_iff_ne_zero]
        exact fun h => hzero (UInt8.toNat_inj.mp h)
      have hle : length.toNat ≤ 63 := UInt8.le_iff_toNat_le.mp (UInt8.not_lt.mp hlong)
      refine ⟨bytes.take length.toNat :: labels, ?_, ?_, rfl⟩
      · exact List.forall_mem_cons.mpr ⟨by omega, hlabels⟩
      · rw [labelsToWire_cons, Bytes.sized, hlength, UInt8.ofNat_toNat, List.append_assoc,
          ← hbytes, List.cons_append, List.take_append_drop]
  · rintro ⟨labels, hlabels, rfl, rfl⟩
    induction labels with
    | nil => simp [labelsToWire, Name.readLabels]
    | cons label labels ih =>
      obtain ⟨⟨hpos, hle⟩, hlabels⟩ := List.forall_mem_cons.mp hlabels
      have hlength := Bytes.toNat_ofNat_of_le (show label.length ≤ 255 by omega)
      have hlong : ¬(63 : UInt8) < UInt8.ofNat label.length := by
        rw [UInt8.lt_iff_toNat_lt, hlength]
        exact Nat.not_lt.mpr hle
      rw [labelsToWire_cons, Bytes.sized, List.append_assoc, List.cons_append, Name.readLabels,
        if_neg (ofNat_length_ne_zero hpos hle), if_neg hlong, hlength,
        if_neg (by simp), List.drop_left, List.take_left, ih hlabels]
      rfl

end LabelName

namespace Name

/-- The reader of names takes the labels off the front, and joins them as text in small letters. -/
theorem read_eq_ok_iff {bytes rest : List UInt8} {name : String} :
    read bytes = .ok (name, rest) ↔
      ∃ labels : List (List UInt8), (∀ label ∈ labels, 0 < label.length ∧ label.length ≤ 63) ∧
        bytes = LabelName.labelsToWire labels ++ rest ∧
        name = String.ofList (join (labels.map fun label => lower (Utf8.decodeLossy label))) := by
  simp only [read, bind_eq_ok_iff, Except.ok.injEq, Prod.exists, Prod.mk.injEq,
    LabelName.readLabels_eq_ok_iff]
  constructor
  · rintro ⟨_, _, ⟨labels, hlabels, hbytes, rfl⟩, rfl, rfl⟩
    exact ⟨labels, hlabels, hbytes, rfl⟩
  · rintro ⟨labels, hlabels, hbytes, rfl⟩
    exact ⟨_, _, ⟨labels, hlabels, hbytes, rfl⟩, rfl, rfl⟩

/-- A name in small letters and with one point at its end. -/
def spelled (name : String) : String := String.ofList (bare name.toList ++ ['.'])

/-- The labels of the wire form of a name, joined as text, give the name in small letters. -/
theorem join_wireLabels (name : List Char) :
    join ((wireLabels name).map fun label => lower (Utf8.decodeLossy label)) =
      bare name ++ ['.'] := by
  unfold wireLabels
  split
  · next h => rw [h]; rfl
  · have hlabel : (parts (bare name)).map lower = parts (bare name) := by
      rw [← parts_lower, bare, lower_lower]
    simp only [List.map_map, Function.comp_def, Utf8.decodeLossy_encode]
    rw [hlabel, join_eq, intercalate_parts]

/-- The wire form of a name reads back as the name in small letters with one point at its end, and
what follows the form is left. -/
theorem read_toWire_append {name : String} {wire : List UInt8} (h : toWire name = .ok wire)
    (rest : List UInt8) : read (wire ++ rest) = .ok (spelled name, rest) := by
  obtain ⟨hvalid, rfl⟩ := encode_eq_ok_iff.mp h
  refine read_eq_ok_iff.mpr ⟨wireLabels name.toList, ?_, rfl, ?_⟩
  · exact fun label hlabel => ⟨hvalid.pos label hlabel, hvalid.short label hlabel⟩
  · rw [spelled, join_wireLabels]

/-- The number of bytes of the wire form of a name, given its text without points at the end. -/
def wireLength (text : List Char) : Nat :=
  ((parts text).map fun part => (Utf8.encode part).length + 1).sum + 1

/-- The parts of a name have the lengths that the wire takes. -/
structure Spellable (text : List Char) : Prop where
  /-- Every part has 1 to 63 bytes. -/
  part_length : ∀ part ∈ parts text,
    1 ≤ (Utf8.encode part).length ∧ (Utf8.encode part).length ≤ 63
  /-- The wire form has at most 255 bytes. -/
  wireLength_le : wireLength text ≤ 255

/-- Folding changes no length in bytes. -/
theorem length_encode_lower (cs : List Char) :
    (Utf8.encode (lower cs)).length = (Utf8.encode cs).length := by
  rw [LabelName.encode_lower, List.length_map]

/-- The labels of a name other than the root are such as the wire takes exactly if the parts of its
text are. -/
theorem valid_wireLabels_iff {name : List Char} (h : trimPoints name ≠ []) :
    LabelName.Valid (wireLabels name) ↔ Spellable (trimPoints name) := by
  have hsize : LabelName.size (wireLabels name) + 1 = wireLength (trimPoints name) := by
    rw [wireLabels_of_ne_nil h, wireLength]
    induction parts (trimPoints name) with
    | nil => rfl
    | cons part rest ih =>
      simp only [LabelName.size, List.map_cons, List.foldr_cons, List.sum_cons,
        length_encode_lower] at ih ⊢
      omega
  have hlength (p : Nat → Prop) : (∀ label ∈ wireLabels name, p label.length) ↔
      ∀ part ∈ parts (trimPoints name), p (Utf8.encode part).length := by
    simp only [wireLabels_of_ne_nil h, List.forall_mem_map, length_encode_lower]
  constructor
  · rintro ⟨hpos, hshort, hle⟩
    exact ⟨fun part hpart => ⟨(hlength (1 ≤ ·)).mp hpos part hpart,
      (hlength (· ≤ 63)).mp hshort part hpart⟩, by omega⟩
  · rintro ⟨hparts, hle⟩
    exact ⟨(hlength (1 ≤ ·)).mpr fun part hpart => (hparts part hpart).1,
      (hlength (· ≤ 63)).mpr fun part hpart => (hparts part hpart).2, by omega⟩

/-- A name has a wire form exactly if it is the root or its parts have the lengths for it. -/
theorem exists_toWire_eq_ok_iff {name : String} :
    (∃ wire, toWire name = .ok wire) ↔
      trimPoints name.toList = [] ∨ Spellable (trimPoints name.toList) := by
  have hok : (∃ wire, toWire name = .ok wire) ↔ LabelName.Valid (wireLabels name.toList) := by
    simp only [toWire, encode_eq_ok_iff, exists_and_left, exists_eq, and_true]
  rw [hok]
  by_cases hnil : trimPoints name.toList = []
  · have hroot : wireLabels name.toList = [] := by simp [wireLabels, bare, hnil]
    simp only [hnil, hroot, true_or, iff_true]
    exact ⟨by simp, by simp, by decide⟩
  · simp only [hnil, false_or]
    exact valid_wireLabels_iff hnil

/-- Takes the labels of an uncompressed name from an index of a byte string on, together with the
index behind them. -/
def readLabelsAt (wire : List UInt8) (index : Nat) : Except Failure (List (List Char) × Nat) :=
  match _h : wire[index]? with
  | none => .error (.invalidResponse "name in RDATA truncated")
  | some length =>
    if length = 0 then .ok ([], index + 1)
    else if 63 < length then
      .error (.invalidResponse "compressed or invalid label in RRSIG signer name")
    else
      let stop := index + 1 + length.toNat
      match Bytes.slice? wire (index + 1) stop with
      | none => .error (.invalidResponse "name in RDATA truncated")
      | some label => do
        let (labels, last) ← readLabelsAt wire stop
        .ok (lower (Utf8.decodeLossy label) :: labels, last)
termination_by wire.length - index
decreasing_by
  have := (List.getElem?_eq_some_iff.mp _h).1
  omega

/-- Takes an uncompressed name off the front of a byte string, with the number of its bytes. -/
def readAt (wire : List UInt8) : Except Failure (String × Nat) := do
  let (labels, last) ← readLabelsAt wire 0
  .ok (String.ofList (join labels), last)

/-- Reading from an index on takes what reading takes from the bytes there. -/
theorem readLabelsAt_eq (wire : List UInt8) (index : Nat) :
    readLabelsAt wire index = (readLabels (wire.drop index)).map fun (labels, rest) =>
      (labels, wire.length - rest.length) := by
  fun_induction readLabelsAt wire index with
  | case1 index hnone =>
    rw [List.drop_eq_nil_of_le (List.getElem?_eq_none_iff.mp hnone), readLabels]
    rfl
  | case2 index hbyte =>
    obtain ⟨hlt, hget⟩ := List.getElem?_eq_some_iff.mp hbyte
    have hlast : index + 1 = wire.length - (wire.drop (index + 1)).length := by
      rw [List.length_drop]
      omega
    rw [List.drop_eq_getElem_cons hlt, hget, readLabels, if_pos rfl]
    simp only [Except.map, ← hlast]
  | case3 index length hbyte hzero hlong =>
    obtain ⟨hlt, hget⟩ := List.getElem?_eq_some_iff.mp hbyte
    rw [List.drop_eq_getElem_cons hlt, hget, readLabels, if_neg hzero, if_pos hlong]
    rfl
  | case4 index length hbyte hzero hlong stop hslice =>
    obtain ⟨hlt, hget⟩ := List.getElem?_eq_some_iff.mp hbyte
    have hend : wire.length < index + 1 + length.toNat := by
      by_contra hle
      rw [Bytes.slice?_of_le (by omega) (by omega)] at hslice
      cases hslice
    rw [List.drop_eq_getElem_cons hlt, hget, readLabels, if_neg hzero, if_neg hlong,
      if_pos (by rw [List.length_drop]; omega)]
    rfl
  | case5 index length hbyte hzero hlong stop label hslice ih =>
    obtain ⟨hlt, hget⟩ := List.getElem?_eq_some_iff.mp hbyte
    have hend : index + 1 + length.toNat ≤ wire.length := by
      by_contra hgt
      rw [Bytes.slice?_of_length_lt (by omega)] at hslice
      cases hslice
    rw [Bytes.slice?_of_le (by omega) hend, Nat.add_sub_cancel_left] at hslice
    cases hslice
    rw [List.drop_eq_getElem_cons hlt, hget, readLabels, if_neg hzero, if_neg hlong,
      if_neg (by rw [List.length_drop]; omega), ih, List.drop_drop]
    cases readLabels (wire.drop (index + 1 + length.toNat)) <;> rfl

/-- Reading a name by positions gives the name, and the number of bytes that reading takes off. -/
theorem readAt_eq (wire : List UInt8) :
    readAt wire = (read wire).map fun (name, rest) => (name, wire.length - rest.length) := by
  rw [readAt, readLabelsAt_eq, List.drop_zero, read]
  cases readLabels wire <;> rfl

/-- The place behind a name is told by what is left. -/
theorem readAt_of_read {wire rest : List UInt8} {name : String} (h : read wire = .ok (name, rest)) :
    readAt wire = .ok (name, wire.length - rest.length) := by
  rw [readAt_eq, h]
  rfl

end Name

end DnsHealth
