import DnsHealth.Name.Labels
import DnsHealth.Name.Wire
import DnsHealth.Proofs.Bytes
import DnsHealth.Proofs.Fallible
import DnsHealth.Proofs.Name.Case
import DnsHealth.Proofs.Text.Splitting
import DnsHealth.Proofs.Text.Utf8

/-!
# What the wire form of a name says

The wire form of a name consists of its labels in small letters, and it exists exactly if they have
the lengths that the wire allows. It does not depend on the case of the letters or on the points at
the end, and apart from these it determines the name. No wire form runs into what follows it: from a
byte string that begins with one, the name and the rest can be told.
-/

namespace DnsHealth

namespace LabelName

/-- The labels and their number are such that the wire takes them. -/
structure Valid (labels : List (List UInt8)) : Prop where
  /-- No label is empty. -/
  pos : ∀ label ∈ labels, 0 < label.length
  /-- No label has more than 63 bytes. -/
  short : ∀ label ∈ labels, label.length ≤ 63
  /-- The labels leave room for the root label. -/
  size_le : size labels ≤ 254

/-- The sizes of labels in a row add up. -/
theorem size_append (labels others : List (List UInt8)) :
    size (labels ++ others) = size labels + size others := by
  induction labels with
  | nil => simp [size]
  | cons label labels ih =>
    simp only [size, List.cons_append, List.foldr_cons] at ih ⊢
    omega

/-- What stands at the end of a name are labels of a name. -/
theorem Valid.of_suffix {labels last : List (List UInt8)} (h : Valid labels)
    (hlast : last <:+ labels) : Valid last := by
  obtain ⟨front, rfl⟩ := hlast
  have hsize := h.size_le
  rw [size_append] at hsize
  exact ⟨fun label hlabel => h.pos label (List.mem_append_right front hlabel),
    fun label hlabel => h.short label (List.mem_append_right front hlabel), by omega⟩

/-- A label stands behind its length, in front of the others. -/
theorem labelsToWire_cons (label : List UInt8) (labels : List (List UInt8)) :
    labelsToWire (label :: labels) = Bytes.sized label ++ labelsToWire labels := by
  simp [labelsToWire, Bytes.sized]

/-- The wire form of a name begins with its labels, each behind its length. -/
theorem labelsToWire_append (labels others : List (List UInt8)) :
    labelsToWire (labels ++ others) = labels.flatMap Bytes.sized ++ labelsToWire others := by
  rw [labelsToWire, List.flatMap_append, List.append_assoc]
  rfl

/-- The length byte of a label is not that of the root label. -/
theorem ofNat_length_ne_zero {label : List UInt8} (hpos : 0 < label.length)
    (hshort : label.length ≤ 63) : UInt8.ofNat label.length ≠ 0 := by
  intro h
  have hlength := Bytes.toNat_ofNat_of_le (show label.length ≤ 255 by omega)
  rw [h, UInt8.toNat_zero] at hlength
  omega

/-- A byte string that begins with the wire form of labels tells these and the rest. -/
theorem labelsToWire_append_inj {labels others : List (List UInt8)} {rest tail : List UInt8}
    (hlabels : Valid labels) (hothers : Valid others)
    (h : labelsToWire labels ++ rest = labelsToWire others ++ tail) :
    labels = others ∧ rest = tail := by
  obtain ⟨hpos, hshort, -⟩ := hlabels
  obtain ⟨hpos', hshort', -⟩ := hothers
  induction labels generalizing others with
  | nil =>
    cases others with
    | nil => exact ⟨rfl, by simpa [labelsToWire] using h⟩
    | cons other others =>
      have hzero : (0 : UInt8) = UInt8.ofNat other.length := (List.cons.inj h).1
      exact absurd hzero.symm
        (ofNat_length_ne_zero (hpos' _ List.mem_cons_self) (hshort' _ List.mem_cons_self))
  | cons label labels ih =>
    cases others with
    | nil =>
      have hzero : UInt8.ofNat label.length = 0 := (List.cons.inj h).1
      exact absurd hzero
        (ofNat_length_ne_zero (hpos _ List.mem_cons_self) (hshort _ List.mem_cons_self))
    | cons other others =>
      rw [labelsToWire_cons, labelsToWire_cons, List.append_assoc, List.append_assoc] at h
      obtain ⟨-, hpos⟩ := List.forall_mem_cons.mp hpos
      obtain ⟨hlabel, hshort⟩ := List.forall_mem_cons.mp hshort
      obtain ⟨-, hpos'⟩ := List.forall_mem_cons.mp hpos'
      obtain ⟨hother, hshort'⟩ := List.forall_mem_cons.mp hshort'
      obtain ⟨heq, hwire⟩ := Bytes.sized_append_inj (by omega) (by omega) h
      obtain ⟨hrest, htail⟩ := ih hwire hpos hshort hpos' hshort'
      exact ⟨by rw [heq, hrest], htail⟩

end LabelName

namespace Name

open Text

/-- A name in small letters and without the points at its end. -/
def bare (name : List Char) : List Char := lower (trimPoints name)

/-- The labels of the wire form of a name. -/
def wireLabels (name : List Char) : List (List UInt8) :=
  if bare name = [] then [] else (parts (bare name)).map Utf8.encode

/-- The parts of a name, joined with points, are the name. -/
@[simp] theorem intercalate_parts (cs : List Char) : ['.'].intercalate (parts cs) = cs :=
  List.intercalate_splitOn '.'

/-- The parts of a text between its points hold all of it but the points. -/
theorem flatten_parts (cs : List Char) : (parts cs).flatten = cs.filter (· ≠ '.') :=
  flatten_splitOn '.' cs

@[simp] theorem bare_lower (name : List Char) : bare (lower name) = bare name := by
  rw [bare, bare, trimPoints_lower, lower_lower]

/-- The labels of the wire form tell the name, up to its case and the points at its end. -/
theorem wireLabels_inj {name other : List Char} :
    wireLabels name = wireLabels other ↔ bare name = bare other := by
  constructor
  · intro h
    have hparts (cs : List Char) : parts cs ≠ [] := List.splitOn_ne_nil _ cs
    unfold wireLabels at h
    split at h
    · next hnil =>
      split at h
      · next hother => rw [hnil, hother]
      · exact absurd (List.map_eq_nil_iff.mp h.symm) (hparts _)
    · split at h
      · exact absurd (List.map_eq_nil_iff.mp h) (hparts _)
      · have heq : parts (bare name) = parts (bare other) :=
          List.map_injective_iff.mpr (fun _ _ => Utf8.encode_injective) h
        rw [← intercalate_parts (bare name), heq, intercalate_parts]
  · intro h
    rw [wireLabels, wireLabels, h]

/-- A label has a wire form exactly if it has 1 to 63 bytes, and then it stands behind their
number. -/
theorem labelToWire_eq_ok_iff (name label : List Char) (wire : List UInt8) :
    labelToWire name label = .ok wire ↔
      (0 < (Utf8.encode (lower label)).length ∧ (Utf8.encode (lower label)).length ≤ 63) ∧
        wire = UInt8.ofNat (Utf8.encode (lower label)).length :: Utf8.encode (lower label) := by
  have hpos : 0 < (Utf8.encode (lower label)).length ↔ label ≠ [] := by
    rw [List.length_pos_iff, ne_eq, Utf8.encode_eq_nil_iff, lower_eq_nil_iff]
  rw [hpos, labelToWire]
  split
  · next h => simp [h]
  · next h =>
    split
    · next hlong => simp only [reduceCtorEq, false_iff, not_and]; omega
    · next hshort =>
      simp only [Except.ok.injEq, h, Nat.le_of_not_lt hshort, not_false_eq_true, ne_eq, and_self,
        true_and]
      exact eq_comm

/-- The wire form of a name other than the root has a label for each part of the name. -/
theorem wireLabels_of_ne_nil {name : List Char} (h : trimPoints name ≠ []) :
    wireLabels name = (parts (trimPoints name)).map fun label => Utf8.encode (lower label) := by
  rw [wireLabels, if_neg (by simpa [bare] using h), bare, parts_lower, List.map_map]
  rfl

/-- A name has a wire form exactly if its labels are such as the wire takes, and then it is made of
these. -/
theorem encode_eq_ok_iff {name : List Char} {wire : List UInt8} :
    encode name = .ok wire ↔
      LabelName.Valid (wireLabels name) ∧ wire = LabelName.labelsToWire (wireLabels name) := by
  unfold encode
  by_cases hnil : trimPoints name = []
  · have hlabels : wireLabels name = [] := by simp [wireLabels, bare, hnil]
    have hvalid : LabelName.Valid [] := ⟨by simp, by simp, by decide⟩
    simp only [hnil, hlabels, hvalid, LabelName.labelsToWire, List.flatMap_nil, List.nil_append,
      ite_true, true_and, Except.ok.injEq]
    exact eq_comm
  · have hlabels := wireLabels_of_ne_nil hnil
    have hsize := LabelName.length_labelsToWire (wireLabels name)
    have hwire : ((parts (trimPoints name)).map fun label =>
          UInt8.ofNat (Utf8.encode (lower label)).length :: Utf8.encode (lower label)).flatten ++
        [0] = LabelName.labelsToWire (wireLabels name) := by
      rw [hlabels, LabelName.labelsToWire, List.flatMap_map, List.flatMap_def]
    simp only [hnil, ite_false, bind_eq_ok_iff,
      mapM_eq_ok_iff_map (labelToWire_eq_ok_iff (trimPoints name))]
    have hall : (∀ label ∈ parts (trimPoints name),
          0 < (Utf8.encode (lower label)).length ∧ (Utf8.encode (lower label)).length ≤ 63) ↔
        (∀ label ∈ wireLabels name, 0 < label.length) ∧
          ∀ label ∈ wireLabels name, label.length ≤ 63 := by
      simp only [hlabels, List.forall_mem_map, forall_and]
    rw [hall]
    constructor
    · rintro ⟨_, ⟨hvalid, rfl⟩, hlong⟩
      rw [hwire] at hlong
      split at hlong
      · cases hlong
      · exact ⟨⟨hvalid.1, hvalid.2, by omega⟩, (Except.ok.inj hlong).symm⟩
    · rintro ⟨hvalid, rfl⟩
      refine ⟨_, ⟨⟨hvalid.pos, hvalid.short⟩, rfl⟩, ?_⟩
      have hle := hvalid.size_le
      rw [hwire, if_neg (by omega)]

/-- The wire form of a name is that of given labels exactly if these are the labels of the name. -/
theorem encode_eq_labelsToWire_iff {name : List Char} {labels : List (List UInt8)}
    (h : LabelName.Valid labels) :
    encode name = .ok (LabelName.labelsToWire labels) ↔ wireLabels name = labels := by
  rw [encode_eq_ok_iff]
  constructor
  · rintro ⟨hvalid, hwire⟩
    exact (LabelName.labelsToWire_append_inj hvalid h (congrArg (· ++ []) hwire.symm)).1
  · rintro rfl
    exact ⟨h, rfl⟩

/-- Names that differ in case and in the points at their end have the same wire form, if any. -/
theorem encode_congr {name other : List Char} (h : bare name = bare other) (wire : List UInt8) :
    encode name = .ok wire ↔ encode other = .ok wire := by
  rw [encode_eq_ok_iff, encode_eq_ok_iff, wireLabels_inj.mpr h]

/-- A byte string that begins with the wire form of a name tells the name, up to its case and the
points at its end, and the rest. -/
theorem encode_append_inj {name other : List Char} {wire form rest tail : List UInt8}
    (hname : encode name = .ok wire) (hother : encode other = .ok form)
    (h : wire ++ rest = form ++ tail) : bare name = bare other ∧ wire = form ∧ rest = tail := by
  obtain ⟨hvalid, rfl⟩ := encode_eq_ok_iff.mp hname
  obtain ⟨hothers, rfl⟩ := encode_eq_ok_iff.mp hother
  obtain ⟨hlabels, hrest⟩ := LabelName.labelsToWire_append_inj hvalid hothers h
  exact ⟨wireLabels_inj.mp hlabels, by rw [hlabels], hrest⟩

end Name

end DnsHealth
