import DnsHealth.Proofs.Name.Wire
import Mathlib.Algebra.GroupWithZero.Nat

/-!
# What the texts of a name keep

The labels of a name that came over the wire may hold any bytes, and putting the text of the name
back on the wire does not always give them. The presentation form escapes bytes, and no escape is
undone: what counts is that there are none. The name of a signer is read as text without escapes:
what counts is that every label is text and holds no point.
-/

namespace DnsHealth

open Text

/-- A function that only one element takes to itself keeps how often it stands in a list. -/
theorem count_map_of_eq_iff {α : Type} [DecidableEq α] {f : α → α} {x : α}
    (h : ∀ y, f y = x ↔ y = x) (ys : List α) : (ys.map f).count x = ys.count x := by
  simp only [List.count, List.countP_map]
  congr 1
  funext y
  rw [Function.comp_apply, Bool.eq_iff_iff, beq_iff_eq, beq_iff_eq, h]

namespace LabelName

/-- A byte stands for itself in the written form of a label. -/
def Bare (first : Bool) (b : UInt8) : Prop := b.toNat < 128 ∧ isBare first (Char.ofNat b.toNat)

instance (first : Bool) (b : UInt8) : Decidable (Bare first b) :=
  inferInstanceAs (Decidable (_ ∧ _))

/-- The number of bytes of a label that its written form escapes. -/
def escapes : List UInt8 → Nat
  | [] => 0
  | b :: bytes => (if Bare true b then 0 else 1) + bytes.countP fun c => ¬Bare false c

/-- The presentation form of a name has no escapes. -/
def Unescaped (name : LabelName) : Prop := ∀ label ∈ name.labels, escapes label = 0

/-- The labels of a name are texts without points. -/
def Textual (name : LabelName) : Prop :=
  ∀ label ∈ name.labels, Utf8.WellFormed label ∧ 0x2E ∉ label

/-- A character has the number it was made of. -/
theorem toNat_ofNat {n : Nat} (h : n < 256) : (Char.ofNat n).toNat = n := by
  have hvalid : n.isValidChar := Or.inl (by omega)
  rw [Char.ofNat, dif_pos hvalid]
  rfl

/-- A character that stands for itself is neither a backslash nor a point. -/
theorem not_isBare {first : Bool} {c : Char} (h : c = '\\' ∨ c = '.') : isBare first c = false := by
  rcases h with rfl | rfl <;> cases first <;> rfl

/-- A bare byte stands for itself. -/
theorem escapeByte_of_bare {first : Bool} {b : UInt8} (h : Bare first b) :
    escapeByte first b = [Char.ofNat b.toNat] := if_pos h

/-- Any other byte stands behind a backslash, as its character or in octal digits. -/
theorem escapeByte_of_not_bare {first : Bool} {b : UInt8} (h : ¬Bare first b) :
    escapeByte first b =
      if 0x20 < b.toNat ∧ b.toNat < 0x7f then ['\\', Char.ofNat b.toNat]
      else ['\\', octalDigit (b.toNat / 64), octalDigit (b.toNat / 8 % 8),
        octalDigit (b.toNat % 8)] := if_neg h

/-- Every escape puts one backslash in front of what it escapes. -/
theorem count_escapeByte (first : Bool) (b : UInt8) :
    (escapeByte first b).count '\\' =
      (if b = 0x5C then 1 else 0) + if Bare first b then 0 else 1 := by
  have hlt := b.toNat_lt
  have hchar : Char.ofNat b.toNat = '\\' ↔ b.toNat = 92 := by
    rw [← Char.toNat_inj, toNat_ofNat hlt]
    rfl
  have hbyte : b = 0x5C ↔ b.toNat = 92 := UInt8.toNat_inj.symm
  have hoctal {n : Nat} (hn : n < 8) : octalDigit n ≠ '\\' := by
    intro heq
    have h92 := congrArg Char.toNat heq
    rw [octalDigit, toNat_ofNat (by omega)] at h92
    change 48 + n = 92 at h92
    omega
  by_cases h : Bare first b
  · have hne : Char.ofNat b.toNat ≠ '\\' := fun heq => by
      simp [Bare, not_isBare (Or.inl heq)] at h
    rw [escapeByte_of_bare h, if_pos h, if_neg (hbyte.not.mpr (hchar.not.mp hne)),
      List.count_singleton, if_neg (by simpa using hne)]
  · rw [escapeByte_of_not_bare h, if_neg h]
    by_cases hplain : 0x20 < b.toNat ∧ b.toNat < 0x7f
    · simp only [if_pos hplain, List.count_cons_self, List.count_singleton, beq_iff_eq, hchar,
        hbyte]
    · rw [if_neg hplain, if_neg (by rw [hbyte]; omega), List.count_cons_self,
        List.count_eq_zero.mpr]
      simp only [List.mem_cons, List.not_mem_nil, or_false, not_or]
      exact ⟨(hoctal (by omega)).symm, (hoctal (by omega)).symm, (hoctal (by omega)).symm⟩

/-- The backslashes in the text of a label are its own and those of its escapes. -/
theorem count_labelText (label : List UInt8) :
    (labelText label).count '\\' = label.count 0x5C + escapes label := by
  have hrest (bytes : List UInt8) : (bytes.flatMap (escapeByte false)).count '\\' =
      bytes.count 0x5C + bytes.countP fun c => ¬Bare false c := by
    induction bytes with
    | nil => rfl
    | cons b bytes ih =>
      simp only [List.flatMap_cons, List.count_append, count_escapeByte, ih, List.count_cons,
        List.countP_cons, beq_iff_eq, decide_eq_true_eq, ite_not]
      omega
  cases label with
  | nil => rfl
  | cons b bytes =>
    simp only [labelText, escapes, List.count_append, count_escapeByte, hrest, List.count_cons,
      beq_iff_eq]
    omega

/-- The backslashes of the presentation form are those of the labels and one for each escape. -/
theorem count_chars (name : LabelName) :
    name.chars.count '\\' = name.labels.flatten.count 0x5C + (name.labels.map escapes).sum := by
  have hjoin (labels : List (List UInt8)) :
      (['.'].intercalate (labels.map labelText)).count '\\' =
        labels.flatten.count 0x5C + (labels.map escapes).sum := by
    induction labels with
    | nil => rfl
    | cons label labels ih =>
      cases labels with
      | nil => simp [count_labelText]
      | cons next labels =>
        simp only [List.map_cons, List.intercalate_cons_cons, List.count_append, count_labelText,
          List.flatten_cons, List.sum_cons] at ih ⊢
        rw [ih]
        simp
        omega
  rw [chars, List.count_append, hjoin]
  split <;> rfl

end LabelName

namespace Name

private theorem filter_trimPoints (cs : List Char) :
    (trimPoints cs).filter (· ≠ '.') = cs.filter (· ≠ '.') := by
  have hdrop (cs : List Char) :
      (cs.dropWhile (· == '.')).filter (· ≠ '.') = cs.filter (· ≠ '.') := by
    induction cs with
    | nil => rfl
    | cons c cs ih =>
      rw [List.dropWhile_cons]
      split
      · next h => rw [ih, List.filter_cons_of_neg (by simpa using h)]
      · rfl
  rw [trimPoints, List.filter_reverse, hdrop, ← List.filter_reverse, List.reverse_reverse]

/-- The wire form of a name holds all of its text but the points. -/
theorem flatten_wireLabels (name : List Char) :
    (wireLabels name).flatten = Utf8.encode (lower (name.filter (· ≠ '.'))) := by
  have hencode (labels : List (List Char)) :
      (labels.map Utf8.encode).flatten = Utf8.encode labels.flatten := by
    induction labels with
    | nil => rfl
    | cons label labels ih =>
      rw [List.map_cons, List.flatten_cons, List.flatten_cons, Utf8.encode_append, ih]
  have hpoint : (fun c : Char => decide (c ≠ '.')) ∘ Char.toLower = fun c => decide (c ≠ '.') := by
    funext c
    simp [toLower_eq_point_iff]
  have hbare : (bare name).filter (· ≠ '.') = lower (name.filter (· ≠ '.')) := by
    rw [bare, lower, List.filter_map, hpoint, filter_trimPoints, lower]
  rw [wireLabels, ← hbare, ← flatten_parts]
  split
  · next h => rw [h]; rfl
  · exact hencode _

/-- The wire form of a name has the backslashes of its text. -/
theorem count_wireLabels (name : List Char) :
    (wireLabels name).flatten.count 0x5C = name.count '\\' := by
  have hbyte (cs : List Char) : (Utf8.encode cs).count 0x5C = cs.count '\\' :=
    Utf8.count_encode (show '\\'.toNat < 128 by decide) cs
  rw [flatten_wireLabels, hbyte, lower, count_map_of_eq_iff fun _ => toLower_eq_iff (by decide),
    List.count_filter (by decide)]

/-- The labels of a wire form are texts without points. -/
theorem textual_wireLabels (name : List Char) :
    ∀ label ∈ wireLabels name, Utf8.WellFormed label ∧ 0x2E ∉ label := by
  have hbyte (cs : List Char) : (Utf8.encode cs).count 0x2E = cs.count '.' :=
    Utf8.count_encode (show '.'.toNat < 128 by decide) cs
  intro label hlabel
  constructor
  · unfold wireLabels at hlabel
    split at hlabel
    · cases hlabel
    · obtain ⟨part, -, rfl⟩ := List.mem_map.mp hlabel
      exact ⟨part, rfl⟩
  · intro hpoint
    have hmem : 0x2E ∈ (wireLabels name).flatten := List.mem_flatten_of_mem hlabel hpoint
    rw [flatten_wireLabels, ← List.count_pos_iff, hbyte, List.count_pos_iff] at hmem
    simp [lower, toLower_eq_point_iff] at hmem

/-- Labels that begin with one that is not empty make up a text that is not. -/
theorem intercalate_ne_nil {label : List Char} (h : label ≠ []) (labels : List (List Char)) :
    ['.'].intercalate (label :: labels) ≠ [] := by
  cases labels with
  | nil => simpa using h
  | cons next labels => simp [List.intercalate_cons_cons]

/-- A text of labels with points between them ends in one of the labels. -/
theorem exists_intercalate_eq_append {labels : List (List Char)} (hne : labels ≠ []) :
    ∃ front, ∃ label ∈ labels, ['.'].intercalate labels = front ++ label := by
  induction labels with
  | nil => exact absurd rfl hne
  | cons label labels ih =>
    cases labels with
    | nil => exact ⟨[], label, List.mem_cons_self, by simp⟩
    | cons next labels =>
      obtain ⟨front, last, hlast, heq⟩ := ih (List.cons_ne_nil _ _)
      refine ⟨label ++ ['.'] ++ front, last, List.mem_cons_of_mem _ hlast, ?_⟩
      rw [List.intercalate_cons_cons, heq, List.append_assoc (label ++ ['.'])]

/-- Of a text of labels that are not empty, with points between them and at the end, only the last
point goes when points at the end go. -/
theorem trimPoints_intercalate {labels : List (List Char)} (hne : ∀ label ∈ labels, label ≠ [])
    (hpoint : ∀ label ∈ labels, '.' ∉ label) :
    trimPoints (['.'].intercalate labels ++ ['.']) = ['.'].intercalate labels := by
  by_cases hlabels : labels = []
  · subst hlabels
    rfl
  · obtain ⟨front, label, hlabel, heq⟩ := exists_intercalate_eq_append hlabels
    obtain ⟨cs, c, rfl⟩ : ∃ cs c, label = cs ++ [c] :=
      ⟨_, _, (List.dropLast_concat_getLast (hne label hlabel)).symm⟩
    have hc : c ≠ '.' := by
      rintro rfl
      exact hpoint _ hlabel (List.mem_append_right cs List.mem_cons_self)
    simp [heq, trimPoints, hc]

/-- A text of labels that are not empty, with points between them and at the end, has just these
labels on the wire. -/
theorem wireLabels_intercalate {labels : List (List Char)} (hne : ∀ label ∈ labels, label ≠ [])
    (hpoint : ∀ label ∈ labels, '.' ∉ label) :
    wireLabels (['.'].intercalate labels ++ ['.']) =
      labels.map fun label => Utf8.encode (lower label) := by
  cases labels with
  | nil => simp [wireLabels, bare, trimPoints]
  | cons label labels =>
    have hsome := intercalate_ne_nil (hne label List.mem_cons_self) labels
    rw [wireLabels_of_ne_nil (by rwa [trimPoints_intercalate hne hpoint]),
      trimPoints_intercalate hne hpoint, parts,
      List.splitOn_intercalate '.' hpoint (List.cons_ne_nil _ _)]

/-- The text of a name is its labels with a point behind each. -/
theorem join_eq (labels : List (List Char)) : join labels = ['.'].intercalate labels ++ ['.'] := by
  have hcons (label : List Char) (labels : List (List Char)) :
      (label :: labels).flatMap (· ++ ['.']) = ['.'].intercalate (label :: labels) ++ ['.'] := by
    induction labels generalizing label with
    | nil => simp
    | cons next labels ih =>
      rw [List.flatMap_cons, ih, List.intercalate_cons_cons, List.append_assoc, List.append_assoc,
        List.append_assoc]
  cases labels with
  | nil => rfl
  | cons label labels => exact hcons label labels

end Name

namespace LabelName

private theorem lowerByte_of_le {b : UInt8} (h : 128 ≤ b.toNat) : lowerByte b = b := by
  rw [lowerByte, if_neg]
  simp only [UInt8.le_iff_toNat_le, UInt8.toNat_ofNat]
  omega

/-- The number of a capital letter grows by 32, and no other changes. -/
theorem toNat_lowerByte (b : UInt8) :
    (lowerByte b).toNat = if 65 ≤ b.toNat ∧ b.toNat ≤ 90 then b.toNat + 32 else b.toNat := by
  simp only [lowerByte, UInt8.le_iff_toNat_le, UInt8.toNat_ofNat]
  split
  · rw [UInt8.toNat_add, show (32 : UInt8).toNat = 32 from rfl]
    omega
  · rfl

/-- The bytes of a text in small letters are its bytes in small letters. -/
theorem encode_lower (cs : List Char) :
    Utf8.encode (Name.lower cs) = (Utf8.encode cs).map lowerByte := by
  have hchar (c : Char) : String.utf8EncodeChar c.toLower =
      (String.utf8EncodeChar c).map lowerByte := by
    by_cases hc : c.toNat < 128
    · have hlower : c.toLower.toNat < 128 := by
        rw [Name.toNat_toLower]
        split <;> omega
      rw [Utf8.utf8EncodeChar_of_lt hc, Utf8.utf8EncodeChar_of_lt hlower, List.map_singleton,
        List.singleton_inj, ← UInt8.toNat_inj, toNat_lowerByte, UInt8.toNat_ofNat',
        UInt8.toNat_ofNat', Name.toNat_toLower]
      split <;> split <;> omega
    · have hsame : c.toLower = c := by
        rw [← Char.toNat_inj, Name.toNat_toLower, if_neg (by omega)]
      have hbytes : ∀ b ∈ String.utf8EncodeChar c, lowerByte b = id b := fun b hb =>
        lowerByte_of_le (Utf8.le_toNat_of_mem_utf8EncodeChar (by omega) hb)
      rw [hsame, List.map_congr_left hbytes, List.map_id]
  simp only [Utf8.encode, Name.lower, List.flatMap_map, List.map_flatMap, hchar]

/-- A byte string is text if it is so in small letters. -/
theorem wellFormed_of_map_lowerByte {bytes : List UInt8}
    (h : Utf8.WellFormed (bytes.map lowerByte)) : Utf8.WellFormed bytes := by
  obtain ⟨cs, hcs⟩ := h
  induction cs generalizing bytes with
  | nil => exact ⟨[], List.map_eq_nil_iff.mp hcs⟩
  | cons c cs ih =>
    rw [Utf8.encode, List.flatMap_cons, ← Utf8.encode] at hcs
    obtain ⟨first, rest, rfl, hfirst, hrest⟩ := List.map_eq_append_iff.mp hcs
    obtain ⟨ds, rfl⟩ := ih hrest
    -- The bytes that give the character are those of a character themselves.
    suffices ∃ d, first = String.utf8EncodeChar d by
      obtain ⟨d, rfl⟩ := this
      exact ⟨d :: ds, rfl⟩
    by_cases hc : c.toNat < 128
    · rw [Utf8.utf8EncodeChar_of_lt hc] at hfirst
      obtain ⟨b, rfl, hb⟩ := List.map_eq_singleton_iff.mp hfirst
      have hlt : b.toNat < 128 := by
        have hnat := congrArg UInt8.toNat hb
        rw [toNat_lowerByte, UInt8.toNat_ofNat'] at hnat
        split at hnat <;> omega
      have hchar := toNat_ofNat b.toNat_lt
      refine ⟨Char.ofNat b.toNat, ?_⟩
      rw [Utf8.utf8EncodeChar_of_lt (by omega), hchar, UInt8.ofNat_toNat]
    · refine ⟨c, ?_⟩
      have hbytes : ∀ b ∈ first, lowerByte b = id b := fun b hb => by
        have hmem : lowerByte b ∈ String.utf8EncodeChar c := hfirst ▸ List.mem_map_of_mem hb
        have hle := Utf8.le_toNat_of_mem_utf8EncodeChar (by omega) hmem
        rw [toNat_lowerByte] at hle
        exact lowerByte_of_le (by split at hle <;> omega)
      rw [← hfirst, List.map_congr_left hbytes, List.map_id]

/-- Folding changes no size. -/
theorem size_map_lowerByte (labels : List (List UInt8)) :
    size (labels.map (·.map lowerByte)) = size labels := by
  simp only [size, List.foldr_map, List.length_map]

/-- Folded labels fit on the wire if the labels do. -/
theorem Valid.lower {name : LabelName} (h : Valid name.labels) : Valid name.lower.labels := by
  refine ⟨?_, ?_, Nat.le_trans (Nat.le_of_eq (size_map_lowerByte _)) h.size_le⟩
  · simpa [LabelName.lower] using h.pos
  · simpa [LabelName.lower] using h.short

/-- A label that is not escaped is written with its own bytes, none of which is a point. -/
theorem encode_labelText {label : List UInt8} (h : escapes label = 0) :
    Utf8.encode (labelText label) = label ∧ '.' ∉ labelText label := by
  have hbyte {first : Bool} {b : UInt8} (hb : Bare first b) :
      Utf8.encode (escapeByte first b) = [b] ∧ '.' ∉ escapeByte first b := by
    have hchar := toNat_ofNat b.toNat_lt
    rw [escapeByte_of_bare hb]
    constructor
    · rw [Utf8.encode, List.flatMap_singleton,
        Utf8.utf8EncodeChar_of_lt (by rw [hchar]; exact hb.1), hchar, UInt8.ofNat_toNat]
    · intro hmem
      have hbare := hb.2
      rw [← List.mem_singleton.mp hmem, not_isBare (Or.inr rfl)] at hbare
      cases hbare
  have hrest (bytes : List UInt8) (hbytes : ∀ b ∈ bytes, Bare false b) :
      Utf8.encode (bytes.flatMap (escapeByte false)) = bytes ∧
        '.' ∉ bytes.flatMap (escapeByte false) := by
    induction bytes with
    | nil => exact ⟨rfl, List.not_mem_nil⟩
    | cons b bytes ih =>
      obtain ⟨hb, hbytes⟩ := List.forall_mem_cons.mp hbytes
      obtain ⟨hencode, hpoint⟩ := ih hbytes
      rw [List.flatMap_cons, Utf8.encode_append, (hbyte hb).1, hencode]
      exact ⟨rfl, by simp [(hbyte hb).2, hpoint]⟩
  cases label with
  | nil => exact ⟨rfl, List.not_mem_nil⟩
  | cons b bytes =>
    obtain ⟨hb, hbytes⟩ := Nat.add_eq_zero_iff.mp h
    have hfirst : Bare true b := by
      by_contra hnot
      rw [if_neg hnot] at hb
      cases hb
    obtain ⟨hencode, hpoint⟩ := hrest bytes (by simpa [List.countP_eq_zero] using hbytes)
    rw [labelText, Utf8.encode_append, (hbyte hfirst).1, hencode]
    exact ⟨rfl, by simp [(hbyte hfirst).2, hpoint]⟩

/-- Small letters change no backslash. -/
theorem count_flatten_lower (name : LabelName) :
    name.lower.labels.flatten.count 0x5C = name.labels.flatten.count 0x5C := by
  have hbyte (b : UInt8) : lowerByte b = 0x5C ↔ b = 0x5C := by
    rw [← UInt8.toNat_inj, ← UInt8.toNat_inj, toNat_lowerByte]
    change _ = 92 ↔ _ = 92
    split <;> omega
  rw [lower, ← List.map_flatten, count_map_of_eq_iff hbyte]

/-- The presentation form of a name that came over the wire gives the labels of the name in small
letters exactly if it has no escapes. -/
theorem toWire_text_iff {name : LabelName} (hvalid : Valid name.labels)
    (habsolute : name.absolute = true) :
    Name.toWire name.text = .ok (labelsToWire name.lower.labels) ↔ name.Unescaped := by
  rw [Name.toWire, text, String.toList_ofList, Name.encode_eq_labelsToWire_iff hvalid.lower]
  constructor
  · intro h
    have hcount := Name.count_wireLabels name.chars
    rw [h, count_chars, count_flatten_lower] at hcount
    have hsum : (name.labels.map escapes).sum = 0 := by omega
    exact fun label hlabel => List.sum_eq_zero_iff_forall_eq_nat.mp hsum _
      (List.mem_map_of_mem hlabel)
  · intro h
    have hne : ∀ label ∈ name.labels.map labelText, label ≠ [] := by
      rintro _ hmem rfl
      obtain ⟨label, hlabel, hnil⟩ := List.mem_map.mp hmem
      have hencode := (encode_labelText (h label hlabel)).1
      have hpos := hvalid.pos label hlabel
      rw [hnil] at hencode
      rw [← hencode] at hpos
      cases hpos
    have hpoint : ∀ label ∈ name.labels.map labelText, '.' ∉ label := by
      rintro _ hmem
      obtain ⟨label, hlabel, rfl⟩ := List.mem_map.mp hmem
      exact (encode_labelText (h label hlabel)).2
    rw [chars, habsolute, if_pos rfl, Name.wireLabels_intercalate hne hpoint, List.map_map, lower]
    refine List.map_congr_left fun label hlabel => ?_
    rw [Function.comp_apply, encode_lower, (encode_labelText (h label hlabel)).1]

/-- The text as which a name that came over the wire is read where no escapes are used. -/
def plainText (name : LabelName) : String :=
  String.ofList (Name.join (name.lower.labels.map fun label =>
    Name.lower (Utf8.decodeLossy label)))

/-- The text without escapes of a name that came over the wire gives the labels of the name in small
letters exactly if they are texts without points. -/
theorem toWire_plainText_iff {name : LabelName} (hvalid : Valid name.labels) :
    Name.toWire name.plainText = .ok (labelsToWire name.lower.labels) ↔ name.Textual := by
  rw [Name.toWire, plainText, String.toList_ofList, Name.encode_eq_labelsToWire_iff hvalid.lower]
  constructor
  · intro h label hlabel
    have hmem : label.map lowerByte ∈ name.lower.labels := List.mem_map_of_mem hlabel
    obtain ⟨hformed, hpoint⟩ := Name.textual_wireLabels _ _ (h ▸ hmem)
    exact ⟨wellFormed_of_map_lowerByte hformed,
      fun hmem => hpoint (List.mem_map.mpr ⟨0x2E, hmem, rfl⟩)⟩
  · intro h
    have htext {label : List UInt8} (hlabel : label ∈ name.labels) : ∃ cs, label = Utf8.encode cs ∧
        cs ≠ [] ∧ '.' ∉ cs ∧
          Name.lower (Utf8.decodeLossy (label.map lowerByte)) = Name.lower cs := by
      obtain ⟨⟨cs, rfl⟩, hpoint⟩ := h label hlabel
      have hpos := hvalid.pos _ hlabel
      refine ⟨cs, rfl, fun hnil => by simp [hnil, Utf8.encode] at hpos, fun hmem => hpoint ?_, ?_⟩
      · rw [← List.count_pos_iff] at hmem ⊢
        rwa [← Utf8.count_encode (show '.'.toNat < 128 by decide) cs] at hmem
      · rw [← encode_lower, Utf8.decodeLossy_encode, Name.lower_lower]
    rw [Name.join_eq, lower, List.map_map, Name.wireLabels_intercalate, List.map_map]
    · refine List.map_congr_left fun label hlabel => ?_
      obtain ⟨cs, hcs, -, -, hread⟩ := htext hlabel
      rw [Function.comp_apply, Function.comp_apply, hread, Name.lower_lower, encode_lower, hcs]
    · rintro _ hmem hnil
      obtain ⟨label, hlabel, rfl⟩ := List.mem_map.mp hmem
      obtain ⟨cs, -, hne, -, hread⟩ := htext hlabel
      rw [Function.comp_apply, hread, Name.lower_eq_nil_iff] at hnil
      exact hne hnil
    · rintro _ hmem hpoint
      obtain ⟨label, hlabel, rfl⟩ := List.mem_map.mp hmem
      obtain ⟨cs, -, -, hnot, hread⟩ := htext hlabel
      rw [Function.comp_apply, hread] at hpoint
      simp [Name.lower, Name.toLower_eq_point_iff] at hpoint
      exact hnot hpoint

end LabelName

end DnsHealth
