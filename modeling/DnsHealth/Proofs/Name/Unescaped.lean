import DnsHealth.Proofs.Name.Count
import DnsHealth.Proofs.Name.Presentation

/-!
# Names without escapes

Two readers take the labels off the text of a name: the one that builds questions, which undoes
escapes and takes labels of letters, digits, hyphens and underscores alone, and the one that gives
the wire form under which signatures are checked. Where no backslash is in the text, the first takes
the parts between the points, without the empty part behind a point at the end. So whatever the
first takes, the second takes too, and they agree but for the case of the letters.
-/

namespace DnsHealth

open Text

namespace LabelName

/-- The parts of a text but for an empty part at the end. -/
def dropEmptyLast (pieces : List (List Char)) : List (List Char) :=
  if pieces.getLast? = some [] then pieces.dropLast else pieces

private theorem dropEmptyLast_cons (piece : List Char) {pieces : List (List Char)}
    (h : pieces ≠ []) : dropEmptyLast (piece :: pieces) = piece :: dropEmptyLast pieces := by
  obtain ⟨next, rest, rfl⟩ := List.exists_cons_of_ne_nil h
  rw [dropEmptyLast, dropEmptyLast, List.getLast?_cons_cons, List.dropLast_cons_cons]
  split <;> rfl

/-- At most one piece is dropped, an empty one at the end. -/
theorem dropEmptyLast_eq_or (pieces : List (List Char)) :
    pieces = dropEmptyLast pieces ∨ pieces = dropEmptyLast pieces ++ [[]] := by
  rw [dropEmptyLast]
  split
  · next h => exact .inr (List.dropLast_append_getLast? [] h).symm
  · exact .inl rfl

private theorem split?_nil (current : List Char) :
    split? current [] = some (if current = [] then [] else [current.reverse]) := by
  rw [split?]

private theorem split?_point (current rest : List Char) :
    split? current ('.' :: rest) = (split? [] rest).map (current.reverse :: ·) := by
  rw [split?]

private theorem split?_cons {c : Char} (hpoint : c ≠ '.') (hslash : c ≠ '\\')
    (current rest : List Char) :
    split? current (c :: rest) = if isSeparator c then none else split? (c :: current) rest := by
  rw [split?]
  · exact hpoint
  · exact fun h _ => hslash h
  · exact fun _ _ h => absurd h hslash

/-- Without escapes the labels of a text are its parts between the points, but for an empty part at
the end. What has been read of the first one stands before it. -/
theorem split?_eq {current cs : List Char} (hcs : '\\' ∉ cs) :
    split? current cs = if cs.any isSeparator then none else
      some (dropEmptyLast ((cs.splitOn '.').modifyHead (current.reverse ++ ·))) := by
  induction cs generalizing current with
  | nil =>
    rw [split?_nil]
    by_cases hcurrent : current = []
    · rw [hcurrent]
      rfl
    · simp [hcurrent, dropEmptyLast]
  | cons c rest ih =>
    rw [List.mem_cons, not_or] at hcs
    obtain ⟨hc, hrest⟩ := hcs
    rw [List.any_cons, List.splitOn_cons_eq_if_modifyHead]
    by_cases hpoint : c = '.'
    · subst hpoint
      have hwhole : (rest.splitOn '.').modifyHead (([] : List Char).reverse ++ ·) =
          rest.splitOn '.' := by
        cases rest.splitOn '.' <;> rfl
      rw [split?_point, ih hrest, hwhole, if_pos (beq_self_eq_true '.'), List.modifyHead_cons,
        List.append_nil, dropEmptyLast_cons _ (List.splitOn_ne_nil _ rest),
        show isSeparator '.' = false from rfl, Bool.false_or, apply_ite (Option.map _)]
      rfl
    · have hgrow : (current.reverse ++ ·) ∘ List.cons c = ((c :: current).reverse ++ ·) := by
        funext piece
        simp
      have hbeq : ¬(c == '.') = true := by simpa using hpoint
      rw [split?_cons hpoint (Ne.symm hc), if_neg hbeq, List.modifyHead_modifyHead, hgrow]
      cases isSeparator c with
      | true => rfl
      | false => exact ih hrest

/-- The labels of a whole text. -/
theorem split?_whole {cs : List Char} (hcs : '\\' ∉ cs) :
    split? [] cs = if cs.any isSeparator then none else some (dropEmptyLast (Name.parts cs)) := by
  rw [split?_eq hcs, Name.parts]
  cases cs.splitOn '.' <;> rfl

end LabelName

namespace Name

/-- A text whose parts, but for an empty part at the end, are not empty has just these labels on the
wire. -/
theorem wireLabels_of_parts {cs : List Char}
    (hne : ∀ label ∈ LabelName.dropEmptyLast (parts cs), label ≠ []) :
    wireLabels cs =
      (LabelName.dropEmptyLast (parts cs)).map fun label => Utf8.encode (lower label) := by
  have hcases := LabelName.dropEmptyLast_eq_or (parts cs)
  generalize LabelName.dropEmptyLast (parts cs) = labels at hne hcases ⊢
  have hpoint : ∀ label ∈ labels, '.' ∉ label := by
    intro label hlabel
    have hpart : label ∈ parts cs := by
      rcases hcases with h | h <;> simp [h, hlabel]
    exact not_mem_of_mem_parts hpart
  rw [← wireLabels_intercalate hne hpoint, wireLabels_inj, bare, bare]
  rcases hcases with h | h
  · rw [← h, intercalate_parts, trimPoints_append_point]
  · rw [← intercalate_parts cs, h, ← flatMap_append_singleton_eq_intercalate]
    cases labels with
    | nil => rfl
    | cons label labels => rw [← join_eq, join, if_neg (List.cons_ne_nil label labels)]

end Name

namespace LabelName

/-- A character that stands for itself inside a label is printable and no blank. -/
theorem toNat_of_isBare {first : Bool} {c : Char} (h : isBare first c = true) :
    0x20 < c.toNat ∧ c.toNat < 0x7f := by
  have hval : c.val.toNat = c.toNat := rfl
  -- The letters and digits by their numbers.
  have halphanum : c.isAlphanum = ((decide (65 ≤ c.val ∧ c.val ≤ 90) ||
      decide (97 ≤ c.val) && decide (c.val ≤ 122)) || decide (48 ≤ c.val) && decide (c.val ≤ 57)) :=
    rfl
  simp only [isBare, isPlain, halphanum, Bool.or_eq_true, Bool.and_eq_true, decide_eq_true_eq,
    beq_iff_eq, UInt32.le_iff_toNat_le, hval, UInt32.toNat_ofNat] at h
  rcases h with ((hplain | rfl) | ⟨rfl, -⟩) | ⟨rfl, -⟩
  · omega
  · decide
  · decide
  · decide

/-- A text that may be asked about as one label. -/
structure IsAscii (label : List Char) : Prop where
  /-- It is not empty. -/
  ne_nil : label ≠ []
  /-- The wire allows its length. -/
  short : label.length ≤ 63
  /-- Its first character may begin a label. -/
  first : ∀ c ∈ label.head?, isBare true c = true ∨ c = '.'
  /-- Its other characters may stand in a label. -/
  rest : ∀ c ∈ label.tail, isBare false c = true ∨ c = '.'

/-- The characters of such a label are printed and no blanks. -/
theorem IsAscii.toNat {label : List Char} (h : IsAscii label) {c : Char} (hc : c ∈ label) :
    0x20 < c.toNat ∧ c.toNat < 0x7f := by
  have hbound {first : Bool} (hbare : isBare first c = true ∨ c = '.') :
      0x20 < c.toNat ∧ c.toNat < 0x7f := by
    rcases hbare with hbare | rfl
    · exact toNat_of_isBare hbare
    · decide
  cases label with
  | nil => cases hc
  | cons d rest =>
    rcases List.mem_cons.mp hc with rfl | hc
    · exact hbound (h.first c rfl)
    · exact hbound (h.rest c hc)

/-- Each character of such a label is one byte. -/
theorem IsAscii.map_toNat {label : List Char} (h : IsAscii label) :
    label.map (fun c => UInt8.ofNat c.toNat) = Utf8.encode label := by
  rw [List.map_eq_flatMap, Utf8.encode]
  refine List.flatMap_congr fun c hc => (Utf8.utf8EncodeChar_of_lt ?_).symm
  have hbound := h.toNat hc
  omega

/-- Such a label has a byte for each character. -/
theorem IsAscii.length_encode {label : List Char} (h : IsAscii label) :
    (Utf8.encode label).length = label.length := by
  rw [← h.map_toNat, List.length_map]

/-- A label of ASCII characters is put on the wire as it is in UTF-8. -/
theorem asciiLabel?_eq_some_iff {label : List Char} {bytes : List UInt8} :
    asciiLabel? label = some bytes ↔ IsAscii label ∧ bytes = Utf8.encode label := by
  cases label with
  | nil => exact iff_of_false (Option.some_ne_none bytes).symm fun h => h.1.ne_nil rfl
  | cons c cs =>
    have hiff : ((isBare true c || c == '.') && cs.all (fun d => isBare false d || d == '.') &&
        decide (cs.length < 63)) = true ↔ IsAscii (c :: cs) := by
      simp only [Bool.and_eq_true, Bool.or_eq_true, beq_iff_eq, List.all_eq_true, decide_eq_true_eq]
      constructor
      · rintro ⟨⟨hfirst, hrest⟩, hlength⟩
        refine ⟨List.cons_ne_nil c cs, hlength, fun d hd => ?_, hrest⟩
        rwa [← Option.some.inj hd]
      · exact fun h => ⟨⟨h.first c rfl, h.rest⟩, h.short⟩
    rw [asciiLabel?]
    split
    · next hallowed =>
      have hlabel := hiff.mp hallowed
      rw [hlabel.map_toNat, Option.some.injEq]
      exact ⟨fun h => ⟨hlabel, h.symm⟩, fun h => h.2.symm⟩
    · next hdenied =>
      exact iff_of_false (Option.some_ne_none bytes).symm fun h => hdenied (hiff.mpr h.1)

/-- A text of labels that may be asked about, with points between them and perhaps one at the
end. -/
def IsAsked (cs : List Char) : Prop :=
  cs = ['.'] ∨ ∀ label ∈ dropEmptyLast (Name.parts cs), IsAscii label

/-- A text of such labels has them on the wire, in any case of their letters. -/
theorem wireLabels_of_isAscii {cs : List Char}
    (h : ∀ label ∈ dropEmptyLast (Name.parts cs), IsAscii label) :
    Name.wireLabels cs =
      ((dropEmptyLast (Name.parts cs)).map Utf8.encode).map (·.map lowerByte) := by
  rw [Name.wireLabels_of_parts fun label hlabel => (h label hlabel).ne_nil, List.map_map]
  exact List.map_congr_left fun label _ => encode_lower label

/-- In such a text no character has to be escaped. -/
theorem any_isSeparator_of_isAscii {cs : List Char}
    (h : ∀ label ∈ dropEmptyLast (Name.parts cs), IsAscii label) : cs.any isSeparator = false := by
  rw [List.any_eq_false]
  intro c hc
  by_cases hpoint : c = '.'
  · rw [hpoint]
    decide
  · have hmem : c ∈ (Name.parts cs).flatten := by
      rw [Name.flatten_parts, List.mem_filter]
      exact ⟨hc, by simpa using hpoint⟩
    have hlabel : ∃ label ∈ dropEmptyLast (Name.parts cs), c ∈ label := by
      rcases dropEmptyLast_eq_or (Name.parts cs) with hparts | hparts
      · rwa [hparts, List.mem_flatten] at hmem
      · rw [hparts, List.flatten_append, List.flatten_singleton, List.append_nil] at hmem
        exact List.mem_flatten.mp hmem
    obtain ⟨label, hlabel, hc⟩ := hlabel
    have hbounds := (h label hlabel).toNat hc
    simp only [isSeparator, isBlank, Bool.or_eq_true, Bool.and_eq_true, decide_eq_true_eq,
      beq_iff_eq]
    omega

/-- Pieces are taken as labels exactly if all of them are such, and then as their bytes. -/
theorem mapM_asciiLabel?_eq_some_iff {texts : List (List Char)} {labels : List (List UInt8)} :
    texts.mapM asciiLabel? = some labels ↔
      (∀ text ∈ texts, IsAscii text) ∧ labels = texts.map Utf8.encode :=
  mapM_eq_some_iff_map fun _ _ => asciiLabel?_eq_some_iff

/-- A text without escapes other than the root is taken exactly if its parts may be asked about as
labels and there is room for them, and they are the labels then. -/
theorem ofChars?_eq_some_iff {cs : List Char} {name : LabelName} (hcs : '\\' ∉ cs)
    (hroot : cs ≠ ['.']) :
    ofChars? asciiLabel? cs = some name ↔
      (∀ label ∈ dropEmptyLast (Name.parts cs), IsAscii label) ∧ size name.labels ≤ 255 ∧
        name = ⟨(dropEmptyLast (Name.parts cs)).map Utf8.encode, cs.getLast? = some '.'⟩ := by
  rw [ofChars?, if_neg hroot, split?_whole hcs]
  constructor
  · intro h
    obtain ⟨texts, htexts, h⟩ := Option.bind_eq_some_iff.mp h
    obtain ⟨labels, hlabels, h⟩ := Option.bind_eq_some_iff.mp h
    split at htexts
    · cases htexts
    · cases htexts
      obtain ⟨hascii, rfl⟩ := mapM_asciiLabel?_eq_some_iff.mp hlabels
      split at h
      · cases h
      · next hsize =>
        cases h
        exact ⟨hascii, Nat.le_of_not_lt hsize, rfl⟩
  · rintro ⟨hascii, hsize, rfl⟩
    rw [any_isSeparator_of_isAscii hascii]
    have hlabels := mapM_asciiLabel?_eq_some_iff.mpr ⟨hascii, rfl⟩
    exact Option.bind_eq_some_iff.mpr ⟨_, rfl, Option.bind_eq_some_iff.mpr
      ⟨_, hlabels, if_neg (Nat.not_lt_of_le hsize)⟩⟩

/-- The labels that are taken off a text without escapes are those of its wire form, in any case of
their letters, and the wire allows their lengths. -/
theorem wireLabels_of_ofChars? {cs : List Char} {name : LabelName} (hcs : '\\' ∉ cs)
    (h : ofChars? asciiLabel? cs = some name) :
    Name.wireLabels cs = name.lower.labels ∧
      ∀ label ∈ name.labels, 0 < label.length ∧ label.length ≤ 63 := by
  by_cases hroot : cs = ['.']
  · rw [ofChars?, if_pos hroot] at h
    cases h
    rw [hroot]
    exact ⟨rfl, nofun⟩
  · obtain ⟨hascii, -, rfl⟩ := (ofChars?_eq_some_iff hcs hroot).mp h
    refine ⟨wireLabels_of_isAscii hascii, ?_⟩
    rintro _ hmem
    obtain ⟨text, htext, rfl⟩ := List.mem_map.mp hmem
    have hlabel := hascii text htext
    rw [hlabel.length_encode]
    exact ⟨List.length_pos_iff.mpr hlabel.ne_nil, hlabel.short⟩

/-- A name without escapes may be asked about, and the wire has room for it, exactly if it has a
wire form and its labels are such as questions take. -/
theorem exists_ofChars?_iff {cs : List Char} (hcs : '\\' ∉ cs) :
    (∃ name, ofChars? asciiLabel? cs = some name ∧ size name.labels ≤ 254) ↔
      (∃ wire, Name.encode cs = .ok wire) ∧ IsAsked cs := by
  constructor
  · rintro ⟨name, hname, hsize⟩
    obtain ⟨hlabels, hlengths⟩ := wireLabels_of_ofChars? hcs hname
    have hvalid : Valid name.labels :=
      ⟨fun l hl => (hlengths l hl).1, fun l hl => (hlengths l hl).2, hsize⟩
    refine ⟨⟨_, Name.encode_eq_ok_iff.mpr ⟨hlabels ▸ hvalid.lower, rfl⟩⟩, ?_⟩
    by_cases hroot : cs = ['.']
    · exact .inl hroot
    · exact .inr ((ofChars?_eq_some_iff hcs hroot).mp hname).1
  · rintro ⟨⟨wire, hwire⟩, hasked⟩
    by_cases hroot : cs = ['.']
    · exact ⟨root, if_pos hroot, Nat.zero_le 254⟩
    · have hascii := hasked.resolve_left hroot
      have hsize := (Name.encode_eq_ok_iff.mp hwire).1.size_le
      rw [wireLabels_of_isAscii hascii, size_map_lowerByte] at hsize
      exact ⟨_, (ofChars?_eq_some_iff hcs hroot).mpr ⟨hascii, Nat.le_succ_of_le hsize, rfl⟩, hsize⟩

end LabelName

end DnsHealth
