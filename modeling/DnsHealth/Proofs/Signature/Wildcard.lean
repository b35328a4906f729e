import DnsHealth.Proofs.Name.Count
import DnsHealth.Proofs.Signature.SignedData

/-!
# The owner as it was signed

A signature that counts fewer labels than the owner has was made over a wildcard: a star before as
many of the last labels of the owner as the signature counts. In every line of signed data this name
takes the place of the owner. It has a wire form whenever the owner has one, and the owner always
has as many parts as are taken from it.
-/

namespace DnsHealth

namespace LabelName

private theorem two_le_size {labels : List (List UInt8)} (hpos : ∀ label ∈ labels, 0 < label.length)
    (hne : labels ≠ []) : 2 ≤ size labels := by
  obtain ⟨label, labels, rfl⟩ := List.exists_cons_of_ne_nil hne
  have hlabel := hpos label List.mem_cons_self
  simp only [size, List.foldr_cons]
  omega

/-- The last labels of a name are labels of a name. -/
theorem Valid.rtake {labels : List (List UInt8)} (h : Valid labels) (count : Nat) :
    Valid (labels.rtake count) :=
  h.of_suffix (List.drop_suffix _ labels)

/-- A star may take the place of the labels before the last ones. -/
theorem Valid.star_rtake {labels : List (List UInt8)} (h : Valid labels) {count : Nat}
    (hcount : count < labels.length ∨ labels = []) :
    Valid ([0x2A] :: labels.rtake count) := by
  have hrest := h.rtake count
  refine ⟨List.forall_mem_cons.mpr ⟨by decide, hrest.pos⟩,
    List.forall_mem_cons.mpr ⟨by decide, hrest.short⟩, ?_⟩
  have hstar : size ([0x2A] :: labels.rtake count) = 2 + size (labels.rtake count) := by
    simp [size]
  rw [hstar]
  rcases hcount with hcount | rfl
  · -- The star is no longer than the labels whose place it takes.
    have hfront : 2 ≤ size (labels.take (labels.length - count)) := by
      refine two_le_size (fun label hlabel => h.pos label (List.mem_of_mem_take hlabel)) ?_
      exact List.ne_nil_of_length_pos (by rw [List.length_take]; omega)
    have hsize := h.size_le
    rw [← List.take_append_drop (labels.length - count) labels, size_append] at hsize
    exact Nat.le_trans (Nat.add_le_add_right hfront _) hsize
  · rw [List.rtake_nil]
    decide

end LabelName

/-- The name of the wildcard before the last parts of a name. -/
def wildcardName (parts : List (List Char)) : List Char :=
  let suffix := ['.'].intercalate parts
  if suffix = [] then ['*', '.'] else ['*', '.'] ++ suffix ++ ['.']

private theorem wildcardName_eq {parts : List (List Char)} (h : ∀ part ∈ parts, part ≠ []) :
    wildcardName parts = ['.'].intercalate (['*'] :: parts) ++ ['.'] := by
  cases parts with
  | nil => rfl
  | cons part parts =>
    rw [wildcardName, if_neg (Name.intercalate_ne_nil (h part List.mem_cons_self) parts),
      List.intercalate_cons_cons]
    rfl

/-- A wildcard takes the place of an owner with more labels than a signature counts. -/
theorem signingOwner_of_lt {owner : List Char} {labels : Nat}
    (h : labels < Name.labelCount owner) :
    signingOwner owner labels =
      wildcardName ((Name.parts (Name.trimPoints owner)).rtake labels) :=
  if_neg (by omega)

/-- The difference of two numbers, unless the second is the greater one. -/
def difference? (m n : Nat) : Option Nat := if n ≤ m then some (m - n) else none

/-- What a list holds from a place on, unless the place is beyond its end. -/
def from? (start : Nat) (parts : List (List Char)) : Option (List (List Char)) :=
  if start ≤ parts.length then some (parts.drop start) else none

/-- The owner as it was signed, computed with a place in its parts that has to be one. -/
def signingOwner? (owner : List Char) (labels : Nat) : Option (List Char) :=
  if Name.labelCount owner ≤ labels then some owner
  else do
    let parts := Name.parts (Name.trimPoints owner)
    let start ← difference? parts.length labels
    let last ← from? start parts
    return wildcardName last

/-- Every text, a name or not, has the parts that are taken from it. -/
theorem signingOwner?_eq_some (owner : List Char) (labels : Nat) :
    signingOwner? owner labels = some (signingOwner owner labels) := by
  by_cases hle : Name.labelCount owner ≤ labels
  · rw [signingOwner?, if_pos hle, signingOwner, if_pos hle]
  · have hlt : labels < Name.labelCount owner := Nat.lt_of_not_le hle
    have hbound : labels ≤ (Name.parts (Name.trimPoints owner)).length :=
      Nat.le_of_lt (Nat.lt_of_lt_of_le hlt (Name.labelCount_le_length_parts owner))
    simp only [signingOwner?, if_neg hle, difference?, if_pos hbound, from?, Nat.sub_le, ite_true,
      Option.bind_eq_bind, Option.bind_some, Option.pure_def]
    rw [signingOwner_of_lt hlt, List.rtake]

/-- The last labels of the wire form of a name are those of the last parts of its text, if the name
has more labels. -/
theorem rtake_wireLabels {owner : List Char} {labels : Nat}
    (h : labels < Name.labelCount owner) :
    (Name.wireLabels owner).rtake labels =
      ((Name.parts (Name.trimPoints owner)).rtake labels).map fun part =>
        Text.Utf8.encode (Name.lower part) := by
  by_cases hnil : Name.trimPoints owner = []
  · have hbound := Name.labelCount_le_length_parts owner
    rw [hnil, Name.length_parts, List.count_nil] at hbound
    have hzero : labels = 0 := by omega
    simp [hzero]
  · rw [Name.wireLabels_of_ne_nil hnil, List.rtake, List.length_map, List.rtake, List.map_drop]

/-- The labels of the wire form of the owner as it was signed. -/
def signedLabels (owner : List Char) (labels : Nat) : List (List UInt8) :=
  if Name.labelCount owner ≤ labels then Name.wireLabels owner
  else [0x2A] :: (Name.wireLabels owner).rtake labels

/-- The owner as it was signed has a wire form if the owner has one, and this is made of the labels
of the owner, with a star before the last ones if there are more than the signature counts. -/
theorem encode_signingOwner {owner : List Char} {wire : List UInt8}
    (howner : Name.encode owner = .ok wire) (labels : Nat) :
    Name.encode (signingOwner owner labels) =
      .ok (LabelName.labelsToWire (signedLabels owner labels)) := by
  obtain ⟨hvalid, rfl⟩ := Name.encode_eq_ok_iff.mp howner
  by_cases hle : Name.labelCount owner ≤ labels
  · rw [signingOwner, if_pos hle, signedLabels, if_pos hle, howner]
  · have hlt : labels < Name.labelCount owner := Nat.lt_of_not_le hle
    have hrtake := rtake_wireLabels hlt
    have hcount : labels < (Name.wireLabels owner).length ∨ Name.wireLabels owner = [] := by
      by_cases hnil : Name.trimPoints owner = []
      · exact .inr (by simp [Name.wireLabels, Name.bare, hnil])
      · rw [Name.wireLabels_of_ne_nil hnil, List.length_map]
        exact .inl (Nat.lt_of_lt_of_le hlt (Name.labelCount_le_length_parts owner))
    have hparts : ∀ part ∈ (Name.parts (Name.trimPoints owner)).rtake labels, part ≠ [] := by
      rintro _ hpart rfl
      have hmem := List.mem_map_of_mem (f := fun part => Text.Utf8.encode (Name.lower part)) hpart
      rw [← hrtake] at hmem
      exact absurd ((hvalid.rtake labels).pos _ hmem) (by decide)
    have hpoint : ∀ part ∈ ['*'] :: (Name.parts (Name.trimPoints owner)).rtake labels,
        '.' ∉ part := by
      refine List.forall_mem_cons.mpr ⟨by decide, fun part hpart => ?_⟩
      exact Name.not_mem_of_mem_parts (List.mem_of_mem_drop hpart)
    rw [signedLabels, if_neg hle,
      Name.encode_eq_labelsToWire_iff (hvalid.star_rtake hcount), signingOwner_of_lt hlt,
      wildcardName_eq hparts,
      Name.wireLabels_intercalate (List.forall_mem_cons.mpr ⟨by decide, hparts⟩) hpoint,
      List.map_cons, hrtake]
    rfl

/-- The last labels of a name, as many as asked for. -/
theorem wireLabels_join_rtake {labels : List (List Char)}
    (hlabels : ∀ label ∈ labels, Name.IsLabel label) (count : Nat) :
    Name.wireLabels (Name.join (labels.rtake count)) =
      (Name.wireLabels (Name.join labels)).rtake count := by
  have hlast : ∀ label ∈ labels.rtake count, Name.IsLabel label := fun label hlabel =>
    hlabels label (List.mem_of_mem_drop hlabel)
  rw [Name.wireLabels_join hlast, Name.wireLabels_join hlabels, List.rtake, List.rtake,
    List.length_map, List.map_drop]

/-- Signed data carries one owner in all its lines, which is the one that was signed. -/
theorem signedData_eq_ok_iff_of_owner {s : Rrsig} {owner : String} {records : List Record}
    {field bytes : List UInt8}
    (hfield : Name.encode (signingOwner owner.toList s.labels.toNat) = .ok field) :
    signedData s owner records = .ok bytes ↔
      ∃ head rdatas, SignedParts s owner records head field rdatas ∧
        bytes = head ++ rdatas.flatMap (signedLine field s) := by
  rw [signedData_eq_ok_iff]
  constructor
  · rintro ⟨head, ownerWire, rdatas, hparts, rfl⟩
    obtain rfl : ownerWire = field := Except.ok.inj (hparts.owner_eq.symm.trans hfield)
    exact ⟨head, rdatas, hparts, rfl⟩
  · rintro ⟨head, rdatas, hparts, rfl⟩
    exact ⟨head, field, rdatas, hparts, rfl⟩

/-- In signed data every line carries the owner, or, if this has more labels than the signature
counts, a star before as many of its last labels. The owner as it was signed has a wire form if the
owner has one, and no part is taken that a text, whatever it is, does not have. -/
theorem signedData_owner_field :
    (∀ (labels : List (List Char)) (wire : List UInt8) (s : Rrsig) (records : List Record),
      (∀ label ∈ labels, Name.IsLabel label) →
      Name.toWire (String.ofList (Name.join labels)) = .ok wire →
      ∃ suffix field,
        Name.toWire (String.ofList (Name.join (labels.rtake s.labels.toNat))) = .ok suffix ∧
        field = (if labels.length ≤ s.labels.toNat then wire else 0x01 :: 0x2A :: suffix) ∧
        Name.encode (signingOwner (Name.join labels) s.labels.toNat) = .ok field ∧
        ∀ bytes, signedData s (String.ofList (Name.join labels)) records = .ok bytes ↔
          ∃ head rdatas,
            SignedParts s (String.ofList (Name.join labels)) records head field rdatas ∧
              bytes = head ++ rdatas.flatMap (signedLine field s)) ∧
    (∀ (owner : List Char) (labels : Nat), (∃ wire, Name.encode owner = .ok wire) →
      ∃ field, Name.encode (signingOwner owner labels) = .ok field) ∧
    ∀ (owner : List Char) (labels : Nat),
      signingOwner? owner labels = some (signingOwner owner labels) := by
  refine ⟨fun labels wire s records hlabels hwire => ?_,
    fun owner labels ⟨wire, hwire⟩ => ⟨_, encode_signingOwner hwire labels⟩, signingOwner?_eq_some⟩
  rw [Name.toWire, String.toList_ofList] at hwire
  obtain ⟨hvalid, rfl⟩ := Name.encode_eq_ok_iff.mp hwire
  have hfield := encode_signingOwner hwire s.labels.toNat
  have hsuffix := wireLabels_join_rtake hlabels s.labels.toNat
  refine ⟨LabelName.labelsToWire ((Name.wireLabels (Name.join labels)).rtake s.labels.toNat), _,
    ?_, ?_, hfield, fun bytes => signedData_eq_ok_iff_of_owner ?_⟩
  · rw [Name.toWire, String.toList_ofList]
    exact (Name.encode_eq_labelsToWire_iff (hvalid.rtake _)).mpr hsuffix
  · rw [signedLabels, Name.labelCount_join hlabels]
    split
    · rfl
    · rw [LabelName.labelsToWire_cons]
      rfl
  · rw [String.toList_ofList]
    exact hfield

/-- A host under the wildcard of its top-level domain. -/
theorem signedData_owner_field_wildcard :
    let labels : List (List Char) := [['w', 'w', 'w'], ['O', 'r', 'g'], ['c', 'o', 'm']]
    let s : Rrsig := ⟨.a, 8, 1, 60, 20, 10, 7, "com.", [1]⟩
    let records : List Record := [⟨"www.Org.com.", 30, .a ⟨192, 0, 2, 1⟩⟩]
    (∀ label ∈ labels, Name.IsLabel label) ∧
    Name.encode (signingOwner (Name.join labels) s.labels.toNat) = .ok [1, 42, 3, 99, 111, 109, 0] ∧
    ∃ (head : List UInt8) (rdatas : List (List UInt8)),
      signedData s (String.ofList (Name.join labels)) records =
        .ok (head ++ rdatas.flatMap (signedLine [1, 42, 3, 99, 111, 109, 0] s)) := by
  intro labels s records
  have hlabels : ∀ label ∈ labels, Name.IsLabel label := by decide
  have hwire : Name.toWire (String.ofList (Name.join labels)) =
      .ok [3, 119, 119, 119, 3, 111, 114, 103, 3, 99, 111, 109, 0] := by decide +kernel
  have hlast : Name.toWire (String.ofList (Name.join (labels.rtake s.labels.toNat))) =
      .ok [3, 99, 111, 109, 0] := by decide +kernel
  obtain ⟨suffix, field, hsuffix, hfield, hencode, hdata⟩ :=
    signedData_owner_field.1 labels _ s records hlabels hwire
  obtain rfl : suffix = [3, 99, 111, 109, 0] := Except.ok.inj (hsuffix.symm.trans hlast)
  rw [if_neg (by decide)] at hfield
  subst hfield
  refine ⟨hlabels, hencode, ?_⟩
  obtain ⟨bytes, hbytes⟩ : ∃ bytes,
      signedData s (String.ofList (Name.join labels)) records = .ok bytes :=
    exists_eq_ok_iff_isOk.mpr (by decide +kernel)
  obtain ⟨head, rdatas, -, rfl⟩ := (hdata bytes).mp hbytes
  exact ⟨head, rdatas, hbytes⟩

end DnsHealth
