import DnsHealth.Proofs.Name.Ancestors
import DnsHealth.Proofs.Name.Presentation
import Mathlib.Data.List.DropRight

/-!
# How many labels a name has

The labels of a name are counted after blanks are trimmed, while its text may be cut at its points
as it stands. The cut never gives fewer parts than labels are counted. Both give the labels of a
name that is put together from labels without points and blanks.
-/

namespace DnsHealth.Name

open Text

/-- A label that may stand in a name as it is: not empty, without points and without blanks. -/
structure IsLabel (label : List Char) : Prop where
  /-- The label is not empty. -/
  ne_nil : label ≠ []
  /-- No point is in it. -/
  no_point : '.' ∉ label
  /-- No blank is in it. -/
  no_blank : ∀ c ∈ label, isBlank c = false

private theorem isLabel_iff {label : List Char} :
    IsLabel label ↔ label ≠ [] ∧ '.' ∉ label ∧ ∀ c ∈ label, isBlank c = false :=
  ⟨fun h => ⟨h.ne_nil, h.no_point, h.no_blank⟩, fun h => ⟨h.1, h.2.1, h.2.2⟩⟩

instance (label : List Char) : Decidable (IsLabel label) :=
  decidable_of_iff (label ≠ [] ∧ '.' ∉ label ∧ label.all fun c => !isBlank c)
    (by simp [isLabel_iff])

/-- A text has one part more than it has points. -/
theorem length_parts (cs : List Char) : (parts cs).length = cs.count '.' + 1 :=
  length_splitOn '.' cs

/-- No point is in a part. -/
theorem not_mem_of_mem_parts {cs part : List Char} (h : part ∈ parts cs) : '.' ∉ part :=
  not_mem_of_mem_splitOn h

/-- A point at the end is trimmed. -/
theorem trimPoints_append_point (cs : List Char) : trimPoints (cs ++ ['.']) = trimPoints cs :=
  List.rdropWhile_concat_pos _ _ _ rfl

/-- Nothing is trimmed behind another character. -/
theorem trimPoints_append_of_ne (cs : List Char) {c : Char} (hc : c ≠ '.') :
    trimPoints (cs ++ [c]) = cs ++ [c] :=
  List.rdropWhile_concat_neg _ _ _ (by simpa using hc)

/-- What ends in another character stays when points at the end go. -/
theorem prefix_trimPoints {front cs : List Char} {c : Char} (hc : c ≠ '.')
    (h : front ++ [c] <+: cs) : front ++ [c] <+: trimPoints cs := by
  obtain ⟨rest, rfl⟩ := h
  induction rest using List.reverseRecOn with
  | nil =>
    simp [trimPoints_append_of_ne front hc]
  | append_singleton rest last ih =>
    rw [← List.append_assoc]
    by_cases hlast : last = '.'
    · rwa [hlast, trimPoints_append_point]
    · rw [trimPoints_append_of_ne _ hlast, List.append_assoc]
      exact List.prefix_append ..

private theorem trimPoints_absolute (name : List Char) :
    trimPoints (absolute name) = trimPoints (trim name) := by
  unfold absolute root
  simp only
  split
  · next h =>
    rw [h]
    decide
  · split
    · rfl
    · exact trimPoints_append_point _

/-- A text without points at its end is empty or ends in another character. -/
theorem trimPoints_eq_nil_or (cs : List Char) :
    trimPoints cs = [] ∨ ∃ front c, trimPoints cs = front ++ [c] ∧ c ≠ '.' := by
  induction cs using List.reverseRecOn with
  | nil => exact .inl rfl
  | append_singleton cs last ih =>
    by_cases hlast : last = '.'
    · rwa [hlast, trimPoints_append_point]
    · exact .inr ⟨cs, last, trimPoints_append_of_ne cs hlast, hlast⟩

/-- Trimming blanks leaves no points that trimming points alone would cut away. -/
theorem trimPoints_trim_sublist (name : List Char) :
    (trimPoints (trim name)).Sublist (trimPoints name) := by
  rcases trimPoints_eq_nil_or (trim name) with hnil | ⟨cs, c, hconcat, hc⟩
  · rw [hnil]
    exact List.nil_sublist _
  · obtain ⟨front, hfront⟩ : trimStart name <:+ name := List.dropWhile_suffix _
    have hback : trim name <+: trimStart name := List.rdropWhile_prefix _ _
    have hpoints : trimPoints (trim name) <+: trim name := List.rdropWhile_prefix _ _
    have hprefix : front ++ cs ++ [c] <+: name := by
      rw [← hfront, List.append_assoc, ← hconcat]
      exact (List.prefix_append_right_inj front).mpr (hpoints.trans hback)
    have hkept := (prefix_trimPoints hc hprefix).sublist
    rw [List.append_assoc, ← hconcat] at hkept
    exact (List.sublist_append_right front _).trans hkept

/-- A name is not counted to have more labels than its text has parts. -/
theorem labelCount_le_length_parts (name : List Char) :
    labelCount name ≤ (parts (trimPoints name)).length := by
  unfold labelCount
  split
  · exact Nat.zero_le _
  · rw [trimPoints_absolute, length_parts, length_parts]
    exact Nat.succ_le_succ ((trimPoints_trim_sublist name).count_le _)

section Join

variable {labels : List (List Char)} (hlabels : ∀ label ∈ labels, IsLabel label)

include hlabels

/-- A name of labels is the root, or begins with a character that is neither blank nor a point. -/
theorem join_eq_root_or : labels = [] ∨
    ∃ c rest, join labels = c :: rest ∧ c ≠ '.' ∧ isBlank c = false := by
  cases labels with
  | nil => exact .inl rfl
  | cons label labels =>
    have hlabel := hlabels label List.mem_cons_self
    cases label with
    | nil => exact absurd rfl hlabel.ne_nil
    | cons c cs =>
      refine .inr ⟨c, cs ++ '.' :: labels.flatMap (· ++ ['.']), by simp [join], ?_,
        hlabel.no_blank c List.mem_cons_self⟩
      rintro rfl
      exact hlabel.no_point List.mem_cons_self

/-- A name of labels is in absolute form. -/
theorem absolute_join : absolute (join labels) = join labels := by
  rcases join_eq_root_or hlabels with rfl | ⟨c, rest, hjoin, -, hc⟩
  · decide
  · have hlast : (c :: rest).getLast? = some '.' := by rw [← hjoin, join_eq]; simp
    rw [hjoin, absolute, trim_eq_self hc hlast (by decide)]
    simp [hlast]

/-- A name has as many labels as it is put together from. -/
theorem labelCount_join : labelCount (join labels) = labels.length := by
  rcases join_eq_root_or hlabels with rfl | ⟨c, rest, hjoin, hc, -⟩
  · decide
  · have hroot : isRoot (join labels) = false := by
      rw [isRoot, absolute_join hlabels, hjoin, root]
      simp [hc]
    have hne : labels ≠ [] := by
      rintro rfl
      exact absurd hroot (by decide)
    have hpoint : ∀ label ∈ labels, '.' ∉ label := fun label hlabel =>
      (hlabels label hlabel).no_point
    rw [labelCount, hroot, absolute_join hlabels, join_eq,
      trimPoints_intercalate (fun label hlabel => (hlabels label hlabel).ne_nil) hpoint, parts,
      List.splitOn_intercalate '.' hpoint hne]
    rfl

/-- On the wire, a name has the labels that it is put together from, in small letters. -/
theorem wireLabels_join :
    wireLabels (join labels) = labels.map fun label => Utf8.encode (lower label) := by
  rw [join_eq, wireLabels_intercalate (fun label hlabel => (hlabels label hlabel).ne_nil)
    fun label hlabel => (hlabels label hlabel).no_point]

end Join

end DnsHealth.Name
