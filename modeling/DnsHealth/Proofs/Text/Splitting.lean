/-!
# Texts cut at a character

The pieces of a text between the places where a character stands hold all of the text but that
character. So lines that each end in a line feed are told apart again exactly if none of them has a
line feed inside, and so many columns with a separator between are told apart if only the last may
have the separator inside.
-/

namespace DnsHealth.Text

/-- The pieces of a text hold all of it but the separators. -/
theorem flatten_splitOn (sep : Char) (cs : List Char) :
    (cs.splitOn sep).flatten = cs.filter (· ≠ sep) := by
  induction cs with
  | nil => rfl
  | cons c cs ih =>
    rw [List.splitOn_cons_eq_if_modifyHead]
    split
    · next h => simpa [beq_iff_eq.mp h] using ih
    · next h =>
      rw [List.filter_cons_of_pos (by simpa using h), ← ih]
      cases hpieces : cs.splitOn sep with
      | nil => exact absurd hpieces (List.splitOn_ne_nil _ cs)
      | cons piece rest => rfl

/-- A text has one piece more than it has separators. -/
theorem length_splitOn (sep : Char) (cs : List Char) :
    (cs.splitOn sep).length = cs.count sep + 1 := by
  induction cs with
  | nil => rfl
  | cons c cs ih =>
    rw [List.splitOn_cons_eq_if_modifyHead, List.count_cons]
    split
    · rw [List.length_cons, ih]
    · rw [List.length_modifyHead, ih, Nat.add_zero]

/-- No separator is in a piece. -/
theorem not_mem_of_mem_splitOn {sep : Char} {cs piece : List Char} (h : piece ∈ cs.splitOn sep) :
    sep ∉ piece := by
  intro hsep
  have hmem := List.mem_flatten_of_mem h hsep
  rw [flatten_splitOn, List.mem_filter] at hmem
  simp at hmem

/-- A separator behind each line stands between the lines and an empty one. -/
theorem flatMap_append_singleton_eq_intercalate (sep : Char) (lines : List (List Char)) :
    lines.flatMap (· ++ [sep]) = [sep].intercalate (lines ++ [[]]) := by
  induction lines with
  | nil => rfl
  | cons line lines ih =>
    obtain ⟨next, rest, hrest⟩ : ∃ next rest, lines ++ [[]] = next :: rest :=
      List.exists_cons_of_ne_nil (by simp)
    rw [List.flatMap_cons, ih, List.cons_append, hrest, List.intercalate_cons_cons]

/-- Lines with a separator behind each are told apart again exactly if none of them has one
itself. -/
theorem splitOn_flatMap_iff {sep : Char} {lines : List (List Char)} :
    (lines.flatMap (· ++ [sep])).splitOn sep = lines ++ [[]] ↔ ∀ line ∈ lines, sep ∉ line := by
  rw [flatMap_append_singleton_eq_intercalate]
  constructor
  · intro h line hline
    have hmem : line ∈ ([sep].intercalate (lines ++ [[]])).splitOn sep := by
      rw [h]
      exact List.mem_append_left _ hline
    exact not_mem_of_mem_splitOn hmem
  · intro h
    refine List.splitOn_intercalate sep (fun line hline => ?_) (by simp)
    rcases List.mem_append.mp hline with hline | hlast
    · exact h line hline
    · obtain rfl := List.mem_singleton.mp hlast
      exact List.not_mem_nil

/-- What holds of the characters of all pieces and of the separator holds of the joined text. -/
theorem forall_mem_intercalate {P : Char → Prop} {sep : List Char} {pieces : List (List Char)}
    (hsep : ∀ c ∈ sep, P c) (h : ∀ piece ∈ pieces, ∀ c ∈ piece, P c) :
    ∀ c ∈ sep.intercalate pieces, P c := by
  induction pieces with
  | nil => exact List.forall_mem_nil _
  | cons piece pieces ih =>
    obtain ⟨hpiece, hpieces⟩ := List.forall_mem_cons.mp h
    cases pieces with
    | nil => simpa using hpiece
    | cons next pieces =>
      rw [List.intercalate_cons_cons, List.forall_mem_append, List.forall_mem_append]
      exact ⟨⟨hpiece, hsep⟩, ih hpieces⟩

/-- A first column is told from what follows its separator. -/
theorem column_inj {sep : Char} {x y rest tail : List Char} (hx : sep ∉ x) (hy : sep ∉ y)
    (h : x ++ sep :: rest = y ++ sep :: tail) : x = y ∧ rest = tail := by
  induction x generalizing y with
  | nil =>
    cases y with
    | nil => exact ⟨rfl, (List.cons.inj h).2⟩
    | cons d y => exact absurd ((List.cons.inj h).1 ▸ List.mem_cons_self) hy
  | cons c x ih =>
    rw [List.mem_cons, not_or] at hx
    cases y with
    | nil => exact absurd (List.cons.inj h).1.symm hx.1
    | cons d y =>
      rw [List.mem_cons, not_or] at hy
      obtain ⟨rfl, hmore⟩ := List.cons.inj h
      obtain ⟨rfl, hsame⟩ := ih hx.2 hy.2 hmore
      exact ⟨rfl, hsame⟩

/-- So many columns are told apart, whatever the last of them has inside. -/
theorem intercalate_inj {sep : Char} {xs ys : List (List Char)} (hlength : xs.length = ys.length)
    (hxs : ∀ x ∈ xs.dropLast, sep ∉ x) (hys : ∀ y ∈ ys.dropLast, sep ∉ y)
    (h : [sep].intercalate xs = [sep].intercalate ys) : xs = ys := by
  induction xs generalizing ys with
  | nil => exact (List.length_eq_zero_iff.mp hlength.symm).symm
  | cons x xs ih =>
    cases ys with
    | nil => cases hlength
    | cons y ys =>
      have hrest : xs.length = ys.length := Nat.succ.inj hlength
      cases xs with
      | nil =>
        obtain rfl := List.length_eq_zero_iff.mp hrest.symm
        simpa using h
      | cons next xs =>
        cases ys with
        | nil => cases hrest
        | cons other ys =>
          rw [List.dropLast_cons_cons, List.forall_mem_cons] at hxs hys
          rw [List.intercalate_cons_cons, List.intercalate_cons_cons, List.append_assoc,
            List.append_assoc, List.singleton_append, List.singleton_append] at h
          obtain ⟨rfl, hmore⟩ := column_inj hxs.1 hys.1 h
          rw [ih hrest hxs.2 hys.2 hmore]

/-- The same for strings with a separator of one character. -/
theorem columns_inj {sep : String} {c : Char} (hsep : sep.toList = [c]) {xs ys : List String}
    (hlength : xs.length = ys.length) (hxs : ∀ x ∈ xs.dropLast, c ∉ x.toList)
    (hys : ∀ y ∈ ys.dropLast, c ∉ y.toList) (h : sep.intercalate xs = sep.intercalate ys) :
    xs = ys := by
  have hchars := congrArg String.toList h
  rw [String.toList_intercalate, String.toList_intercalate, hsep] at hchars
  have hmap : xs.map String.toList = ys.map String.toList := by
    apply intercalate_inj (by simpa using hlength) ?_ ?_ hchars
    · rw [← List.map_dropLast, List.forall_mem_map]
      exact hxs
    · rw [← List.map_dropLast, List.forall_mem_map]
      exact hys
  exact (List.map_inj_right fun s t => String.toList_inj.mp).mp hmap

end DnsHealth.Text
