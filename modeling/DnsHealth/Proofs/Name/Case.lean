import DnsHealth.Name.Basic
import Mathlib.Data.List.Basic

/-!
# Names up to case

Putting a name in small letters changes neither its points nor its blanks. So it goes through
trimming, splitting and putting names in absolute form, and a name has as many labels in small
letters as it has in any case.
-/

namespace DnsHealth.Name

open Text

/-- The number of a capital letter grows by 32, and no other changes. -/
theorem toNat_toLower (c : Char) :
    c.toLower.toNat = if 65 ≤ c.toNat ∧ c.toNat ≤ 90 then c.toNat + 32 else c.toNat := by
  have hc : c.val.toNat = c.toNat := rfl
  unfold Char.toLower
  split
  · next h =>
    have hle : 65 ≤ c.toNat ∧ c.toNat ≤ 90 := by
      simpa [UInt32.le_iff_toNat_le, hc] using h
    rw [if_pos hle, Char.toNat, UInt32.toNat_add, hc]
    simp
    omega
  · next h =>
    have hle : ¬(65 ≤ c.toNat ∧ c.toNat ≤ 90) := by
      simpa [UInt32.le_iff_toNat_le, hc] using h
    rw [if_neg hle]

private theorem toLower_toLower (c : Char) : c.toLower.toLower = c.toLower := by
  apply Char.toNat_inj.mp
  by_cases h : 65 ≤ c.toNat ∧ c.toNat ≤ 90
  · rw [toNat_toLower, toNat_toLower, if_pos h, if_neg (by omega)]
  · rw [toNat_toLower, toNat_toLower, if_neg h, if_neg h]

/-- What is not a letter is the small form of itself only. -/
theorem toLower_eq_iff {c d : Char}
    (h : d.toNat < 65 ∨ 90 < d.toNat ∧ d.toNat < 97 ∨ 122 < d.toNat) :
    c.toLower = d ↔ c = d := by
  rw [← Char.toNat_inj, ← Char.toNat_inj, toNat_toLower]
  split <;> omega

/-- No letter becomes a point. -/
theorem toLower_eq_point_iff {c : Char} : c.toLower = '.' ↔ c = '.' := toLower_eq_iff (by decide)

/-- Folding a second time changes nothing. -/
@[simp] theorem lower_lower (cs : List Char) : lower (lower cs) = lower cs := by
  rw [lower, lower, List.map_map]
  exact List.map_congr_left fun c _ => toLower_toLower c

@[simp] theorem lower_eq_nil_iff {cs : List Char} : lower cs = [] ↔ cs = [] := List.map_eq_nil_iff

/-- Folding goes through the trimming of points. -/
theorem trimPoints_lower (cs : List Char) : trimPoints (lower cs) = lower (trimPoints cs) := by
  have hpoint : (fun c : Char => c == '.') ∘ Char.toLower = fun c => c == '.' := by
    funext c
    rw [Function.comp_apply, Bool.eq_iff_iff, beq_iff_eq, beq_iff_eq, toLower_eq_point_iff]
  simp only [trimPoints, lower, ← List.map_reverse, List.dropWhile_map, hpoint]

/-- Folding goes through the division into parts. -/
theorem parts_lower (cs : List Char) : parts (lower cs) = (parts cs).map lower := by
  induction cs with
  | nil => rfl
  | cons c cs ih =>
    simp only [parts, List.splitOn, lower, List.map_cons,
      List.splitOnP_cons_eq_if_modifyHead, beq_iff_eq, toLower_eq_point_iff] at ih ⊢
    rw [ih]
    split
    · rfl
    · cases List.splitOnP (fun x => x == '.') cs <;> rfl

private theorem isBlank_toLower (c : Char) : isBlank c.toLower = isBlank c := by
  simp only [isBlank, toNat_toLower]
  split
  · rw [Bool.eq_iff_iff]
    simp only [Bool.or_eq_true, Bool.and_eq_true, decide_eq_true_eq, beq_iff_eq]
    omega
  · rfl

/-- Folding goes through the trimming of blanks. -/
theorem trim_lower (cs : List Char) : trim (lower cs) = lower (trim cs) := by
  have hblank : isBlank ∘ Char.toLower = isBlank := funext isBlank_toLower
  simp only [trim, trimEnd, trimStart, lower, List.dropWhile_map, ← List.map_reverse, hblank]

/-- Folding goes through making a name absolute. -/
theorem absolute_lower (name : List Char) : absolute (lower name) = lower (absolute name) := by
  have hlast : (lower (trim name)).getLast? = some '.' ↔ (trim name).getLast? = some '.' := by
    simp [lower, List.getLast?_map, toLower_eq_point_iff]
  simp only [absolute, trim_lower, lower_eq_nil_iff, hlast]
  split
  · rfl
  · split
    · rfl
    · simp [lower]

@[simp] theorem isRoot_lower (name : List Char) : isRoot (lower name) = isRoot name := by
  have hroot (cs : List Char) : lower cs = root ↔ cs = root := by
    cases cs with
    | nil => simp [lower, root]
    | cons c cs => simp [lower, root, toLower_eq_point_iff]
  rw [isRoot, isRoot, absolute_lower, Bool.eq_iff_iff, beq_iff_eq, beq_iff_eq, hroot]

/-- Folding keeps the number of labels. -/
@[simp] theorem labelCount_lower (name : List Char) :
    labelCount (lower name) = labelCount name := by
  simp only [labelCount, isRoot_lower, absolute_lower, trimPoints_lower, parts_lower,
    List.length_map]

private theorem lower_append (xs ys : List Char) : lower (xs ++ ys) = lower xs ++ lower ys :=
  List.map_append

/-- Folding goes through the joining of labels. -/
theorem lower_intercalate (labels : List (List Char)) :
    lower (['.'].intercalate labels) = ['.'].intercalate (labels.map lower) := by
  induction labels with
  | nil => rfl
  | cons label labels ih =>
    cases labels with
    | nil => simp
    | cons next labels =>
      simp only [List.intercalate_cons_cons, List.map_cons, lower_append] at ih ⊢
      rw [ih]
      rfl

end DnsHealth.Name
