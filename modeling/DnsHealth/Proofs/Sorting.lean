import DnsHealth.Sorting
import Mathlib.Data.List.Sort

/-!
# What a sorted set depends on

Fusing a sorted list leaves it in strictly increasing order, and a strictly increasing list is
determined by its members. So the sorted set of a list depends only on which elements occur in it,
neither on their order nor on how often each of them occurs.
-/

namespace DnsHealth

variable {α : Type} [DecidableEq α] [LT α] [LE α] [Std.IsLinearOrder α] [Std.LawfulOrderLT α]

/-- A sorted list increases strictly once equal neighbours are fused. -/
theorem pairwise_lt_fuse {xs : List α} (h : xs.Pairwise (· ≤ ·)) : (fuse xs).Pairwise (· < ·) := by
  fun_induction fuse xs with
  | case1 => exact List.Pairwise.nil
  | case2 x => exact List.pairwise_singleton _ x
  | case3 y rest ih => exact ih h.of_cons
  | case4 x y rest hne ih =>
    obtain ⟨hx, hrest⟩ := List.pairwise_cons.mp h
    have hxy : x < y := Std.lt_of_le_of_ne (hx y List.mem_cons_self) hne
    refine List.pairwise_cons.mpr ⟨fun z hz => ?_, ih hrest⟩
    rcases List.mem_cons.mp (mem_fuse.mp hz) with rfl | hz
    · exact hxy
    · exact Std.lt_of_lt_of_le hxy ((List.pairwise_cons.mp hrest).1 z hz)

variable [DecidableLE α]

/-- A sorted set increases strictly. -/
theorem pairwise_lt_sortedSet (xs : List α) :
    (sortedSet (fun x y => decide (x ≤ y)) xs).Pairwise (· < ·) := by
  have htrans (x y z : α) : decide (x ≤ y) = true → decide (y ≤ z) = true →
      decide (x ≤ z) = true := by
    simpa only [decide_eq_true_eq] using Std.le_trans
  have htotal (x y : α) : (decide (x ≤ y) || decide (y ≤ x)) = true := by
    simpa only [Bool.or_eq_true, decide_eq_true_eq] using Std.le_total
  have hsorted := List.pairwise_mergeSort htrans htotal xs
  simp only [decide_eq_true_eq] at hsorted
  exact pairwise_lt_fuse hsorted

/-- Two lists with the same members have the same sorted set. -/
theorem sortedSet_congr {xs ys : List α} (h : ∀ x, x ∈ xs ↔ x ∈ ys) :
    sortedSet (fun x y => decide (x ≤ y)) xs = sortedSet (fun x y => decide (x ≤ y)) ys :=
  (pairwise_lt_sortedSet xs).eq_of_mem_iff (pairwise_lt_sortedSet ys) (by simpa using h)

end DnsHealth
