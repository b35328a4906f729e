import Mathlib.Data.List.Induction
import Mathlib.Data.List.Nodup
import Mathlib.Data.List.Perm.Basic

/-!
# Lists without their repetitions

What is left of a list without its later repetitions is told by three facts: nothing stands there
twice, its members are those of the list, and they come in the order in which the list has them
first. Putting in one member after the other, unless it is there, leaves the same. So it makes no
difference if parts of a list lose their repetitions before they are put together.
-/

namespace DnsHealth

variable {α : Type} [BEq α] [LawfulBEq α]

/-- The members of a list at their first places. -/
structure FirstPlaces (xs ys : List α) : Prop where
  /-- No member stands twice. -/
  nodup : ys.Nodup
  /-- All members are there, and no others. -/
  mem_iff : ∀ x, x ∈ ys ↔ x ∈ xs
  /-- They come in the order in which they are first met. -/
  ordered : ys.Pairwise fun x y => xs.idxOf x < xs.idxOf y

/-- One more member is left at the end, unless it has been met. -/
theorem eraseDups_append_singleton (xs : List α) (x : α) :
    (xs ++ [x]).eraseDups = if x ∈ xs then xs.eraseDups else xs.eraseDups ++ [x] := by
  rw [List.eraseDups_append]
  split
  · next hmem => simp [List.removeAll, hmem]
  · next hnew => simp [List.removeAll, hnew, List.eraseDups_cons]

/-- Leaving out repetitions keeps every member at its first place. -/
theorem firstPlaces_eraseDups (xs : List α) : FirstPlaces xs xs.eraseDups := by
  induction xs using List.reverseRecOn with
  | nil => exact ⟨List.nodup_nil, by simp, List.Pairwise.nil⟩
  | append_singleton xs x ih =>
    -- The places of members that have been met before stay as they are.
    have hbefore : xs.eraseDups.Pairwise fun y z => (xs ++ [x]).idxOf y < (xs ++ [x]).idxOf z := by
      refine ih.ordered.imp_of_mem fun hy hz hlt => ?_
      rw [List.mem_eraseDups] at hy hz
      rwa [List.idxOf_append_of_mem hy, List.idxOf_append_of_mem hz]
    refine ⟨?_, fun y => List.mem_eraseDups, ?_⟩ <;> rw [eraseDups_append_singleton] <;> split
    · exact ih.nodup
    · next hnew =>
      rw [← List.mem_eraseDups] at hnew
      exact List.nodup_append_comm.mp (List.nodup_cons.mpr ⟨hnew, ih.nodup⟩)
    · exact hbefore
    · next hnew =>
      refine List.pairwise_append.mpr ⟨hbefore, List.pairwise_singleton .., ?_⟩
      intro y hy z hz
      rw [List.mem_eraseDups] at hy
      rw [List.mem_singleton.mp hz, List.idxOf_append_of_mem hy, List.idxOf_append_of_notMem hnew]
      exact Nat.lt_add_right _ (List.idxOf_lt_length_of_mem hy)

/-- A list without its repetitions has none. -/
theorem nodup_eraseDups (xs : List α) : xs.eraseDups.Nodup := (firstPlaces_eraseDups xs).nodup

/-- There is one way to leave out the later repetitions. -/
theorem firstPlaces_iff {xs ys : List α} : FirstPlaces xs ys ↔ ys = xs.eraseDups := by
  constructor
  · intro h
    have herased := firstPlaces_eraseDups xs
    have hperm : ys.Perm xs.eraseDups :=
      (List.perm_ext_iff_of_nodup h.nodup herased.nodup).mpr fun x =>
        (h.mem_iff x).trans (herased.mem_iff x).symm
    exact hperm.eq_of_pairwise (fun _ _ _ _ hlt hgt => absurd hlt (Nat.lt_asymm hgt)) h.ordered
      herased.ordered
  · rintro rfl
    exact firstPlaces_eraseDups xs

/-- Puts a member in at the end, unless it is there. -/
def addNew (kept : List α) (x : α) : List α := if x ∈ kept then kept else kept ++ [x]

private theorem mem_addNew {kept : List α} {x y : α} : y ∈ addNew kept x ↔ y ∈ kept ∨ y = x := by
  unfold addNew
  split
  · next hmem =>
    refine ⟨.inl, ?_⟩
    rintro (hy | rfl)
    · exact hy
    · exact hmem
  · rw [List.mem_append, List.mem_singleton]

private theorem mem_foldl_addNew {kept xs : List α} {y : α} :
    y ∈ xs.foldl addNew kept ↔ y ∈ kept ∨ y ∈ xs := by
  induction xs generalizing kept with
  | nil => simp
  | cons x xs ih => rw [List.foldl_cons, ih, mem_addNew, List.mem_cons, or_assoc]

/-- Putting in the members of a list one after the other leaves them at their first places. -/
theorem foldl_addNew_nil (xs : List α) : xs.foldl addNew [] = xs.eraseDups := by
  induction xs using List.reverseRecOn with
  | nil => rfl
  | append_singleton xs x ih =>
    rw [List.foldl_append, List.foldl_cons, List.foldl_nil, ih, eraseDups_append_singleton]
    simp only [addNew, List.mem_eraseDups]

/-- It makes no difference if repetitions are left out before the members are put in. -/
theorem foldl_addNew_eraseDups (kept xs : List α) :
    xs.eraseDups.foldl addNew kept = xs.foldl addNew kept := by
  induction xs using List.reverseRecOn with
  | nil => rfl
  | append_singleton xs x ih =>
    rw [eraseDups_append_singleton, List.foldl_append, List.foldl_cons, List.foldl_nil, ← ih]
    split
    · next hmem =>
      have hthere : x ∈ xs.eraseDups.foldl addNew kept :=
        mem_foldl_addNew.mpr (.inr (List.mem_eraseDups.mpr hmem))
      rw [addNew, if_pos hthere]
    · rw [List.foldl_append, List.foldl_cons, List.foldl_nil]

/-- Two rounds, one in each part and one over the parts, come to one round over everything. -/
theorem eraseDups_flatMap_eraseDups {β : Type} (parts : List β) (f : β → List α) :
    (parts.flatMap fun part => (f part).eraseDups).eraseDups = (parts.flatMap f).eraseDups := by
  rw [← foldl_addNew_nil, ← foldl_addNew_nil, List.foldl_flatMap, List.foldl_flatMap]
  simp only [foldl_addNew_eraseDups]

end DnsHealth
