/-!
# Sorted lists without repetitions

Equal neighbours of a list fused into one. In a sorted list this leaves exactly one of each element,
so that the result depends only on which elements occur.
-/

namespace DnsHealth

/-- A list with each element left out that equals the one after it. -/
def fuse [DecidableEq α] : List α → List α
  | [] => []
  | [x] => [x]
  | x :: y :: rest => if x = y then fuse (y :: rest) else x :: fuse (y :: rest)

/-- The elements of a list in increasing order, each once. -/
def sortedSet [DecidableEq α] (le : α → α → Bool) (xs : List α) : List α := fuse (xs.mergeSort le)

/-- Fusing loses no element and adds none. -/
@[simp] theorem mem_fuse [DecidableEq α] {x : α} {xs : List α} : x ∈ fuse xs ↔ x ∈ xs := by
  fun_induction fuse xs with
  | case1 => rfl
  | case2 => rfl
  | case3 y rest ih => simp [ih]
  | case4 y z rest h ih => simp [ih]

/-- The sorted set of a list has the elements of the list. -/
@[simp] theorem mem_sortedSet [DecidableEq α] {le : α → α → Bool} {x : α} {xs : List α} :
    x ∈ sortedSet le xs ↔ x ∈ xs := by
  simp [sortedSet]

end DnsHealth
