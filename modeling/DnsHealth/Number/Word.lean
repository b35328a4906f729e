import Mathlib.Algebra.Group.Int.Defs

/-!
# Signed words

Arithmetic in signed words of sixty-four bits that does not wrap around: an operation gives the word
of the exact result, and nothing if the result does not fit or there is none.
-/

namespace DnsHealth.Word

/-- A number as a signed word, unless it does not fit. -/
def ofInt? (n : Int) : Option Int64 :=
  if -2 ^ 63 ≤ n ∧ n < 2 ^ 63 then some (Int64.ofInt n) else none

/-- The sum of two words. -/
def add? (x y : Int64) : Option Int64 := ofInt? (x.toInt + y.toInt)

/-- The difference of two words. -/
def sub? (x y : Int64) : Option Int64 := ofInt? (x.toInt - y.toInt)

/-- The product of two words. -/
def mul? (x y : Int64) : Option Int64 := ofInt? (x.toInt * y.toInt)

/-- The quotient of two words for which the remainder is not negative. -/
def div? (x y : Int64) : Option Int64 :=
  if y = 0 then none else ofInt? (x.toInt / y.toInt)

/-- A number fits into exactly one word, or into none. -/
theorem ofInt?_eq_some_iff {n : Int} {w : Int64} : ofInt? n = some w ↔ w.toInt = n := by
  unfold ofInt?
  constructor
  · intro h
    split at h
    · next hrange =>
      cases h
      exact Int64.toInt_ofInt_of_le hrange.1 hrange.2
    · cases h
  · rintro rfl
    rw [if_pos ⟨w.le_toInt, w.toInt_lt⟩, Int64.ofInt_toInt]

/-- A number within the range of words fits. -/
theorem exists_ofInt?_eq_some {n : Int} (hlow : -2 ^ 63 ≤ n) (hhigh : n < 2 ^ 63) :
    ∃ w, ofInt? n = some w ∧ w.toInt = n := by
  have hword := Int64.toInt_ofInt_of_le hlow hhigh
  exact ⟨.ofInt n, ofInt?_eq_some_iff.mpr hword, hword⟩

section Operations

variable {x y : Int64}

theorem exists_add?_eq_some (hlow : -2 ^ 63 ≤ x.toInt + y.toInt)
    (hhigh : x.toInt + y.toInt < 2 ^ 63) :
    ∃ w, add? x y = some w ∧ w.toInt = x.toInt + y.toInt :=
  exists_ofInt?_eq_some hlow hhigh

theorem exists_sub?_eq_some (hlow : -2 ^ 63 ≤ x.toInt - y.toInt)
    (hhigh : x.toInt - y.toInt < 2 ^ 63) :
    ∃ w, sub? x y = some w ∧ w.toInt = x.toInt - y.toInt :=
  exists_ofInt?_eq_some hlow hhigh

theorem exists_mul?_eq_some (hlow : -2 ^ 63 ≤ x.toInt * y.toInt)
    (hhigh : x.toInt * y.toInt < 2 ^ 63) :
    ∃ w, mul? x y = some w ∧ w.toInt = x.toInt * y.toInt :=
  exists_ofInt?_eq_some hlow hhigh

theorem exists_div?_eq_some (hlow : -2 ^ 63 ≤ x.toInt / y.toInt)
    (hhigh : x.toInt / y.toInt < 2 ^ 63) (hne : y ≠ 0) :
    ∃ w, div? x y = some w ∧ w.toInt = x.toInt / y.toInt := by
  rw [div?, if_neg hne]
  exact exists_ofInt?_eq_some hlow hhigh

end Operations

end DnsHealth.Word
