/-!
# Rounding to the nearest

The quotient of two whole numbers rounded to the nearest whole number, a quotient half-way between
two going to the even one. The result is never off by more than one half.
-/

namespace DnsHealth.Number

/-- A quotient rounded to the nearest whole number, halves to the even neighbour. -/
def roundDiv (num den : Nat) : Nat :=
  let quotient := num / den
  let rest := num % den
  if 2 * rest < den then quotient
  else if den < 2 * rest then quotient + 1
  else quotient + quotient % 2

/-- A rounded quotient is at most one half above the exact one. -/
theorem two_mul_roundDiv_mul_le (num : Nat) {den : Nat} (h : 0 < den) :
    2 * (roundDiv num den * den) ≤ 2 * num + den := by
  have hsplit := Nat.div_add_mod num den
  have hrest := Nat.mod_lt num h
  have hmul : num / den * den = den * (num / den) := Nat.mul_comm _ _
  unfold roundDiv
  simp only
  split
  · omega
  · split
    · rw [Nat.add_mul]
      omega
    · rcases Nat.mod_two_eq_zero_or_one (num / den) with hparity | hparity <;>
        rw [hparity, Nat.add_mul] <;> omega

/-- A rounded quotient is at most one half below the exact one. -/
theorem two_mul_le_roundDiv_mul (num : Nat) {den : Nat} (h : 0 < den) :
    2 * num ≤ 2 * (roundDiv num den * den) + den := by
  have hsplit := Nat.div_add_mod num den
  have hrest := Nat.mod_lt num h
  have hmul : num / den * den = den * (num / den) := Nat.mul_comm _ _
  unfold roundDiv
  simp only
  split
  · omega
  · split
    · rw [Nat.add_mul]
      omega
    · rcases Nat.mod_two_eq_zero_or_one (num / den) with hparity | hparity <;>
        rw [hparity, Nat.add_mul] <;> omega

end DnsHealth.Number
