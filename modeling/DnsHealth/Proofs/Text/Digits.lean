import DnsHealth.Address.Text
import Mathlib.Algebra.Group.Nat.Defs

/-!
# Digits read back

The digits of a number, as they are printed, give the number again when they are read, and what
follows them is left, as long as it does not begin with a digit itself. A number other than zero has
no zero in front.
-/

namespace DnsHealth

open Text

/-- The digits of a number stand for numbers below the base. -/
theorem exists_digitChar_of_mem_toDigits {base n : Nat} (hbase : 1 < base) {c : Char}
    (h : c ∈ Nat.toDigits base n) : ∃ d < base, c = d.digitChar := by
  -- The last digit stands behind the digits of a smaller number.
  induction n using Nat.strongRecOn with
  | ind n ih =>
    by_cases hn : n < base
    · rw [Nat.toDigits_of_lt_base hn, List.mem_singleton] at h
      exact ⟨n, hn, h⟩
    · rw [Nat.toDigits_of_base_le hbase (by omega), List.mem_append, List.mem_singleton] at h
      rcases h with h | h
      · exact ih (n / base) (Nat.div_lt_self (by omega) hbase) h
      · exact ⟨n % base, Nat.mod_lt n (by omega), h⟩

/-- No number but zero has a zero in front. -/
theorem eq_zero_of_head?_toDigits {base n : Nat} (hbase : 1 < base)
    (h : (Nat.toDigits base n).head? = some '0') : n = 0 := by
  induction n using Nat.strongRecOn with
  | ind n ih =>
    by_cases hn : n < base
    · rw [Nat.toDigits_of_lt_base hn, List.head?_cons, Option.some.injEq] at h
      exact Nat.digitChar_eq_zero.mp h
    · have hpos : 0 < n / base := Nat.div_pos (by omega) (by omega)
      rw [Nat.toDigits_of_base_le hbase (by omega), List.head?_append,
        List.head?_eq_some_head Nat.toDigits_ne_nil, Option.some_or,
        ← List.head?_eq_some_head] at h
      have hzero := ih (n / base) (Nat.div_lt_self (by omega) hbase) h
      omega

/-- Every decimal digit reads back. -/
theorem Text.Decimal.digit?_digitChar : ∀ d < 10, Decimal.digit? d.digitChar = some d := by decide

/-- Every hexadecimal digit reads back. -/
theorem Text.Hex.digit?_digitChar : ∀ d < 16, Hex.digit? d.digitChar = some d := by decide

section Reading

variable {digit? : Char → Option Nat} {base : Nat}

/-- What stands behind digits does not begin with one more. -/
def NoDigit (digit? : Char → Option Nat) (rest : List Char) : Prop :=
  ∀ c ∈ rest.head?, digit? c = none

/-- Reading stops before what is no digit. -/
theorem readDigits_of_noDigit {limit acc : Nat} {rest : List Char} (h : NoDigit digit? rest) :
    readDigits digit? base limit acc rest = some (acc, rest) := by
  cases rest with
  | nil => rw [readDigits]
  | cons c rest => rw [readDigits, h c rfl]

/-- One digit more, if there may be one. -/
theorem readDigits_cons {limit acc d : Nat} {c : Char} {rest : List Char} (h : digit? c = some d) :
    readDigits digit? base (limit + 1) acc (c :: rest) =
      readDigits digit? base limit (acc * base + d) rest := by
  rw [readDigits, h]

/-- Reading takes all digits that stand in front. -/
theorem eq_dropWhile_of_readDigits {limit acc value : Nat} {cs rest : List Char}
    (h : readDigits digit? base limit acc cs = some (value, rest)) :
    rest = cs.dropWhile fun c => (digit? c).isSome := by
  induction cs generalizing limit acc with
  | nil =>
    rw [readDigits, Option.some.injEq, Prod.mk.injEq] at h
    exact h.2.symm
  | cons c cs ih =>
    cases hc : digit? c with
    | none =>
      rw [readDigits, hc] at h
      rw [List.dropWhile_cons_of_neg (by simp [hc])]
      exact (Prod.mk.inj (Option.some.inj h)).2.symm
    | some d =>
      rw [List.dropWhile_cons_of_pos (by simp [hc])]
      cases limit with
      | zero =>
        rw [readDigits, hc] at h
        cases h
      | succ limit => exact ih (readDigits_cons hc ▸ h)

/-- The digits of a number add the number to what has been read before. -/
theorem readDigits_toDigits_append (hbase : 1 < base)
    (hdigit : ∀ d < base, digit? d.digitChar = some d) {n limit acc : Nat} {rest : List Char}
    (hlimit : (Nat.toDigits base n).length ≤ limit) :
    readDigits digit? base limit acc (Nat.toDigits base n ++ rest) =
      readDigits digit? base (limit - (Nat.toDigits base n).length)
        (acc * base ^ (Nat.toDigits base n).length + n) rest := by
  induction n using Nat.strongRecOn generalizing limit rest with
  | ind n ih =>
    by_cases hn : n < base
    · rw [Nat.toDigits_of_lt_base hn] at hlimit ⊢
      obtain ⟨limit, rfl⟩ := Nat.exists_eq_succ_of_ne_zero (Nat.ne_of_gt hlimit)
      rw [List.singleton_append, readDigits_cons (hdigit n hn), List.length_singleton, Nat.pow_one]
      rfl
    · have hlt : n / base < n := Nat.div_lt_self (by omega) hbase
      have hlast := hdigit (n % base) (Nat.mod_lt n (by omega))
      rw [Nat.toDigits_of_base_le hbase (by omega), List.length_append,
        List.length_singleton] at hlimit ⊢
      rw [List.append_assoc, ih _ hlt (by omega), List.singleton_append]
      obtain ⟨more, hmore⟩ : ∃ more, limit - (Nat.toDigits base (n / base)).length = more + 1 :=
        ⟨limit - (Nat.toDigits base (n / base)).length - 1, by omega⟩
      have hvalue (m : Nat) : (acc * base ^ m + n / base) * base + n % base =
          acc * base ^ (m + 1) + n := by
        rw [Nat.pow_succ, Nat.add_mul, Nat.add_assoc, Nat.div_add_mod', Nat.mul_assoc]
      rw [hmore, readDigits_cons hlast, hvalue,
        show limit - ((Nat.toDigits base (n / base)).length + 1) = more by omega]

/-- A number reads back from its digits, and what follows them is left. -/
theorem readDigits_toDigits (hbase : 1 < base) (hdigit : ∀ d < base, digit? d.digitChar = some d)
    {n limit : Nat} {rest : List Char} (hlimit : (Nat.toDigits base n).length ≤ limit)
    (hrest : NoDigit digit? rest) :
    readDigits digit? base limit 0 (Nat.toDigits base n ++ rest) = some (n, rest) := by
  rw [readDigits_toDigits_append hbase hdigit hlimit, readDigits_of_noDigit hrest, Nat.zero_mul,
    Nat.zero_add]

/-- The first digit of a number, apart from the others. -/
theorem exists_toDigits_append_eq (hbase : 1 < base)
    (hdigit : ∀ d < base, digit? d.digitChar = some d) {n limit : Nat} {rest : List Char}
    (hlimit : (Nat.toDigits base n).length ≤ limit + 1) (hrest : NoDigit digit? rest) :
    ∃ d digits, Nat.toDigits base n ++ rest = d.digitChar :: (digits ++ rest) ∧
      Nat.toDigits base n = d.digitChar :: digits ∧ digit? d.digitChar = some d ∧
      readDigits digit? base limit d (digits ++ rest) = some (n, rest) := by
  obtain ⟨c, digits, hdigits⟩ := List.exists_cons_of_ne_nil
    (Nat.toDigits_ne_nil (n := n) (b := base))
  obtain ⟨d, hd, rfl⟩ := exists_digitChar_of_mem_toDigits hbase (hdigits ▸ List.mem_cons_self ..)
  have hread := readDigits_toDigits hbase hdigit hlimit hrest
  rw [hdigits, List.cons_append, readDigits_cons (hdigit d hd), Nat.zero_mul, Nat.zero_add] at hread
  exact ⟨d, digits, by rw [hdigits, List.cons_append], hdigits, hdigit d hd, hread⟩

/-- No two numbers share their digits. -/
theorem toDigits_inj (hbase : 1 < base) (hdigit : ∀ d < base, digit? d.digitChar = some d)
    {m n : Nat} : Nat.toDigits base m = Nat.toDigits base n ↔ m = n := by
  have hend : NoDigit digit? [] := fun c hc => nomatch hc
  constructor
  · intro h
    have hm := readDigits_toDigits hbase hdigit (Nat.le_refl (Nat.toDigits base m).length) hend
    have hn := readDigits_toDigits hbase hdigit (Nat.le_refl (Nat.toDigits base n).length) hend
    rw [h, hn] at hm
    exact (Prod.mk.inj (Option.some.inj hm)).1.symm
  · exact congrArg _

end Reading

/-- A character that stands for no number below the base is not among the digits of one. -/
theorem notMem_toDigits {base : Nat} (hbase : 1 < base) {c : Char}
    (hc : ∀ d < base, c ≠ d.digitChar) (n : Nat) : c ∉ Nat.toDigits base n := by
  intro h
  obtain ⟨d, hd, rfl⟩ := exists_digitChar_of_mem_toDigits hbase h
  exact hc d hd rfl

namespace Text.Decimal

/-- No two numbers share their decimal form. -/
@[simp] theorem ofNat_inj {m n : Nat} : ofNat m = ofNat n ↔ m = n := by
  rw [ofNat, ofNat, String.ofList_inj, toDigits_inj (by decide) digit?_digitChar]

/-- The digits of a number are digits. -/
theorem notMem_ofNat {c : Char} (hc : ∀ d < 10, c ≠ d.digitChar) (n : Nat) :
    c ∉ (ofNat n).toList := by
  rw [ofNat, String.toList_ofList]
  exact notMem_toDigits (by decide) hc n

end Text.Decimal

end DnsHealth
