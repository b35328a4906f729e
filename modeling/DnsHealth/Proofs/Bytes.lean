import DnsHealth.Bytes

/-!
# Telling apart what stands side by side

A number of fixed width and a byte string behind its length can be told apart from whatever follows
them. A byte string made of pieces of one such kind has no second reading as pieces of that kind. A
part that is taken by indices is there exactly if the indices are in range.
-/

namespace DnsHealth.Bytes

/-- The number that two bytes give. -/
theorem toNat_to16 (a b : UInt8) : (to16 a b).toNat = a.toNat * 256 + b.toNat := by
  have ha := a.toNat_lt
  have hb := b.toNat_lt
  rw [to16, UInt16.toNat_ofNat']
  omega

/-- Two bytes are those of the number that they give. -/
@[simp] theorem of16_to16 (a b : UInt8) : of16 (to16 a b) = [a, b] := by
  have hb := b.toNat_lt
  rw [of16, toNat_to16, show (a.toNat * 256 + b.toNat) / 256 = a.toNat by omega,
    show (a.toNat * 256 + b.toNat) % 256 = b.toNat by omega, UInt8.ofNat_toNat, UInt8.ofNat_toNat]

/-- Four bytes are those of the number that they give. -/
@[simp] theorem of32_to32 (a b c d : UInt8) : of32 (to32 a b c d) = [a, b, c, d] := by
  have ha := a.toNat_lt
  have hb := b.toNat_lt
  have hc := c.toNat_lt
  have hd := d.toNat_lt
  have hn : (to32 a b c d).toNat =
      a.toNat * 16777216 + b.toNat * 65536 + c.toNat * 256 + d.toNat := by
    rw [to32, UInt32.toNat_ofNat']
    omega
  generalize hsum : a.toNat * 16777216 + b.toNat * 65536 + c.toNat * 256 + d.toNat = n at hn
  rw [of32, hn, show n / 16777216 = a.toNat by omega, show n / 65536 % 256 = b.toNat by omega,
    show n / 256 % 256 = c.toNat by omega, show n % 256 = d.toNat by omega]
  simp only [UInt8.ofNat_toNat]

/-- The number that the two bytes of a number give is that number. -/
@[simp] theorem to16_of16 (n : UInt16) :
    to16 (UInt8.ofNat (n.toNat / 256)) (UInt8.ofNat (n.toNat % 256)) = n := by
  have hread := read16_of16 n []
  simp only [of16, List.cons_append, read16, Option.some.injEq, Prod.mk.injEq] at hread
  exact hread.1

/-- The number that the four bytes of a number give is that number. -/
@[simp] theorem to32_of32 (n : UInt32) :
    to32 (UInt8.ofNat (n.toNat / 16777216)) (UInt8.ofNat (n.toNat / 65536 % 256))
      (UInt8.ofNat (n.toNat / 256 % 256)) (UInt8.ofNat (n.toNat % 256)) = n := by
  have hread := read32_of32 n []
  simp only [of32, List.cons_append, read32, Option.some.injEq, Prod.mk.injEq] at hread
  exact hread.1

/-- A number of sixteen bits takes two bytes, so it is told from what stands behind it. -/
theorem of16_append_inj {m n : UInt16} {rest tail : List UInt8}
    (h : of16 m ++ rest = of16 n ++ tail) : m = n ∧ rest = tail := by
  have hread := read16_of16 m rest
  rw [h, read16_of16, Option.some.injEq, Prod.mk.injEq] at hread
  exact ⟨hread.1.symm, hread.2.symm⟩

/-- A number of thirty-two bits takes four bytes, so it is told from what stands behind it. -/
theorem of32_append_inj {m n : UInt32} {rest tail : List UInt8}
    (h : of32 m ++ rest = of32 n ++ tail) : m = n ∧ rest = tail := by
  have hread := read32_of32 m rest
  rw [h, read32_of32, Option.some.injEq, Prod.mk.injEq] at hread
  exact ⟨hread.1.symm, hread.2.symm⟩

/-- A byte string behind its length in one byte. -/
def sized (bytes : List UInt8) : List UInt8 := UInt8.ofNat bytes.length :: bytes

/-- A number up to 255 fits into a byte. -/
theorem toNat_ofNat_of_le {n : Nat} (h : n ≤ 255) : (UInt8.ofNat n).toNat = n := by
  rw [UInt8.toNat_ofNat']
  omega

/-- Bytes behind their length are told from what stands behind them. -/
theorem sized_append_inj {xs ys rest tail : List UInt8} (hxs : xs.length ≤ 255)
    (hys : ys.length ≤ 255) (h : sized xs ++ rest = sized ys ++ tail) : xs = ys ∧ rest = tail := by
  obtain ⟨hhead, hbytes⟩ := List.cons.inj h
  have hlength : xs.length = ys.length := by
    rw [← toNat_ofNat_of_le hxs, hhead, toNat_ofNat_of_le hys]
  exact List.append_inj hbytes hlength

/-- Pieces that can each be told apart from what follows can be told from their concatenation. -/
theorem flatMap_inj {α β : Type} {piece : α → List β} (allowed : α → Prop)
    (hne : ∀ x, piece x ≠ [])
    (hinj : ∀ x y rest tail, allowed x → allowed y → piece x ++ rest = piece y ++ tail →
      x = y ∧ rest = tail)
    {xs ys : List α} (hxs : ∀ x ∈ xs, allowed x) (hys : ∀ y ∈ ys, allowed y)
    (h : xs.flatMap piece = ys.flatMap piece) : xs = ys := by
  induction xs generalizing ys with
  | nil =>
    cases ys with
    | nil => rfl
    | cons y ys => exact absurd (List.append_eq_nil_iff.mp h.symm).1 (hne y)
  | cons x xs ih =>
    cases ys with
    | nil => exact absurd (List.append_eq_nil_iff.mp h).1 (hne x)
    | cons y ys =>
      rw [List.flatMap_cons, List.flatMap_cons] at h
      obtain ⟨hx, hxs⟩ := List.forall_mem_cons.mp hxs
      obtain ⟨hy, hys⟩ := List.forall_mem_cons.mp hys
      obtain ⟨hpiece, hrest⟩ := hinj x y _ _ hx hy h
      rw [hpiece, ih hxs hys hrest]

/-- Numbers of sixteen bits can be told from their bytes. -/
theorem flatMap_of16_inj {ms ns : List UInt16} (h : ms.flatMap of16 = ns.flatMap of16) : ms = ns :=
  flatMap_inj (fun _ => True) (by simp [of16]) (fun _ _ _ _ _ _ => of16_append_inj) (by simp)
    (by simp) h

/-- Byte strings can be told from their concatenation if each stands behind its length. -/
theorem flatMap_sized_inj {xs ys : List (List UInt8)} (hxs : ∀ x ∈ xs, x.length ≤ 255)
    (hys : ∀ y ∈ ys, y.length ≤ 255) (h : xs.flatMap sized = ys.flatMap sized) : xs = ys :=
  flatMap_inj (·.length ≤ 255) (by simp [sized]) (fun _ _ _ _ => sized_append_inj) hxs hys h

/-- The bytes from one index up to another, unless there are none such. -/
def slice? (bytes : List UInt8) (start stop : Nat) : Option (List UInt8) :=
  if start ≤ stop ∧ stop ≤ bytes.length then some ((bytes.drop start).take (stop - start)) else none

/-- A slice whose limits are in order and in range is what stands between them. -/
theorem slice?_of_le {bytes : List UInt8} {start stop : Nat} (hstart : start ≤ stop)
    (hstop : stop ≤ bytes.length) :
    slice? bytes start stop = some ((bytes.drop start).take (stop - start)) :=
  if_pos ⟨hstart, hstop⟩

/-- There is no slice that ends out of range. -/
theorem slice?_of_length_lt {bytes : List UInt8} {start stop : Nat} (h : bytes.length < stop) :
    slice? bytes start stop = none :=
  if_neg (by omega)

/-- The number of sixteen bits at an index, unless the bytes end before it does. -/
def at16? (bytes : List UInt8) (index : Nat) : Option UInt16 := do
  return to16 (← bytes[index]?) (← bytes[index + 1]?)

/-- The number of thirty-two bits at an index, unless the bytes end before it does. -/
def at32? (bytes : List UInt8) (index : Nat) : Option UInt32 := do
  return to32 (← bytes[index]?) (← bytes[index + 1]?) (← bytes[index + 2]?) (← bytes[index + 3]?)

/-- What follows the first bytes of a byte string. -/
theorem slice?_append_length (front rest : List UInt8) :
    slice? (front ++ rest) front.length (front ++ rest).length = some rest := by
  rw [slice?_of_le (by simp) (Nat.le_refl _), List.drop_left, List.length_append,
    Nat.add_sub_cancel_left, List.take_length]

end DnsHealth.Bytes
