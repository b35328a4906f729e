import DnsHealth.Proofs.Bytes
import DnsHealth.Record.Dnskey
import Mathlib.Algebra.BigOperators.Intervals

/-!
# Key tags as checksums

The checksum of RFC 4034, Appendix B, is defined byte by byte: a byte at an even position counts
256 times, and one at an odd position once. The sum of the words comes to the same number, whether
the count of bytes is odd or even. As long as a key fits into a record it stays within words of
thirty-two bits, also when its carry is added, so the key tag is the checksum. Words that change
places do not change it.
-/

namespace DnsHealth.Dnskey

open Finset (range sum_range_succ')

/-- How often a byte counts in a checksum, by its position. -/
def checksumWeight (position : Nat) : Nat := if position % 2 = 0 then 256 else 1

/-- The sum that a checksum is made of: each byte as often as it counts. -/
def checksum (bytes : List UInt8) : Nat :=
  ∑ position ∈ range bytes.length, (bytes.getD position 0).toNat * checksumWeight position

/-- The sum of a checksum, taken byte by byte onto what has been added up before. -/
def checksumFrom : Nat → Nat → List UInt8 → Nat
  | _, sum, [] => sum
  | position, sum, b :: rest =>
    checksumFrom (position + 1) (sum + if position % 2 = 1 then b.toNat else b.toNat * 256) rest

/-- The key tag of a wire form, taken byte by byte. -/
def tagByBytes (bytes : List UInt8) : Nat :=
  let sum := checksumFrom 0 0 bytes
  (sum + sum / 65536 % 65536) % 65536

private theorem checksum_nil : checksum [] = 0 := rfl

private theorem checksum_singleton (a : UInt8) : checksum [a] = a.toNat * 256 := by
  simp [checksum, checksumWeight]

/-- Two bytes at the front count as a word. -/
theorem checksum_cons_cons (a b : UInt8) (rest : List UInt8) :
    checksum (a :: b :: rest) = (a.toNat * 256 + b.toNat) + checksum rest := by
  have hweight (position : Nat) : checksumWeight (position + 1 + 1) = checksumWeight position := by
    rw [checksumWeight, checksumWeight, Nat.add_assoc, Nat.add_mod_right]
  have hfirst : checksumWeight 0 = 256 := rfl
  have hsecond : checksumWeight (0 + 1) = 1 := rfl
  simp only [checksum, List.length_cons, sum_range_succ', List.getD_cons_succ, List.getD_cons_zero,
    hweight, hfirst, hsecond]
  omega

/-- Taking a checksum byte by byte adds up the bytes as often as they count. -/
theorem checksumFrom_eq (sum : Nat) {position : Nat} (hposition : position % 2 = 0)
    (bytes : List UInt8) : checksumFrom position sum bytes = sum + checksum bytes := by
  -- The bytes are taken in pairs, so that the position stays even.
  induction bytes using List.twoStepInduction generalizing sum position with
  | nil => rfl
  | singleton a =>
    rw [checksum_singleton, checksumFrom, if_neg (by omega), checksumFrom]
  | cons_cons a b rest ih _ =>
    rw [checksumFrom, if_neg (by omega), checksumFrom, if_pos (by omega), ih _ (by omega),
      checksum_cons_cons]
    omega

/-- The checksums of an even number of bytes and of what follows them add up. -/
theorem checksum_append {front : List UInt8} (hfront : front.length % 2 = 0) (rest : List UInt8) :
    checksum (front ++ rest) = checksum front + checksum rest := by
  induction front using List.twoStepInduction with
  | nil => rw [List.nil_append, checksum_nil, Nat.zero_add]
  | singleton a => simp at hfront
  | cons_cons a b front ih _ =>
    have hshorter : front.length % 2 = 0 := by
      simp only [List.length_cons] at hfront
      omega
    rw [List.cons_append, List.cons_append, checksum_cons_cons, checksum_cons_cons, ih hshorter]
    omega

/-- Every started pair of bytes adds a number of sixteen bits at most. -/
theorem checksum_le (bytes : List UInt8) : checksum bytes ≤ 65535 * ((bytes.length + 1) / 2) := by
  induction bytes using List.twoStepInduction with
  | nil => exact Nat.le_refl _
  | singleton a =>
    have ha := a.toNat_lt
    rw [checksum_singleton, List.length_singleton]
    omega
  | cons_cons a b rest ih _ =>
    have ha := a.toNat_lt
    have hb := b.toNat_lt
    rw [checksum_cons_cons, List.length_cons, List.length_cons]
    omega

/-- The sum of two words of thirty-two bits, unless it does not fit into one. -/
def addWord? (x y : UInt32) : Option UInt32 :=
  if x.toNat + y.toNat < 4294967296 then some (x + y) else none

/-- Adds the words of a byte string one after the other onto a sum, as long as it fits into a word
of thirty-two bits. -/
def accumulate? (sum : UInt32) : List UInt8 → Option UInt32
  | a :: b :: rest => do accumulate? (← addWord? sum (Bytes.to16 a b).toUInt32) rest
  | [a] => addWord? sum (a.toUInt32 <<< 8)
  | [] => some sum

/-- The key tag, computed in words of thirty-two bits that must not overflow. -/
def keyTag? (k : Dnskey) : Option UInt16 := do
  let sum ← accumulate? 0 k.rdata
  return (← addWord? sum (sum >>> 16)).toUInt16

/-- An addition that stays below the limit is exact. -/
theorem addWord?_eq_some {x y : UInt32} (h : x.toNat + y.toNat < 4294967296) :
    addWord? x y = some (x + y) ∧ (x + y).toNat = x.toNat + y.toNat := by
  refine ⟨if_pos h, ?_⟩
  rw [UInt32.toNat_add, Nat.mod_eq_of_lt h]

private theorem toNat_word (a b : UInt8) :
    (Bytes.to16 a b).toUInt32.toNat = a.toNat * 256 + b.toNat := by
  rw [UInt16.toNat_toUInt32, Bytes.toNat_to16]

/-- An odd byte at the end is the high half of a word. -/
theorem toNat_oddByte (a : UInt8) : (a.toUInt32 <<< 8).toNat = a.toNat * 256 := by
  have ha := a.toNat_lt
  have height : (8 : UInt32).toNat % 32 = 8 := rfl
  rw [UInt32.toNat_shiftLeft, UInt8.toNat_toUInt32, height, Nat.shiftLeft_eq]
  omega

/-- While the exact sum fits into a word, no step of adding up leaves the range of words. -/
theorem accumulate?_eq_some (sum : UInt32) (bytes : List UInt8)
    (h : sum.toNat + checksum bytes < 4294967296) :
    accumulate? sum bytes = some (sum + wordSum bytes) ∧
      (sum + wordSum bytes).toNat = sum.toNat + checksum bytes := by
  induction bytes using List.twoStepInduction generalizing sum with
  | nil => simp [accumulate?, wordSum, checksum_nil]
  | singleton a =>
    rw [checksum_singleton, ← toNat_oddByte] at h
    rw [checksum_singleton, ← toNat_oddByte]
    exact addWord?_eq_some h
  | cons_cons a b rest ih _ =>
    rw [checksum_cons_cons, ← toNat_word] at h
    obtain ⟨hword, hexact⟩ := addWord?_eq_some
      (x := sum) (y := (Bytes.to16 a b).toUInt32) (by omega)
    obtain ⟨hrest, htotal⟩ := ih (sum + (Bytes.to16 a b).toUInt32) (by omega)
    have hsum : sum + wordSum (a :: b :: rest) =
        sum + (Bytes.to16 a b).toUInt32 + wordSum rest := by
      rw [wordSum, UInt32.add_assoc]
    constructor
    · rw [accumulate?, hword, hsum, ← hrest]
      rfl
    · rw [hsum, htotal, hexact, checksum_cons_cons, toNat_word]
      omega

/-- The checksum of a key that fits into a record leaves room in a word for its own carry. -/
theorem checksum_rdata_lt {k : Dnskey} (h : k.rdata.length ≤ 65535) :
    checksum k.rdata + checksum k.rdata / 65536 < 4294967296 := by
  have hle := checksum_le k.rdata
  omega

/-- The key tag is computed without an overflow, and it is the sum of the checksum with its carry
added once. -/
theorem keyTag?_eq_some {k : Dnskey} (h : k.rdata.length ≤ 65535) :
    k.keyTag? = some k.keyTag ∧
      k.keyTag.toNat = (checksum k.rdata + checksum k.rdata / 65536) % 65536 := by
  have hroom := checksum_rdata_lt h
  obtain ⟨hsum, hexact⟩ := accumulate?_eq_some 0 k.rdata (by rw [UInt32.toNat_zero]; omega)
  rw [UInt32.zero_add] at hsum hexact
  rw [UInt32.toNat_zero, Nat.zero_add] at hexact
  have hcarry : (wordSum k.rdata >>> 16).toNat = checksum k.rdata / 65536 := by
    have hsixteen : (16 : UInt32).toNat % 32 = 16 := rfl
    rw [UInt32.toNat_shiftRight, hsixteen, Nat.shiftRight_eq_div_pow, hexact]
  obtain ⟨hfold, hfolded⟩ := addWord?_eq_some
    (x := wordSum k.rdata) (y := wordSum k.rdata >>> 16) (by omega)
  constructor
  · simp only [keyTag?, hsum, hfold, keyTag, Option.bind_eq_bind, Option.bind_some, Option.pure_def]
  · rw [keyTag, UInt32.toNat_toUInt16, hfolded, hexact, hcarry]

/-- Two words of a byte string that change places do not change its checksum. -/
theorem checksum_exchange {front middle : List UInt8} (hfront : front.length % 2 = 0)
    (hmiddle : middle.length % 2 = 0) (a b c d : UInt8) (back : List UInt8) :
    checksum (front ++ a :: b :: (middle ++ c :: d :: back)) =
      checksum (front ++ c :: d :: (middle ++ a :: b :: back)) := by
  simp only [checksum_append hfront, checksum_append hmiddle, checksum_cons_cons]
  omega

/-- The tag of a key that fits into a record is computed without an overflow. It is the checksum,
taken over positions or byte by byte, with its carry added once. So two words that change places
leave the tag as it is. -/
theorem keyTag_checksum (k : Dnskey) (h : k.rdata.length ≤ 65535) :
    k.keyTag? = some k.keyTag ∧
    k.keyTag.toNat = (checksum k.rdata + checksum k.rdata / 65536) % 65536 ∧
    k.keyTag.toNat = tagByBytes k.rdata ∧
    ∀ (other : Dnskey) (front middle back : List UInt8) (a b c d : UInt8),
      front.length % 2 = 0 → middle.length % 2 = 0 →
      k.rdata = front ++ a :: b :: (middle ++ c :: d :: back) →
      other.rdata = front ++ c :: d :: (middle ++ a :: b :: back) →
      other.keyTag = k.keyTag := by
  obtain ⟨hchecked, htag⟩ := keyTag?_eq_some h
  refine ⟨hchecked, htag, ?_, ?_⟩
  · have hloop : checksumFrom 0 0 k.rdata = _ := checksumFrom_eq 0 rfl k.rdata
    rw [Nat.zero_add] at hloop
    rw [htag, tagByBytes, hloop]
    omega
  · intro other front middle back a b c d hfront hmiddle hk hother
    have hlength : other.rdata.length = k.rdata.length := by
      rw [hk, hother]
      simp
    have hsame : checksum other.rdata = checksum k.rdata := by
      rw [hk, hother, checksum_exchange hfront hmiddle]
    obtain ⟨-, hotherTag⟩ := keyTag?_eq_some (k := other) (by omega)
    rw [← UInt16.toNat_inj, hotherTag, htag, hsame]

/-- A key of nine bytes, whose words one and three change places. -/
theorem keyTag_checksum_nine_bytes :
    let k : Dnskey := ⟨257, 3, 8, [1, 2, 255, 254, 9]⟩
    let other : Dnskey := ⟨257, 255, 254, [1, 2, 3, 8, 9]⟩
    k.rdata.length ≤ 65535 ∧ k.keyTag? = some 3594 ∧ k.keyTag.toNat = 3594 ∧
      other.keyTag = k.keyTag := by
  intro k other
  have hlength : k.rdata.length ≤ 65535 := by decide
  obtain ⟨hchecked, htag, -, hexchange⟩ := keyTag_checksum k hlength
  have hvalue : k.keyTag = 3594 := by decide
  refine ⟨hlength, hchecked.trans (congrArg some hvalue), congrArg UInt16.toNat hvalue, ?_⟩
  exact hexchange other [1, 1] [1, 2] [9] 3 8 255 254 rfl rfl (by decide) (by decide)

end DnsHealth.Dnskey
