import DnsHealth.Proofs.Text.Utf8

/-!
# The order of texts and of their bytes

A character with a smaller code has smaller bytes: the lead bytes increase with the number of bytes
that they announce, and among characters of as many bytes those are digits of the code, the most
significant first. So texts stand in the same order by their characters as by their bytes.
-/

namespace DnsHealth.Text.Utf8

variable {xs ys : List UInt8} {m n : Nat}

/-- A smaller byte in front decides. -/
theorem ofNat_cons_lt_of_lt (h : m < n) (hn : n < 256) :
    UInt8.ofNat m :: xs < UInt8.ofNat n :: ys := by
  rw [List.cons_lt_cons_iff]
  left
  rw [UInt8.lt_iff_toNat_lt, UInt8.toNat_ofNat', UInt8.toNat_ofNat']
  omega

/-- Of two bytes in front the second decides where the first does not. -/
theorem ofNat_cons_lt_of_le (h : m ≤ n) (hn : n < 256) (hrest : m = n → xs < ys) :
    UInt8.ofNat m :: xs < UInt8.ofNat n :: ys := by
  by_cases heq : m = n
  · rw [List.cons_lt_cons_iff]
    exact .inr ⟨congrArg UInt8.ofNat heq, hrest heq⟩
  · exact ofNat_cons_lt_of_lt (by omega) hn

/-- A character with a smaller code has smaller bytes, whatever follows. -/
theorem utf8EncodeChar_append_lt {c d : Char} (h : c < d) (rest tail : List UInt8) :
    String.utf8EncodeChar c ++ rest < String.utf8EncodeChar d ++ tail := by
  have hcd : c.val.toNat < d.val.toNat := h
  have hd : d.val.toNat < 0xD800 ∨ 0xDFFF < d.val.toNat ∧ d.val.toNat < 0x110000 := d.valid
  unfold String.utf8EncodeChar
  generalize c.val.toNat = m at hcd
  generalize d.val.toNat = n at hcd hd
  simp only
  -- With fewer bytes the first byte is smaller, as the lead bytes are in order; with as many, the
  -- first of them that differs decides, and the last does at the latest.
  by_cases hn1 : n ≤ 0x7f
  · rw [if_pos hn1, if_pos (by omega)]
    exact ofNat_cons_lt_of_lt hcd (by omega)
  rw [if_neg hn1]
  by_cases hn2 : n ≤ 0x7ff
  · rw [if_pos hn2]
    by_cases hm1 : m ≤ 0x7f
    · rw [if_pos hm1]
      exact ofNat_cons_lt_of_lt (by omega) (by omega)
    · rw [if_neg hm1, if_pos (by omega)]
      refine ofNat_cons_lt_of_le (by omega) (by omega) fun _ => ?_
      exact ofNat_cons_lt_of_lt (by omega) (by omega)
  rw [if_neg hn2]
  by_cases hn3 : n ≤ 0xffff
  · rw [if_pos hn3]
    by_cases hm1 : m ≤ 0x7f
    · rw [if_pos hm1]
      exact ofNat_cons_lt_of_lt (by omega) (by omega)
    rw [if_neg hm1]
    by_cases hm2 : m ≤ 0x7ff
    · rw [if_pos hm2]
      exact ofNat_cons_lt_of_lt (by omega) (by omega)
    · rw [if_neg hm2, if_pos (by omega)]
      refine ofNat_cons_lt_of_le (by omega) (by omega) fun _ => ?_
      refine ofNat_cons_lt_of_le (by omega) (by omega) fun _ => ?_
      exact ofNat_cons_lt_of_lt (by omega) (by omega)
  rw [if_neg hn3]
  by_cases hm1 : m ≤ 0x7f
  · rw [if_pos hm1]
    exact ofNat_cons_lt_of_lt (by omega) (by omega)
  rw [if_neg hm1]
  by_cases hm2 : m ≤ 0x7ff
  · rw [if_pos hm2]
    exact ofNat_cons_lt_of_lt (by omega) (by omega)
  rw [if_neg hm2]
  by_cases hm3 : m ≤ 0xffff
  · rw [if_pos hm3]
    exact ofNat_cons_lt_of_lt (by omega) (by omega)
  · rw [if_neg hm3]
    refine ofNat_cons_lt_of_le (by omega) (by omega) fun _ => ?_
    refine ofNat_cons_lt_of_le (by omega) (by omega) fun _ => ?_
    refine ofNat_cons_lt_of_le (by omega) (by omega) fun _ => ?_
    exact ofNat_cons_lt_of_lt (by omega) (by omega)

/-- A text that comes first by its characters comes first by its bytes. -/
theorem encode_lt_encode {xs ys : List Char} (h : xs < ys) : encode xs < encode ys := by
  induction h with
  | @nil d ys =>
    obtain ⟨b, bytes, hbytes, -⟩ := exists_next_utf8EncodeChar d (encode ys)
    change [] < String.utf8EncodeChar d ++ encode ys
    rw [hbytes]
    exact List.nil_lt_cons b bytes
  | @rel c xs d ys hcd => exact utf8EncodeChar_append_lt hcd (encode xs) (encode ys)
  | @cons c xs ys _ ih => exact List.append_left_lt ih

end DnsHealth.Text.Utf8
