import DnsHealth.Text.Utf8

/-!
# Text as bytes and back

Reading the bytes of a text gives the text, by the strict reader and by the lenient one. So two
texts with the same bytes are equal, and the lenient reader gives back all bytes of a string exactly
if the string is well-formed throughout: what it writes for an ill-formed stretch is well-formed.
-/

namespace DnsHealth.Text.Utf8

/-- Texts in a row are encoded in a row. -/
theorem encode_append (xs ys : List Char) : encode (xs ++ ys) = encode xs ++ encode ys :=
  List.flatMap_append

/-- A byte within the bounds adds six bits to the code. -/
theorem continuation_succ_cons {n code : Nat} {low high b : UInt8} (h : low ≤ b ∧ b ≤ high)
    (bytes : List UInt8) :
    continuation (n + 1) low high code (b :: bytes) =
      continuation n 0x80 0xBF (code * 64 + b.toNat % 64) bytes := by
  simp [continuation, h]

/-- A byte that continues a character is within the bounds of such bytes. -/
theorem tail_mem (n : Nat) :
    (0x80 : UInt8) ≤ UInt8.ofNat (n % 64 + 128) ∧ UInt8.ofNat (n % 64 + 128) ≤ (0xBF : UInt8) := by
  simp only [UInt8.le_iff_toNat_le, UInt8.toNat_ofNat', UInt8.toNat_ofNat]
  omega

private theorem toNat_tail (n : Nat) : (UInt8.ofNat (n % 64 + 128)).toNat % 64 = n % 64 := by
  simp only [UInt8.toNat_ofNat']
  omega

/-- What a lead byte says decides how the bytes after it are read. -/
theorem next_of_lead {b : UInt8} {n bits : Nat} {low high : UInt8}
    (h : lead b = some (n, bits, low, high)) (hb : ¬b < 0x80) (bytes : List UInt8) :
    next b bytes = ((continuation n low high bits bytes).1.map Char.ofNat,
      (continuation n low high bits bytes).2) := by
  simp [next, hb, h]

private theorem lead_two {v : Nat} (hlow : 0x80 ≤ v) (hhigh : v ≤ 0x7FF) :
    lead (UInt8.ofNat (v / 64 % 32 + 192)) = some (1, v / 64, 0x80, 0xBF) := by
  have hn : (UInt8.ofNat (v / 64 % 32 + 192)).toNat = v / 64 + 192 := by
    simp only [UInt8.toNat_ofNat']
    omega
  have hbits : (v / 64 + 192) % 32 = v / 64 := by omega
  simp only [lead, hn, hbits]
  rw [if_neg (by omega), if_pos (by omega)]

/-- The lead byte of a character of three bytes, which bounds the byte after it so that the code is
neither small nor that of half a pair. -/
theorem lead_three {v : Nat} (hlow : 0x800 ≤ v) (hhigh : v ≤ 0xFFFF)
    (hvalid : v < 0xD800 ∨ 0xDFFF < v) :
    ∃ low high, lead (UInt8.ofNat (v / 4096 % 16 + 224)) = some (2, v / 4096, low, high) ∧
      low ≤ UInt8.ofNat (v / 64 % 64 + 128) ∧ UInt8.ofNat (v / 64 % 64 + 128) ≤ high := by
  have hn : (UInt8.ofNat (v / 4096 % 16 + 224)).toNat = v / 4096 + 224 := by
    simp only [UInt8.toNat_ofNat']
    omega
  have hbits : (v / 4096 + 224) % 16 = v / 4096 := by omega
  simp only [lead, hn, hbits, UInt8.le_iff_toNat_le, UInt8.toNat_ofNat']
  rw [if_neg (by omega), if_neg (by omega)]
  by_cases hfirst : v / 4096 + 224 = 0xE0
  · refine ⟨0xA0, 0xBF, ?_, ?_, ?_⟩
    · rw [if_pos hfirst, show v / 4096 = 0 by omega]
    · simp only [UInt8.toNat_ofNat]; omega
    · simp only [UInt8.toNat_ofNat]; omega
  · rw [if_neg hfirst]
    by_cases hpair : v / 4096 + 224 = 0xED
    · refine ⟨0x80, 0x9F, if_pos hpair, ?_, ?_⟩
      · simp only [UInt8.toNat_ofNat]; omega
      · simp only [UInt8.toNat_ofNat]; omega
    · rw [if_neg hpair, if_pos (by omega)]
      refine ⟨0x80, 0xBF, rfl, ?_, ?_⟩
      · simp only [UInt8.toNat_ofNat]; omega
      · simp only [UInt8.toNat_ofNat]; omega

/-- The lead byte of a character of four bytes, which bounds the byte after it so that the code is
neither small nor beyond the last character. -/
theorem lead_four {v : Nat} (hlow : 0x10000 ≤ v) (hhigh : v < 0x110000) :
    ∃ low high, lead (UInt8.ofNat (v / 262144 % 8 + 240)) = some (3, v / 262144, low, high) ∧
      low ≤ UInt8.ofNat (v / 4096 % 64 + 128) ∧ UInt8.ofNat (v / 4096 % 64 + 128) ≤ high := by
  have hn : (UInt8.ofNat (v / 262144 % 8 + 240)).toNat = v / 262144 + 240 := by
    simp only [UInt8.toNat_ofNat']
    omega
  have hbits : (v / 262144 + 240) % 8 = v / 262144 := by omega
  simp only [lead, hn, hbits, UInt8.le_iff_toNat_le, UInt8.toNat_ofNat']
  rw [if_neg (by omega), if_neg (by omega), if_neg (by omega), if_neg (by omega), if_neg (by omega)]
  by_cases hfirst : v / 262144 + 240 = 0xF0
  · refine ⟨0x90, 0xBF, ?_, ?_, ?_⟩
    · rw [if_pos hfirst, show v / 262144 = 0 by omega]
    · simp only [UInt8.toNat_ofNat]; omega
    · simp only [UInt8.toNat_ofNat]; omega
  · rw [if_neg hfirst]
    by_cases hlast : v / 262144 + 240 < 0xF4
    · refine ⟨0x80, 0xBF, if_pos hlast, ?_, ?_⟩
      · simp only [UInt8.toNat_ofNat]; omega
      · simp only [UInt8.toNat_ofNat]; omega
    · rw [if_neg hlast, if_pos (by omega)]
      refine ⟨0x80, 0x8F, ?_, ?_, ?_⟩
      · rw [show v / 262144 = 4 by omega]
      · simp only [UInt8.toNat_ofNat]; omega
      · simp only [UInt8.toNat_ofNat]; omega

/-- A step of the reader over the bytes of a character gives the character. -/
theorem exists_next_utf8EncodeChar (c : Char) (rest : List UInt8) :
    ∃ b bytes, String.utf8EncodeChar c ++ rest = b :: bytes ∧ next b bytes = (some c, rest) := by
  have hvalid : c.toNat < 0xD800 ∨ 0xDFFF < c.toNat ∧ c.toNat < 0x110000 := c.valid
  have hc : Char.ofNat c.toNat = c := Char.ofNat_toNat c
  have hv : c.val.toNat = c.toNat := rfl
  generalize c.toNat = v at hvalid hc hv
  simp only [String.utf8EncodeChar, hv]
  by_cases h1 : v ≤ 127
  · have hn : (UInt8.ofNat v).toNat = v := by
      simp only [UInt8.toNat_ofNat']
      omega
    refine ⟨UInt8.ofNat v, rest, by rw [if_pos h1]; rfl, ?_⟩
    have hlt : UInt8.ofNat v < 0x80 := by
      simp only [UInt8.lt_iff_toNat_lt, hn, UInt8.toNat_ofNat]
      omega
    rw [next, if_pos hlt, hn, hc]
  rw [if_neg h1]
  -- A lead byte of more than one byte is at least 192.
  have hlead (k : Nat) (hk : 192 ≤ k) (hk' : k < 256) : ¬UInt8.ofNat k < 0x80 := by
    simp only [UInt8.lt_iff_toNat_lt, UInt8.toNat_ofNat', UInt8.toNat_ofNat]
    omega
  by_cases h2 : v ≤ 2047
  · refine ⟨_, UInt8.ofNat (v % 64 + 128) :: rest, by rw [if_pos h2]; rfl, ?_⟩
    rw [next_of_lead (lead_two (by omega) h2) (hlead _ (by omega) (by omega)),
      continuation_succ_cons (tail_mem v), toNat_tail]
    simp only [continuation, Option.map_some, show v / 64 * 64 + v % 64 = v by omega, hc]
  rw [if_neg h2]
  by_cases h3 : v ≤ 65535
  · obtain ⟨low, high, hl, hmem⟩ := lead_three (v := v) (by omega) h3 (by omega)
    refine ⟨_, UInt8.ofNat (v / 64 % 64 + 128) :: UInt8.ofNat (v % 64 + 128) :: rest,
      by rw [if_pos h3]; rfl, ?_⟩
    rw [next_of_lead hl (hlead _ (by omega) (by omega)), continuation_succ_cons hmem,
      continuation_succ_cons (tail_mem v), toNat_tail, toNat_tail]
    simp only [continuation, Option.map_some,
      show (v / 4096 * 64 + v / 64 % 64) * 64 + v % 64 = v by omega, hc]
  · obtain ⟨low, high, hl, hmem⟩ := lead_four (v := v) (by omega) (by omega)
    refine ⟨_, UInt8.ofNat (v / 4096 % 64 + 128) :: UInt8.ofNat (v / 64 % 64 + 128) ::
      UInt8.ofNat (v % 64 + 128) :: rest, by rw [if_neg h3]; rfl, ?_⟩
    rw [next_of_lead hl (hlead _ (by omega) (by omega)), continuation_succ_cons hmem,
      continuation_succ_cons (tail_mem _), continuation_succ_cons (tail_mem v), toNat_tail,
      toNat_tail, toNat_tail]
    simp only [continuation, Option.map_some,
      show ((v / 262144 * 64 + v / 4096 % 64) * 64 + v / 64 % 64) * 64 + v % 64 = v by omega, hc]

/-- The strict reader gives back any text. -/
@[simp] theorem decode?_encode (cs : List Char) : decode? (encode cs) = some cs := by
  induction cs with
  | nil => simp [encode, decode?]
  | cons c cs ih =>
    obtain ⟨b, bytes, hbytes, hnext⟩ := exists_next_utf8EncodeChar c (encode cs)
    rw [encode, List.flatMap_cons, ← encode, hbytes, decode?, hnext]
    simp only [ih, Option.map_some]

/-- The lenient reader gives back any text. -/
@[simp] theorem decodeLossy_encode (cs : List Char) : decodeLossy (encode cs) = cs :=
  decodeLossy_of_decode? (decode?_encode cs)

/-- Texts with the same bytes are equal. -/
theorem encode_injective {xs ys : List Char} (h : encode xs = encode ys) : xs = ys := by
  have hx := decodeLossy_encode xs
  rwa [h, decodeLossy_encode, eq_comm] at hx

@[simp] theorem encode_eq_nil_iff {cs : List Char} : encode cs = [] ↔ cs = [] :=
  ⟨fun h => encode_injective h, fun h => h ▸ rfl⟩

/-- A character of ASCII is one byte. -/
theorem utf8EncodeChar_of_lt {c : Char} (h : c.toNat < 128) :
    String.utf8EncodeChar c = [UInt8.ofNat c.toNat] := by
  have hv : c.val.toNat = c.toNat := rfl
  simp only [String.utf8EncodeChar, hv]
  rw [if_pos (by omega)]

/-- The bytes of a character outside ASCII are outside ASCII. -/
theorem le_toNat_of_mem_utf8EncodeChar {c : Char} {b : UInt8} (h : 128 ≤ c.toNat)
    (hb : b ∈ String.utf8EncodeChar c) : 128 ≤ b.toNat := by
  have hv : c.val.toNat = c.toNat := rfl
  have hc : c.toNat < 0xD800 ∨ 0xDFFF < c.toNat ∧ c.toNat < 0x110000 := c.valid
  simp only [String.utf8EncodeChar, hv] at hb
  rw [if_neg (by omega)] at hb
  split at hb
  · simp only [List.mem_cons, List.not_mem_nil, or_false] at hb
    rcases hb with rfl | rfl <;> simp only [UInt8.toNat_ofNat'] <;> omega
  · split at hb
    · simp only [List.mem_cons, List.not_mem_nil, or_false] at hb
      rcases hb with rfl | rfl | rfl <;> simp only [UInt8.toNat_ofNat'] <;> omega
    · simp only [List.mem_cons, List.not_mem_nil, or_false] at hb
      rcases hb with rfl | rfl | rfl | rfl <;> simp only [UInt8.toNat_ofNat'] <;> omega

/-- A character of ASCII stands in a text as often as its byte in the bytes of the text. -/
theorem count_encode {c : Char} (h : c.toNat < 128) (cs : List Char) :
    (encode cs).count (UInt8.ofNat c.toNat) = cs.count c := by
  have hc : (UInt8.ofNat c.toNat).toNat = c.toNat := by
    rw [UInt8.toNat_ofNat']
    omega
  induction cs with
  | nil => rfl
  | cons d cs ih =>
    rw [encode, List.flatMap_cons, ← encode, List.count_append, ih, List.count_cons,
      Nat.add_comm]
    congr 1
    by_cases hd : d.toNat < 128
    · have hd' : (UInt8.ofNat d.toNat).toNat = d.toNat := by
        rw [UInt8.toNat_ofNat']
        omega
      rw [utf8EncodeChar_of_lt hd, List.count_singleton]
      simp only [beq_iff_eq, ← UInt8.toNat_inj, ← Char.toNat_inj, hc, hd']
    · have hne : d ≠ c := fun heq => hd (heq ▸ h)
      rw [List.count_eq_zero.mpr fun hmem => ?_, if_neg (by simpa using hne)]
      have hle := le_toNat_of_mem_utf8EncodeChar (by omega) hmem
      omega

/-- The bytes of some text. -/
def WellFormed (bytes : List UInt8) : Prop := ∃ cs, bytes = encode cs

/-- The lenient reader keeps all bytes of exactly the well-formed strings. -/
theorem encode_decodeLossy_eq_iff (bytes : List UInt8) :
    encode (decodeLossy bytes) = bytes ↔ WellFormed bytes := by
  constructor
  · exact fun h => ⟨_, h.symm⟩
  · rintro ⟨cs, rfl⟩
    rw [decodeLossy_encode]

end DnsHealth.Text.Utf8
