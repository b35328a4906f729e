/-!
# UTF-8

Characters as bytes and back. A byte string is read one character at a time, and a byte that
begins no character makes one U+FFFD together with the longest following stretch that could still
have continued it. The strict reader accepts exactly the byte strings in which this never happens.
-/

namespace DnsHealth.Text.Utf8

/-- The bytes of a text. -/
def encode (cs : List Char) : List UInt8 := cs.flatMap String.utf8EncodeChar

/-- The number of bytes that follow a lead byte, the bits that the lead byte gives, and the range
that the first following byte has to be in. -/
def lead (b : UInt8) : Option (Nat × Nat × UInt8 × UInt8) :=
  let n := b.toNat
  if n < 0xC2 then none
  else if n < 0xE0 then some (1, n % 32, 0x80, 0xBF)
  else if n = 0xE0 then some (2, 0, 0xA0, 0xBF)
  else if n = 0xED then some (2, n % 16, 0x80, 0x9F)
  else if n < 0xF0 then some (2, n % 16, 0x80, 0xBF)
  else if n = 0xF0 then some (3, 0, 0x90, 0xBF)
  else if n < 0xF4 then some (3, n % 8, 0x80, 0xBF)
  else if n = 0xF4 then some (3, 4, 0x80, 0x8F)
  else none

/-- Takes the following bytes of a character, each adding six bits to the code, and stops at the
first that cannot follow. -/
def continuation : Nat → UInt8 → UInt8 → Nat → List UInt8 → Option Nat × List UInt8
  | 0, _, _, code, bytes => (some code, bytes)
  | _ + 1, _, _, _, [] => (none, [])
  | n + 1, low, high, code, b :: bytes =>
    if low ≤ b && b ≤ high then continuation n 0x80 0xBF (code * 64 + b.toNat % 64) bytes
    else (none, b :: bytes)

theorem length_continuation_le (n : Nat) (low high : UInt8) (code : Nat) (bytes : List UInt8) :
    (continuation n low high code bytes).2.length ≤ bytes.length := by
  induction n generalizing low high code bytes with
  | zero => simp [continuation]
  | succ n ih =>
    cases bytes with
    | nil => simp [continuation]
    | cons b bytes =>
      simp only [continuation]
      split
      · exact Nat.le_trans (ih _ _ _ _) (Nat.le_succ _)
      · exact Nat.le_refl _

/-- Reads one character off a non-empty byte string: none stands for an ill-formed stretch. -/
def next (b : UInt8) (bytes : List UInt8) : Option Char × List UInt8 :=
  if b < 0x80 then (some (Char.ofNat b.toNat), bytes)
  else match lead b with
    | none => (none, bytes)
    | some (n, bits, low, high) =>
      let read := continuation n low high bits bytes
      (read.1.map Char.ofNat, read.2)

/-- A reading step consumes at least the byte it began with. -/
theorem length_next_le (b : UInt8) (bytes : List UInt8) :
    (next b bytes).2.length ≤ bytes.length := by
  unfold next
  split
  · exact Nat.le_refl _
  · split
    · exact Nat.le_refl _
    · exact length_continuation_le _ _ _ _ _

/-- Reads a byte string as text, with one U+FFFD for each ill-formed stretch. -/
def decodeLossy : List UInt8 → List Char
  | [] => []
  | b :: bytes => (next b bytes).1.getD '\uFFFD' :: decodeLossy (next b bytes).2
termination_by bytes => bytes.length
decreasing_by
  have := length_next_le b bytes
  simp only [List.length_cons]
  omega

/-- Reads a byte string as text if it is well-formed throughout. -/
def decode? : List UInt8 → Option (List Char)
  | [] => some []
  | b :: bytes =>
    match (next b bytes).1 with
    | none => none
    | some c => (decode? (next b bytes).2).map (c :: ·)
termination_by bytes => bytes.length
decreasing_by
  have := length_next_le b bytes
  simp only [List.length_cons]
  omega

/-- What the strict reader accepts, the lenient one reads alike. -/
theorem decodeLossy_of_decode? {bytes : List UInt8} {cs : List Char} (h : decode? bytes = some cs) :
    decodeLossy bytes = cs := by
  fun_induction decode? bytes generalizing cs with
  | case1 => simpa [decodeLossy] using h
  | case2 => simp at h
  | case3 b bytes c hc ih =>
    obtain ⟨tail, htail, rfl⟩ := Option.map_eq_some_iff.1 h
    rw [decodeLossy, hc, ih htail]
    rfl

end DnsHealth.Text.Utf8
