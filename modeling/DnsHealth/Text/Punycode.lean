/-!
# Labels in letters, digits and hyphens

The form in which a label with any characters is written in ASCII letters, digits and hyphens alone.
The ASCII characters of the label come first, in their order and with a hyphen behind them if there
are any. The places of the others follow as numbers: each tells how many steps of a walk through all
pairs of a character and a place lie between one insertion and the next. The numbers are written in
digits to the base of thirty-six, lowest first, where a digit below a threshold is the last of its
number; the thresholds follow the numbers written so far. Numbers have thirty-two bits.
-/

namespace DnsHealth.Text.Punycode

/-- The digit below thirty-six of a number: letters first, then decimal digits. -/
def digit (n : Nat) : Char := if n < 26 then Char.ofNat (97 + n) else Char.ofNat (22 + n)

/-- The value of a digit, with letters of either case. -/
def digit? (c : Char) : Option Nat :=
  let n := c.toNat
  if 97 ≤ n ∧ n ≤ 122 then some (n - 97)
  else if 65 ≤ n ∧ n ≤ 90 then some (n - 65)
  else if 48 ≤ n ∧ n ≤ 57 then some (n - 22)
  else none

/-- Digits below the threshold end a number. The position counts the digits in thirty-sixes. -/
def threshold (bias position : Nat) : Nat := Nat.max 1 (Nat.min 26 (position - bias))

theorem threshold_pos (bias position : Nat) : 1 ≤ threshold bias position := Nat.le_max_left _ _

/-- The bias that goes with a number, and the thirty-sixes taken out of it. -/
def biasOf (position delta : Nat) : Nat :=
  if 455 < delta then biasOf (position + 36) (delta / 35)
  else position + 36 * delta / (delta + 38)
termination_by delta
decreasing_by omega

/-- The bias behind a number, the first one or a later one, that brought a label to a length. -/
def adapt (first : Bool) (delta length : Nat) : Nat :=
  let delta := if first then delta / 700 else delta / 2
  biasOf 0 (delta + delta / length)

/-! Writing. -/

/-- A number in digits. -/
def writeNumber (bias position n : Nat) : List Char :=
  let t := threshold bias position
  if n < t then [digit n]
  else digit (t + (n - t) % (36 - t)) :: writeNumber bias (position + 36) ((n - t) / (36 - t))
termination_by n
decreasing_by
  have := threshold_pos bias position
  exact Nat.lt_of_le_of_lt (Nat.div_le_self _ _) (by omega)

/-- A label in the course of being written. -/
structure Writing where
  /-- What has been written, in reverse order. -/
  written : List Char
  /-- The number of characters that have been handled. -/
  handled : Nat
  /-- The steps of the walk since the last number. -/
  delta : Nat
  /-- The bias in force. -/
  bias : Nat
  /-- No number has been written. -/
  first : Bool
  deriving DecidableEq, Repr

/-- Goes with a code past one character of the label, and writes its place if this is the code. -/
def Writing.pass (code : Nat) (w : Writing) (c : Char) : Writing :=
  if c.toNat < code then { w with delta := w.delta + 1 }
  else if c.toNat = code then
    { written := (writeNumber w.bias 36 w.delta).reverse ++ w.written
      handled := w.handled + 1
      delta := 0
      bias := adapt w.first w.delta (w.handled + 1)
      first := false }
  else w

/-- Goes through a label with each of some increasing codes, from the one to begin with. -/
def Writing.walk (label : List Char) (start : Nat) (w : Writing) : List Nat → Writing
  | [] => w
  | code :: codes =>
    let reached := { w with delta := w.delta + (code - start) * (w.handled + 1) }
    let passed := label.foldl (Writing.pass code) reached
    Writing.walk label (code + 1) { passed with delta := passed.delta + 1 } codes

/-- Tells whether a character belongs to ASCII. -/
def isAscii (c : Char) : Bool := c.toNat < 128

/-- The ASCII form of a label. -/
def encode (label : List Char) : List Char :=
  let plain := label.filter isAscii
  let codes := ((label.filter (!isAscii ·)).map Char.toNat).mergeSort
  let start := if plain = [] then [] else '-' :: plain.reverse
  (Writing.walk label 128 ⟨start, plain.length, 0, 72, true⟩ codes.eraseDups).written.reverse

/-! Reading. -/

/-- A number of thirty-two bits. -/
def word? (n : Nat) : Option Nat := if n < 4294967296 then some n else none

/-- Takes a number off the front of digits and adds it to another. -/
def readNumber (bias position weight n : Nat) : List Char → Option (Nat × List Char)
  | [] => none
  | c :: rest => do
    let d ← digit? c
    let n ← word? (n + (← word? (d * weight)))
    let t := threshold bias position
    if d < t then return (n, rest)
    else readNumber bias (position + 36) (← word? (weight * (36 - t))) n rest

/-- A number takes at least one digit. -/
theorem length_readNumber_lt {bias position weight n m : Nat} {digits rest : List Char}
    (h : readNumber bias position weight n digits = some (m, rest)) :
    rest.length < digits.length := by
  induction digits generalizing position weight n with
  | nil => simp [readNumber] at h
  | cons c digits ih =>
    unfold readNumber at h
    obtain ⟨d, -, h⟩ := Option.bind_eq_some_iff.1 h
    obtain ⟨product, -, h⟩ := Option.bind_eq_some_iff.1 h
    obtain ⟨sum, -, h⟩ := Option.bind_eq_some_iff.1 h
    simp only at h
    split at h
    · obtain ⟨-, rfl⟩ : sum = m ∧ digits = rest := by simpa using h
      simp
    · obtain ⟨weight, -, h⟩ := Option.bind_eq_some_iff.1 h
      exact Nat.lt_succ_of_lt (ih h)

/-- Inserts characters into a label as digits tell, from a code and a place on. -/
def insertAll (first : Bool) (bias code place : Nat) (label digits : List Char) :
    Option (List Char) :=
  match digits with
  | [] => some label
  | c :: more =>
    match _h : readNumber bias 36 1 place (c :: more) with
    | none => none
    | some (n, rest) =>
      let length := label.length + 1
      let code := code + n / length
      if code.isValidChar then
        insertAll false (adapt first (n - place) length) code (n % length + 1)
          (label.insertIdx (n % length) (Char.ofNat code)) rest
      else none
termination_by digits.length
decreasing_by exact length_readNumber_lt _h

/-- Splits a text at its last hyphen, unless that is its first character. -/
def splitLastHyphen (cs : List Char) : List Char × List Char :=
  let back := cs.reverse
  match back.dropWhile (· ≠ '-') with
  | _ :: c :: front => ((c :: front).reverse, (back.takeWhile (· ≠ '-')).reverse)
  | _ => ([], cs)

/-- The label that an ASCII form stands for. -/
def decode? (form : List Char) : Option (List Char) :=
  let (plain, digits) := splitLastHyphen form
  insertAll true 72 128 0 plain digits

end DnsHealth.Text.Punycode
