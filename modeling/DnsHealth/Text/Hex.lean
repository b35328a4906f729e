/-!
# Hexadecimal digits

Bytes written as pairs of digits, high half first. The reader takes digits of either case and
undoes both printers.
-/

namespace DnsHealth.Text.Hex

/-- The digits up to fifteen, with capital letters. -/
def upperDigit (n : Nat) : Char :=
  if n < 10 then Char.ofNat (48 + n) else Char.ofNat (55 + n)

/-- The digits up to fifteen, with small letters. -/
def lowerDigit (n : Nat) : Char :=
  if n < 10 then Char.ofNat (48 + n) else Char.ofNat (87 + n)

/-- The value of a digit of either case. -/
def digit? (c : Char) : Option Nat :=
  let n := c.toNat
  if 48 ≤ n ∧ n ≤ 57 then some (n - 48)
  else if 65 ≤ n ∧ n ≤ 70 then some (n - 55)
  else if 97 ≤ n ∧ n ≤ 102 then some (n - 87)
  else none

/-- Bytes in capital digits. -/
def upper (bytes : List UInt8) : List Char :=
  bytes.flatMap fun b => [upperDigit (b.toNat / 16), upperDigit (b.toNat % 16)]

/-- Bytes in small digits. -/
def lower (bytes : List UInt8) : List Char :=
  bytes.flatMap fun b => [lowerDigit (b.toNat / 16), lowerDigit (b.toNat % 16)]

/-- Reads bytes from pairs of digits. -/
def decode? : List Char → Option (List UInt8)
  | [] => some []
  | [_] => none
  | h :: l :: rest => do
    let high ← digit? h
    let low ← digit? l
    let bytes ← decode? rest
    return UInt8.ofNat (16 * high + low) :: bytes

/-- A number in small digits, without leading zeros. -/
def ofNat (n : Nat) : List Char := Nat.toDigits 16 n

end DnsHealth.Text.Hex
