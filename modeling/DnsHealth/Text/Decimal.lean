/-!
# Decimal numbers

Whole numbers in decimal digits, with a minus sign in front of the negative ones, and the reading
of a bounded number of digits off the front of a text.
-/

namespace DnsHealth.Text.Decimal

/-- The digits of a number, without leading zeros. -/
def ofNat (n : Nat) : String := String.ofList (Nat.toDigits 10 n)

/-- The digits of an integer, signed only when it is negative. -/
def ofInt : Int → String
  | .ofNat n => ofNat n
  | .negSucc n => "-" ++ ofNat (n + 1)

/-- The digits of a number, filled up with zeros in front to a least count. -/
def padded (width n : Nat) : String :=
  let digits := Nat.toDigits 10 n
  String.ofList (List.replicate (width - digits.length) '0' ++ digits)

/-- The value of a decimal digit. -/
def digit? (c : Char) : Option Nat :=
  if 48 ≤ c.toNat ∧ c.toNat ≤ 57 then some (c.toNat - 48) else none

/-- The value of a text of decimal digits, read onto what has been read before. -/
def value? : Nat → List Char → Option Nat
  | acc, [] => some acc
  | acc, c :: cs => do value? (10 * acc + (← digit? c)) cs

end DnsHealth.Text.Decimal
