import DnsHealth.Number.Rounding

/-!
# Numbers of fifty-three bits

Non-negative numbers with a mantissa of at most fifty-three significant bits, and the arithmetic
that computes exactly and then rounds to the nearest such number, halves to the even mantissa. The
exponent is not bounded: the quantities of this library stay far from where a bound could matter.
-/

namespace DnsHealth.Number

/-- The number `mantissa * 2 ^ exponent`. -/
structure Binary64 where
  /-- The significant bits. -/
  mantissa : Nat
  /-- The power of two that they are scaled by. -/
  exponent : Int
  deriving DecidableEq, Repr

namespace Binary64

/-- A quotient of whole numbers, scaled by a power of two that may be negative. -/
def scaled (num den : Nat) (exponent : Int) : Nat × Nat :=
  match exponent with
  | .ofNat k => (num <<< k, den)
  | .negSucc k => (num, den <<< (k + 1))

/-- The nearest number to a quotient of whole numbers. -/
def ofQuotient (num den : Nat) : Binary64 :=
  if num = 0 then ⟨0, 0⟩
  else
    let guess : Int := Int.ofNat num.log2 - Int.ofNat den.log2 - 52
    let (n, d) := scaled num den (-guess)
    let exponent := if n < d <<< 52 then guess - 1 else guess
    let (n, d) := scaled num den (-exponent)
    ⟨roundDiv n d, exponent⟩

/-- The nearest number to a whole number. -/
def ofNat (n : Nat) : Binary64 := ofQuotient n 1

/-- A number as an exact quotient of whole numbers. -/
def quotient (x : Binary64) : Nat × Nat := scaled x.mantissa 1 x.exponent

/-- The rounded sum. -/
def add (x y : Binary64) : Binary64 :=
  ofQuotient (x.quotient.1 * y.quotient.2 + y.quotient.1 * x.quotient.2)
    (x.quotient.2 * y.quotient.2)

/-- The rounded product. -/
def mul (x y : Binary64) : Binary64 :=
  ofQuotient (x.quotient.1 * y.quotient.1) (x.quotient.2 * y.quotient.2)

/-- The rounded quotient. -/
def div (x y : Binary64) : Binary64 :=
  ofQuotient (x.quotient.1 * y.quotient.2) (x.quotient.2 * y.quotient.1)

/-- The whole part of a number. -/
def floor (x : Binary64) : Nat := x.quotient.1 / x.quotient.2

/-- A number as a count of the given fraction of one, rounded to the nearest. -/
def count (fraction : Nat) (x : Binary64) : Nat :=
  roundDiv (x.quotient.1 * fraction) x.quotient.2

end Binary64

end DnsHealth.Number
