/-!
# Powers

An operation repeated on one value, by squaring. For an associative operation this is the power, and
modular multiplication gives the power modulo a number.
-/

namespace DnsHealth.Crypto

/-- The value combined with itself a number of times, which is the unit for no times. -/
def power (op : α → α → α) (unit x : α) (n : Nat) : α :=
  if n = 0 then unit
  else
    let half := power op unit x (n / 2)
    let even := op half half
    if n % 2 = 1 then op even x else even
termination_by n
decreasing_by omega

/-- A power modulo a number. -/
def powMod (x n modulus : Nat) : Nat :=
  power (fun a b => a * b % modulus) (1 % modulus) x n

end DnsHealth.Crypto
