import DnsHealth.Crypto.Power

/-!
# Arithmetic modulo a prime

Residues, their powers and their inverses. Every residue but zero of a prime modulus has its inverse
as a power, by Fermat's little theorem; zero is sent to zero.
-/

namespace DnsHealth.Crypto

/-- A number by which residues are taken. -/
structure Modulus where
  /-- The number. -/
  value : Nat
  /-- There are residues. -/
  pos : 0 < value
  deriving DecidableEq, Repr

/-- The residues of a modulus. -/
abbrev Residue (m : Modulus) := Fin m.value

/-- The residue of a number. -/
def Modulus.residue (m : Modulus) (n : Nat) : Residue m := ⟨n % m.value, Nat.mod_lt n m.pos⟩

/-- A power of a residue. -/
def residuePower {m : Modulus} (x : Residue m) (n : Nat) : Residue m :=
  power (· * ·) (m.residue 1) x n

/-- The inverse of a residue of a prime modulus. -/
def residueInverse {m : Modulus} (x : Residue m) : Residue m := residuePower x (m.value - 2)

end DnsHealth.Crypto
