/-!
# Numbers in network order

Unsigned numbers of sixteen and thirty-two bits as two and four bytes, most significant first, and
the readers that take them off the front of a byte string and leave the rest. Numbers of any size
are read from all bytes of a string and written to a given count of bytes.
-/

namespace DnsHealth.Bytes

/-- A number of sixteen bits as two bytes. -/
def of16 (n : UInt16) : List UInt8 :=
  [UInt8.ofNat (n.toNat / 256), UInt8.ofNat (n.toNat % 256)]

/-- A number of thirty-two bits as four bytes. -/
def of32 (n : UInt32) : List UInt8 :=
  [UInt8.ofNat (n.toNat / 16777216), UInt8.ofNat (n.toNat / 65536 % 256),
    UInt8.ofNat (n.toNat / 256 % 256), UInt8.ofNat (n.toNat % 256)]

/-- The number of sixteen bits that two bytes give. -/
def to16 (a b : UInt8) : UInt16 := UInt16.ofNat (a.toNat * 256 + b.toNat)

/-- The number of thirty-two bits that four bytes give. -/
def to32 (a b c d : UInt8) : UInt32 :=
  UInt32.ofNat (a.toNat * 16777216 + b.toNat * 65536 + c.toNat * 256 + d.toNat)

/-- Takes a byte off the front of a byte string. -/
def read8 : List UInt8 → Option (UInt8 × List UInt8)
  | a :: rest => some (a, rest)
  | _ => none

/-- Takes a number of sixteen bits off the front of a byte string. -/
def read16 : List UInt8 → Option (UInt16 × List UInt8)
  | a :: b :: rest => some (to16 a b, rest)
  | _ => none

/-- Takes a number of thirty-two bits off the front of a byte string. -/
def read32 : List UInt8 → Option (UInt32 × List UInt8)
  | a :: b :: c :: d :: rest => some (to32 a b c d, rest)
  | _ => none

/-- The number that a byte string gives, most significant byte first. -/
def toNat (bytes : List UInt8) : Nat := bytes.foldl (fun n b => n * 256 + b.toNat) 0

/-- The low bytes of a number, most significant byte first. -/
def ofNat : Nat → Nat → List UInt8
  | 0, _ => []
  | size + 1, n => ofNat size (n / 256) ++ [UInt8.ofNat (n % 256)]

@[simp] theorem length_ofNat (size n : Nat) : (ofNat size n).length = size := by
  induction size generalizing n with
  | zero => rfl
  | succ size ih => simp [ofNat, ih]

@[simp] theorem length_of16 (n : UInt16) : (of16 n).length = 2 := rfl

@[simp] theorem length_of32 (n : UInt32) : (of32 n).length = 4 := rfl

/-- A number of sixteen bits reads back, and what follows it is left. -/
@[simp] theorem read16_of16 (n : UInt16) (rest : List UInt8) :
    read16 (of16 n ++ rest) = some (n, rest) := by
  have hn := n.toNat_lt
  have h1 : n.toNat / 256 % 256 = n.toNat / 256 := Nat.mod_eq_of_lt (by omega)
  have h2 : n.toNat / 256 * 256 + n.toNat % 256 = n.toNat := by omega
  simp [of16, read16, to16, UInt8.toNat_ofNat', h1, h2]

/-- A number of thirty-two bits reads back, and what follows it is left. -/
@[simp] theorem read32_of32 (n : UInt32) (rest : List UInt8) :
    read32 (of32 n ++ rest) = some (n, rest) := by
  have hn := n.toNat_lt
  have h1 : n.toNat / 16777216 % 256 = n.toNat / 16777216 := Nat.mod_eq_of_lt (by omega)
  have h2 : n.toNat / 16777216 * 16777216 + n.toNat / 65536 % 256 * 65536 +
      n.toNat / 256 % 256 * 256 + n.toNat % 256 = n.toNat := by omega
  simp [of32, read32, to32, UInt8.toNat_ofNat', h1, h2]

end DnsHealth.Bytes
