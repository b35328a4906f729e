/-!
# Internet addresses

The two address families as their bytes and groups. An IPv4 address and the IPv6 address that maps
it are different addresses.
-/

namespace DnsHealth

/-- An IPv4 address by its four bytes. -/
structure Ipv4 where
  /-- The most significant byte. -/
  a : UInt8
  /-- The second byte. -/
  b : UInt8
  /-- The third byte. -/
  c : UInt8
  /-- The least significant byte. -/
  d : UInt8
  deriving DecidableEq, Repr

/-- An IPv6 address by its eight groups of sixteen bits, most significant first. -/
structure Ipv6 where
  /-- The groups. -/
  groups : Vector UInt16 8
  deriving DecidableEq, Repr

/-- An address of either family. -/
inductive Address where
  | v4 (address : Ipv4)
  | v6 (address : Ipv6)
  deriving DecidableEq, Repr

namespace Ipv4

/-- The bytes of an address in network order. -/
def bytes (x : Ipv4) : List UInt8 := [x.a, x.b, x.c, x.d]

theorem bytes_injective {x y : Ipv4} (h : x.bytes = y.bytes) : x = y := by
  cases x
  cases y
  simp_all [bytes]

end Ipv4

namespace Ipv6

/-- The address with the given groups, if there are eight of them. -/
def ofGroups? (groups : List UInt16) : Option Ipv6 :=
  if h : groups.length = 8 then some ⟨⟨groups.toArray, by simpa using h⟩⟩ else none

/-- The groups as a list. -/
def toList (x : Ipv6) : List UInt16 := x.groups.toList

/-- The bytes of an address in network order. -/
def bytes (x : Ipv6) : List UInt8 :=
  x.toList.flatMap fun g => [UInt8.ofNat (g.toNat / 256), UInt8.ofNat (g.toNat % 256)]

@[simp] theorem length_toList (x : Ipv6) : x.toList.length = 8 := by simp [toList]

@[simp] theorem ofGroups?_toList (x : Ipv6) : ofGroups? x.toList = some x := by
  obtain ⟨⟨groups, size⟩⟩ := x
  simp [ofGroups?, toList, size]

end Ipv6

end DnsHealth
