import DnsHealth.Address.Basic
import DnsHealth.Text.Decimal
import DnsHealth.Text.Hex

/-!
# The text of an address

IPv4 addresses are four decimal bytes without leading zeros. IPv6 addresses are printed as RFC 5952
recommends: small hexadecimal digits, the first of the longest runs of at least two zero groups
shortened to a double colon, and an IPv4-mapped address with its last four bytes in decimal. The
reader takes either case, groups with leading zeros, any legal double colon and an embedded IPv4
address at the end, and nothing may follow.
-/

namespace DnsHealth

open Text

/-- Takes the digits of a number off the front of a text: at most `limit` of them count, and one
more makes the reading fail. -/
def readDigits (digit? : Char → Option Nat) (base : Nat) : Nat → Nat → List Char →
    Option (Nat × List Char)
  | _, acc, [] => some (acc, [])
  | limit, acc, c :: cs =>
    match digit? c with
    | none => some (acc, c :: cs)
    | some d =>
      match limit with
      | 0 => none
      | limit + 1 => readDigits digit? base limit (acc * base + d) cs

namespace Ipv4

/-- The text of an address. -/
def text (x : Ipv4) : String :=
  Decimal.ofNat x.a.toNat ++ "." ++ Decimal.ofNat x.b.toNat ++ "." ++ Decimal.ofNat x.c.toNat ++
    "." ++ Decimal.ofNat x.d.toNat

/-- Takes a byte off the front of a text: one to three digits, without a leading zero. -/
def readByte (cs : List Char) : Option (UInt8 × List Char) :=
  match cs with
  | [] => none
  | c :: tail => do
    let first ← Decimal.digit? c
    let (value, rest) ← readDigits Decimal.digit? 10 2 first tail
    if first = 0 && rest.length != tail.length then none
    else if value < 256 then some (UInt8.ofNat value, rest)
    else none

/-- Takes a point and a byte off the front of a text. -/
def readPointByte : List Char → Option (UInt8 × List Char)
  | '.' :: cs => readByte cs
  | _ => none

/-- Takes an address off the front of a text. -/
def read (cs : List Char) : Option (Ipv4 × List Char) := do
  let (a, cs) ← readByte cs
  let (b, cs) ← readPointByte cs
  let (c, cs) ← readPointByte cs
  let (d, cs) ← readPointByte cs
  return (⟨a, b, c, d⟩, cs)

/-- The address that a whole text gives. -/
def ofText? (s : String) : Option Ipv4 :=
  match read s.toList with
  | some (x, []) => some x
  | _ => none

end Ipv4

namespace Ipv6

/-- Takes a group of one to four hexadecimal digits off the front of a text. -/
def readGroup (cs : List Char) : Option (UInt16 × List Char) :=
  match cs with
  | [] => none
  | c :: tail => do
    let first ← Hex.digit? c
    let (value, rest) ← readDigits Hex.digit? 16 3 first tail
    return (UInt16.ofNat value, rest)

/-- The text after a colon, which the first group goes without. -/
def afterColon (isFirst : Bool) (cs : List Char) : Option (List Char) :=
  match isFirst, cs with
  | true, cs => some cs
  | false, ':' :: cs => some cs
  | false, _ => none

/-- Takes up to `limit` groups off the front of a text, of which an IPv4 address may give the last
two, and tells whether one did. -/
def readGroups : Nat → Bool → List Char → List UInt16 × Bool × List Char
  | 0, _, cs => ([], false, cs)
  | limit + 1, isFirst, cs =>
    match afterColon isFirst cs with
    | none => ([], false, cs)
    | some body =>
      match (if limit = 0 then none else Ipv4.read body) with
      | some (x, rest) =>
        ([UInt16.ofNat (x.a.toNat * 256 + x.b.toNat), UInt16.ofNat (x.c.toNat * 256 + x.d.toNat)],
          true, rest)
      | none =>
        match readGroup body with
        | none => ([], false, cs)
        | some (g, rest) =>
          let (gs, embedded, rest) := readGroups limit false rest
          (g :: gs, embedded, rest)

/-- The address that a whole text gives. -/
def ofText? (s : String) : Option Ipv6 :=
  match readGroups 8 true s.toList with
  | (front, embedded, rest) =>
    if front.length = 8 then
      if rest.isEmpty then ofGroups? front else none
    else if embedded then none
    else match rest with
      | ':' :: ':' :: rest =>
        match readGroups (7 - front.length) true rest with
        | (back, _, []) =>
          ofGroups? (front ++ List.replicate (8 - front.length - back.length) 0 ++ back)
        | _ => none
      | _ => none

/-- The start and the length of the first of the longest runs of zero groups, found by comparing
the run that is open at each group with the best one so far. -/
def longestZeros : List UInt16 → Nat → Nat × Nat → Nat × Nat → Nat × Nat
  | [], _, _, best => best
  | g :: gs, i, (start, length), best =>
    if g = 0 then
      let current := if length = 0 then (i, 1) else (start, length + 1)
      longestZeros gs (i + 1) current (if best.2 < current.2 then current else best)
    else longestZeros gs (i + 1) (0, 0) best

/-- Groups in hexadecimal digits with colons between them. -/
def groupsText (groups : List UInt16) : List Char :=
  (groups.map fun g => Hex.ofNat g.toNat).intersperse [':'] |>.flatten

/-- The IPv4 address that an address maps, if it maps one. -/
def mapped? (x : Ipv6) : Option Ipv4 :=
  match x.toList with
  | [0, 0, 0, 0, 0, 0xFFFF, g, h] =>
    some ⟨UInt8.ofNat (g.toNat / 256), UInt8.ofNat (g.toNat % 256),
      UInt8.ofNat (h.toNat / 256), UInt8.ofNat (h.toNat % 256)⟩
  | _ => none

/-- The groups of an address with a run of zeros shortened. -/
def shortened (x : Ipv6) : List Char :=
  let (start, length) := longestZeros x.toList 0 (0, 0) (0, 0)
  if 1 < length then
    groupsText (x.toList.take start) ++ [':', ':'] ++ groupsText (x.toList.drop (start + length))
  else groupsText x.toList

/-- The text of an address. -/
def text (x : Ipv6) : String :=
  match x.mapped? with
  | some y => "::ffff:" ++ y.text
  | none => String.ofList x.shortened

end Ipv6

namespace Address

/-- The text of an address of either family. -/
def text : Address → String
  | .v4 x => x.text
  | .v6 x => x.text

/-- The address that a whole text gives. -/
def ofText? (s : String) : Option Address :=
  match Ipv4.ofText? s with
  | some x => some (.v4 x)
  | none => (Ipv6.ofText? s).map .v6

/-- The text of an address with a port, the address in brackets when it holds colons itself. -/
def withPort (x : Address) (port : UInt16) : String :=
  match x with
  | .v4 y => y.text ++ ":" ++ Decimal.ofNat port.toNat
  | .v6 y => "[" ++ y.text ++ "]:" ++ Decimal.ofNat port.toNat

end Address

end DnsHealth
