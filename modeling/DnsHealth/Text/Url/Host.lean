import DnsHealth.Address.Text
import DnsHealth.Text.Idna.Domain
import DnsHealth.Text.Url.Escape

/-!
# Hosts in locators

The hosts of the well-known schemes are names in any script, with or without escapes, or addresses:
one of the sixth version between brackets, and one of the fourth in one to four numbers, each in
decimal, octal or hexadecimal digits. A name that ends in a number has to be such an address. The
hosts of all other schemes are opaque, except between brackets.
-/

namespace DnsHealth.Text.Url

/-- The value of digits in some base. -/
def digits? (digit? : Char → Option Nat) (base : Nat) (cs : List Char) : Option Nat :=
  cs.foldlM (fun n c => (digit? c).map fun d => n * base + d) 0

/-- An octal digit. -/
def octalDigit? (c : Char) : Option Nat := (Decimal.digit? c).filter (· < 8)

/-- A part of an address in numbers: hexadecimal behind `0x`, octal behind a zero, or decimal. -/
def numberPart? : List Char → Option Nat
  | [] => none
  | '0' :: 'x' :: rest => digits? Hex.digit? 16 rest
  | '0' :: c :: rest => digits? octalDigit? 8 (c :: rest)
  | cs => digits? Decimal.digit? 10 cs

/-- Tells whether a host ends in a number, so that it has to be an address. -/
def endsInNumber (parts : List (List Char)) : Bool :=
  match parts.getLast? with
  | some part => (part ≠ [] ∧ part.all Char.isDigit) || (numberPart? part).isSome
  | none => false

/-- The address that one to four numbers give, of which the last fills all that is left. -/
def numbersAddress? (parts : List (List Char)) : Option Ipv4 := do
  let numbers ← parts.mapM numberPart?
  let last ← numbers.getLast?
  let front := numbers.dropLast
  if 3 < front.length || front.any (255 < ·) || 1 <<< (8 * (4 - front.length)) ≤ last then none
  else
    let n := (front.foldr (fun part (sum, weight) => (sum + part * weight, weight * 256))
      (0, 1 <<< (8 * (4 - front.length)))).1 + last
    some ⟨UInt8.ofNat (n / 16777216), UInt8.ofNat (n / 65536 % 256), UInt8.ofNat (n / 256 % 256),
      UInt8.ofNat (n % 256)⟩

/-- The characters of ASCII that no host has. -/
def hostDelimiters : List Char := ['#', '/', ':', '<', '>', '?', '@', '[', '\\', ']', '^', '|']

/-- Tells whether a character may not stand in the name of a host of a well-known scheme. -/
def deniedInName (c : Char) : Bool :=
  c.toNat ≤ 0x20 || c.toNat = 0x7f || c = '%' || hostDelimiters.contains c

/-- Tells whether a character may not stand in an opaque host. -/
def deniedInOpaque (c : Char) : Bool :=
  ['\x00', '\t', '\n', '\r', ' '].contains c || hostDelimiters.contains c

/-- The normal form of what stands behind an opening bracket. -/
def bracketed? (cs : List Char) : Option (List Char) :=
  if cs.getLast? = some ']' then
    (Ipv6.ofText? (String.ofList cs.dropLast)).map fun x => ['['] ++ x.shortened ++ [']']
  else none

/-- The normal form of the host of a well-known scheme. -/
def knownHost? : List Char → Option (List Char)
  | '[' :: rest => bracketed? rest
  | cs => do
    let name ← Idna.toAscii? deniedInName (← Utf8.decode? (unescape cs))
    let parts := name.splitOn '.'
    let parts := if parts.length ≠ 1 && parts.getLast? = some [] then parts.dropLast else parts
    if name = [] then none
    else if endsInNumber parts then (numbersAddress? parts).map (·.text.toList)
    else some name

/-- The normal form of the host of another scheme. -/
def opaqueHost? : List Char → Option (List Char)
  | '[' :: rest => bracketed? rest
  | cs => if cs.any deniedInOpaque then none else some (escape [] cs)

end DnsHealth.Text.Url
