import DnsHealth.Text.Hex
import DnsHealth.Text.Utf8

/-!
# Escapes in locators

Characters that a part of a locator does not admit stand in it as their bytes, each behind a percent
sign and in two hexadecimal digits. Control characters and characters outside ASCII are escaped in
every part; each part adds some of the others. Only hosts undo escapes.
-/

namespace DnsHealth.Text.Url

/-- A character as escaped bytes. -/
def escaped (c : Char) : List Char :=
  (Utf8.encode [c]).flatMap fun b =>
    ['%', Hex.upperDigit (b.toNat / 16), Hex.upperDigit (b.toNat % 16)]

/-- A part with its control characters, its characters outside ASCII and those given escaped. -/
def escape (special : List Char) (cs : List Char) : List Char :=
  cs.flatMap fun c =>
    if c.toNat < 0x20 || 0x7e < c.toNat || special.contains c then escaped c else [c]

/-- The characters that are escaped in a fragment. -/
def fragmentSet : List Char := [' ', '"', '<', '>', '\x60']

/-- The characters that are escaped in a path. -/
def pathSet : List Char := fragmentSet ++ ['#', '?', '\x7b', '\x7d']

/-- The characters that are escaped in the name of a user. -/
def userSet : List Char := pathSet ++ ['/', ':', ';', '=', '@', '[', '\\', ']', '^', '|']

/-- The characters that are escaped in a query, of a well-known scheme or of another one. -/
def querySet (known : Bool) : List Char :=
  [' ', '"', '#', '<', '>'] ++ if known then ['\''] else []

/-- Undoes escapes. -/
def unescape : List Char → List UInt8
  | [] => []
  | '%' :: h :: l :: rest =>
    match Hex.digit? h, Hex.digit? l with
    | some high, some low => UInt8.ofNat (16 * high + low) :: unescape rest
    | _, _ => 37 :: unescape (h :: l :: rest)
  | c :: rest => Utf8.encode [c] ++ unescape rest

end DnsHealth.Text.Url
