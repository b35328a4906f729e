import DnsHealth.Text.Decimal
import DnsHealth.Text.Hex

/-!
# JSON values

Values with the members of objects in their written order, and two printers: one without any blank,
and one that puts every element and every member on a line of its own, indented by two blanks a
level. Only quotes, backslashes and control characters below U+0020 are escaped in strings.
-/

namespace DnsHealth

open Text (Decimal.ofNat Decimal.ofInt)

/-- A JSON value. -/
inductive Json where
  | null
  | bool (value : Bool)
  /-- A number written without a fraction and without an exponent. -/
  | int (value : Int)
  /-- A number written with a fraction, as a decimal mantissa and the number of its places. -/
  | fraction (mantissa : Int) (places : Nat)
  | str (value : String)
  | arr (elements : List Json)
  | obj (members : List (String × Json))
  deriving Repr, Inhabited

namespace Json

/-- A natural number as a value. -/
def nat (n : Nat) : Json := int (Int.ofNat n)

/-- An optional value, null when absent. -/
def option (encode : α → Json) : Option α → Json
  | none => null
  | some x => encode x

/-- A list of values. -/
def list (encode : α → Json) (xs : List α) : Json := arr (xs.map encode)

/-- Bytes as a list of numbers. -/
def bytes (bs : List UInt8) : Json := list (fun b => nat b.toNat) bs

/-- The written form of one character inside a string. -/
def escape (c : Char) : List Char :=
  if c = '"' then ['\\', '"']
  else if c = '\\' then ['\\', '\\']
  else if c = '\n' then ['\\', 'n']
  else if c = '\r' then ['\\', 'r']
  else if c = '\t' then ['\\', 't']
  else if c = '\x08' then ['\\', 'b']
  else if c = '\x0c' then ['\\', 'f']
  else if c.toNat < 0x20 then
    ['\\', 'u', '0', '0', Text.Hex.lowerDigit (c.toNat / 16), Text.Hex.lowerDigit (c.toNat % 16)]
  else [c]

/-- A string in its quotes. -/
def quoted (s : String) : String := String.ofList ('"' :: s.toList.flatMap escape ++ ['"'])

/-- The text of a number with a fraction. -/
def fractionText (mantissa : Int) (places : Nat) : String :=
  let digits := Text.Decimal.padded (places + 1) mantissa.natAbs
  let whole := digits.toList.take (digits.length - places)
  let rest := digits.toList.drop (digits.length - places)
  (if mantissa < 0 then "-" else "") ++ String.ofList (whole ++ ['.'] ++ rest)

/-- The start of a new line at a level of indentation. -/
def newline (level : Nat) : String := "\n" ++ String.ofList (List.replicate (2 * level) ' ')

mutual

/-- A value without any blank. -/
def compact : Json → String
  | null => "null"
  | bool b => if b then "true" else "false"
  | int n => Decimal.ofInt n
  | fraction m k => fractionText m k
  | str s => quoted s
  | arr [] => "[]"
  | arr (x :: xs) => "[" ++ compact x ++ compactElements xs ++ "]"
  | obj [] => "\x7b\x7d"
  | obj ((k, v) :: ms) => "\x7b" ++ quoted k ++ ":" ++ compact v ++ compactMembers ms ++ "\x7d"

/-- The elements after the first, each behind its comma. -/
def compactElements : List Json → String
  | [] => ""
  | x :: xs => "," ++ compact x ++ compactElements xs

/-- The members after the first, each behind its comma. -/
def compactMembers : List (String × Json) → String
  | [] => ""
  | (k, v) :: ms => "," ++ quoted k ++ ":" ++ compact v ++ compactMembers ms

end

mutual

/-- A value over several lines, for a place at a level of indentation. -/
def prettyAt (level : Nat) : Json → String
  | null => "null"
  | bool b => if b then "true" else "false"
  | int n => Decimal.ofInt n
  | fraction m k => fractionText m k
  | str s => quoted s
  | arr [] => "[]"
  | arr (x :: xs) =>
    "[" ++ newline (level + 1) ++ prettyAt (level + 1) x ++ prettyElements (level + 1) xs ++
      newline level ++ "]"
  | obj [] => "\x7b\x7d"
  | obj ((k, v) :: ms) =>
    "\x7b" ++ newline (level + 1) ++ quoted k ++ ": " ++ prettyAt (level + 1) v ++
      prettyMembers (level + 1) ms ++ newline level ++ "\x7d"

/-- The elements after the first, each behind a comma on its own line. -/
def prettyElements (level : Nat) : List Json → String
  | [] => ""
  | x :: xs => "," ++ newline level ++ prettyAt level x ++ prettyElements level xs

/-- The members after the first, each behind a comma on its own line. -/
def prettyMembers (level : Nat) : List (String × Json) → String
  | [] => ""
  | (k, v) :: ms =>
    "," ++ newline level ++ quoted k ++ ": " ++ prettyAt level v ++ prettyMembers level ms

end

/-- A value over several lines. -/
def pretty (j : Json) : String := prettyAt 0 j

end Json

end DnsHealth
