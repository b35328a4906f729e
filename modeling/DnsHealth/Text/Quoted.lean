import DnsHealth.Text.Hex
import DnsHealth.Text.Shown

/-!
# Quoted text

A text between double quotes on one line. Tab, line feed, carriage return, NUL, the quote and the
backslash have short escapes, every other character that is not shown is written by its code in
braces, and the rest stands as it is. So quoted text holds no control character and no line break.
-/

namespace DnsHealth.Text.Quoted

/-- The written form of one character inside quotes. -/
def escape (c : Char) : List Char :=
  if c = '\t' then ['\\', 't']
  else if c = '\n' then ['\\', 'n']
  else if c = '\r' then ['\\', 'r']
  else if c = '\x00' then ['\\', '0']
  else if c = '"' then ['\\', '"']
  else if c = '\\' then ['\\', '\\']
  else if isShown c then [c]
  else ['\\', 'u', '\x7b'] ++ Hex.ofNat c.toNat ++ ['\x7d']

/-- A text in its quotes. -/
def encode (cs : List Char) : List Char := '"' :: cs.flatMap escape ++ ['"']

/-- A string in its quotes. -/
def quote (s : String) : String := String.ofList (encode s.toList)

end DnsHealth.Text.Quoted
