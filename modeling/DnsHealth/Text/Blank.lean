/-!
# White space

The characters with the Unicode property White_Space, and the trimming of a text at both ends.
What remains after trimming neither begins nor ends with a blank, and what is cut away on either
side consists of blanks only.
-/

namespace DnsHealth.Text

/-- Tells whether a character has the Unicode property White_Space. -/
def isBlank (c : Char) : Bool :=
  let n := c.toNat
  (9 ≤ n && n ≤ 13) || n == 0x20 || n == 0x85 || n == 0xA0 || n == 0x1680 ||
    (0x2000 ≤ n && n ≤ 0x200A) || n == 0x2028 || n == 0x2029 || n == 0x202F || n == 0x205F ||
    n == 0x3000

/-- A text without its leading blanks. -/
def trimStart (cs : List Char) : List Char := cs.dropWhile isBlank

/-- A text without its trailing blanks. -/
def trimEnd (cs : List Char) : List Char := (cs.reverse.dropWhile isBlank).reverse

/-- A text without its leading and trailing blanks. -/
def trim (cs : List Char) : List Char := trimEnd (trimStart cs)

/-- A final character that is no blank stays when trailing blanks go. -/
theorem trimEnd_append_singleton (cs : List Char) {c : Char} (h : isBlank c = false) :
    trimEnd (cs ++ [c]) = cs ++ [c] := by
  simp [trimEnd, h]

end DnsHealth.Text
