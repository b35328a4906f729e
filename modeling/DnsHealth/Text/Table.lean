import DnsHealth.Text.Hex

/-!
# Tables of characters

Properties of characters, packed into lines of text. A line has rows with blanks between them, and a
row has hexadecimal numbers with points between them, of which the first is the code of a character.
The rows of a table are in increasing order, so the row that speaks of a character is found by
halving: it is the last one that does not begin behind it.
-/

namespace DnsHealth.Text

/-- Rows that are found by the numbers that they begin with. -/
structure Table where
  /-- The rows, each its first number and those that follow. -/
  rows : Array (Nat × List Nat)
  deriving Repr

namespace Table

/-- The rows of a line, where the digits of a number and the numbers of a row before the end of the
line have been read. -/
def readRows (number : Nat) (row : List Nat) : List Char → List (List Nat)
  | [] => [(number :: row).reverse]
  | c :: rest =>
    if c = ' ' then (number :: row).reverse :: readRows 0 [] rest
    else if c = '.' then readRows 0 (number :: row) rest
    else readRows (16 * number + (Hex.digit? c).getD 0) row rest

/-- The table in some lines. -/
def ofLines (lines : List String) : Table :=
  let rows := lines.flatMap fun line => readRows 0 [] line.toList
  ⟨(rows.filterMap fun row => row.head?.map (·, row.drop 1)).toArray⟩

/-- The first position between two others whose row begins behind a number, if the rows are in
order. -/
def rank (rows : Array (Nat × List Nat)) (n low high : Nat) : Nat :=
  if low < high then
    let middle := (low + high) / 2
    if rows[middle]?.any (·.1 ≤ n) then rank rows n (middle + 1) high else rank rows n low middle
  else low
termination_by high - low

/-- The last row that does not begin behind a number. -/
def row? (table : Table) (n : Nat) : Option (Nat × List Nat) :=
  match rank table.rows n 0 table.rows.size with
  | 0 => none
  | count + 1 => table.rows[count]?

/-- Tells whether a number lies in a range of a table whose rows are the ends of ranges, or single
numbers. -/
def covers (table : Table) (n : Nat) : Bool :=
  match table.row? n with
  | some (first, []) => n = first
  | some (_, last :: _) => n ≤ last
  | none => false

/-- What a table tells of a range behind its two ends, and how far in the range a number lies. -/
def find? (table : Table) (n : Nat) : Option (Nat × List Nat) :=
  match table.row? n with
  | some (first, last :: values) => if n ≤ last then some (n - first, values) else none
  | _ => none

/-- What a table tells of a single number. -/
def get? (table : Table) (n : Nat) : Option (List Nat) :=
  match table.row? n with
  | some (first, values) => if n = first then some values else none
  | none => none

end Table

end DnsHealth.Text
