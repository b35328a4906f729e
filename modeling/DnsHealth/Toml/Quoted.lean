import DnsHealth.Text.Hex

/-!
# Quoted strings of TOML

Strings between quotes, which have escapes, and between apostrophes, which have none; each on one
line, or between tripled marks on several. On several lines a newline right behind the opening marks
is dropped, two more marks may stand in front of the closing ones, the newlines are kept as they are
written, and a backslash at the end of a line skips all blanks and newlines that follow.
-/

namespace DnsHealth.Toml.Quoted

open Text

/-- Characters that stand for themselves: all but the control characters, of which only the tab may
be written. -/
def isPlain (c : Char) : Bool := c = '\t' || (32 ≤ c.toNat && c.toNat ≠ 127)

/-- Blanks within a line. -/
def isBlank (c : Char) : Bool := c = ' ' || c = '\t'

/-- The character that a count of hexadecimal digits gives the code of. -/
def hexCode (count : Nat) (text : List Char) : Option (Char × List Char) :=
  if (text.take count).length = count then do
    let code ← (text.take count).foldlM (fun n c => do return 16 * n + (← Hex.digit? c)) 0
    if code.isValidChar then some (Char.ofNat code, text.drop count) else none
  else none

/-- The character that a single letter behind a backslash stands for. -/
def shortEscape : Char → Option Char
  | 'b' => some '\x08'
  | 't' => some '\t'
  | 'n' => some '\n'
  | 'f' => some '\x0c'
  | 'r' => some '\r'
  | 'e' => some '\x1b'
  | '"' => some '"'
  | '\\' => some '\\'
  | _ => none

/-- Reads what follows a backslash. -/
def escape : List Char → Option (Char × List Char)
  | [] => none
  | 'x' :: rest => hexCode 2 rest
  | 'u' :: rest => hexCode 4 rest
  | 'U' :: rest => hexCode 8 rest
  | c :: rest => (shortEscape c).map (·, rest)

theorem length_hexCode_le {count : Nat} {text rest : List Char} {c : Char}
    (h : hexCode count text = some (c, rest)) : rest.length ≤ text.length := by
  unfold hexCode at h
  split at h
  · obtain ⟨code, -, h⟩ := Option.bind_eq_some_iff.1 h
    split at h
    · obtain ⟨-, rfl⟩ : _ ∧ text.drop count = rest := by simpa using h
      simp
    · simp at h
  · simp at h

/-- An escape takes at least one character. -/
theorem length_escape_lt {text rest : List Char} {c : Char} (h : escape text = some (c, rest)) :
    rest.length < text.length := by
  unfold escape at h
  split at h
  · simp at h
  · exact Nat.lt_succ_of_le (length_hexCode_le h)
  · exact Nat.lt_succ_of_le (length_hexCode_le h)
  · exact Nat.lt_succ_of_le (length_hexCode_le h)
  · obtain ⟨d, -, h⟩ := Option.map_eq_some_iff.1 h
    obtain ⟨-, rfl⟩ := Prod.mk.inj h
    exact Nat.lt_succ_self _

/-- Puts a character in front of the text that was read. -/
def push (c : Char) (read : List Char × List Char) : List Char × List Char := (c :: read.1, read.2)

/-- Reads a string on one line up to its closing quote. -/
def basic (text : List Char) : Option (List Char × List Char) :=
  match text with
  | [] => none
  | '"' :: rest => some ([], rest)
  | '\\' :: rest =>
    match _h : escape rest with
    | none => none
    | some (c, rest) => (basic rest).map (push c)
  | c :: rest => if isPlain c then (basic rest).map (push c) else none
termination_by text.length
decreasing_by
  · have := length_escape_lt ‹_›
    simp only [List.length_cons]
    omega
  · simp

/-- Reads a string without escapes on one line up to its closing apostrophe. -/
def literal : List Char → Option (List Char × List Char)
  | [] => none
  | '\'' :: rest => some ([], rest)
  | c :: rest => if isPlain c then (literal rest).map (push c) else none

/-- Drops a newline right behind the opening marks. -/
def dropNewline : List Char → List Char
  | '\n' :: rest => rest
  | '\r' :: '\n' :: rest => rest
  | text => text

/-- Tells whether nothing but blanks is left of a line that has a next one. -/
def endsLine (text : List Char) : Bool :=
  match text.dropWhile isBlank with
  | '\n' :: _ => true
  | '\r' :: '\n' :: _ => true
  | _ => false

/-- Skips blanks and newlines. -/
def skipLines : List Char → List Char
  | '\r' :: '\n' :: rest => skipLines rest
  | c :: rest => if isBlank c || c = '\n' then skipLines rest else c :: rest
  | [] => []

theorem length_skipLines_le (text : List Char) : (skipLines text).length ≤ text.length := by
  fun_induction skipLines text with
  | case1 rest ih =>
    simp only [List.length_cons]
    omega
  | case2 c rest _ _ ih => exact Nat.le_succ_of_le ih
  | case3 | case4 => exact Nat.le_refl _

/-- Reads a string on several lines up to its closing quotes. -/
def basicLines (text : List Char) : Option (List Char × List Char) :=
  match text with
  | [] => none
  | '"' :: '"' :: '"' :: '"' :: '"' :: rest => some (['"', '"'], rest)
  | '"' :: '"' :: '"' :: '"' :: rest => some (['"'], rest)
  | '"' :: '"' :: '"' :: rest => some ([], rest)
  | '\r' :: '\n' :: rest => (basicLines rest).map fun read => push '\r' (push '\n' read)
  | '\\' :: rest =>
    if endsLine rest then basicLines (skipLines rest)
    else match _h : escape rest with
      | none => none
      | some (c, rest) => (basicLines rest).map (push c)
  | c :: rest => if isPlain c || c = '\n' then (basicLines rest).map (push c) else none
termination_by text.length
decreasing_by
  · simp only [List.length_cons]; omega
  · exact Nat.lt_succ_of_le (length_skipLines_le rest)
  · have := length_escape_lt ‹_›
    simp only [List.length_cons]
    omega
  · simp

/-- Reads a string without escapes on several lines up to its closing apostrophes. -/
def literalLines : List Char → Option (List Char × List Char)
  | [] => none
  | '\'' :: '\'' :: '\'' :: '\'' :: '\'' :: rest => some (['\'', '\''], rest)
  | '\'' :: '\'' :: '\'' :: '\'' :: rest => some (['\''], rest)
  | '\'' :: '\'' :: '\'' :: rest => some ([], rest)
  | '\r' :: '\n' :: rest => (literalLines rest).map fun read => push '\r' (push '\n' read)
  | c :: rest => if isPlain c || c = '\n' then (literalLines rest).map (push c) else none

/-- Reads a string of any of the four kinds. -/
def string : List Char → Option (List Char × List Char)
  | '"' :: '"' :: '"' :: rest => basicLines (dropNewline rest)
  | '\'' :: '\'' :: '\'' :: rest => literalLines (dropNewline rest)
  | '"' :: rest => basic rest
  | '\'' :: rest => literal rest
  | _ => none

end DnsHealth.Toml.Quoted
