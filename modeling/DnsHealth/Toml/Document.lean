import DnsHealth.Toml.Quoted
import DnsHealth.Toml.Scalar

/-!
# TOML documents

A document is a list of statements, one a line: the header of a table, the header of one more table
in a list of tables, or a key with its value. Reading the text gives the statements, and the
statements one after the other build the table of the document. Arrays and tables between braces may
go over several lines, with comments, and nest up to a fixed depth.
-/

namespace DnsHealth.Toml

/-- A key behind the keys of the tables that lead to it. -/
structure KeyPath where
  /-- The keys of the tables, outermost first. -/
  parents : List String
  /-- The key itself. -/
  key : String
  deriving DecidableEq, Repr

/-- A statement of a document. -/
inductive Statement where
  /-- The following keys belong to the table of this name. -/
  | header (path : KeyPath)
  /-- The following keys belong to a new table in the list of this name. -/
  | listHeader (path : KeyPath)
  /-- A key gets its value. -/
  | assignment (path : KeyPath) (value : Toml)
  deriving Repr

/-- The table under construction, and the path of the header that is in force. -/
structure Draft where
  /-- The entries so far. -/
  entries : Entries
  /-- The path of the header in force, empty before the first. -/
  here : List String
  deriving Repr

/-- Carries out a statement. -/
def Draft.apply (draft : Draft) : Statement → Option Draft
  | .header path => do
    let entries ← draft.entries.descend (Entries.openTable path.key) path.parents
    return ⟨entries, path.parents ++ [path.key]⟩
  | .listHeader path => do
    let entries ← draft.entries.descend (Entries.appendTable path.key) path.parents
    return ⟨entries, path.parents ++ [path.key]⟩
  | .assignment path value => do
    let entries ← draft.entries.descend (Entries.assign path.key value path.parents) draft.here
    return ⟨entries, draft.here⟩

/-- The table that statements build. -/
def ofStatements (statements : List Statement) : Option Toml := do
  let draft ← statements.foldlM Draft.apply ⟨[], []⟩
  return table .header draft.entries

/-! Reading. -/

/-- A text without the blanks in front of it. -/
def skipBlanks (text : List Char) : List Char := text.dropWhile Quoted.isBlank

/-- Skips blanks, newlines and comments, which have no control characters but tabs. The flag tells
that the text begins within a comment. -/
def gap (inComment : Bool) : List Char → Option (List Char)
  | [] => some []
  | '\n' :: rest => gap false rest
  | '\r' :: rest =>
    match rest with
    | '\n' :: rest => gap false rest
    | _ => none
  | c :: rest =>
    if inComment then if Quoted.isPlain c then gap true rest else none
    else if c = '#' then gap true rest
    else if Quoted.isBlank c then gap false rest
    else some (c :: rest)

/-- Tells whether nothing but blanks and a comment is left of a line. -/
def atLineEnd (text : List Char) : Bool :=
  match skipBlanks text with
  | [] => true
  | c :: _ => c = '\n' || c = '\r' || c = '#'

/-- Characters of keys without quotes. -/
def isBare (c : Char) : Bool := c.isAlphanum || c = '_' || c = '-'

/-- Reads a single key, with or without quotes. -/
def simpleKey : List Char → Option (String × List Char)
  | '"' :: rest => do
    let (key, rest) ← Quoted.basic rest
    return (String.ofList key, rest)
  | '\'' :: rest => do
    let (key, rest) ← Quoted.literal rest
    return (String.ofList key, rest)
  | text =>
    if (text.takeWhile isBare).isEmpty then none
    else some (String.ofList (text.takeWhile isBare), text.dropWhile isBare)

/-- The greatest number of keys with points between them. -/
def maxKeys : Nat := 80

/-- Reads keys with points between them, at most so many, and the blanks around each. -/
def keyPath : Nat → List Char → Option (KeyPath × List Char)
  | 0, _ => none
  | count + 1, text => do
    let (key, rest) ← simpleKey (skipBlanks text)
    match skipBlanks rest with
    | '.' :: rest => do
      let (path, rest) ← keyPath count rest
      return (⟨key :: path.parents, path.key⟩, rest)
    | rest => return (⟨[], key⟩, rest)

/-- Characters that end an unquoted word. -/
def endsWord (c : Char) : Bool :=
  ['\n', '\r', '#', ',', '=', '[', ']', '\x7b', '\x7d'].contains c

/-- The number of characters of an unquoted word. Blanks belong to it only if more of the word
follows, and a quote behind a blank ends it. -/
def wordLength (afterBlank : Bool) : List Char → Nat
  | [] => 0
  | c :: rest =>
    if endsWord c || (afterBlank && (c = '"' || c = '\'')) then 0
    else
      let more := wordLength (Quoted.isBlank c) rest
      if more = 0 && Quoted.isBlank c then 0 else more + 1

/-- Reads an unquoted word. -/
def word (text : List Char) : List Char × List Char :=
  (text.take (wordLength false text), text.drop (wordLength false text))

/-- Reads a string or an unquoted scalar. -/
def plainValue (text : List Char) : Option (Toml × List Char) :=
  match text with
  | '"' :: _ | '\'' :: _ => do
    let (s, rest) ← Quoted.string text
    return (string (String.ofList s), rest)
  | _ => do return (← scalar? (word text).1, (word text).2)

/-- Reads values with commas between them and perhaps behind the last, at most so many, up to the
closing bracket. -/
def elements (value : List Char → Option (Toml × List Char)) :
    Nat → List Char → Option (List Toml × List Char)
  | 0, _ => none
  | count + 1, text => do
    match ← gap false text with
    | ']' :: rest => some ([], rest)
    | text =>
      let (x, rest) ← value text
      match ← gap false rest with
      | ']' :: rest => some ([x], rest)
      | ',' :: rest =>
        let (xs, rest) ← elements value count rest
        return (x :: xs, rest)
      | _ => none

/-- Reads keys with their values, with commas between them and perhaps behind the last, at most so
many, up to the closing brace. -/
def members (value : List Char → Option (Toml × List Char)) :
    Nat → Entries → List Char → Option (Entries × List Char)
  | 0, _, _ => none
  | count + 1, entries, text => do
    match ← gap false text with
    | '\x7d' :: rest => some (entries, rest)
    | text =>
      let (path, rest) ← keyPath maxKeys text
      match ← gap false rest with
      | '=' :: rest =>
        let (x, rest) ← value (← gap false rest)
        let entries ← entries.assign path.key x path.parents
        match ← gap false rest with
        | '\x7d' :: rest => some (entries, rest)
        | ',' :: rest => members value count entries rest
        | _ => none
      | _ => none

/-- Reads a value in which arrays and tables nest up to a depth. -/
def value : Nat → List Char → Option (Toml × List Char)
  | 0, text => plainValue text
  | depth + 1, text =>
    match text with
    | '[' :: rest => do
      let (xs, rest) ← elements (value depth) rest.length rest
      return (array xs, rest)
    | '\x7b' :: rest => do
      let (entries, rest) ← members (value depth) rest.length [] rest
      return (table .braces entries, rest)
    | text => plainValue text

/-- The greatest depth at which arrays and tables between braces nest. -/
def maxDepth : Nat := 80

/-- Reads a statement up to the end of its line. -/
def statement (text : List Char) : Option (Statement × List Char) :=
  match text with
  | '[' :: '[' :: rest => do
    let (path, rest) ← keyPath maxKeys rest
    match rest with
    | ']' :: ']' :: rest => if atLineEnd rest then some (.listHeader path, rest) else none
    | _ => none
  | '[' :: rest => do
    let (path, rest) ← keyPath maxKeys rest
    match rest with
    | ']' :: rest => if atLineEnd rest then some (.header path, rest) else none
    | _ => none
  | text => do
    let (path, rest) ← keyPath maxKeys text
    match rest with
    | '=' :: rest =>
      let (x, rest) ← value maxDepth (skipBlanks rest)
      if atLineEnd rest then some (.assignment path x, rest) else none
    | _ => none

/-- Reads statements, at most so many, up to the end of the text. -/
def statements : Nat → List Char → Option (List Statement)
  | 0, _ => none
  | count + 1, text => do
    match ← gap false text with
    | [] => some []
    | text =>
      let (first, rest) ← statement text
      return first :: (← statements count rest)

/-- A text without the byte order mark in front of it. -/
def dropMark : List Char → List Char
  | '\uFEFF' :: text => text
  | text => text

/-- The table that a document gives, if it is one. -/
def parse? (document : String) : Option Toml := do
  let text := dropMark document.toList
  ofStatements (← statements (text.length + 1) text)

end DnsHealth.Toml
