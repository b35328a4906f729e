import DnsHealth.Name.Basic
import DnsHealth.Text.Idna.Domain
import DnsHealth.Text.Numeric
import DnsHealth.Text.Utf8

/-!
# Names by their labels

A name as a list of labels, which may hold any bytes, and its two texts. The presentation form
writes the characters of host names as they are and escapes all others with a backslash, so points
inside labels stay apart from those between them. The shown form is the same but for labels of other
scripts, which stand as they are shown. The reader undoes escapes, and is told by its caller which
labels to take. The uncompressed wire form has at most 255 bytes.
-/

namespace DnsHealth

/-- A name by its labels, the leftmost first. -/
structure LabelName where
  /-- The labels, the root label left out. -/
  labels : List (List UInt8)
  /-- The name ends at the root. -/
  absolute : Bool
  deriving DecidableEq, Repr

namespace LabelName

/-- The root name. -/
def root : LabelName := ⟨[], true⟩

/-- Tells whether a character is an ASCII letter or digit. -/
def isPlain (c : Char) : Bool := c.isAlphanum

/-- Tells whether a character stands for itself inside a label. -/
def isBare (first : Bool) (c : Char) : Bool :=
  isPlain c || c == '_' || (c == '-' && !first) || (c == '*' && first)

/-- The octal digit of a number below eight. -/
def octalDigit (n : Nat) : Char := Char.ofNat (48 + n)

/-- The written form of one byte of a label. -/
def escapeByte (first : Bool) (b : UInt8) : List Char :=
  let n := b.toNat
  let c := Char.ofNat n
  if n < 128 ∧ isBare first c then [c]
  else if 0x20 < n ∧ n < 0x7f then ['\\', c]
  else ['\\', octalDigit (n / 64), octalDigit (n / 8 % 8), octalDigit (n % 8)]

/-- The written form of a label. -/
def labelText : List UInt8 → List Char
  | [] => []
  | b :: bytes => escapeByte true b ++ bytes.flatMap (escapeByte false)

/-- The presentation form of a name. -/
def chars (name : LabelName) : List Char :=
  ['.'].intercalate (name.labels.map labelText) ++ if name.absolute then ['.'] else []

/-- A label as it is shown: one in the ASCII form of a label in another script stands for the
latter. -/
def shownLabel (label : List UInt8) : List Char :=
  let cs := label.map fun b => Char.ofNat b.toNat
  if Text.Idna.formMark.isPrefixOf cs then (Text.Idna.toShown? cs).getD (labelText label)
  else labelText label

/-- The shown form of a name. -/
def shownChars (name : LabelName) : List Char :=
  ['.'].intercalate (name.labels.map shownLabel) ++ if name.absolute then ['.'] else []

/-- The presentation form of a name as a string. -/
def text (name : LabelName) : String := String.ofList name.chars

/-- Tells whether a character has to be escaped wherever it stands. -/
def isSeparator (c : Char) : Bool :=
  c.toNat < 0x20 || (0x7f ≤ c.toNat && c.toNat < 0xa0) || Text.isBlank c

/-- The value of an octal digit. -/
def octal? (c : Char) : Option Nat :=
  if 48 ≤ c.toNat ∧ c.toNat ≤ 55 then some (c.toNat - 48) else none

/-- Splits a text into its labels and undoes the escapes, each a character or three octal digits of
its code. The characters of the label being read come in reverse order, and an escape that the text
breaks off is dropped. -/
def split? (current : List Char) : List Char → Option (List (List Char))
  | [] => some (if current = [] then [] else [current.reverse])
  | '.' :: rest => (split? [] rest).map (current.reverse :: ·)
  | ['\\'] => some (if current = [] then [] else [current.reverse])
  | '\\' :: c :: rest =>
    if Text.isNumeric c then do
      let high ← octal? c
      match rest with
      | [] => return if current = [] then [] else [current.reverse]
      | d :: rest => do
        let middle ← octal? d
        match rest with
        | [] => return if current = [] then [] else [current.reverse]
        | e :: rest => do
          let low ← octal? e
          split? (Char.ofNat (high * 64 + middle * 8 + low) :: current) rest
    else split? (c :: current) rest
  | c :: rest => if isSeparator c then none else split? (c :: current) rest

/-- The number of bytes that the labels of a name take on the wire, the root label left out. -/
def size (labels : List (List UInt8)) : Nat :=
  labels.foldr (fun label n => label.length + 1 + n) 0

/-- Reads a name in presentation form, of labels that the given function takes. -/
def ofChars? (label? : List Char → Option (List UInt8)) (cs : List Char) : Option LabelName :=
  if cs = ['.'] then some root
  else do
    let labels ← (← split? [] cs).mapM label?
    if 255 < size labels then none else some ⟨labels, cs.getLast? = some '.'⟩

/-- The bytes of a label of ASCII letters, digits, hyphens, underscores and points. It does not
begin with a hyphen, and it may begin with a star. -/
def asciiLabel? : List Char → Option (List UInt8)
  | [] => none
  | c :: cs =>
    if (isBare true c || c == '.') && cs.all (fun c => isBare false c || c == '.') &&
        decide (cs.length < 63) then
      some ((c :: cs).map fun c => UInt8.ofNat c.toNat)
    else none

/-- Tells whether a character of ASCII may not stand in the label of a host. -/
def deniedInLabel (c : Char) : Bool := c.toNat < 128 && !(isPlain c || c == '-')

/-- The bytes of a label of a host name, which may be in any script. A star alone and a label that
begins with an underscore are taken as they are. -/
def hostLabel? (cs : List Char) : Option (List UInt8) :=
  if cs = ['*'] ∨ cs.head? = some '_' then asciiLabel? cs
  else Text.Idna.toAscii? deniedInLabel cs >>= asciiLabel?

/-- The uncompressed wire form of a list of labels. -/
def labelsToWire (labels : List (List UInt8)) : List UInt8 :=
  labels.flatMap (fun label => UInt8.ofNat label.length :: label) ++ [0]

/-- The uncompressed wire form of a name, unless it is too long. -/
def toWire? (name : LabelName) : Option (List UInt8) :=
  let wire := labelsToWire name.labels
  if 255 < wire.length then none else some wire

/-- A byte with an ASCII letter in small form. -/
def lowerByte (b : UInt8) : UInt8 := if 65 ≤ b ∧ b ≤ 90 then b + 32 else b

/-- A name with its ASCII letters in small form. -/
def lower (name : LabelName) : LabelName :=
  { name with labels := name.labels.map (·.map lowerByte) }

theorem length_labelsToWire (labels : List (List UInt8)) :
    (labelsToWire labels).length = size labels + 1 := by
  induction labels with
  | nil => rfl
  | cons label labels ih =>
    simp only [labelsToWire, List.flatMap_cons, List.length_append, size, List.foldr_cons,
      List.length_cons] at ih ⊢
    omega

end LabelName

end DnsHealth
