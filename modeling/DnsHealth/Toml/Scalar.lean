import DnsHealth.Text.Decimal
import DnsHealth.Text.Hex
import DnsHealth.Toml.Value

/-!
# Unquoted scalars of TOML

Truth values, whole numbers in four bases, numbers with a fraction or an exponent, and dates and
times of day, each recognized from the whole of an unquoted word. Single underscores may stand
between two digits of a number, and decimal numbers have no leading zeros. A base without digits and
a decimal number that goes on behind an underscore with characters of other kinds are recognized as
whole numbers, too, but have no value.
-/

namespace DnsHealth.Toml

open Text

/-- The value of digits of a base, read onto what has been read before. -/
def grouped (base acc : Nat) : List Char → Option Nat
  | [] => none
  | c :: rest =>
    match Hex.digit? c with
    | none => none
    | some d =>
      if d < base then
        match rest with
        | [] => some (acc * base + d)
        | '_' :: rest => grouped base (acc * base + d) rest
        | rest => grouped base (acc * base + d) rest
      else none

/-- The value of decimal digits without a leading zero. -/
def decimal : List Char → Option Nat
  | '0' :: _ :: _ => none
  | text => grouped 10 0 text

/-- A text without the sign in front of it, and whether that was a minus. -/
def signed : List Char → Bool × List Char
  | '-' :: rest => (true, rest)
  | '+' :: rest => (false, rest)
  | text => (false, text)

/-- The value of the digits of a base, if there are any. -/
def based (base : Nat) (digits : List Char) : Option (Option Int) :=
  if digits = [] then some none else (grouped base 0 digits).map fun n => some (Int.ofNat n)

/-- Tells whether a part between underscores, or behind the last of them, begins with a hexadecimal
digit and, if another one follows, ends with one. -/
def isGroup (last : Bool) (part : List Char) : Bool :=
  part.head?.any (fun c => (Hex.digit? c).isSome) &&
    (last || part.getLast?.any fun c => (Hex.digit? c).isSome)

/-- Tells whether what follows the leading digits of a whole number is made of groups, each behind
an underscore. -/
def isGroups (text : List Char) : Bool :=
  match text.splitOn '_' with
  | [[]] => true
  | [] :: part :: parts =>
    (part :: parts).dropLast.all (isGroup false) && ((part :: parts).getLast?.any (isGroup true))
  | _ => false

/-- The value of a word that is recognized as a whole number, in decimal with an optional sign or in
another base without one. -/
def integer? : List Char → Option (Option Int)
  | '0' :: 'x' :: digits => based 16 digits
  | '0' :: 'o' :: digits => based 8 digits
  | '0' :: 'b' :: digits => based 2 digits
  | text =>
    let body := (signed text).2
    let rest := body.dropWhile Char.isDigit
    if rest.length = body.length || (body.head? = some '0' && body.length ≠ 1) ||
        rest.any [' ', '.', 'e', 'E'].contains || !isGroups rest then none
    else some do
      let n ← Decimal.value? 0 (body.filter (· ≠ '_'))
      return if (signed text).1 then -Int.ofNat n else Int.ofNat n

/-- The exponent behind its letter, zero when there is none. -/
def exponent? : List Char → Option Int
  | [] => some 0
  | _ :: text => do
    let n ← grouped 10 0 (signed text).2
    return if (signed text).1 then -Int.ofNat n else Int.ofNat n

/-- The digits behind the point and their count, none when there is no point. -/
def fraction? (acc : Nat) : List Char → Option (Nat × Nat)
  | [] => some (acc, 0)
  | _ :: text => do return (← grouped 10 acc text, (text.filter (· ≠ '_')).length)

/-- A number with a fraction, an exponent or both, or one of the two special values. -/
def real? (text : List Char) : Option Real :=
  let body := (signed text).2
  if body = ['i', 'n', 'f'] then some .infinity
  else if body = ['n', 'a', 'n'] then some .notANumber
  else
    let isExponentMark (c : Char) : Bool := c = 'e' || c = 'E'
    let mantissa := body.takeWhile (!isExponentMark ·)
    let power := body.dropWhile (!isExponentMark ·)
    let point := mantissa.dropWhile (· ≠ '.')
    if point.isEmpty && power.isEmpty then none
    else do
      let whole ← decimal (mantissa.takeWhile (· ≠ '.'))
      let (digits, places) ← fraction? whole point
      return .decimal digits ((← exponent? power) - places)

namespace Moment

/-- Takes a number of exactly so many digits off the front of a text. -/
def digits (count : Nat) (text : List Char) : Option (Nat × List Char) :=
  if (text.take count).length = count then
    (Decimal.value? 0 (text.take count)).map (·, text.drop count)
  else none

/-- Takes a given character off the front of a text. -/
def mark (c : Char) : List Char → Option (List Char)
  | d :: rest => if d = c then some rest else none
  | [] => none

/-- The number of days of a month. -/
def daysInMonth (year month : Nat) : Nat :=
  if month = 2 then
    if year % 4 = 0 && (year % 100 ≠ 0 || year % 400 = 0) then 29 else 28
  else if month = 4 || month = 6 || month = 9 || month = 11 then 30
  else 31

/-- Takes a date off the front of a text. -/
def date (text : List Char) : Option (List Char) := do
  let (year, text) ← digits 4 text
  let (month, text) ← digits 2 (← mark '-' text)
  let (day, text) ← digits 2 (← mark '-' text)
  if 1 ≤ month ∧ month ≤ 12 ∧ 1 ≤ day ∧ day ≤ daysInMonth year month then some text else none

/-- Takes the fraction of a second off the front of a text, if there is one. -/
def fraction : List Char → Option (List Char)
  | '.' :: text =>
    let rest := text.dropWhile (fun c => (Decimal.digit? c).isSome)
    if rest.length < text.length then some rest else none
  | text => some text

/-- Takes the seconds of a time of day off the front of a text, if there are any. -/
def seconds : List Char → Option (List Char)
  | ':' :: text => do
    let (second, text) ← digits 2 text
    if second ≤ 60 then fraction text else none
  | text => some text

/-- Takes a time of day off the front of a text. -/
def time (text : List Char) : Option (List Char) := do
  let (hour, text) ← digits 2 text
  let (minute, text) ← digits 2 (← mark ':' text)
  if hour ≤ 23 ∧ minute ≤ 59 then seconds text else none

/-- Tells whether a text is an offset from universal time, or nothing. -/
def isOffset (text : List Char) : Bool :=
  match text with
  | [] => true
  | [c] => c = 'Z' || c = 'z'
  | c :: text => (c = '+' || c = '-') && ((do
      let (hours, text) ← digits 2 text
      let (minutes, text) ← digits 2 (← mark ':' text)
      if hours ≤ 23 ∧ minutes ≤ 59 ∧ text.isEmpty then some () else none).isSome)

/-- Tells whether a text is a date, a time of day, or a date and a time of day with or without an
offset. -/
def isMoment (text : List Char) : Bool :=
  match date text with
  | some [] => true
  | some (c :: rest) =>
    (c = 'T' || c = 't' || c = ' ') && (match time rest with
      | some rest => isOffset rest
      | none => false)
  | none => time text == some []

end Moment

/-- The value that an unquoted word stands for. -/
def scalar? (word : List Char) : Option Toml :=
  if word = ['t', 'r', 'u', 'e'] then some (boolean true)
  else if word = ['f', 'a', 'l', 's', 'e'] then some (boolean false)
  else if Moment.isMoment word then some moment
  else match integer? word with
    | some n => some (integer n)
    | none => (real? word).map real

end DnsHealth.Toml
