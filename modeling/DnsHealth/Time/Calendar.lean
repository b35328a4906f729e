import DnsHealth.Text.Decimal

/-!
# Calendar dates

Seconds since the start of 1970 as date and time of day in the Gregorian calendar, which is
continued into the past and the future without end. The printed form is kept to years of at most six
digits.
-/

namespace DnsHealth

open Text (Decimal.ofNat Decimal.padded)

/-- A date of the Gregorian calendar. -/
structure Date where
  /-- The year, with a year zero before year one. -/
  year : Int
  /-- The month, from one to twelve. -/
  month : Nat
  /-- The day of the month, from one. -/
  day : Nat
  deriving DecidableEq, Repr

namespace Date

/-- The date that is a number of days after the first of January 1970. Years are counted from March,
so that the leap day is the last one, and in cycles of four hundred. -/
def ofDays (days : Int) : Date :=
  let shifted := days + 719468
  let cycle := Int.fdiv shifted 146097
  let dayOfCycle := (Int.fmod shifted 146097).toNat
  let yearOfCycle :=
    (dayOfCycle - dayOfCycle / 1460 + dayOfCycle / 36524 - dayOfCycle / 146096) / 365
  let dayOfYear := dayOfCycle - (365 * yearOfCycle + yearOfCycle / 4 - yearOfCycle / 100)
  let marchMonth := (5 * dayOfYear + 2) / 153
  let month := if marchMonth < 10 then marchMonth + 3 else marchMonth - 9
  { year := cycle * 400 + yearOfCycle + (if month ≤ 2 then 1 else 0)
    month
    day := dayOfYear - (153 * marchMonth + 2) / 5 + 1 }

/-- A year with at least four digits, and with a sign when it has more or is negative. -/
def yearText (year : Int) : String :=
  if year < 0 then "-" ++ Decimal.padded 4 year.natAbs
  else if year ≤ 9999 then Decimal.padded 4 year.toNat
  else "+" ++ Decimal.ofNat year.toNat

/-- Year, month and day. -/
def text (d : Date) : String :=
  yearText d.year ++ "-" ++ Decimal.padded 2 d.month ++ "-" ++ Decimal.padded 2 d.day

end Date

/-- A moment by its seconds since the start of 1970. -/
structure Timestamp where
  /-- The seconds, negative before 1970. -/
  seconds : Int
  deriving DecidableEq, Repr

namespace Timestamp

/-- The date of a moment. -/
def date (t : Timestamp) : Date := Date.ofDays (Int.fdiv t.seconds 86400)

/-- The seconds that have passed on that date. -/
def secondOfDay (t : Timestamp) : Nat := (Int.fmod t.seconds 86400).toNat

/-- Tells whether a moment has a printed form. -/
def inCalendar (t : Timestamp) : Bool :=
  decide (-262143 ≤ t.date.year ∧ t.date.year ≤ 262142)

/-- Date and time of day. -/
def text (t : Timestamp) : String :=
  let s := t.secondOfDay
  t.date.text ++ " " ++ Decimal.padded 2 (s / 3600) ++ ":" ++
    Decimal.padded 2 (s / 60 % 60) ++ ":" ++ Decimal.padded 2 (s % 60)

end Timestamp

end DnsHealth
