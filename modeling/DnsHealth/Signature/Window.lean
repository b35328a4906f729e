import DnsHealth.Json.Decode
import DnsHealth.Time.Calendar

/-!
# Validity windows

The time in which a signature is valid. A signature gives the two ends as numbers of thirty-two bits
that count seconds in a circle, so each end stands for the moment nearest to the current time among
those with that remainder: the one after `now - 2 ^ 31` and up to `now + 2 ^ 31`.
-/

namespace DnsHealth

/-- The number of seconds after which the time fields of a signature start again. -/
def serialModulus : Int := 4294967296

/-- The distance from the current time within which time fields are taken. -/
def serialHalfRange : Int := 2147483648

/-- The moment that a time field means at the current time. -/
def unwrapSerial (field : UInt32) (now : Int) : Int :=
  let seconds := Int.ofNat field.toNat
  seconds + Int.fdiv (now - seconds + serialHalfRange) serialModulus * serialModulus

/-- The first and the last second of validity. -/
structure ValidityWindow where
  /-- The first second. -/
  start : Int
  /-- The last second. -/
  stop : Int
  deriving DecidableEq, Repr

namespace ValidityWindow

/-- The window that the time fields of a signature mean at the current time. -/
def ofFields (inception expiration : UInt32) (now : Int) : ValidityWindow :=
  ⟨unwrapSerial inception now, unwrapSerial expiration now⟩

/-- Tells whether a moment lies in a window. -/
def contains (w : ValidityWindow) (now : Int) : Bool := decide (w.start ≤ now ∧ now ≤ w.stop)

/-- The two ends as dates, or as plain seconds if one of them has no date. -/
def text (w : ValidityWindow) : String :=
  let first : Timestamp := ⟨w.start⟩
  let last : Timestamp := ⟨w.stop⟩
  if first.inCalendar && last.inCalendar then first.text ++ " -> " ++ last.text
  else Text.Decimal.ofInt w.start ++ " -> " ++ Text.Decimal.ofInt w.stop

/-- A window as JSON. -/
def toJson (w : ValidityWindow) : Json := .obj [("start", .int w.start), ("end", .int w.stop)]

/-- Reads a window from JSON. -/
def ofJson? (j : Json) : Option ValidityWindow := do
  let fs ← j.fields? ["start", "end"]
  return {
    start := ← fs.required "start" Json.int64?
    stop := ← fs.required "end" Json.int64? }

/-- A window that contains a moment is not empty. -/
theorem start_le_stop {w : ValidityWindow} {now : Int} (h : w.contains now = true) :
    w.start ≤ w.stop := by
  simp only [contains, decide_eq_true_eq] at h
  omega

end ValidityWindow

end DnsHealth
