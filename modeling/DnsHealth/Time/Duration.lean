import DnsHealth.Json.Decode
import DnsHealth.Number.Binary64
import DnsHealth.Text.Decimal

/-!
# Durations

Spans of time in whole nanoseconds. They are written as whole milliseconds, what is left of one
dropped, or as seconds with one decimal place; writing a duration of whole milliseconds and reading
it back gives the same duration.
-/

namespace DnsHealth

/-- A span of time. -/
structure Duration where
  /-- Its length in nanoseconds. -/
  nanoseconds : Nat
  deriving DecidableEq, Repr

namespace Duration

open Number (Binary64)

/-- No time at all. -/
def zero : Duration := ⟨0⟩

/-- A number of whole milliseconds. -/
def ofMillis (n : Nat) : Duration := ⟨n * 1000000⟩

/-- The nearest duration to a number of seconds. -/
def ofSeconds (x : Binary64) : Duration := ⟨x.count 1000000000⟩

/-- The whole milliseconds, as a counter of sixty-four bits holds them. -/
def millis (d : Duration) : Nat := d.nanoseconds / 1000000 % 18446744073709551616

/-- The longer of two durations. -/
def max (d e : Duration) : Duration := ⟨Nat.max d.nanoseconds e.nanoseconds⟩

/-- A duration in seconds. -/
def seconds (d : Duration) : Binary64 :=
  (Binary64.ofNat (d.nanoseconds / 1000000000)).add
    (Binary64.ofQuotient (d.nanoseconds % 1000000000) 1000000000)

/-- A number of seconds with one decimal place and the unit. -/
def secondsText (x : Binary64) : String :=
  let tenths := x.count 10
  Text.Decimal.ofNat (tenths / 10) ++ "." ++ Text.Decimal.ofNat (tenths % 10) ++ "s"

/-- A duration as JSON, in milliseconds. -/
def toJson (d : Duration) : Json := .nat d.millis

/-- Reads a duration in milliseconds from JSON. -/
def ofJson? (j : Json) : Option Duration := j.uint64?.map ofMillis

/-- Milliseconds that fit their counter read back. -/
theorem millis_ofMillis {n : Nat} (h : n < 18446744073709551616) : (ofMillis n).millis = n := by
  rw [millis, ofMillis, Nat.mul_div_cancel n (by decide), Nat.mod_eq_of_lt h]

end Duration

end DnsHealth
