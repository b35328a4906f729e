/-!
# Bitmaps of types

The sets of types in denials of existence: windows of 256 types, each with its number, a length, and
that many bytes of bits. A set may break off anywhere, but no bit may lie outside its window and no
window may be empty.
-/

namespace DnsHealth.Message

/-- What comes next in a bitmap. -/
inductive BitmapState where
  /-- The number of a window. -/
  | window
  /-- The length of a window. -/
  | size
  /-- A byte of bits, of a window with the given length and the given number of bytes to come. -/
  | bits (length left : Nat)
  deriving DecidableEq, Repr

/-- Takes in one byte of a bitmap. -/
def BitmapState.step : BitmapState → UInt8 → Option BitmapState
  | window, _ => some size
  | size, b => some (bits b.toNat b.toNat)
  | bits length left, b =>
    if left = 0 ∨ (b ≠ 0 ∧ 32 ≤ length - left) then none
    else if left = 1 then some window
    else some (bits length (left - 1))

/-- Tells whether a byte string is a bitmap of types. -/
def isTypeBitmap (bytes : List UInt8) : Bool := (bytes.foldlM BitmapState.step .window).isSome

end DnsHealth.Message
