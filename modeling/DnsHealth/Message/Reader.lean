import DnsHealth.Bytes
import DnsHealth.Name.Labels

/-!
# Reading messages

A position in a message with the bytes that may still be read from there, and readers that move it
forward or fail. Names may point back into the message: every pointer leads to a place strictly
before the stretch of labels that it ends, and that earlier stretch may not run into the later one,
so the reading of a name comes to an end.
-/

namespace DnsHealth.Message

/-- A position in a message. -/
structure Cursor where
  /-- The number of bytes before the position. -/
  index : Nat
  /-- The bytes that may be read from there. -/
  rest : List UInt8
  deriving DecidableEq, Repr

/-- What takes something off a message at a position. The whole message is at hand for pointers. -/
abbrev Reader := ReaderT (List UInt8) (StateT Cursor Option)

namespace Reader

/-- Runs a reader at the start of a message. -/
def run? (r : Reader α) (message : List UInt8) : Option α :=
  (r message ⟨0, message⟩).map (·.1)

/-- No reading at all. -/
def fail : Reader α := fun _ _ => none

/-- Goes on only if a condition holds. -/
def require (condition : Bool) : Reader Unit := if condition then pure () else fail

/-- What can be read as a whole from optional parts. -/
def ofOption : Option α → Reader α
  | some x => pure x
  | none => fail

/-- Takes a given number of bytes. -/
def take (n : Nat) : Reader (List UInt8) := fun _ c =>
  let bytes := c.rest.take n
  if bytes.length < n then none else some (bytes, ⟨c.index + n, c.rest.drop n⟩)

/-- Takes all bytes that are left. -/
def takeAll : Reader (List UInt8) := fun _ c =>
  some (c.rest, ⟨c.index + c.rest.length, []⟩)

/-- Takes one byte. -/
def u8 : Reader UInt8 := fun _ c =>
  match c.rest with
  | a :: rest => some (a, ⟨c.index + 1, rest⟩)
  | _ => none

/-- Takes a number of sixteen bits. -/
def u16 : Reader UInt16 := fun _ c =>
  match Bytes.read16 c.rest with
  | some (n, rest) => some (n, ⟨c.index + 2, rest⟩)
  | none => none

/-- Takes a number of thirty-two bits. -/
def u32 : Reader UInt32 := fun _ c =>
  match Bytes.read32 c.rest with
  | some (n, rest) => some (n, ⟨c.index + 4, rest⟩)
  | none => none

/-- Takes a stretch of a given number of bytes with a reader that has to use it up. -/
def within (n : Nat) (r : Reader α) : Reader α := fun message c =>
  let bytes := c.rest.take n
  if bytes.length < n then none
  else match r message ⟨c.index, bytes⟩ with
    | some (x, ⟨_, []⟩) => some (x, ⟨c.index + n, c.rest.drop n⟩)
    | _ => none

/-- Takes something a given number of times. -/
def times : Nat → Reader α → Reader (List α)
  | 0, _ => pure []
  | n + 1, r => do
    let x ← r
    let xs ← times n r
    return x :: xs

end Reader

/-- Takes the labels of a name from a stretch that begins at a place and may not reach a limit,
together with the position behind the stretch. The size counts the bytes of the labels before, which
leave room for the root label in the 255 bytes of a name. -/
def readRun (message : List UInt8) (start : Nat) (limit : Option Nat) (size index : Nat) :
    List UInt8 → Option (List (List UInt8) × Cursor)
  | [] => none
  | b :: tail =>
    if limit.any (· ≤ index) then none
    else if b = 0 then some ([], ⟨index + 1, tail⟩)
    else if 0xC0 ≤ b then
      match tail with
      | [] => none
      | low :: tail =>
        let target := b.toNat % 64 * 256 + low.toNat
        if _h : target < start then
          match readRun message target (some start) size target (message.drop target) with
          | none => none
          | some (labels, _) => some (labels, ⟨index + 2, tail⟩)
        else none
    else if 64 ≤ b then none
    else
      let label := tail.take b.toNat
      let size := size + b.toNat + 1
      if label.length < b.toNat ∨ 254 < size then none
      else match readRun message start limit size (index + 1 + b.toNat) (tail.drop b.toNat) with
        | none => none
        | some (labels, c) => some (label :: labels, c)
-- A pointer lowers the start, which so has to outweigh all that a stretch can hold.
termination_by rest => start * (message.length + 1) + rest.length
decreasing_by
  · have hstart := Nat.mul_le_mul_right (message.length + 1) _h
    rw [Nat.succ_mul] at hstart
    rw [List.length_drop]
    change target * (message.length + 1) + _ < _
    omega
  · simp only [List.length_drop, List.length_cons]
    omega

namespace Reader

/-- Takes a name, which may be compressed. -/
def name : Reader LabelName := fun message c =>
  match readRun message c.index none 0 c.index c.rest with
  | none => none
  | some (labels, c) => some (⟨labels, true⟩, c)

end Reader

end DnsHealth.Message
