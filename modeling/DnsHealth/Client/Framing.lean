import DnsHealth.Bytes

/-!
# Messages on a stream

On a stream every message stands behind its length in two bytes, so that no message is longer than
such a number can say. A reader gets back the messages that were written, in order, and a stream
that ends within a message does not give that message.
-/

namespace DnsHealth.Framing

/-- The greatest length of a message on a stream. -/
def maxLength : Nat := 65535

/-- A message behind its length, if it is short enough. -/
def frame? (message : List UInt8) : Option (List UInt8) :=
  if message.length ≤ maxLength then
    some (Bytes.of16 (.ofNat message.length) ++ message)
  else none

/-- Takes a message off the front of a stream. -/
def read? (stream : List UInt8) : Option (List UInt8 × List UInt8) := do
  let (length, rest) ← Bytes.read16 stream
  if length.toNat ≤ rest.length then some (rest.take length.toNat, rest.drop length.toNat) else none

/-- What was written is read back, and what follows it on the stream is left. -/
theorem read?_append_of_frame? {message framed : List UInt8} (h : frame? message = some framed)
    (rest : List UInt8) : read? (framed ++ rest) = some (message, rest) := by
  unfold frame? at h
  split at h
  · next hlength =>
    obtain rfl := Option.some.inj h
    have hnat : (UInt16.ofNat message.length).toNat = message.length := by
      rw [UInt16.toNat_ofNat']
      exact Nat.mod_eq_of_lt (Nat.lt_succ_of_le hlength)
    simp [read?, hnat]
  · simp at h

/-- Reading takes at least the two bytes of the length off a stream. -/
theorem length_read?_lt {stream message rest : List UInt8}
    (h : read? stream = some (message, rest)) : rest.length < stream.length := by
  unfold read? Bytes.read16 at h
  split at h
  · simp only [Option.bind_eq_bind, Option.bind_some] at h
    split at h
    · obtain ⟨-, rfl⟩ := Prod.mk.inj (Option.some.inj h)
      simp only [List.length_drop, List.length_cons]
      omega
    · simp at h
  · simp at h

/-- All whole messages on a stream. -/
def messages (stream : List UInt8) : List (List UInt8) :=
  match _h : read? stream with
  | some (message, rest) => message :: messages rest
  | none => []
termination_by stream.length
decreasing_by exact length_read?_lt ‹_›

end DnsHealth.Framing
