import DnsHealth.Bytes

/-!
# Messages in blocks

How the hash functions of the SHA family cut a message: one bit and then zeros are appended, and the
length of the message in bits, so that whole blocks come out; each block is a list of words.
-/

namespace DnsHealth.Crypto

/-- A list cut into pieces of one length, the last one possibly shorter. -/
def pieces (size : Nat) (xs : List α) : List (List α) :=
  if _h : 0 < size ∧ xs ≠ [] then xs.take size :: pieces size (xs.drop size) else []
termination_by xs.length
decreasing_by
  have := List.length_pos_iff.2 _h.2
  simp only [List.length_drop]
  omega

/-- A message filled up to whole blocks, with its length in bits in the last bytes. -/
def padded (blockSize lengthSize : Nat) (message : List UInt8) : List UInt8 :=
  let used := (message.length + 1 + lengthSize) % blockSize
  let zeros := if used = 0 then 0 else blockSize - used
  message ++ 0x80 :: (List.replicate zeros 0 ++ Bytes.ofNat lengthSize (8 * message.length))

/-- The words of a padded message, block by block. -/
def blocks (width : Nat) (message : List UInt8) : List (Array (BitVec width)) :=
  let wordSize := width / 8
  (pieces (16 * wordSize) (padded (16 * wordSize) (2 * wordSize) message)).map fun block =>
    ((pieces wordSize block).map fun word => BitVec.ofNat width (Bytes.toNat word)).toArray

/-- The bytes of a list of words. -/
def ofWords (width : Nat) (words : List (BitVec width)) : List UInt8 :=
  words.flatMap fun word => Bytes.ofNat (width / 8) word.toNat

/-- A padded message consists of whole blocks. -/
theorem length_padded_mod {blockSize : Nat} (hpos : 0 < blockSize) (lengthSize : Nat)
    (message : List UInt8) : (padded blockSize lengthSize message).length % blockSize = 0 := by
  have hlength : ∀ zeros : Nat, message.length + (zeros + lengthSize + 1) =
      message.length + 1 + lengthSize + zeros := by omega
  simp only [padded, List.length_append, List.length_cons, List.length_replicate,
    Bytes.length_ofNat, hlength]
  have hlt := Nat.mod_lt (message.length + 1 + lengthSize) hpos
  split
  · next h => simpa using h
  · next h =>
    rw [Nat.add_mod, Nat.mod_eq_of_lt (a := blockSize - _) (by omega)]
    have hsum : (message.length + 1 + lengthSize) % blockSize +
        (blockSize - (message.length + 1 + lengthSize) % blockSize) = blockSize := by omega
    rw [hsum, Nat.mod_self]

end DnsHealth.Crypto
