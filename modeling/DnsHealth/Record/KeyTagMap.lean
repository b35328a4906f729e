import DnsHealth.Record.Dnskey

/-!
# Keys by key tag

The keys of one zone under their key tags, in increasing order of the tags. A second key with a tag
already present takes the place of the first if both have the same public key; otherwise the two
collide, and the map stays as it was.
-/

namespace DnsHealth

/-- The keys of a zone, each under its tag, in increasing order of the tags. -/
structure KeyTagMap where
  /-- The tags and their keys. -/
  entries : List (UInt16 × Dnskey)
  deriving DecidableEq, Repr

namespace KeyTagMap

/-- The map without keys. -/
def empty : KeyTagMap := ⟨[]⟩

/-- The key with a given tag. -/
def get? (m : KeyTagMap) (tag : UInt16) : Option Dnskey := m.entries.lookup tag

/-- The entries with a key put under a tag, in place of the one that was there. -/
def put (tag : UInt16) (key : Dnskey) : List (UInt16 × Dnskey) → List (UInt16 × Dnskey)
  | [] => [(tag, key)]
  | (t, k) :: rest =>
    if tag < t then (tag, key) :: (t, k) :: rest
    else if tag = t then (tag, key) :: rest
    else (t, k) :: put tag key rest

/-- The map with a key added under its own tag, for a zone that a failure then names. -/
def insert (m : KeyTagMap) (zone : String) (key : Dnskey) : Except Failure KeyTagMap :=
  match m.get? key.keyTag with
  | some known =>
    if known.publicKey = key.publicKey then .ok ⟨put key.keyTag key m.entries⟩
    else .error (.keyTagCollision zone key.keyTag)
  | none => .ok ⟨put key.keyTag key m.entries⟩

/-- The number of keys. -/
def size (m : KeyTagMap) : Nat := m.entries.length

/-- The map has no key. -/
def isEmpty (m : KeyTagMap) : Bool := m.entries.isEmpty

/-- The keys, in increasing order of their tags. -/
def keys (m : KeyTagMap) : List Dnskey := m.entries.map (·.2)

end KeyTagMap

end DnsHealth
