import DnsHealth.Record.Canonical
import DnsHealth.Sorting

/-!
# Signed data

The bytes that a signature is made over: its own header, and then the covered records in canonical
form, each once and in increasing order of their data, all with the owner, the type, the class and
the time to live as they were signed. A signature with fewer labels than the owner was made over a
wildcard, whose name takes the place of the owner.
-/

namespace DnsHealth

/-- The class of the internet. -/
def internetClass : UInt16 := 1

/-- The owner that a set of records had when it was signed, by the number of labels that the
signature counts. -/
def signingOwner (owner : List Char) (labels : Nat) : List Char :=
  if Name.labelCount owner ≤ labels then owner
  else
    let parts := Name.parts (Name.trimPoints owner)
    let suffix := ['.'].intercalate (parts.drop (parts.length - labels))
    if suffix = [] then ['*', '.'] else ['*', '.'] ++ suffix ++ ['.']

/-- Byte strings in the order of their bytes. -/
def bytesLe (x y : List UInt8) : Bool := decide (x ≤ y)

/-- A record in canonical form, given the wire form of the owner and that of the data. -/
def canonicalRecord (owner : List UInt8) (s : Rrsig) (rdata : List UInt8) :
    Except Failure (List UInt8) :=
  if 65535 < rdata.length then .error (.invalidResponse "RDATA longer than 65535 bytes")
  else
    .ok (owner ++ Bytes.of16 s.typeCovered.code ++ Bytes.of16 internetClass ++
      Bytes.of32 s.originalTtl ++ Bytes.of16 (UInt16.ofNat rdata.length) ++ rdata)

/-- The records of a list that a signature covers. -/
def Rrsig.covered (s : Rrsig) (records : List Record) : List Record :=
  records.filter fun r => r.type = s.typeCovered

/-- The bytes that a signature over some records of an owner is made over. -/
def signedData (s : Rrsig) (owner : String) (records : List Record) :
    Except Failure (List UInt8) := do
  let ownerWire ← Name.encode (signingOwner owner.toList s.labels.toNat)
  let rdatas ← (s.covered records).mapM fun r => r.data.canonical
  let head ← s.signedHead
  let lines ← (sortedSet bytesLe rdatas).mapM (canonicalRecord ownerWire s)
  return head ++ lines.flatten

end DnsHealth
