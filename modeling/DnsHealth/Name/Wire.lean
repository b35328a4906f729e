import DnsHealth.Failure
import DnsHealth.Name.Basic
import DnsHealth.Text.Utf8

/-!
# Domain names on the wire

The uncompressed form of a name: each label after its length byte, in UTF-8 and with its ASCII
letters in small form, and a zero byte for the root. Labels have 1 to 63 bytes and a whole name has
at most 255. The reader takes such a form off the front of a byte string and leaves the rest, so the
form of a name cannot run into what follows it.
-/

namespace DnsHealth.Name

open Text

/-- The form of one label of a name. -/
def labelToWire (name label : List Char) : Except Failure (List UInt8) :=
  let bytes := Utf8.encode (lower label)
  if label = [] then
    .error (.invalidName ("Empty DNS label in " ++ String.ofList name))
  else if 63 < bytes.length then
    .error (.invalidName ("DNS label too long in " ++ String.ofList name))
  else .ok (UInt8.ofNat bytes.length :: bytes)

/-- The canonical wire form of a name, the points at its end not counted. -/
def encode (name : List Char) : Except Failure (List UInt8) :=
  let trimmed := trimPoints name
  if trimmed = [] then .ok [0]
  else do
    let labels ← (parts trimmed).mapM (labelToWire trimmed)
    let wire := labels.flatten ++ [0]
    if 255 < wire.length then
      .error (.invalidName ("Domain name too long: " ++ String.ofList trimmed))
    else .ok wire

/-- The canonical wire form of a name given as a string. -/
def toWire (name : String) : Except Failure (List UInt8) := encode name.toList

/-- Takes the labels of an uncompressed name off the front of a byte string, read as text and in
small letters. -/
def readLabels : List UInt8 → Except Failure (List (List Char) × List UInt8)
  | [] => .error (.invalidResponse "name in RDATA truncated")
  | length :: bytes =>
    if length = 0 then .ok ([], bytes)
    else if 63 < length then
      .error (.invalidResponse "compressed or invalid label in RRSIG signer name")
    else if bytes.length < length.toNat then
      .error (.invalidResponse "name in RDATA truncated")
    else do
      let (labels, rest) ← readLabels (bytes.drop length.toNat)
      .ok (lower (Utf8.decodeLossy (bytes.take length.toNat)) :: labels, rest)
termination_by bytes => bytes.length
decreasing_by
  simp only [List.length_drop, List.length_cons]
  omega

/-- Labels as a name with a point at its end. -/
def join (labels : List (List Char)) : List Char :=
  if labels = [] then root else labels.flatMap (· ++ ['.'])

/-- Takes an uncompressed name off the front of a byte string. -/
def read (bytes : List UInt8) : Except Failure (String × List UInt8) := do
  let (labels, rest) ← readLabels bytes
  .ok (String.ofList (join labels), rest)

end DnsHealth.Name
