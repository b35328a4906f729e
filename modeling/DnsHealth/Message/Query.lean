import DnsHealth.Bytes
import DnsHealth.Failure
import DnsHealth.Name.Labels
import DnsHealth.Record.Type

/-!
# Questions

Messages that ask one question. Recursion is always desired. A question about signed data asks for
signatures by an OPT record, and otherwise the server is told not to check any.
-/

namespace DnsHealth

/-- The largest answer that is asked for in one datagram. -/
def payloadSize : UInt16 := 4096

/-- The number of the pseudo type that carries options. -/
def optCode : UInt16 := 41

/-- One question to a server. -/
structure Question where
  /-- The name that is asked about. -/
  name : String
  /-- The type of the records that are asked for. -/
  recordType : RecordType
  /-- Signatures are asked for. -/
  dnssec : Bool
  deriving DecidableEq, Repr

namespace Question

/-- The question for a whole zone. -/
def transfer (zone : String) : Question := ⟨zone, .axfr, false⟩

/-- The two bytes of flags: recursion is desired, and checking is disabled unless signatures are
asked for. -/
def flags (q : Question) : List UInt8 := if q.dnssec then [0x01, 0x00] else [0x01, 0x10]

/-- The OPT record: root owner, payload size, no extended code, version zero, the flag that asks for
signatures, and no options. -/
def optRecord : List UInt8 :=
  0 :: (Bytes.of16 optCode ++ Bytes.of16 payloadSize ++ [0, 0, 0x80, 0] ++ Bytes.of16 0)

/-- The records behind the question. -/
def additional (q : Question) : List UInt8 := if q.dnssec then optRecord else []

/-- The message that asks a question, under a number of its own. -/
def toWire (q : Question) (id : UInt16) : Except Failure (List UInt8) :=
  match LabelName.ofChars? LabelName.asciiLabel? q.name.toList with
  | none => .error (.invalidName q.name)
  | some name =>
    match name.toWire? with
    | none => .error (.invalidResponse "failed to serialize query")
    | some wire =>
      .ok (Bytes.of16 id ++ q.flags ++ Bytes.of16 1 ++ Bytes.of16 0 ++ Bytes.of16 0 ++
        Bytes.of16 (if q.dnssec then 1 else 0) ++ wire ++ Bytes.of16 q.recordType.code ++
        Bytes.of16 1 ++ q.additional)

end Question

end DnsHealth
