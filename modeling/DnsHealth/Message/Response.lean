import DnsHealth.Message.Convert
import DnsHealth.Message.Rcode

/-!
# Responses

A message that answers a question, with the records of its answer and authority sections that can be
read. A question in place of an answer is a failure.
-/

namespace DnsHealth

/-- A response. -/
structure Response where
  /-- The number of the message. -/
  id : UInt16
  /-- The response code. -/
  rcode : Nat
  /-- The answer did not fit into one datagram. -/
  truncated : Bool
  /-- The server has authority for the name. -/
  authoritative : Bool
  /-- The server offers recursion. -/
  recursionAvailable : Bool
  /-- The answers. -/
  answers : List Record
  /-- The records of the authority section. -/
  authority : List Record
  deriving DecidableEq, Repr

namespace Response

/-- The server reports no error. -/
def isSuccess (r : Response) : Bool := r.rcode == 0

/-- Reads a response out of the bytes of a message. -/
def ofWire (bytes : List UInt8) : Except Failure Response :=
  match Message.decoded.run? bytes with
  | none => .error (.invalidResponse "failed to parse response")
  | some m =>
    if m.response then
      .ok {
        id := m.id
        rcode := m.rcode
        truncated := m.truncated
        authoritative := m.authoritative
        recursionAvailable := m.recursionAvailable
        answers := Message.convertSection m.answers
        authority := Message.convertSection m.authority }
    else .error (.invalidResponse "received a query instead of a response")

end Response

end DnsHealth
