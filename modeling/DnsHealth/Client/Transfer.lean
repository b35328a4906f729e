import DnsHealth.Client.Conversation
import DnsHealth.Message.Response

/-!
# Zone transfers

A server sends a zone as a stream of messages, whose records begin with the zone's SOA and end with
the second SOA. Where one message ends and the next begins does not matter. A first message without
any record is a zone without records, later ones add nothing, and a message with another number or
with an error code ends the transfer as a failure.
-/

namespace DnsHealth

/-- What has come of a zone. -/
structure Transfer where
  /-- The records, in the order in which they came. -/
  records : List Record
  /-- The number of SOA records among them. -/
  soaCount : Nat
  deriving DecidableEq, Repr

/-- Whose zone is transferred, and how the messages are recognized. -/
structure TransferRequest where
  /-- The zone. -/
  zone : String
  /-- The server. -/
  server : Address
  /-- The number of the question. -/
  id : UInt16
  deriving DecidableEq, Repr

namespace Transfer

/-- Nothing yet. -/
def empty : Transfer := ⟨[], 0⟩

/-- The transfer is complete: the second SOA has come. -/
def isComplete (t : Transfer) : Bool := 2 ≤ t.soaCount

/-- Takes in records up to the second SOA. -/
def add (zone : String) (t : Transfer) : List Record → Except Failure Transfer
  | [] => .ok t
  | r :: rest =>
    if r.type ≠ .soa ∧ t.soaCount = 0 then
      .error (.invalidResponse ("AXFR of " ++ zone ++ " did not start with SOA"))
    else
      let t : Transfer :=
        ⟨t.records ++ [r], if r.type = .soa then t.soaCount + 1 else t.soaCount⟩
      if t.isComplete then .ok t else add zone t rest

/-- Takes in a response: the transfer goes on, or comes to its result. -/
def take (request : TransferRequest) (t : Transfer) (response : Response) :
    Step Transfer (Except Failure (List Record)) :=
  if response.id ≠ request.id then
    .stop (.error (.invalidResponse ("AXFR response ID " ++
      Text.Decimal.ofNat response.id.toNat ++ " does not match query ID " ++
      Text.Decimal.ofNat request.id.toNat)))
  else if !response.isSuccess then
    .stop (.error (.protocolError (rcodeName response.rcode) request.zone
      RecordType.axfr.mnemonic request.server.text))
  else if response.answers = [] ∧ t.records = [] then .stop (.ok [])
  else match t.add request.zone response.answers with
    | .error f => .stop (.error f)
    | .ok t => if t.isComplete then .stop (.ok t.records) else .next t

/-- Takes in the bytes of a message. -/
def receive (request : TransferRequest) (t : Transfer) (message : List UInt8) :
    Step Transfer (Except Failure (List Record)) :=
  match Response.ofWire message with
  | .error f => .stop (.error f)
  | .ok response => t.take request response

end Transfer

end DnsHealth
