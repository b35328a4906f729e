import DnsHealth.Client.Basic
import DnsHealth.Client.Link
import DnsHealth.Client.Tasks
import DnsHealth.Client.Transfer

/-!
# The client of a network

A question goes out in a datagram, and once more over a connection when the answer did not fit into
one; the answer over the connection then takes the place of the first altogether. An answer counts
only if its number is that of the question and its code reports no error. Zones are transferred over
a connection from the start.
-/

namespace DnsHealth

/-- The answer that a response gives to a question, and how long it took. -/
def Question.accept (q : Question) (server : Address) (endpoint : String) (id : UInt16)
    (response : Response) (rtt : Duration) : Except Failure Answer :=
  if response.id ≠ id then
    .error (.invalidResponse ("response ID " ++ Text.Decimal.ofNat response.id.toNat ++
      " does not match query ID " ++ Text.Decimal.ofNat id.toNat ++ " from " ++ endpoint))
  else if !response.isSuccess then
    .error (.protocolError (rcodeName response.rcode) q.name q.recordType.mnemonic server.text)
  else .ok {
    answers := response.answers
    authority := response.authority
    authoritative := response.authoritative
    recursionAvailable := response.recursionAvailable
    server
    rtt }

namespace Link

/-- Something done over a link, whose fault is a failure to reach an endpoint. -/
def reach [Functor m] (endpoint : String) (x : m (Except LinkFault α)) : ExceptT Failure m α :=
  ExceptT.mk ((Except.mapError (LinkFault.failure endpoint)) <$> x)

/-- Sends a question in its wire form and reads the response to it. -/
def exchange [Monad m] (link : Link m) (server : Address) (endpoint : String)
    (message : List UInt8) : ExceptT Failure m Response := do
  let bytes ← reach endpoint (link.datagram server message)
  let response ← ExceptT.mk (pure (Response.ofWire bytes))
  if response.truncated then
    let bytes ← reach endpoint
      (link.converse (fun (_ : Unit) bytes => Step.stop bytes) () server message)
    ExceptT.mk (pure (Response.ofWire bytes))
  else return response

/-- The client that asks every server over a link, at one port. -/
def client [Monad m] [Tasks m] (link : Link m) (port : UInt16) : Client m where
  query q server := ExceptT.run do
    let endpoint := server.withPort port
    let id ← ExceptT.lift link.freshId
    let message ← ExceptT.mk (pure (q.toWire id))
    let start ← ExceptT.lift Tasks.watch
    let response ← link.exchange server endpoint message
    let stop ← ExceptT.lift Tasks.watch
    ExceptT.mk (pure (q.accept server endpoint id response
      ⟨stop.nanoseconds - start.nanoseconds⟩))
  transfer zone server := ExceptT.run do
    let endpoint := server.withPort port
    let id ← ExceptT.lift link.freshId
    let message ← ExceptT.mk (pure ((Question.transfer zone).toWire id))
    let result ← reach endpoint
      (link.converse (Transfer.receive ⟨zone, server, id⟩) Transfer.empty server message)
    ExceptT.mk (pure result)

end Link

end DnsHealth
