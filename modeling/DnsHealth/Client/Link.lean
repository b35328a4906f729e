import DnsHealth.Address.Text
import DnsHealth.Client.Conversation
import DnsHealth.Client.Framing
import DnsHealth.Failure
import DnsHealth.Message.Query

/-!
# Links

The way to the servers: single datagrams, and connections over which messages stream. A link says
what went wrong in its own terms, and the endpoint that it was about turns them into a failure. The
link to peers that are given by what they send has no effects.
-/

namespace DnsHealth

/-- What goes wrong on a link. -/
inductive LinkFault where
  /-- Nothing came in time. -/
  | timedOut
  /-- Nobody listens at the endpoint. -/
  | refused
  /-- Something else, in the words of the system. -/
  | other (reason : String)
  deriving DecidableEq, Repr

namespace LinkFault

/-- A fault as a failure to reach an endpoint. -/
def failure (endpoint : String) : LinkFault → Failure
  | timedOut => .timeout endpoint
  | refused => .connectionRefused endpoint
  | other reason => .transport endpoint reason

/-- The stream ended within a message. -/
def closed : LinkFault := other "early eof"

/-- The message is too long for a stream. -/
def tooLong : LinkFault := other "DNS message exceeds 65535 bytes"

end LinkFault

/-- The way to the servers. -/
structure Link (m : Type → Type) where
  /-- A number for a message, which nobody can guess. -/
  freshId : m UInt16
  /-- Sends a datagram to a server and gives the one that comes back, cut off behind the payload
  size that questions ask for. -/
  datagram : Address → List UInt8 → m (Except LinkFault (List UInt8))
  /-- Sends a message over a new connection to a server and shows the messages that come back to a
  conversation until it comes to its result. -/
  converse : {σ β : Type} → (σ → List UInt8 → Step σ β) → σ → Address → List UInt8 →
    m (Except LinkFault β)

/-- What a peer sends, whatever it is sent. -/
structure Peer where
  /-- The datagram that comes back. -/
  datagram : Except LinkFault (List UInt8)
  /-- The bytes that come over a connection, and the fault that waiting for more runs into. -/
  stream : Except LinkFault (List UInt8 × LinkFault)

namespace Peer

/-- The peer that no network reaches. -/
def beyond (fault : LinkFault) : Peer := ⟨.error fault, .error fault⟩

/-- The result of a conversation with a peer. -/
def converse (peer : Peer) (step : σ → List UInt8 → Step σ β) (state : σ)
    (message : List UInt8) : Except LinkFault β := do
  let (bytes, ending) ← peer.stream
  if (Framing.frame? message).isNone then throw .tooLong
  match Step.feed step state (Framing.messages bytes) with
  | some result => return result
  | none => throw ending

/-- The link to peers, under a number for all messages. -/
def link (peers : Address → Peer) (id : UInt16) : Link Id where
  freshId := id
  datagram server _ := (peers server).datagram.map (·.take payloadSize.toNat)
  converse step state server message := (peers server).converse step state message

end Peer

end DnsHealth
