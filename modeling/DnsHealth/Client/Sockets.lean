import DnsHealth.Client.Link
import DnsHealth.Client.Tasks
import Std.Async.TCP
import Std.Async.Timer
import Std.Async.UDP

/-!
# Sockets

The link over the sockets of the system, and tasks as threads. Here only bytes are moved and waited
for: what they mean is decided by the conversation that they are shown to.
-/

namespace DnsHealth

open Std.Async

namespace LinkFault

/-- An error of the system as a fault, by what its text tells. -/
def ofError (error : IO.Error) : LinkFault :=
  let tells (phrase : String) : Bool := (error.toString.splitOn phrase).length ≠ 1
  if tells "connection refused" then refused
  else if tells "connection timed out" then timedOut
  else other error.toString

end LinkFault

namespace Sockets

/-- The endpoint of a server. -/
def endpoint (port : UInt16) : Address → Std.Net.SocketAddress
  | .v4 x => .v4 ⟨⟨#v[x.a, x.b, x.c, x.d]⟩, port⟩
  | .v6 x => .v6 ⟨⟨x.groups⟩, port⟩

/-- The endpoint of this machine from which datagrams to a server go out. -/
def unspecified (server : Address) : Std.Net.SocketAddress :=
  match server with
  | .v4 _ => endpoint 0 (.v4 ⟨0, 0, 0, 0⟩)
  | .v6 _ => endpoint 0 (.v6 ⟨Vector.replicate 8 0⟩)

/-- The milliseconds of a duration. -/
def offset (d : Duration) : Std.Time.Millisecond.Offset := .ofNat d.millis

/-- What a selector gives, or a timeout when the timer is first. -/
def select (timer : Selector Unit) (selector : Selector α) : Async (Except LinkFault α) :=
  Selectable.one #[.case selector fun x => return .ok x,
    .case timer fun _ => return .error .timedOut]

/-- Runs something on sockets to its end, with errors of the system as faults. -/
def attempt (x : Async (Except LinkFault α)) : IO (Except LinkFault α) := do
  try x.block
  catch error => return .error (.ofError error)

/-- Sends a datagram and waits for one. -/
def datagram (port : UInt16) (timeout : Duration) (server : Address) (message : List UInt8) :
    Async (Except LinkFault (List UInt8)) := do
  let socket ← UDP.Socket.mk
  socket.bind (unspecified server)
  socket.connect (endpoint port server)
  socket.send ⟨message.toArray⟩
  let timer ← Selector.sleep (offset timeout)
  return (← select timer (socket.recvSelector payloadSize.toUInt64)).map fun (bytes, _) =>
    bytes.toList

/-- Shows the messages on a connection to a conversation, waiting for each a limited time. -/
partial def listen (socket : TCP.Socket.Client) (timeout : Duration)
    (step : σ → List UInt8 → Step σ β) (state : σ) (buffer : List UInt8) (timer : Selector Unit) :
    Async (Except LinkFault β) := do
  match Framing.read? buffer with
  | some (message, rest) =>
    match step state message with
    | .stop result => return .ok result
    | .next state => listen socket timeout step state rest (← Selector.sleep (offset timeout))
  | none =>
    match ← select timer (socket.recvSelector 65536) with
    | .error fault => return .error fault
    | .ok none => return .error .closed
    | .ok (some bytes) => listen socket timeout step state (buffer ++ bytes.toList) timer

/-- Opens a connection, sends a message and listens. -/
def converse (port : UInt16) (timeout : Duration) (step : σ → List UInt8 → Step σ β) (state : σ)
    (server : Address) (message : List UInt8) : Async (Except LinkFault β) := do
  let socket ← TCP.Socket.Client.mk
  let connected ← Async.race
    (do socket.connect (endpoint port server); return true)
    (do sleep (offset timeout); return false)
  if !connected then return .error .timedOut
  socket.noDelay
  match Framing.frame? message with
  | none => return .error .tooLong
  | some framed =>
    socket.send ⟨framed.toArray⟩
    listen socket timeout step state [] (← Selector.sleep (offset timeout))

/-- The link over sockets: one port of every server, and a time that each answer may take. -/
def link (port : UInt16) (timeout : Duration) : Link IO where
  freshId := do
    let bytes ← IO.getRandomBytes 2
    return match Bytes.read16 bytes.toList with
      | some (id, _) => id
      | none => 0
  datagram server message := attempt (datagram port timeout server message)
  converse step state server message := attempt (converse port timeout step state server message)

end Sockets

/-- Tasks as threads. A task that fails with an error of the system is dead. -/
instance : Tasks IO where
  isolate x := do
    try return some (← x)
    catch _ => return none
  together xs := do
    let tasks ← xs.mapM fun x => IO.asTask x Task.Priority.dedicated
    tasks.mapM fun task => IO.ofExcept task.get
  pause d := IO.sleep (.ofNat d.millis)
  watch := return ⟨← IO.monoNanosNow⟩

end DnsHealth
