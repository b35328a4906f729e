import DnsHealth.Client.Basic
import DnsHealth.Client.Tasks

/-!
# Processes

A computation that asks servers and runs tasks, cut open wherever the world decides how it goes on:
what a server replies, what time it is, and which of two tasks that run side by side takes the next
step. The world may decide differently every time. No task dies, and waiting takes no decision.
-/

namespace DnsHealth

/-- What is left to the world. -/
inductive Effect where
  /-- The answer to a question. -/
  | query (q : Question) (server : Address)
  /-- The records of a zone. -/
  | transfer (zone : String) (server : Address)
  /-- The time on the watch. -/
  | watch
  /-- The time of day, in seconds since the start of 1970. -/
  | clock
  /-- Whether the first of two tasks takes the next step. -/
  | turn

/-- A call of a client and what came back. -/
inductive Call where
  /-- A question. -/
  | query (q : Question) (server : Address) (reply : Except Failure Answer)
  /-- A transfer. -/
  | transfer (zone : String) (server : Address) (reply : Except Failure (List Record))

namespace Effect

/-- What the world may decide. -/
def Reply : Effect → Type
  | query .. => Except Failure Answer
  | transfer .. => Except Failure (List Record)
  | watch => Duration
  | clock => Int
  | turn => Bool

/-- What a client decides that always replies the same, when no time passes and each task goes on
to its end before the next. -/
def reply (c : Client Id) (now : Int) : (effect : Effect) → effect.Reply
  | query q server => c.query q server
  | transfer zone server => c.transfer zone server
  | watch => Duration.zero
  | clock => now
  | turn => true

/-- The calls that are made of a client. -/
def calls : (effect : Effect) → effect.Reply → List Call
  | query q server, reply => [.query q server reply]
  | transfer zone server, reply => [.transfer zone server reply]
  | watch, _ => []
  | clock, _ => []
  | turn, _ => []

end Effect

/-- A computation that asks servers and runs tasks. -/
inductive Process (α : Type) where
  /-- It has come to its end. -/
  | ended (result : α)
  /-- It waits for a decision. -/
  | step (effect : Effect) (resume : effect.Reply → Process α)

namespace Process

variable {α β γ : Type}

/-- Goes on after a process. -/
def bind (x : Process α) (f : α → Process β) : Process β :=
  match x with
  | ended a => f a
  | step effect resume => step effect fun reply => (resume reply).bind f

instance : Monad Process where
  pure := ended
  bind := bind

/-- Waits for one decision. -/
def perform (effect : Effect) : Process effect.Reply := step effect ended

/-- The client whose replies are waited for. -/
def client : Client Process where
  query q server := perform (.query q server)
  transfer zone server := perform (.transfer zone server)

/-- The clock that shows what it is waited for. -/
def clock : Process Int := perform .clock

/-- Lets a process take any number of steps before another goes on with what is left of it. -/
def precede (next : Process β → Process γ) : Process β → Process γ
  | ended b => next (ended b)
  | step effect resume => step .turn fun (first : Bool) =>
    if first then next (step effect resume)
    else step effect fun reply => (resume reply).precede next

/-- Runs two processes side by side. -/
def beside : Process α → Process β → Process (α × β)
  | ended a, y => y.bind fun b => ended (a, b)
  | step effect resume, y => y.precede fun y => step effect fun reply => (resume reply).beside y

/-- Runs processes side by side. -/
def together : List (Process α) → Process (List α)
  | [] => ended []
  | x :: xs => (x.beside (together xs)).bind fun p => ended (p.1 :: p.2)

instance : Tasks Process where
  isolate x := x.bind fun a => ended (some a)
  together := together
  pause _ := ended ()
  watch := perform .watch

/-- A process comes to a result and makes these calls on its way. -/
inductive Run : Process α → List Call → α → Prop where
  /-- It has come to its end. -/
  | ended (result : α) : Run (.ended result) [] result
  /-- The world decides, and the process goes on. -/
  | step {effect : Effect} {resume : effect.Reply → Process α} {calls : List Call} {result : α}
      (reply : effect.Reply) (later : Run (resume reply) calls result) :
      Run (.step effect resume) (effect.calls reply ++ calls) result

/-- What a process comes to in a world that decides by the calls that were made before, and all
calls in the end. -/
def play (world : List Call → (effect : Effect) → effect.Reply) (made : List Call) :
    Process α → List Call × α
  | ended a => (made, a)
  | step effect resume =>
    (resume (world made effect)).play world (made ++ effect.calls (world made effect))

end Process

end DnsHealth
