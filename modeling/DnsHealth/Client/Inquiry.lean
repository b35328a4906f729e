import DnsHealth.Client.Basic

/-!
# Inquiries

A computation that uses a client, cut open at its questions: it has come to its end, or it waits for
a reply and goes on from there. Whoever runs it hands in the replies one at a time, and other things
may happen between two of them.
-/

namespace DnsHealth

/-- A computation that asks servers. -/
inductive Inquiry (α : Type) where
  /-- It has come to its end. -/
  | ended (result : α)
  /-- It waits for the answer to a question. -/
  | query (q : Question) (server : Address) (resume : Except Failure Answer → Inquiry α)
  /-- It waits for the records of a zone. -/
  | transfer (zone : String) (server : Address)
      (resume : Except Failure (List Record) → Inquiry α)

namespace Inquiry

/-- Goes on after a computation. -/
def bind {α β : Type} (x : Inquiry α) (f : α → Inquiry β) : Inquiry β :=
  match x with
  | ended a => f a
  | query q server resume => query q server fun reply => (resume reply).bind f
  | transfer zone server resume => transfer zone server fun reply => (resume reply).bind f

instance : Monad Inquiry where
  pure := ended
  bind := bind

/-- The client whose replies are waited for. -/
def client : Client Inquiry where
  query q server := query q server ended
  transfer zone server := transfer zone server ended

/-- A reply comes, and the computation goes on to its next question or to its end. -/
inductive Replied {α : Type} : Inquiry α → Inquiry α → Prop where
  /-- The answer to a question, or the failure of the server to give one. -/
  | query {q : Question} {server : Address} {resume : Except Failure Answer → Inquiry α}
      (reply : Except Failure Answer) : Replied (query q server resume) (resume reply)
  /-- The records of a zone, or the failure of the server to send them. -/
  | transfer {zone : String} {server : Address}
      {resume : Except Failure (List Record) → Inquiry α}
      (reply : Except Failure (List Record)) : Replied (transfer zone server resume) (resume reply)

end Inquiry

end DnsHealth
