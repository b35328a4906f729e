import DnsHealth.Message.Query
import DnsHealth.Record.Data
import DnsHealth.Time.Duration

/-!
# Clients

What asks servers: one question at a time, or for a whole zone. The operations of the library work
with any client; its effects are those of the monad that it answers in.
-/

namespace DnsHealth

/-- The answer of a server to a question. -/
structure Answer where
  /-- The answers. -/
  answers : List Record
  /-- The records of the authority section. -/
  authority : List Record
  /-- The server has authority for the name. -/
  authoritative : Bool
  /-- The server offers recursion. -/
  recursionAvailable : Bool
  /-- The server. -/
  server : Address
  /-- How long the answer took. -/
  rtt : Duration
  deriving DecidableEq, Repr

/-- The records of one type in an answer. -/
structure RecordSet where
  /-- The records. -/
  records : List Record
  /-- How long the answer took. -/
  rtt : Duration
  deriving DecidableEq, Repr

/-- What asks servers. -/
structure Client (m : Type → Type) where
  /-- Asks a server one question. A response code other than zero is a failure. -/
  query : Question → Address → m (Except Failure Answer)
  /-- Asks a server for all records of a zone. -/
  transfer : String → Address → m (Except Failure (List Record))

/-- The records of the type that a question asks for. An answer without any is a failure. -/
def Answer.recordSet (q : Question) (server : Address) (answer : Answer) :
    Except Failure RecordSet :=
  let records := Record.ofTypes [q.recordType] answer.answers
  if records = [] then .error (.noData q.name q.recordType.mnemonic server.text)
  else .ok ⟨records, answer.rtt⟩

/-- Asks a server for the records of one type. -/
def Client.recordSet [Monad m] (c : Client m) (q : Question) (server : Address) :
    m (Except Failure RecordSet) := do
  return (← c.query q server) >>= Answer.recordSet q server

end DnsHealth
