import DnsHealth.Client.Basic

/-!
# Exchanges with servers

What passes between a client and servers, one question and one reply at a time. A client that
answers as a function of the question and the server gives the same replies in every state. For any
client there is one that answers the same and keeps a record of all its exchanges.
-/

namespace DnsHealth

variable {σ : Type}

/-- A question that was put to a server, and what came back. -/
structure Exchange where
  /-- The question. -/
  question : Question
  /-- The server. -/
  server : Address
  /-- What came back. -/
  reply : Except Failure Answer

namespace Exchange

/-- The records that came back, none if the server gave no answer. -/
def records (e : Exchange) : List Record :=
  match e.reply with
  | .ok answer => answer.answers
  | .error _ => []

/-- The keys that came back. -/
def keys (e : Exchange) : List Dnskey := e.records.filterMap Record.dnskey?

/-- The delegation signers that came back. -/
def signers (e : Exchange) : List Ds := e.records.filterMap Record.ds?

/-- The exchanges about one question with several servers that answer as a function of the
question and the server. -/
def about (answers : Question → Address → Except Failure Answer) (q : Question)
    (servers : List Address) : List Exchange :=
  servers.map fun server => ⟨q, server, answers q server⟩

/-- The records of an exchange that brought an answer are those of the answer. -/
theorem records_of_ok {e : Exchange} {answer : Answer} (h : e.reply = .ok answer) :
    e.records = answer.answers := by
  simp only [records, h]

end Exchange

namespace Client

/-- The answers of a client are a function of the question and the server, whatever its state. -/
def AnswersBy (c : Client (StateM σ)) (answers : Question → Address → Except Failure Answer) :
    Prop :=
  ∀ q server st, ((c.query q server).run st).1 = answers q server

/-- The exchanges that come about when a client in a given state puts one question to several
servers, one after the other. -/
def ask (c : Client (StateM σ)) (q : Question) : List Address → σ → List Exchange
  | [], _ => []
  | server :: servers, st =>
    ⟨q, server, ((c.query q server).run st).1⟩ :: c.ask q servers ((c.query q server).run st).2

/-- The state in which a client is left that has put one question to several servers. -/
def stateAfter (c : Client (StateM σ)) (q : Question) (servers : List Address) (st : σ) : σ :=
  servers.foldl (fun st server => ((c.query q server).run st).2) st

/-- A client without a state that answers by a function. It makes no transfers. -/
def ofAnswers (answers : Question → Address → Except Failure Answer) : Client (StateM Unit) where
  query q server := pure (answers q server)
  transfer zone server := pure (.error (.protocolError "REFUSED" zone "AXFR" server.text))

/-- A client that is given by its answers answers by them. -/
theorem answersBy_ofAnswers (answers : Question → Address → Except Failure Answer) :
    (ofAnswers answers).AnswersBy answers :=
  fun _ _ _ => rfl

/-- Such a client leads to the same exchanges in every state. -/
theorem AnswersBy.ask_eq {c : Client (StateM σ)}
    {answers : Question → Address → Except Failure Answer} (hc : c.AnswersBy answers)
    (q : Question) (servers : List Address) (st : σ) :
    c.ask q servers st = Exchange.about answers q servers := by
  induction servers generalizing st with
  | nil => rfl
  | cons server servers ih => rw [ask, hc, ih, Exchange.about, Exchange.about, List.map_cons]

/-- Every exchange that comes about is about the one question. -/
theorem question_of_mem_ask {c : Client (StateM σ)} {q : Question} {servers : List Address}
    {st : σ} {e : Exchange} (he : e ∈ c.ask q servers st) : e.question = q := by
  induction servers generalizing st with
  | nil => cases he
  | cons server servers ih =>
    rcases List.mem_cons.mp he with rfl | he
    · rfl
    · exact ih he

/-- Every server is asked once, in the order of the list. -/
theorem map_server_ask (c : Client (StateM σ)) (q : Question) (servers : List Address) (st : σ) :
    (c.ask q servers st).map (·.server) = servers := by
  induction servers generalizing st with
  | nil => rfl
  | cons server servers ih => rw [ask, List.map_cons, ih]

/-- The client that answers like a given one and keeps a record of its questions and answers. -/
def recorded (c : Client (StateM σ)) : Client (StateM (σ × List Exchange)) where
  query q server := fun (st, log) =>
    let reply := (c.query q server).run st
    (reply.1, reply.2, log ++ [⟨q, server, reply.1⟩])
  transfer zone server := fun (st, log) =>
    let reply := (c.transfer zone server).run st
    (reply.1, reply.2, log)

/-- A client that keeps a record has all the exchanges in it, in their order. -/
theorem log_stateAfter_recorded (c : Client (StateM σ)) (q : Question) (servers : List Address)
    (st : σ) (log : List Exchange) :
    (c.recorded.stateAfter q servers (st, log)).2 = log ++ c.recorded.ask q servers (st, log) := by
  induction servers generalizing st log with
  | nil => simp [stateAfter, ask]
  | cons server servers ih =>
    have hrest := ih ((c.query q server).run st).2
      (log ++ [⟨q, server, ((c.query q server).run st).1⟩])
    rw [List.append_assoc] at hrest
    exact hrest

end Client

end DnsHealth
