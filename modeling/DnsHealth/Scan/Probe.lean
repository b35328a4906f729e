import DnsHealth.Client.Basic
import DnsHealth.Scan.Report

/-!
# Probing

One probe at one server. A probe for a host asks for addresses of both families, any other asks one
question. There is always a response: with the records that came, or saying that there are none, or
why the first question that failed did so. Records make up for a failure.
-/

namespace DnsHealth

/-- The answers to the questions of a probe so far. -/
structure ProbeProgress where
  /-- The records. -/
  records : List Record
  /-- The longest time that an answer took. -/
  rtt : Duration
  /-- The wording of the first failure. -/
  failure : Option String
  deriving DecidableEq, Repr

namespace ProbeProgress

/-- Nothing yet. -/
def start : ProbeProgress := ⟨[], .zero, none⟩

/-- Takes in the outcome of one question. A name without data is no failure. -/
def add (p : ProbeProgress) : Except Failure RecordSet → ProbeProgress
  | .ok set => { p with records := p.records ++ set.records, rtt := p.rtt.max set.rtt }
  | .error f =>
    if f.isNoData then p else { p with failure := p.failure <|> some f.message }

/-- The outcome of a probe. -/
def status (p : ProbeProgress) : ProbeStatus :=
  if p.records ≠ [] then .answered
  else match p.failure with
    | some reason => .failed reason
    | none => .noData

end ProbeProgress

/-- The addresses and aliases in an answer, of which there may be none. -/
def Answer.hostRecords (answer : Answer) : RecordSet :=
  ⟨Record.ofTypes [.a, .cname] answer.answers, answer.rtt⟩

/-- The response to a probe whose questions have been asked. -/
def ScanRequest.response (request : ScanRequest) (server : Address) (p : ProbeProgress) :
    ScanResponse :=
  ⟨request, p.records, server, p.rtt, p.status⟩

/-- Sends a probe to a server. -/
def Client.probe [Monad m] (c : Client m) (server : Address) (request : ScanRequest) :
    m ScanResponse := do
  let ask (type : RecordType) : Question := ⟨request.qname, type, true⟩
  if request.recordType = .a then
    let hosts ← c.query (ask .a) server
    let v6 ← c.recordSet (ask .aaaa) server
    return request.response server
      ((ProbeProgress.start.add (hosts.map Answer.hostRecords)).add v6)
  else
    let set ← c.recordSet (ask request.recordType) server
    return request.response server (ProbeProgress.start.add set)

end DnsHealth
