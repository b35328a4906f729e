import DnsHealth.Client.Tasks
import DnsHealth.Scan.Plan
import DnsHealth.Scan.Probe
import DnsHealth.Scan.Wildcard

/-!
# Sweeps

The probes of a scan dealt out to the servers in turn, each server working through its own share at
its own pace, and the collection of what comes back. A share breaks off where a probe dies, and a
sweep with responses missing is a failure that counts those that came. Responses that hold nothing
but addresses of the wildcard are counted and not kept.
-/

namespace DnsHealth

/-- The shares of a list that is dealt out in turn: the elements at the places `first`,
`first + step` and so on. -/
def everyFrom (first step : Nat) (xs : List α) : List α :=
  (xs.zipIdx.filter fun (_, i) => i % step = first).map (·.1)

/-- What a sweep has collected. -/
structure SweepResult where
  /-- The responses that hold records. -/
  responses : List ScanResponse
  /-- The number of responses that came. -/
  received : Nat
  /-- The number of responses that report a failure. -/
  failed : Nat
  deriving DecidableEq, Repr

namespace SweepResult

/-- Nothing yet. -/
def empty : SweepResult := ⟨[], 0, 0⟩

/-- Takes in one response. -/
def add (wildcard : WildcardSet) (result : SweepResult) (response : ScanResponse) : SweepResult :=
  let records := wildcard.filter response.records
  { responses :=
      if records = [] then result.responses else result.responses ++ [{ response with records }]
    received := result.received + 1
    failed := if response.status.isFailed then result.failed + 1 else result.failed }

/-- What a list of responses adds up to, if the expected number has come. -/
def collect (wildcard : WildcardSet) (expected : Nat) (responses : List ScanResponse) :
    Except Failure SweepResult :=
  let result := responses.foldl (add wildcard) empty
  if result.received < expected then .error (.scanAborted expected result.received)
  else .ok result

end SweepResult

/-- Works through the share of one server. Two probes begin at least an interval apart. -/
def Client.work [Monad m] [Tasks m] (c : Client m) (server : Address) (interval : Duration) :
    List ScanRequest → m (List ScanResponse)
  | [] => return []
  | request :: rest => do
    let start ← Tasks.watch
    match ← Tasks.isolate (c.probe server request) with
    | none => return []
    | some response =>
      let now ← Tasks.watch
      if rest ≠ [] then
        Tasks.pause ⟨interval.nanoseconds - (now.nanoseconds - start.nanoseconds)⟩
      return response :: (← c.work server interval rest)

/-- Sends the probes of a scan to the servers, the shares side by side. -/
def Client.sweep [Monad m] [Tasks m] (c : Client m) (qps : Nat) (servers : List Address)
    (wildcard : WildcardSet) (requests : List ScanRequest) :
    m (Except Failure SweepResult) := do
  let plan : ScanPlan := ⟨requests.length, servers.length, qps⟩
  let shares ← Tasks.together <| servers.zipIdx.map fun (server, i) =>
    c.work server plan.workerInterval (everyFrom i servers.length requests)
  return SweepResult.collect wildcard requests.length shares.flatten

end DnsHealth
