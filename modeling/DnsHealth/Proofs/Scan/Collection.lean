import DnsHealth.Scan.Sweep
import Mathlib.Data.List.TakeWhile

/-!
# What a sweep collects

The result of a sweep in terms of the responses that came: those that keep a record are kept without
the addresses of the wildcard, all are counted, and those that report a failure are counted once
more. A response that is kept was answered, and it holds records, none with such an address.
-/

namespace DnsHealth

/-- A response without the addresses of the wildcard, if it keeps a record. -/
def WildcardSet.keep? (w : WildcardSet) (response : ScanResponse) : Option ScanResponse :=
  if w.filter response.records = [] then none
  else some { response with records := w.filter response.records }

namespace SweepResult

private theorem foldl_add (w : WildcardSet) (responses : List ScanResponse) (start : SweepResult) :
    responses.foldl (add w) start =
      ⟨start.responses ++ responses.filterMap w.keep?, start.received + responses.length,
        start.failed + responses.countP (·.status.isFailed)⟩ := by
  induction responses generalizing start with
  | nil => simp
  | cons response responses ih =>
    rw [List.foldl_cons, ih, add]
    simp only [List.filterMap_cons, WildcardSet.keep?, List.length_cons, List.countP_cons,
      SweepResult.mk.injEq]
    refine ⟨?_, by omega, ?_⟩
    · split <;> simp
    · split <;> omega

/-- The responses that came make a result if there are as many as expected. -/
theorem collect_eq (w : WildcardSet) (expected : Nat) (responses : List ScanResponse) :
    collect w expected responses =
      if responses.length < expected then .error (.scanAborted expected responses.length)
      else .ok ⟨responses.filterMap w.keep?, responses.length,
        responses.countP (·.status.isFailed)⟩ := by
  simp [collect, foldl_add, empty]

end SweepResult

namespace ProbeProgress

/-- The replies make an answer exactly if they brought records. -/
theorem status_eq_answered_iff (p : ProbeProgress) : p.status = .answered ↔ p.records ≠ [] := by
  by_cases hrecords : p.records = []
  · cases hfailure : p.failure <;> simp [status, hrecords, hfailure]
  · simp [status, hrecords]

/-- They make a failure exactly if they brought none, and one of them is to be reported. -/
theorem status_eq_failed_iff (p : ProbeProgress) (reason : String) :
    p.status = .failed reason ↔ p.records = [] ∧ p.failure = some reason := by
  by_cases hrecords : p.records = []
  · cases hfailure : p.failure <;> simp [status, hrecords, hfailure]
  · simp [status, hrecords]

/-- There is no data exactly if there is neither. -/
theorem status_eq_noData_iff (p : ProbeProgress) :
    p.status = .noData ↔ p.records = [] ∧ p.failure = none := by
  by_cases hrecords : p.records = []
  · cases hfailure : p.failure <;> simp [status, hrecords, hfailure]
  · simp [status, hrecords]

end ProbeProgress

/-- A probe is answered exactly if there are records. -/
theorem Client.status_probe_eq_answered_iff (c : Client Id) (server : Address)
    (request : ScanRequest) :
    (c.probe server request).status = .answered ↔ (c.probe server request).records ≠ [] := by
  unfold Client.probe
  split
  · exact ProbeProgress.status_eq_answered_iff _
  · exact ProbeProgress.status_eq_answered_iff _

/-- What is kept of a probe was answered and holds records, none with an address of the wildcard. -/
theorem WildcardSet.keep?_probe {w : WildcardSet} {c : Client Id} {server : Address}
    {request : ScanRequest} {response : ScanResponse}
    (h : w.keep? (c.probe server request) = some response) :
    response.status = .answered ∧ response.records ≠ [] ∧
      ∀ record ∈ response.records, ∀ address, record.address? = some address →
        w.contains address = false := by
  unfold keep? at h
  split at h
  · cases h
  · next hne =>
    cases h
    refine ⟨?_, hne, fun record hrecord address haddress => ?_⟩
    · refine (c.status_probe_eq_answered_iff server request).mpr fun hnil => hne ?_
      rw [hnil, filter_eq]
      rfl
    · have hkeeps := (mem_filter_iff.mp hrecord).2
      simpa [keeps, haddress] using hkeeps

/-- The requests of a share that a worker probes before one of them kills it. -/
def Client.survived (c : Client Option) (server : Address) (requests : List ScanRequest) :
    List ScanRequest :=
  requests.takeWhile fun request => (c.probe server request).isSome

@[simp] theorem Client.survived_nil (c : Client Option) (server : Address) :
    c.survived server [] = [] := rfl

/-- A worker gets to its next request exactly if it survives the probe. -/
theorem Client.survived_cons (c : Client Option) (server : Address) (request : ScanRequest)
    (rest : List ScanRequest) :
    c.survived server (request :: rest) =
      if (c.probe server request).isSome then request :: c.survived server rest else [] :=
  List.takeWhile_cons

/-- A request that a worker survives has a response. -/
theorem Client.isSome_probe_of_mem_survived {c : Client Option} {server : Address}
    {request : ScanRequest} {requests : List ScanRequest}
    (h : request ∈ c.survived server requests) : (c.probe server request).isSome = true :=
  List.mem_takeWhile_imp (p := fun request => (c.probe server request).isSome) h

/-- A worker has a response for every request up to the one that kills it. -/
theorem Client.work_eq (c : Client Option) (server : Address) (interval : Duration)
    (requests : List ScanRequest) :
    c.work server interval requests =
      some ((c.survived server requests).filterMap (c.probe server)) := by
  induction requests with
  | nil => rfl
  | cons request rest ih =>
    rw [work, ih, survived_cons]
    cases hprobe : c.probe server request with
    | none => rfl
    | some response =>
      by_cases h : rest = []
      · simp [hprobe, h, Tasks.watch, Tasks.isolate]
      · simp [hprobe, h, Tasks.watch, Tasks.isolate, Tasks.pause]

/-- A sweep that takes one share after the other collects what the workers have responses for. -/
theorem Client.sweep_eq (c : Client Option) (qps : Nat) (servers : List Address)
    (w : WildcardSet) (requests : List ScanRequest) :
    c.sweep qps servers w requests =
      some (SweepResult.collect w requests.length (servers.zipIdx.flatMap fun (server, i) =>
        (c.survived server (everyFrom i servers.length requests)).filterMap (c.probe server))) := by
  have htogether (f : Address × Nat → List ScanResponse) :
      Tasks.together (servers.zipIdx.map fun p => some (f p)) = some (servers.zipIdx.map f) := by
    simp only [Tasks.together, List.mapM_map]
    exact List.mapM_pure
  simp only [sweep, work_eq, htogether]
  rw [List.flatMap_def]
  rfl

/-- The client that gives the same answers and kills no task. -/
def Client.surviving (c : Client Id) : Client Option where
  query q server := some (c.query q server)
  transfer zone server := some (c.transfer zone server)

/-- A client whose tasks survive gives every response. -/
theorem Client.probe_surviving (c : Client Id) (server : Address) (request : ScanRequest) :
    c.surviving.probe server request = some (c.probe server request) := by
  unfold Client.probe
  split <;> rfl

/-- A sweep with such a client collects a response for every request of every share. -/
theorem Client.sweep_surviving (c : Client Id) (qps : Nat) (servers : List Address)
    (w : WildcardSet) (requests : List ScanRequest) :
    c.surviving.sweep qps servers w requests =
      some (SweepResult.collect w requests.length (servers.zipIdx.flatMap fun (server, i) =>
        (everyFrom i servers.length requests).map (c.probe server))) := by
  have hsurvived (server : Address) (requests : List ScanRequest) :
      c.surviving.survived server requests = requests :=
    List.takeWhile_eq_self_iff.mpr fun request _ => by rw [c.probe_surviving]; rfl
  have hprobe (server : Address) :
      c.surviving.probe server = fun request => some (c.probe server request) :=
    funext (c.probe_surviving server)
  simp only [sweep_eq, hsurvived, hprobe, List.filterMap_eq_map']

end DnsHealth
