import DnsHealth.Proofs.Scan.Conservation
import DnsHealth.Proofs.Scan.Outcome
import DnsHealth.Scan.Sweep

/-!
# The calls of a sweep

A probe puts its questions to its server, and the records of its response are records that came
back. The shares of a list that is dealt out make up the list again. So in whatever order the
workers of a sweep take their steps, every question of every request is asked once, and every
request has its response, as long as no task dies.
-/

namespace DnsHealth

/-- The question that a call puts to a server, if it is no transfer. -/
def Call.question? : Call → Option Question
  | query q _ _ => some q
  | transfer .. => none

/-- The records of a response came back from its server when it was asked the questions of its
request. -/
def ScanResponse.RestsOn (response : ScanResponse) (calls : List Call) : Prop :=
  ∀ record ∈ response.records, ∃ q ∈ response.request.questions, ∃ answer : Answer,
    .query q response.server (.ok answer) ∈ calls ∧ record ∈ answer.answers

private theorem Call.map_question?_of_puts {server : Address} {questions : List Question}
    {calls : List Call} (h : List.Forall₂ (Call.Puts server) questions calls) :
    questions.map some = calls.map Call.question? := by
  refine map_eq_map_of_forall₂ (h.imp fun q call hcall => ?_)
  obtain ⟨reply, rfl⟩ := hcall
  rfl

/-- A response rests on more calls as well. -/
theorem ScanResponse.RestsOn.mono {response : ScanResponse} {calls more : List Call}
    (h : response.RestsOn calls) (hsub : calls ⊆ more) : response.RestsOn more := by
  intro record hrecord
  obtain ⟨q, hq, answer, hcall, hanswer⟩ := h record hrecord
  exact ⟨q, hq, answer, hsub hcall, hanswer⟩

namespace Process

variable {calls : List Call} {server : Address}

/-- A probe asks its questions, and its response rests on what came back. -/
theorem run_probe {request : ScanRequest} {response : ScanResponse}
    (h : (client.probe server request).Run calls response) :
    response.request = request ∧ response.server = server ∧ response.RestsOn calls ∧
      List.Forall₂ (Call.Puts server) request.questions calls := by
  obtain ⟨hputs, hsums⟩ := sums_of_run_probe h
  refine ⟨hsums.request_eq, hsums.server_eq, fun record hrecord => ?_, hputs⟩
  rw [hsums.records_eq, List.mem_flatMap] at hrecord
  obtain ⟨call, hcall, hfound⟩ := hrecord
  obtain ⟨q, hq, reply, rfl⟩ := exists_mem_of_forall₂ hputs hcall
  cases reply with
  | error failure => cases hfound
  | ok answer =>
    exact ⟨q, hsums.request_eq ▸ hq, answer, hsums.server_eq ▸ hcall,
      List.mem_of_mem_filter hfound⟩

/-- A worker probes its share, and has a response for every request of it. -/
theorem run_work {interval : Duration} {requests : List ScanRequest}
    {responses : List ScanResponse}
    (h : (client.work server interval requests).Run calls responses) :
    responses.map (·.request) = requests ∧
      (∀ response ∈ responses, response.server = server ∧ response.RestsOn calls) ∧
      List.Forall₂ (Call.Puts server) (requests.flatMap ScanRequest.questions) calls := by
  induction requests generalizing calls responses with
  | nil =>
    obtain ⟨rfl, rfl⟩ := run_pure_iff.mp h
    exact ⟨rfl, fun response hresponse => absurd hresponse List.not_mem_nil, .nil⟩
  | cons request rest ih =>
    rw [Client.work] at h
    obtain ⟨_, _, start, hstart, hprobes, rfl⟩ := run_bind_iff.mp h
    obtain rfl := run_watch_iff.mp hstart
    obtain ⟨first, _, outcome, hprobe, hafter, rfl⟩ := run_bind_iff.mp hprobes
    obtain ⟨response, hresponse, rfl⟩ := run_isolate_iff.mp hprobe
    obtain ⟨_, last, now, hnow, hwait, rfl⟩ := run_bind_iff.mp hafter
    obtain rfl := run_watch_iff.mp hnow
    -- Waiting makes no call, whether it is waited or not.
    have hlast : (client.work server interval rest >>= fun more => pure (response :: more)).Run last
        responses := by
      simp only at hwait
      split at hwait <;> exact hwait
    obtain ⟨more, hmore, rfl⟩ := run_bind_pure_iff.mp hlast
    obtain ⟨rfl, hserver, hrests, hquestions⟩ := run_probe hresponse
    obtain ⟨hrequests, hothers, hasked⟩ := ih hmore
    refine ⟨by rw [List.map_cons, hrequests], ?_, ?_⟩
    · refine List.forall_mem_cons.mpr ⟨⟨hserver, hrests.mono ?_⟩, fun other hother => ?_⟩
      · exact List.subset_append_left ..
      · obtain ⟨hsame, hother⟩ := hothers other hother
        exact ⟨hsame, hother.mono (List.subset_append_right ..)⟩
    · exact List.rel_append hquestions hasked

end Process

/-- The shares of a list make up the list. -/
theorem perm_flatMap_everyFrom {α : Type} {n : Nat} (hn : 0 < n) (xs : List α) :
    ((List.range n).flatMap fun i => everyFrom i n xs).Perm xs := by
  let dealt : List (Nat × α) := xs.zipIdx.map fun p => (p.2 % n, p.1)
  have hlt : ∀ p ∈ dealt, p.1 < n := by
    intro p hp
    obtain ⟨_, -, rfl⟩ := List.mem_map.mp hp
    exact Nat.mod_lt _ hn
  have hshare (i : Nat) : ofWorker i dealt = everyFrom i n xs := by
    simp only [ofWorker, dealt, everyFrom, List.filterMap_map, ← List.filterMap_eq_filter,
      List.map_filterMap]
    refine List.filterMap_congr ?_
    rintro ⟨x, place⟩ -
    by_cases h : place % n = i <;> simp [h, Option.guard]
  have hall : dealt.map (·.2) = xs := by
    rw [List.map_map]
    exact List.zipIdx_map_fst 0 xs
  have hperm := (perm_flatMap_ofWorker hlt).map (·.2)
  rw [hall, List.map_flatMap] at hperm
  simpa [hshare] using hperm.symm

namespace Process

variable {calls : List Call} {servers : List Address} {requests : List ScanRequest}
  {wildcard : WildcardSet}

/-- A sweep is a run of a worker for every server, with its share of the requests. -/
theorem exists_parts_of_run_sweep {qps : Nat} {result : Except Failure SweepResult}
    (h : (client.sweep qps servers wildcard requests).Run calls result) :
    ∃ (interval : Duration) (parts : List (List Call × List ScanResponse)),
      List.Forall₂ (fun p part => (client.work p.1 interval
        (everyFrom p.2 servers.length requests)).Run part.1 part.2) servers.zipIdx parts ∧
      result = SweepResult.collect wildcard requests.length (parts.map (·.2)).flatten ∧
      InterleavedAll (parts.map (·.1)) calls := by
  obtain ⟨shares, hshares, rfl⟩ := run_bind_pure_iff.mp h
  obtain ⟨parts, hparts, rfl, hmixed⟩ := run_together hshares
  exact ⟨_, parts, List.forall₂_map_left_iff.mp hparts, rfl, hmixed⟩

/-- A sweep asks every question of every request once, and has a response for each request. -/
theorem run_sweep {qps : Nat} {result : Except Failure SweepResult} (hservers : servers ≠ [])
    (h : (client.sweep qps servers wildcard requests).Run calls result) :
    ∃ responses, result = SweepResult.collect wildcard requests.length responses ∧
      (responses.map (·.request)).Perm requests ∧
      (∀ response ∈ responses, response.server ∈ servers ∧ response.RestsOn calls) ∧
      (calls.map Call.question?).Perm ((requests.flatMap ScanRequest.questions).map some) := by
  obtain ⟨interval, parts, hparts, rfl, hmixed⟩ := exists_parts_of_run_sweep h
  have hcalls : calls.Perm (parts.flatMap (·.1)) := hmixed.perm
  have hworked := hparts.imp fun p part hrun => run_work hrun
  have hrange : servers.zipIdx.map (·.2) = List.range servers.length := by
    rw [List.zipIdx_map_snd, List.range_eq_range']
  have hdealt : (servers.zipIdx.flatMap fun p => everyFrom p.2 servers.length requests).Perm
      requests := by
    have hshares := perm_flatMap_everyFrom (List.length_pos_iff.mpr hservers) requests
    rwa [← hrange, List.flatMap_map] at hshares
  have hresponses := map_eq_map_of_forall₂ (hworked.imp fun p part h => h.1.symm)
  have hputs : List.Forall₂ (fun p part =>
      ((everyFrom p.2 servers.length requests).flatMap ScanRequest.questions).map some =
        part.1.map Call.question?) servers.zipIdx parts :=
    hworked.imp fun p part h => Call.map_question?_of_puts h.2.2
  have hasked := map_eq_map_of_forall₂ hputs
  refine ⟨_, rfl, ?_, fun response hresponse => ?_, ?_⟩
  · rw [List.map_flatten, List.map_map]
    rw [List.flatMap_def, hresponses] at hdealt
    exact hdealt
  · obtain ⟨_, hshare, hmem⟩ := List.mem_flatten.mp hresponse
    obtain ⟨part, hpart, rfl⟩ := List.mem_map.mp hshare
    obtain ⟨p, hp, -, hall, -⟩ := exists_mem_of_forall₂ hworked hpart
    obtain ⟨hserver, hrests⟩ := hall response hmem
    refine ⟨hserver ▸ List.fst_mem_of_mem_zipIdx hp, hrests.mono fun call hcall => ?_⟩
    exact hcalls.mem_iff.mpr (List.mem_flatMap.mpr ⟨part, hpart, hcall⟩)
  · have hquestions := (hdealt.flatMap_right ScanRequest.questions).map some
    rw [List.flatMap_assoc, List.map_flatMap, List.flatMap_def, hasked] at hquestions
    refine (hcalls.map _).trans ?_
    rwa [List.map_flatMap, List.flatMap_def]

end Process

end DnsHealth
