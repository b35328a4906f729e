import DnsHealth.Proofs.Scan.Conservation
import DnsHealth.Proofs.Sorting

/-!
# A sweep does not depend on its schedule

When a sweep ends, every request has been sent out once, by the worker whose turn it was, and its
response has been collected, the responses of one worker in the order of its requests. So whatever
the interleaving was, the result counts the same responses and keeps the same ones, and the lines of
a report are the same, as if one share had been taken after the other.
-/

namespace DnsHealth

/-- What every probe of a sweep gives, with the worker whose turn it is. -/
def SweepSetup.outcomes (setup : SweepSetup) (c : Client Id) : List (Nat × ScanResponse) :=
  setup.requests.zipIdx.filterMap fun (request, i) =>
    setup.servers[i % setup.servers.length]?.map fun server =>
      (i % setup.servers.length, c.probe server request)

namespace SweepSetup

variable {setup : SweepSetup}

private theorem fst_lt_of_mem_outcomes (hservers : setup.servers ≠ []) (c : Client Id) :
    ∀ p ∈ setup.outcomes c, p.1 < setup.servers.length := by
  intro p hp
  simp only [outcomes, List.mem_filterMap, Option.map_eq_some_iff] at hp
  obtain ⟨_, -, server, -, rfl⟩ := hp
  exact Nat.mod_lt _ (List.length_pos_iff.mpr hservers)

/-- The number of outcomes is that of the requests. -/
theorem length_outcomes (hservers : setup.servers ≠ []) (c : Client Id) :
    (setup.outcomes c).length = setup.requests.length := by
  have hpos := List.length_pos_iff.mpr hservers
  rw [outcomes, List.filterMap_length_eq_length.mpr, List.length_zipIdx]
  rintro ⟨request, i⟩ -
  simp [List.getElem?_eq_getElem (Nat.mod_lt i hpos)]

/-- The outcomes of one worker are those of its share, in the order of the requests. -/
theorem ofWorker_outcomes (c : Client Id) {j : Nat} {server : Address}
    (hserver : setup.servers[j]? = some server) :
    ofWorker j (setup.outcomes c) =
      (everyFrom j setup.servers.length setup.requests).map (c.probe server) := by
  simp only [ofWorker, outcomes, everyFrom, List.filterMap_filterMap, ← List.filterMap_eq_filter,
    List.map_filterMap]
  refine List.filterMap_congr ?_
  rintro ⟨request, i⟩ -
  by_cases h : i % setup.servers.length = j
  · simp [h, hserver, Option.guard]
  · cases setup.servers[i % setup.servers.length]? <;> simp [h, Option.guard]

/-- The outcomes of all shares, one share after the other. -/
theorem flatMap_shares (c : Client Id) :
    (setup.servers.zipIdx.flatMap fun (server, i) =>
      (everyFrom i setup.servers.length setup.requests).map (c.probe server)) =
      (List.range setup.servers.length).flatMap fun j => ofWorker j (setup.outcomes c) := by
  rw [List.flatMap_def, List.flatMap_def]
  congr 1
  refine List.ext_getElem (by simp) fun j hj _ => ?_
  have hlt : j < setup.servers.length := by simpa using hj
  simp [ofWorker_outcomes c (List.getElem?_eq_getElem hlt)]

/-- The requests that are dealt to one worker are its share. -/
theorem map_snd_ofWorker_shared (j : Nat) :
    (ofWorker j (setup.shared setup.requests.length)).map (·.2) =
      everyFrom j setup.servers.length setup.requests := by
  simp only [ofWorker, shared, everyFrom, List.take_length, List.filterMap_map,
    ← List.filterMap_eq_filter, List.map_filterMap]
  refine List.filterMap_congr ?_
  rintro ⟨request, i⟩ -
  by_cases h : i % setup.servers.length = j <;> simp [h, Option.guard]

/-- The numbers of the requests that are dealt to one worker. -/
theorem ofWorker_numbers (j : Nat) :
    ofWorker j ((List.range setup.requests.length).map fun n => (n % setup.servers.length, n)) =
      (ofWorker j (setup.shared setup.requests.length)).map (·.1) := by
  rw [List.range_eq_range', ← List.zipIdx_map_snd, List.map_map]
  simp only [ofWorker, shared, List.take_length, List.filterMap_map, List.map_filterMap]
  refine List.filterMap_congr ?_
  rintro ⟨request, i⟩ -
  by_cases h : i % setup.servers.length = j <;> simp [h]

end SweepSetup

namespace SweepState

variable {c : Client Id} {setup : SweepSetup} {s t : SweepState}
  {outcome : Except Failure SweepResult}

/-- A sweep that has ended has dealt out all requests. -/
theorem Conserved.dealt_eq (h : Conserved c setup s) (hend : s.result = some outcome) :
    s.dealt = setup.requests.length :=
  Nat.le_antisymm h.dealt_le (h.ended outcome hend).1

/-- At the end the books of a worker show its whole share. -/
theorem Conserved.exists_done (h : Conserved c setup s) (hend : s.result = some outcome)
    {j : Nat} {w : SweepWorker} (hw : s.workers[j]? = some w) :
    ∃ done, ofWorker j (setup.shared setup.requests.length) = done ++ w.todo ∧
      ofWorker j s.sent = done.map (·.1) ∧
      ofWorker j s.collected ++ (ofWorker j s.channel ++ w.held) =
        done.map (fun r => c.probe w.server r.2) := by
  obtain ⟨done, hdealt, hdone, hsent⟩ := (h.balanced j w hw).exists_done
  rw [h.dealt_eq hend] at hdealt
  rw [delivered, ofWorker_append, List.append_assoc] at hdone
  exact ⟨done, hdealt, hsent, hdone⟩

/-- The outcomes of a worker are those of the probes that were dealt to it. -/
theorem Conserved.outcomes_eq (h : Conserved c setup s) {j : Nat} {w : SweepWorker}
    (hw : s.workers[j]? = some w) :
    ofWorker j (setup.outcomes c) =
      (ofWorker j (setup.shared setup.requests.length)).map fun r => c.probe w.server r.2 := by
  have hserver : setup.servers[j]? = some w.server := by
    rw [← h.servers, List.getElem?_map, hw]
    rfl
  rw [SweepSetup.ofWorker_outcomes c hserver, ← SweepSetup.map_snd_ofWorker_shared, List.map_map]
  rfl

/-- At the end every outcome of a worker has been collected, in the order of its requests. -/
theorem Conserved.ofWorker_collected (h : Conserved c setup s) (hservers : setup.servers ≠ [])
    (hend : s.result = some outcome) :
    ∀ j < setup.servers.length, ofWorker j s.collected = ofWorker j (setup.outcomes c) := by
  have hworker {j : Nat} (hj : j < setup.servers.length) : ∃ w, s.workers[j]? = some w :=
    ⟨_, List.getElem?_eq_getElem (h.length_workers ▸ hj)⟩
  obtain ⟨-, hover, -⟩ := h.ended outcome hend
  simp only [isOver, Bool.or_eq_true, decide_eq_true_eq, Bool.and_eq_true, List.isEmpty_iff,
    List.all_eq_true] at hover
  rcases hover with hall | ⟨hchannel, hgone⟩
  · -- As many responses as requests leave nothing of any share.
    refine ofWorker_eq_of_isPrefix ?_ (SweepSetup.fst_lt_of_mem_outcomes hservers c)
      (fun j hj => ?_)
      (hall.trans (SweepSetup.length_outcomes hservers c).symm)
    · exact fun p hp => h.delivered_lt p (List.mem_append_left _ hp)
    · obtain ⟨w, hw⟩ := hworker hj
      obtain ⟨done, hshare, -, hdone⟩ := h.exists_done hend hw
      rw [h.outcomes_eq hw, hshare, List.map_append, ← hdone, List.append_assoc]
      exact List.prefix_append ..
  · -- A worker that has left has done all that was dealt to it.
    intro j hj
    obtain ⟨w, hw⟩ := hworker hj
    obtain ⟨done, hshare, -, hdone⟩ := h.exists_done hend hw
    have hmem := List.mem_of_getElem? hw
    have hleft : w.activity = .left := by
      have halive := (h.balanced j w hw).alive
      have hw := hgone w hmem
      cases hactivity : w.activity <;> simp_all [WorkerActivity.isGone]
    have hqueue := (h.left w hmem hleft).1
    simp only [SweepWorker.todo, SweepWorker.held, hleft, hqueue, hchannel, ofWorker_nil,
      List.append_nil] at hshare hdone
    rw [hdone, h.outcomes_eq hw, hshare]

/-- At the end every request has been sent out once, in its turn. -/
theorem Conserved.sent_perm (h : Conserved c setup s) (hservers : setup.servers ≠ [])
    (hend : s.result = some outcome) :
    s.sent.Perm ((List.range setup.requests.length).map fun n =>
      (n % setup.servers.length, n)) := by
  refine perm_of_ofWorker_eq h.sent_lt ?_ fun j hj => ?_
  · simpa using fun n _ => Nat.mod_lt n (List.length_pos_iff.mpr hservers)
  · obtain ⟨w, hw⟩ : ∃ w, s.workers[j]? = some w :=
      ⟨_, List.getElem?_eq_getElem (h.length_workers ▸ hj)⟩
    obtain ⟨done, hshare, hsent, hdone⟩ := h.exists_done hend hw
    have hcollected := h.ofWorker_collected hservers hend j hj
    rw [h.outcomes_eq hw, hshare] at hcollected
    -- Nothing is left to do, since all of the share has come back.
    have htodo : w.todo = [] := by
      have hlength := congrArg List.length hdone
      rw [hcollected] at hlength
      simp only [List.length_append, List.length_map] at hlength
      exact List.length_eq_zero_iff.mp (by omega)
    rw [SweepSetup.ofWorker_numbers, hsent, hshare, htodo, List.append_nil]

end SweepState

/-- A result holds just what the probes of a sweep give. -/
structure SweepSetup.Gathers (setup : SweepSetup) (c : Client Id) (result : SweepResult) :
    Prop where
  /-- A response has come for every request. -/
  received : result.received = setup.requests.length
  /-- The failures are those of the probes. -/
  failed : result.failed = (setup.outcomes c).countP fun p => p.2.status.isFailed
  /-- The responses that are kept are those of the workers, each worker's in the order of its
  requests, and without the addresses of the wildcard. -/
  responses : ∃ kept : List (Nat × ScanResponse), result.responses = kept.map (·.2) ∧
    (∀ p ∈ kept, p.1 < setup.servers.length) ∧
    ∀ j server, setup.servers[j]? = some server → ofWorker j kept =
      (everyFrom j setup.servers.length setup.requests).filterMap fun request =>
        setup.wildcard.keep? (c.probe server request)
  /-- What is kept was answered and holds records, none with an address of the wildcard. -/
  answered : ∀ response ∈ result.responses, response.status = .answered ∧ response.records ≠ [] ∧
    ∀ record ∈ response.records, ∀ address, record.address? = some address →
      setup.wildcard.contains address = false

/-- Two results are the same up to the order of the responses. -/
structure SweepResult.Agrees (result other : SweepResult) : Prop where
  /-- They keep the same responses. -/
  responses : result.responses.Perm other.responses
  /-- They count the same number of responses. -/
  received : result.received = other.received
  /-- They count the same number of failures. -/
  failed : result.failed = other.failed
  /-- Reports of their responses have the same lines. -/
  sortedLines : ∀ report : ScanReport, { report with responses := result.responses }.sortedLines =
    { report with responses := other.responses }.sortedLines

namespace SweepSetup.Gathers

variable {c : Client Id} {setup : SweepSetup} {result other : SweepResult}

/-- Two results that hold what the probes give keep the same responses. -/
theorem responses_perm (h : setup.Gathers c result) (hother : setup.Gathers c other) :
    result.responses.Perm other.responses := by
  obtain ⟨kept, hresult, hlt, hkept⟩ := h.responses
  obtain ⟨others, hresult', hlt', hothers⟩ := hother.responses
  rw [hresult, hresult']
  refine (perm_of_ofWorker_eq hlt hlt' fun j hj => ?_).map _
  have hserver := List.getElem?_eq_getElem hj
  rw [hkept j _ hserver, hothers j _ hserver]

/-- Two results that hold what the probes give are the same up to the order of the responses. -/
theorem agrees (h : setup.Gathers c result) (hother : setup.Gathers c other) :
    result.Agrees other := by
  refine ⟨h.responses_perm hother, h.received.trans hother.received.symm,
    h.failed.trans hother.failed.symm, fun report => sortedSet_congr fun line => ?_⟩
  simp only [ScanReport.records, List.mem_map, List.mem_flatMap, (h.responses_perm hother).mem_iff]

end SweepSetup.Gathers

/-- What is collected holds what the probes give if it holds the outcomes of each worker, in the
order of its requests. -/
theorem SweepSetup.exists_gathers {setup : SweepSetup} {c : Client Id}
    {collected : List (Nat × ScanResponse)} (hservers : setup.servers ≠ [])
    (hlt : ∀ p ∈ collected, p.1 < setup.servers.length)
    (h : ∀ j < setup.servers.length, ofWorker j collected = ofWorker j (setup.outcomes c)) :
    ∃ result, SweepResult.collect setup.wildcard setup.requests.length (collected.map (·.2)) =
      .ok result ∧ setup.Gathers c result := by
  have hperm : collected.Perm (setup.outcomes c) :=
    perm_of_ofWorker_eq hlt (fst_lt_of_mem_outcomes hservers c) h
  have hlength : collected.length = setup.requests.length :=
    hperm.length_eq.trans (length_outcomes hservers c)
  rw [SweepResult.collect_eq, if_neg (by simp [hlength])]
  refine ⟨_, rfl, ⟨by simpa using hlength, ?_, ?_, ?_⟩⟩
  · rw [← hperm.countP_eq, List.countP_map]
    rfl
  · refine ⟨collected.filterMap fun (j, response) =>
      (setup.wildcard.keep? response).map (Prod.mk j), ?_, fun p hp => ?_,
      fun j server hserver => ?_⟩
    · rw [List.filterMap_map, List.map_filterMap]
      refine List.filterMap_congr ?_
      rintro ⟨j, response⟩ -
      rw [Option.map_map, Function.comp_apply]
      exact (Option.map_id_apply ..).symm
    · obtain ⟨⟨j, response⟩, hmem, hsome⟩ := List.mem_filterMap.mp hp
      obtain ⟨_, -, rfl⟩ := Option.map_eq_some_iff.mp hsome
      exact hlt (j, response) hmem
    · have hj : j < setup.servers.length := (List.getElem?_eq_some_iff.mp hserver).1
      rw [ofWorker_filterMap, h j hj, ofWorker_outcomes c hserver, List.filterMap_map]
      rfl
  · intro response hresponse
    obtain ⟨_, hmem, hkept⟩ := List.mem_filterMap.mp hresponse
    obtain ⟨p, hp, rfl⟩ := List.mem_map.mp hmem
    obtain ⟨⟨request, i⟩, -, hsome⟩ := List.mem_filterMap.mp (hperm.mem_iff.mp hp)
    obtain ⟨server, -, rfl⟩ := Option.map_eq_some_iff.mp hsome
    exact WildcardSet.keep?_probe hkept

/-- A sweep that takes one share after the other has a result that holds what the probes give. -/
theorem SweepSetup.exists_gathers_sweep {setup : SweepSetup} {c : Client Id}
    (hservers : setup.servers ≠ []) (qps : Nat) :
    ∃ result, c.surviving.sweep qps setup.servers setup.wildcard setup.requests =
      some (.ok result) ∧ setup.Gathers c result := by
  let collected := (List.range setup.servers.length).flatMap fun j =>
    (ofWorker j (setup.outcomes c)).map (Prod.mk j)
  have hlt : ∀ p ∈ collected, p.1 < setup.servers.length := by
    intro p hp
    obtain ⟨j, hj, hmem⟩ := List.mem_flatMap.mp hp
    obtain ⟨_, -, rfl⟩ := List.mem_map.mp hmem
    exact List.mem_range.mp hj
  obtain ⟨result, hcollect, hgathers⟩ :=
    exists_gathers hservers hlt fun j hj => ofWorker_flatMap_range _ hj
  have hshares : collected.map (·.2) =
      (List.range setup.servers.length).flatMap fun j => ofWorker j (setup.outcomes c) := by
    simp [collected, List.map_flatMap, Function.comp_def]
  rw [Client.sweep_surviving, flatMap_shares, ← hshares, hcollect]
  exact ⟨result, rfl, hgathers⟩

namespace SweepState

variable {c : Client Id} {setup : SweepSetup} {s : SweepState}
  {outcome : Except Failure SweepResult}

/-- At the end of a sweep there is a result, and it holds what the probes give. -/
theorem Conserved.exists_gathers (h : Conserved c setup s) (hservers : setup.servers ≠ [])
    (hend : s.result = some outcome) : ∃ result, outcome = .ok result ∧ setup.Gathers c result := by
  obtain ⟨-, -, rfl⟩ := h.ended outcome hend
  exact SweepSetup.exists_gathers hservers
    (fun p hp => h.delivered_lt p (List.mem_append_left _ hp)) (h.ofWorker_collected hservers hend)

/-- Whatever the interleaving, a sweep that ends has sent out every request once, by the worker
whose turn it was, and its result holds what the probes give. Up to the order of the responses, this
is the result of every other interleaving and of the sweep that takes one share after the other. -/
theorem Reachable.exactly_once (hclient : setup.client = c.surviving)
    (hservers : setup.servers ≠ []) (hs : Reachable setup s) (hend : s.result = some outcome) :
    s.workers.map (·.server) = setup.servers ∧
    s.sent.Perm ((List.range setup.requests.length).map fun n =>
      (n % setup.servers.length, n)) ∧
    ∃ result, outcome = .ok result ∧ setup.Gathers c result ∧
      (∀ t other, Reachable setup t → t.result = some (.ok other) → result.Agrees other) ∧
      ∀ qps, ∃ swept, setup.client.sweep qps setup.servers setup.wildcard setup.requests =
        some (.ok swept) ∧ result.Agrees swept := by
  have h := hs.conserved hclient
  obtain ⟨result, houtcome, hgathers⟩ := h.exists_gathers hservers hend
  refine ⟨h.servers, h.sent_perm hservers hend, result, houtcome, hgathers,
    fun t other ht htend => ?_, fun qps => ?_⟩
  · obtain ⟨found, hfound, hother⟩ := (ht.conserved hclient).exists_gathers hservers htend
    cases hfound
    exact hgathers.agrees hother
  · obtain ⟨swept, hswept, hother⟩ := SweepSetup.exists_gathers_sweep hservers qps
    exact ⟨swept, by rw [hclient, hswept], hgathers.agrees hother⟩

/-- Two servers and three requests, the second of which overtakes the first: the sweep ends with a
result that holds what the probes give. -/
theorem exactly_once_two_servers :
    let server (n : UInt8) : Address := .v4 ⟨192, 0, 2, n⟩
    let c : Client Id :=
      { query := fun q server => .ok ⟨[⟨q.name, 60, .txt ["x"]⟩], [], true, false, server, .zero⟩
        transfer := fun _ _ => .ok [] }
    let request (stem : String) : ScanRequest := ⟨.txt, stem, "a."⟩
    let setup : SweepSetup :=
      ⟨c.surviving, [server 1, server 2], .empty, [request "x", request "y", request "z"], 0⟩
    let actions : List SweepAction :=
      [.deal, .deal, .fetch 1, .probe 1, .deliver 1, .fetch 0, .deal, .probe 0, .collect,
        .deliver 0, .fetch 0, .leave 1, .probe 0, .collect, .deliver 0, .collect, .finish]
    ∃ s result, run? setup actions (initial setup) = some s ∧ s.result = some (.ok result) ∧
      s.sent = [(1, 1), (0, 0), (0, 2)] ∧
      s.sent.Perm ((List.range 3).map fun n => (n % 2, n)) ∧ setup.Gathers c result := by
  intro server c request setup actions
  have hsome : (run? setup actions (initial setup)).isSome = true := by decide +kernel
  obtain ⟨s, hs⟩ := Option.isSome_iff_exists.mp hsome
  have hsent : (run? setup actions (initial setup)).map (·.sent) =
      some [(1, 1), (0, 0), (0, 2)] := by
    decide +kernel
  have hended : ((run? setup actions (initial setup)).bind (·.result)).isSome = true := by
    decide +kernel
  obtain ⟨outcome, houtcome⟩ := Option.isSome_iff_exists.mp hended
  rw [hs] at hsent houtcome
  obtain ⟨-, hperm, result, rfl, hgathers, -⟩ :=
    Reachable.exactly_once rfl (by decide) ⟨actions, hs⟩ houtcome
  exact ⟨s, result, hs, houtcome, Option.some.inj hsent, hperm, hgathers⟩

end SweepState

end DnsHealth
