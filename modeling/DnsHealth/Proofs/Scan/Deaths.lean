import DnsHealth.Proofs.Scan.Progress
import DnsHealth.Proofs.Scan.Schedule
import Mathlib.Algebra.BigOperators.Fin

/-!
# Workers that die

A probe kills its worker if the client dies of one of its questions. The worker has then responded
to the requests of its share before this one, whatever the other parties have done meanwhile, and to
none after it. So if the client always dies of the same questions, the number of responses that a
sweep collects is settled before it begins: it is the number of requests, if none is deadly, and
otherwise a smaller one, which the sweep reports as a failure.
-/

namespace DnsHealth

/-- Two clients die of the same questions, whatever they answer to the others. -/
def Client.DiesLike (c other : Client Option) : Prop :=
  ∀ q server, (c.query q server).isSome = (other.query q server).isSome

namespace Client

private theorem isSome_recordSet (c : Client Option) (q : Question) (server : Address) :
    (c.recordSet q server).isSome = (c.query q server).isSome := by
  rw [recordSet]
  cases c.query q server <;> rfl

/-- A probe comes to its end exactly if the client survives all its questions. -/
theorem isSome_probe (c : Client Option) (server : Address) (request : ScanRequest) :
    (c.probe server request).isSome =
      if request.recordType = .a then
        (c.query ⟨request.qname, .a, true⟩ server).isSome &&
          (c.query ⟨request.qname, .aaaa, true⟩ server).isSome
      else (c.query ⟨request.qname, request.recordType, true⟩ server).isSome := by
  unfold probe
  dsimp only
  split
  · rw [← isSome_recordSet c ⟨request.qname, .aaaa, true⟩]
    cases c.query ⟨request.qname, .a, true⟩ server with
    | none => rfl
    | some hosts => cases c.recordSet ⟨request.qname, .aaaa, true⟩ server <;> rfl
  · rw [← isSome_recordSet]
    cases c.recordSet ⟨request.qname, request.recordType, true⟩ server <;> rfl

/-- Clients that die of the same questions die of the same probes. -/
theorem DiesLike.isSome_probe_eq {c other : Client Option} (h : c.DiesLike other)
    (server : Address) (request : ScanRequest) :
    (c.probe server request).isSome = (other.probe server request).isSome := by
  rw [isSome_probe, isSome_probe, h, h, h]

end Client

namespace SweepSetup

/-- The requests that a worker responds to. -/
def answered (setup : SweepSetup) (j : Fin setup.servers.length) : List ScanRequest :=
  setup.client.survived setup.servers[j] (everyFrom j setup.servers.length setup.requests)

/-- The number of requests that the workers respond to. -/
def answeredCount (setup : SweepSetup) : Nat := ∑ j, (setup.answered j).length

/-- No request of any share is deadly. -/
def Spared (setup : SweepSetup) : Prop :=
  ∀ j : Fin setup.servers.length, ∀ request ∈ everyFrom j setup.servers.length setup.requests,
    (setup.client.probe setup.servers[j] request).isSome

/-- What a sweep comes to. -/
inductive ComesTo (setup : SweepSetup) : Except Failure SweepResult → Prop where
  /-- If no request is deadly, a response has come for every request. -/
  | complete {result : SweepResult} (spared : setup.Spared)
      (received : result.received = setup.requests.length) : ComesTo setup (.ok result)
  /-- If one is deadly, some are missing, and those that have come are counted. -/
  | aborted (deadly : ¬ setup.Spared) (missing : setup.answeredCount < setup.requests.length) :
      ComesTo setup (.error (.scanAborted setup.requests.length setup.answeredCount))

variable {setup : SweepSetup}

/-- The shares are made of all requests. -/
theorem sum_length_share (hservers : setup.servers ≠ []) :
    ∑ j : Fin setup.servers.length, (everyFrom j setup.servers.length setup.requests).length =
      setup.requests.length := by
  have hlt : ∀ p ∈ setup.shared setup.requests.length, p.1 < setup.servers.length := by
    intro p hp
    obtain ⟨_, -, rfl⟩ := List.mem_map.mp hp
    exact Nat.mod_lt _ (List.length_pos_iff.mpr hservers)
  have hlength : (setup.shared setup.requests.length).length = setup.requests.length := by
    simp [shared]
  rw [← hlength, length_eq_sum_ofWorker hlt, Finset.sum_range]
  exact Finset.sum_congr rfl fun j _ => by rw [← map_snd_ofWorker_shared, List.length_map]

private theorem length_answered_le (j : Fin setup.servers.length) :
    (setup.answered j).length ≤ (everyFrom j setup.servers.length setup.requests).length :=
  (List.takeWhile_prefix _).length_le

/-- There are no more answers than requests. -/
theorem answeredCount_le (hservers : setup.servers ≠ []) :
    setup.answeredCount ≤ setup.requests.length := by
  rw [← sum_length_share hservers]
  exact Finset.sum_le_sum fun j _ => length_answered_le j

/-- There is a response to every request exactly if none is deadly. -/
theorem answeredCount_eq_iff (hservers : setup.servers ≠ []) :
    setup.answeredCount = setup.requests.length ↔ setup.Spared := by
  rw [← sum_length_share hservers, answeredCount,
    Finset.sum_eq_sum_iff_of_le fun j _ => length_answered_le j]
  refine forall_congr' fun j => ?_
  rw [forall_prop_of_true (Finset.mem_univ j), ← List.takeWhile_eq_self_iff]
  exact ⟨(List.takeWhile_prefix _).eq_of_length, congrArg List.length⟩

/-- As many responses as there are requests answered come to what a sweep comes to. -/
theorem comesTo_collect (hservers : setup.servers ≠ []) {responses : List ScanResponse}
    (h : responses.length = setup.answeredCount) :
    setup.ComesTo (SweepResult.collect setup.wildcard setup.requests.length responses) := by
  rw [SweepResult.collect_eq]
  by_cases hspared : setup.Spared
  · have hcount := (answeredCount_eq_iff hservers).mpr hspared
    rw [if_neg (by omega)]
    exact .complete hspared (h.trans hcount)
  · have hlt : setup.answeredCount < setup.requests.length :=
      lt_of_le_of_ne (answeredCount_le hservers) fun hcount =>
        hspared ((answeredCount_eq_iff hservers).mp hcount)
    rw [if_pos (by omega), h]
    exact .aborted hspared hlt

end SweepSetup

/-- A probe has a response exactly if its task survives. -/
theorem ProbeOutcome.isSome_probe {c : Client Option} {server : Address} {request : ScanRequest}
    {outcome : Option ScanResponse} (h : ProbeOutcome (·.DiesLike c) server request outcome) :
    (c.probe server request).isSome = outcome.isSome := by
  obtain ⟨client, hdies, rfl⟩ := h
  exact (hdies.isSome_probe_eq server request).symm

/-- Requests that have been responded to are not deadly. -/
theorem Client.survived_append {c : Client Option} {server : Address}
    {done : List (Nat × ScanRequest)} {responses : List ScanResponse}
    (h : List.Forall₂ (fun r response =>
      ProbeOutcome (·.DiesLike c) server r.2 (some response)) done responses)
    (rest : List ScanRequest) :
    c.survived server (done.map (·.2) ++ rest) = done.map (·.2) ++ c.survived server rest := by
  refine List.takeWhile_append_of_pos fun request hrequest => ?_
  obtain ⟨r, hr, rfl⟩ := List.mem_map.mp hrequest
  obtain ⟨i, hi, rfl⟩ := List.mem_iff_getElem.mp hr
  exact (h.get hi (h.length_eq ▸ hi)).isSome_probe

namespace SweepWorker.Accounted

variable {c : Client Option} {dealt : List (Nat × ScanRequest)} {delivered : List ScanResponse}
  {sent : List Nat} {w : SweepWorker}

/-- A worker delivers no more than a response to every request before the first deadly one. -/
theorem length_delivered_le (h : w.Accounted (·.DiesLike c) dealt delivered sent) :
    delivered.length ≤ (c.survived w.server (dealt.map (·.2))).length := by
  cases h with
  | alive done _ hdealt hgiven =>
    have hlength := hgiven.length_eq
    rw [hdealt, List.map_append, Client.survived_append hgiven]
    simp only [List.length_append, List.length_map] at hlength ⊢
    omega
  | dead done fatal lost _ hdealt hgiven =>
    have hlength := hgiven.length_eq
    rw [hdealt, List.map_append, Client.survived_append hgiven]
    simp only [List.length_append, List.length_map]
    omega

/-- A worker that is gone has delivered a response to every request before the first deadly one. -/
theorem length_delivered_eq (h : w.Accounted (·.DiesLike c) dealt delivered sent)
    (hgone : w.activity.isGone = true) (hleft : w.activity = .left → w.queue = []) :
    delivered.length = (c.survived w.server (dealt.map (·.2))).length := by
  cases h with
  | alive done hliving hdealt hgiven =>
    have hactivity : w.activity = .left := by
      cases hactivity : w.activity <;> simp_all [WorkerActivity.isGone]
    simp only [todo, held, hactivity, hleft hactivity, List.append_nil] at hdealt hgiven
    have hsurvived := Client.survived_append hgiven []
    rw [Client.survived_nil, List.append_nil] at hsurvived
    rw [hdealt, hsurvived, List.length_map, hgiven.length_eq]
  | dead done fatal lost _ hdealt hgiven hkilled =>
    have hdeadly : c.survived w.server (fatal.2 :: lost.map (·.2)) = [] := by
      rw [Client.survived_cons, hkilled.isSome_probe]
      rfl
    rw [hdealt, List.map_append, List.map_cons, Client.survived_append hgiven, hdeadly,
      List.append_nil, List.length_map, hgiven.length_eq]

end SweepWorker.Accounted

namespace SweepState

variable {setup : SweepSetup} {s : SweepState} {outcome : Except Failure SweepResult}

/-- The requests that the worker with a number responds to, in terms of what was dealt to it. -/
theorem Accounted.answered_eq {clients : Client Option → Prop} (h : Accounted clients setup s)
    {j : Fin setup.servers.length} {w : SweepWorker} (hw : s.workers[j.1]? = some w) :
    setup.answered j = setup.client.survived w.server
      ((ofWorker j (setup.shared setup.requests.length)).map (·.2)) := by
  have hserver : setup.servers[j] = w.server := by
    have hmap : (s.workers.map (·.server))[j.1]? = some w.server := by
      rw [List.getElem?_map, hw]
      rfl
    rw [h.servers, List.getElem?_eq_getElem j.2] at hmap
    exact Option.some.inj hmap
  rw [SweepSetup.answered, hserver, SweepSetup.map_snd_ofWorker_shared]

/-- At the end as many responses have been collected as there are requests before the first deadly
ones. -/
theorem Accounted.length_collected (h : Accounted (·.DiesLike setup.client) setup s)
    (hservers : setup.servers ≠ []) (hend : s.result = some outcome) :
    s.collected.length = setup.answeredCount := by
  obtain ⟨hclosed, hover, -⟩ := h.ended outcome hend
  have hdealt : s.dealt = setup.requests.length := Nat.le_antisymm h.dealt_le hclosed
  have hworker (j : Fin setup.servers.length) : ∃ w, s.workers[j.1]? = some w :=
    ⟨_, List.getElem?_eq_getElem (j.2.trans_eq h.length_workers.symm)⟩
  have hsum : s.collected.length =
      ∑ j : Fin setup.servers.length, (ofWorker j s.collected).length := by
    rw [length_eq_sum_ofWorker fun p hp => h.delivered_lt p (List.mem_append_left _ hp),
      Finset.sum_range]
  have hle (j : Fin setup.servers.length) :
      (ofWorker j s.collected).length ≤ (setup.answered j).length := by
    obtain ⟨w, hw⟩ := hworker j
    have hdelivered := (h.accounts j w hw).length_delivered_le
    rw [hdealt, ← h.answered_eq hw, delivered, ofWorker_append, List.length_append] at hdelivered
    omega
  simp only [isOver, Bool.or_eq_true, decide_eq_true_eq, Bool.and_eq_true, List.isEmpty_iff,
    List.all_eq_true] at hover
  rcases hover with hall | ⟨hchannel, hgone⟩
  · -- As many responses as requests leave no room for a deadly one.
    have hcount : s.collected.length ≤ setup.answeredCount := by
      rw [hsum, SweepSetup.answeredCount]
      exact Finset.sum_le_sum fun j _ => hle j
    have hmost := SweepSetup.answeredCount_le hservers
    omega
  · refine hsum.trans (Finset.sum_congr rfl fun j _ => ?_)
    obtain ⟨w, hw⟩ := hworker j
    have hmem := List.mem_of_getElem? hw
    have hdelivered := (h.accounts j w hw).length_delivered_eq (hgone w hmem)
      fun hleft => (h.left w hmem hleft).1
    rwa [hdealt, ← h.answered_eq hw, delivered, hchannel, List.append_nil] at hdelivered

/-- A sweep that takes one share after the other comes to the same. -/
theorem comesTo_sweep (hservers : setup.servers ≠ []) (qps : Nat) :
    ∃ outcome, setup.client.sweep qps setup.servers setup.wildcard setup.requests = some outcome ∧
      setup.ComesTo outcome := by
  rw [Client.sweep_eq]
  refine ⟨_, rfl, SweepSetup.comesTo_collect hservers ?_⟩
  have hshares : (setup.servers.zipIdx.map fun p =>
      ((setup.client.survived p.1 (everyFrom p.2 setup.servers.length setup.requests)).filterMap
        (setup.client.probe p.1)).length) =
      List.ofFn fun j => (setup.answered j).length := by
    refine List.ext_getElem (by simp) fun j hj _ => ?_
    have hlt : j < setup.servers.length := by simpa using hj
    have hsome : ∀ request ∈ setup.client.survived setup.servers[j]
        (everyFrom j setup.servers.length setup.requests),
        (setup.client.probe setup.servers[j] request).isSome = true :=
      fun _ hrequest => Client.isSome_probe_of_mem_survived hrequest
    simpa [SweepSetup.answered] using List.filterMap_length_eq_length.mpr hsome
  rw [List.length_flatMap]
  refine (congrArg List.sum hshares).trans ?_
  rw [List.sum_ofFn, SweepSetup.answeredCount]

/-- Assume that the client always dies of the same questions. However the steps of the parties are
interleaved, a sweep comes to an end, and to this one: if no probe kills its worker, a response has
come for every request; otherwise some are missing, and the sweep fails with the number of requests
that stand before the first deadly one of their share. A sweep that takes one share after the other
comes to the same. -/
theorem deaths_are_counted (hservers : setup.servers ≠ [])
    (h : Relation.ReflTransGen (Turn (·.DiesLike setup.client) setup) (initial setup) s) :
    (∀ outcome, s.result = some outcome → setup.ComesTo outcome) ∧
    (s.result = none → ∃ t, Turn (·.DiesLike setup.client) setup s t) ∧
    (∀ run : Nat → SweepState, run 0 = s →
      ¬ ∀ n, Turn (·.DiesLike setup.client) setup (run n) (run (n + 1))) ∧
    ∀ qps, ∃ outcome,
      setup.client.sweep qps setup.servers setup.wildcard setup.requests = some outcome ∧
        setup.ComesTo outcome := by
  have haccounted := accounted_of_turns h
  refine ⟨fun outcome hend => ?_, fun hresult => ?_, fun run _ hrun => ?_, comesTo_sweep hservers⟩
  · obtain ⟨-, -, rfl⟩ := haccounted.ended outcome hend
    refine SweepSetup.comesTo_collect hservers ?_
    rw [List.length_map, haccounted.length_collected hservers hend]
  · obtain ⟨action, haction⟩ := (bounded_of_events (events_of_turns h)).canAct hservers hresult
    obtain ⟨t, ht⟩ := Option.isSome_iff_exists.mp haction
    exact ⟨t, setup.client, action, fun _ _ => rfl, ht⟩
  · exact not_forall_event run fun n => event_of_turn (hrun n)

/-- Two servers and five requests, the third of which is deadly for the worker of the first server:
the request before it counts, the one that would be dealt to the dead worker does not. -/
theorem deaths_are_counted_two_servers :
    let server (n : UInt8) : Address := .v4 ⟨192, 0, 2, n⟩
    let client : Client Option :=
      { query := fun q server =>
          if q.name = "y.a." then none
          else some (.ok ⟨[⟨q.name, 60, .txt ["x"]⟩], [], true, false, server, .zero⟩)
        transfer := fun _ _ => some (.ok []) }
    let request (stem : String) : ScanRequest := ⟨.txt, stem, "a."⟩
    let setup : SweepSetup :=
      ⟨client, [server 1, server 2], .empty,
        [request "w", request "x", request "y", request "z", request "v"], 0⟩
    let actions : List SweepAction :=
      [.deal, .deal, .deal, .fetch 0, .probe 0, .deliver 0, .fetch 0, .probe 0, .deal, .deal,
        .fetch 1, .probe 1, .collect, .deliver 1, .fetch 1, .probe 1, .collect, .deliver 1,
        .leave 1, .collect, .finish]
    ∃ s, run? setup actions (initial setup) = some s ∧ setup.servers ≠ [] ∧
      Relation.ReflTransGen (Turn (·.DiesLike setup.client) setup) (initial setup) s ∧
      s.result = some (.error (.scanAborted 5 3)) ∧
      setup.ComesTo (.error (.scanAborted 5 3)) := by
  intro server client request setup actions
  have hended : ((run? setup actions (initial setup)).bind (·.result)) =
      some (.error (.scanAborted 5 3)) := by
    decide +kernel
  obtain ⟨s, hs, hresult⟩ := Option.bind_eq_some_iff.mp hended
  have hreached : Reachable setup s := ⟨actions, hs⟩
  have hturns := hreached.reflTransGen (·.DiesLike setup.client) fun _ _ => rfl
  exact ⟨s, hs, by decide, hturns, hresult,
    (deaths_are_counted (by decide) hturns).1 _ hresult⟩

end SweepState

end DnsHealth
