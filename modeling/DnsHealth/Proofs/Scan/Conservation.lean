import DnsHealth.Proofs.Scan.Collection
import DnsHealth.Proofs.Scan.Steps
import Mathlib.Algebra.Order.BigOperators.Group.Finset

/-!
# Nothing is lost in a sweep

Every request that has been dealt to a worker that is alive is in one of five places at any time: in
the queue of the worker, being probed, held as a response, on the channel, or collected. A request
moves from each place to the next only, and the requests of one worker never overtake each other. So
what a worker has done and what it has still to do make up its share in the order in which it was
dealt, however the steps of the parties are interleaved. When a worker dies, what it has done stands
before the request that killed it, and everything behind that is lost.
-/

namespace DnsHealth

/-- The members of a list that belong to one worker. -/
def ofWorker {α : Type} (j : Nat) (xs : List (Nat × α)) : List α :=
  xs.filterMap fun (i, x) => if i = j then some x else none

section OfWorker

variable {α β : Type}

@[simp] theorem ofWorker_nil (j : Nat) : ofWorker j ([] : List (Nat × α)) = [] := rfl

/-- What belongs to a worker in two lists in a row is what does in each. -/
@[simp] theorem ofWorker_append (j : Nat) (xs ys : List (Nat × α)) :
    ofWorker j (xs ++ ys) = ofWorker j xs ++ ofWorker j ys := List.filterMap_append

private theorem ofWorker_cons (i j : Nat) (x : α) (xs : List (Nat × α)) :
    ofWorker j ((i, x) :: xs) = if i = j then x :: ofWorker j xs else ofWorker j xs := by
  by_cases h : i = j <;> simp [ofWorker, h]

/-- All that is given to a worker belongs to it. -/
@[simp] theorem ofWorker_map_mk_self (j : Nat) (xs : List α) :
    ofWorker j (xs.map (Prod.mk j)) = xs := by
  induction xs with
  | nil => rfl
  | cons x xs ih => rw [List.map_cons, ofWorker_cons, if_pos rfl, ih]

private theorem ofWorker_map_mk_of_ne {i j : Nat} (h : i ≠ j) (xs : List α) :
    ofWorker j (xs.map (Prod.mk i)) = [] := by
  induction xs with
  | nil => rfl
  | cons x xs ih => rw [List.map_cons, ofWorker_cons, if_neg h, ih]

/-- The members that belong to one of the workers whose members stand one after the other. -/
theorem ofWorker_flatMap_range (f : Nat → List α) {j k : Nat} (h : j < k) :
    ofWorker j ((List.range k).flatMap fun i => (f i).map (Prod.mk i)) = f j := by
  have hnone (k : Nat) (hk : k ≤ j) :
      ofWorker j ((List.range k).flatMap fun i => (f i).map (Prod.mk i)) = [] := by
    induction k with
    | zero => rfl
    | succ k ih =>
      rw [List.range_succ, List.flatMap_append, List.flatMap_singleton, ofWorker_append,
        ih (by omega), ofWorker_map_mk_of_ne (by omega), List.append_nil]
  induction k with
  | zero => omega
  | succ k ih =>
    rw [List.range_succ, List.flatMap_append, List.flatMap_singleton, ofWorker_append]
    rcases Nat.lt_succ_iff_lt_or_eq.mp h with h | rfl
    · rw [ih h, ofWorker_map_mk_of_ne (by omega), List.append_nil]
    · rw [hnone j le_rfl, ofWorker_map_mk_self, List.nil_append]

/-- What is made of the members that belong to a worker belongs to it. -/
theorem ofWorker_filterMap (f : α → Option β) (j : Nat) (xs : List (Nat × α)) :
    ofWorker j (xs.filterMap fun (i, x) => (f x).map (Prod.mk i)) =
      (ofWorker j xs).filterMap f := by
  simp only [ofWorker, List.filterMap_filterMap]
  refine List.filterMap_congr ?_
  rintro ⟨i, x⟩ -
  by_cases h : i = j <;> cases hx : f x <;> simp [h, hx]

private theorem filter_lt_succ_perm (k : Nat) (xs : List (Nat × α)) :
    (xs.filter (·.1 < k + 1)).Perm
      (xs.filter (·.1 < k) ++ (ofWorker k xs).map (Prod.mk k)) := by
  induction xs with
  | nil => simp
  | cons p xs ih =>
    obtain ⟨i, x⟩ := p
    rw [ofWorker_cons]
    rcases Nat.lt_trichotomy i k with h | rfl | h
    · rw [List.filter_cons_of_pos (by simpa using Nat.lt_succ_of_lt h),
        List.filter_cons_of_pos (by simpa using h), if_neg (by omega)]
      exact ih.cons _
    · rw [List.filter_cons_of_pos (by simp), List.filter_cons_of_neg (by simp), if_pos rfl,
        List.map_cons]
      exact (ih.cons _).trans List.perm_middle.symm
    · rw [List.filter_cons_of_neg (by simp; omega), List.filter_cons_of_neg (by simp; omega),
        if_neg (by omega)]
      exact ih

/-- A list is made of what belongs to each worker. -/
theorem perm_flatMap_ofWorker {k : Nat} {xs : List (Nat × α)} (h : ∀ p ∈ xs, p.1 < k) :
    xs.Perm ((List.range k).flatMap fun j => (ofWorker j xs).map (Prod.mk j)) := by
  have hbelow (k : Nat) : (xs.filter (·.1 < k)).Perm
      ((List.range k).flatMap fun j => (ofWorker j xs).map (Prod.mk j)) := by
    induction k with
    | zero => simp
    | succ k ih =>
      rw [List.range_succ, List.flatMap_append, List.flatMap_singleton]
      exact (filter_lt_succ_perm k xs).trans (ih.append_right _)
  have hall : xs.filter (·.1 < k) = xs := List.filter_eq_self.mpr (by simpa using h)
  exact (List.Perm.of_eq hall.symm).trans (hbelow k)

/-- Lists that give every worker the same have the same members. -/
theorem perm_of_ofWorker_eq {k : Nat} {xs ys : List (Nat × α)} (hxs : ∀ p ∈ xs, p.1 < k)
    (hys : ∀ p ∈ ys, p.1 < k) (h : ∀ j < k, ofWorker j xs = ofWorker j ys) : xs.Perm ys := by
  refine (perm_flatMap_ofWorker hxs).trans (.trans (.of_eq ?_) (perm_flatMap_ofWorker hys).symm)
  exact List.flatMap_congr fun j hj => by rw [h j (List.mem_range.mp hj)]

/-- A list is as long as what belongs to all workers together. -/
theorem length_eq_sum_ofWorker {k : Nat} {xs : List (Nat × α)} (h : ∀ p ∈ xs, p.1 < k) :
    xs.length = ∑ j ∈ Finset.range k, (ofWorker j xs).length := by
  rw [(perm_flatMap_ofWorker h).length_eq, List.length_flatMap]
  simp only [List.length_map]
  rfl

/-- Lists of one length are alike if for every worker the one begins as the other does. -/
theorem ofWorker_eq_of_isPrefix {k : Nat} {xs ys : List (Nat × α)} (hxs : ∀ p ∈ xs, p.1 < k)
    (hys : ∀ p ∈ ys, p.1 < k) (h : ∀ j < k, ofWorker j xs <+: ofWorker j ys)
    (hlength : xs.length = ys.length) : ∀ j < k, ofWorker j xs = ofWorker j ys := by
  have hle : ∀ j ∈ Finset.range k, (ofWorker j xs).length ≤ (ofWorker j ys).length :=
    fun j hj => (h j (Finset.mem_range.mp hj)).length_le
  have heq := (Finset.sum_eq_sum_iff_of_le hle).mp
    (by rw [← length_eq_sum_ofWorker hxs, hlength, length_eq_sum_ofWorker hys])
  exact fun j hj => (h j hj).eq_of_length (heq j (Finset.mem_range.mpr hj))

end OfWorker

/-- The first requests of a sweep with their numbers, each with the worker that it is dealt to. -/
def SweepSetup.shared (setup : SweepSetup) (n : Nat) : List (Nat × Nat × ScanRequest) :=
  (setup.requests.take n).zipIdx.map fun (request, i) => (i % setup.servers.length, i, request)

/-- One more request that is dealt goes to the next worker in turn. -/
theorem SweepSetup.shared_succ {setup : SweepSetup} {n : Nat} {request : ScanRequest}
    (h : setup.requests[n]? = some request) :
    setup.shared (n + 1) = setup.shared n ++ [(n % setup.servers.length, n, request)] := by
  obtain ⟨hn, -⟩ := List.getElem?_eq_some_iff.mp h
  have hlength : (setup.requests.take n).length = n := by
    rw [List.length_take]
    omega
  simp [shared, List.take_add_one, h, List.zipIdx_append, hlength]

/-- What a probe may come to with clients of some kind: a response, or the death of the worker. -/
def ProbeOutcome (clients : Client Option → Prop) (server : Address) (request : ScanRequest)
    (outcome : Option ScanResponse) : Prop :=
  ∃ client, clients client ∧ client.probe server request = outcome

namespace SweepWorker

/-- The requests that a worker has still to send out. -/
def todo (w : SweepWorker) : List (Nat × ScanRequest) :=
  match w.activity with
  | .probing request => request :: w.queue
  | _ => w.queue

/-- The response that a worker has still to deliver. -/
def held (w : SweepWorker) : List ScanResponse :=
  match w.activity with
  | .holding response => [response]
  | _ => []

/-- The accounts of a worker: what was dealt to it, what it has delivered, and the numbers of the
requests that it has sent out. -/
inductive Accounted (clients : Client Option → Prop) (dealt : List (Nat × ScanRequest))
    (delivered : List ScanResponse) (sent : List Nat) (w : SweepWorker) : Prop where
  /-- What was dealt to a worker that is alive is done or still to do, and what is done was
  delivered or is to be so. -/
  | alive (done : List (Nat × ScanRequest)) (living : w.activity ≠ .dead)
      (dealt_eq : dealt = done ++ w.todo)
      (given : List.Forall₂ (fun r response => ProbeOutcome clients w.server r.2 (some response))
        done (delivered ++ w.held))
      (sent_eq : sent = done.map (·.1))
  /-- What was dealt to a worker that is dead is done and delivered up to the request that killed
  it, and what was dealt after that is lost. -/
  | dead (done : List (Nat × ScanRequest)) (fatal : Nat × ScanRequest)
      (lost : List (Nat × ScanRequest)) (died : w.activity = .dead)
      (dealt_eq : dealt = done ++ fatal :: lost)
      (given : List.Forall₂ (fun r response => ProbeOutcome clients w.server r.2 (some response))
        done delivered)
      (killed : ProbeOutcome clients w.server fatal.2 none)
      (sent_eq : sent = done.map (·.1) ++ [fatal.1])

namespace Accounted

variable {clients : Client Option → Prop} {dealt : List (Nat × ScanRequest)}
  {delivered : List ScanResponse} {sent : List Nat} {w : SweepWorker}

/-- What is dealt to a worker that is there goes into its queue. -/
theorem deal (h : w.Accounted clients dealt delivered sent) (hliving : w.activity ≠ .dead)
    (request : Nat × ScanRequest) :
    ({ w with queue := w.queue ++ [request] } : SweepWorker).Accounted clients (dealt ++ [request])
      delivered sent := by
  cases h with
  | alive done _ hdealt hgiven hsent =>
    refine .alive done hliving ?_ hgiven hsent
    rw [hdealt, List.append_assoc]
    simp only [todo]
    split <;> rfl
  | dead _ _ _ hdied => exact absurd hdied hliving

/-- What would be dealt to a worker that is dead is lost. -/
theorem drop (h : w.Accounted clients dealt delivered sent) (hdied : w.activity = .dead)
    (request : Nat × ScanRequest) :
    w.Accounted clients (dealt ++ [request]) delivered sent := by
  cases h with
  | alive _ hliving => exact absurd hdied hliving
  | dead done fatal lost hdied hdealt hgiven hkilled hsent =>
    refine .dead done fatal (lost ++ [request]) hdied ?_ hgiven hkilled hsent
    rw [hdealt, List.append_assoc, List.cons_append]

/-- A worker that takes a request from its queue stays accounted for. -/
theorem fetch {request : Nat × ScanRequest} {queue : List (Nat × ScanRequest)}
    (h : w.Accounted clients dealt delivered sent) (hidle : w.activity = .idle)
    (hqueue : w.queue = request :: queue) :
    ({ w with queue, activity := .probing request } : SweepWorker).Accounted clients dealt
      delivered sent := by
  cases h with
  | alive done _ hdealt hgiven hsent =>
    simp only [todo, held, hidle, hqueue] at hdealt hgiven
    exact .alive done nofun hdealt hgiven hsent
  | dead _ _ _ hdied => simp [hidle] at hdied

/-- A worker whose probe has ended stays accounted for. -/
theorem answer {number : Nat} {request : ScanRequest} {response : ScanResponse}
    (h : w.Accounted clients dealt delivered sent)
    (hprobing : w.activity = .probing (number, request))
    (houtcome : ProbeOutcome clients w.server request (some response)) :
    ({ w with activity := .holding response } : SweepWorker).Accounted clients dealt delivered
      (sent ++ [number]) := by
  cases h with
  | alive done _ hdealt hgiven hsent =>
    simp only [todo, held, hprobing, List.append_nil] at hdealt hgiven
    refine .alive (done ++ [(number, request)]) nofun ?_ ?_ ?_
    · simp [hdealt, todo]
    · exact List.rel_append hgiven (.cons houtcome .nil)
    · simp [hsent]
  | dead _ _ _ hdied => simp [hprobing] at hdied

/-- A probe that kills the worker loses its request and all that are in the queue. -/
theorem die {number : Nat} {request : ScanRequest} (h : w.Accounted clients dealt delivered sent)
    (hprobing : w.activity = .probing (number, request))
    (houtcome : ProbeOutcome clients w.server request none) :
    ({ w with queue := [], activity := .dead } : SweepWorker).Accounted clients dealt delivered
      (sent ++ [number]) := by
  cases h with
  | alive done _ hdealt hgiven hsent =>
    simp only [todo, held, hprobing, List.append_nil] at hdealt hgiven
    exact .dead done (number, request) w.queue rfl hdealt hgiven houtcome (by rw [hsent])
  | dead _ _ _ hdied => simp [hprobing] at hdied

/-- A worker that delivers its response stays accounted for. -/
theorem deliver {response : ScanResponse} (h : w.Accounted clients dealt delivered sent)
    (hholding : w.activity = .holding response) :
    ({ w with activity := .idle } : SweepWorker).Accounted clients dealt (delivered ++ [response])
      sent := by
  cases h with
  | alive done _ hdealt hgiven hsent =>
    simp only [todo, held, hholding] at hdealt hgiven
    exact .alive done nofun hdealt (by simpa [held] using hgiven) hsent
  | dead _ _ _ hdied => simp [hholding] at hdied

/-- A worker that leaves stays accounted for. -/
theorem leave (h : w.Accounted clients dealt delivered sent) (hidle : w.activity = .idle) :
    ({ w with activity := .left } : SweepWorker).Accounted clients dealt delivered sent := by
  cases h with
  | alive done _ hdealt hgiven hsent =>
    simp only [todo, held, hidle] at hdealt hgiven
    exact .alive done nofun hdealt hgiven hsent
  | dead _ _ _ hdied => simp [hidle] at hdied

end Accounted

/-- The books of a worker: what was dealt to it, what it has delivered, and the numbers of the
requests that it has sent out. -/
structure Balanced (c : Client Id) (dealt : List (Nat × ScanRequest))
    (delivered : List ScanResponse) (sent : List Nat) (w : SweepWorker) : Prop where
  /-- What was dealt is done or still to do, and what is done was delivered or is to be so. -/
  exists_done : ∃ done, dealt = done ++ w.todo ∧
    delivered ++ w.held = done.map (fun r => c.probe w.server r.2) ∧ sent = done.map (·.1)
  /-- The worker is alive. -/
  alive : w.activity ≠ .dead

/-- With a client that kills no task the books of a worker are balanced. -/
theorem Accounted.balanced {c : Client Id} {dealt : List (Nat × ScanRequest)}
    {delivered : List ScanResponse} {sent : List Nat} {w : SweepWorker}
    (h : w.Accounted (· = c.surviving) dealt delivered sent) :
    w.Balanced c dealt delivered sent := by
  have houtcome {request : ScanRequest} {outcome : Option ScanResponse}
      (h : ProbeOutcome (· = c.surviving) w.server request outcome) :
      some (c.probe w.server request) = outcome := by
    obtain ⟨_, rfl, h⟩ := h
    rwa [c.probe_surviving] at h
  cases h with
  | alive done hliving hdealt hgiven hsent =>
    refine ⟨⟨done, hdealt, ?_, hsent⟩, hliving⟩
    have hmap := List.forall₂_map_left_iff.mpr
      (hgiven.imp fun r _ hresponse => Option.some.inj (houtcome hresponse))
    exact (List.forall₂_eq_eq_eq ▸ hmap).symm
  | dead _ _ _ _ _ _ hkilled => cases houtcome hkilled

end SweepWorker

namespace SweepState

/-- The responses that have been delivered, collected or not. -/
def delivered (s : SweepState) : List (Nat × ScanResponse) := s.collected ++ s.channel

/-- What every step keeps: there are accounts of all workers. -/
structure Accounted (clients : Client Option → Prop) (setup : SweepSetup) (s : SweepState) :
    Prop where
  /-- Every worker asks its own server. -/
  servers : s.workers.map (·.server) = setup.servers
  /-- No more requests are dealt than there are. -/
  dealt_le : s.dealt ≤ setup.requests.length
  /-- Responses are delivered by workers. -/
  delivered_lt : ∀ p ∈ s.delivered, p.1 < setup.servers.length
  /-- Requests are sent out by workers. -/
  sent_lt : ∀ p ∈ s.sent, p.1 < setup.servers.length
  /-- There are accounts of every worker. -/
  accounts : ∀ (j : Nat) (w : SweepWorker), s.workers[j]? = some w →
    w.Accounted clients (ofWorker j (setup.shared s.dealt)) (ofWorker j s.delivered)
      (ofWorker j s.sent)
  /-- No worker leaves before all requests are dealt and its own are fetched. -/
  left : ∀ w ∈ s.workers, w.activity = .left → w.queue = [] ∧ s.allDealt setup
  /-- A sweep ends with what was collected, once the collection is over. -/
  ended : ∀ outcome, s.result = some outcome → s.allDealt setup ∧ s.isOver setup ∧
    outcome = SweepResult.collect setup.wildcard setup.requests.length (s.collected.map (·.2))

variable {clients : Client Option → Prop} {setup : SweepSetup} {s t : SweepState} {i : Nat}
  {w v : SweepWorker}

/-- A sweep begins accounted for. -/
theorem accounted_initial (clients : Client Option → Prop) (setup : SweepSetup) :
    Accounted clients setup (initial setup) where
  servers := by simp [initial, Function.comp_def]
  dealt_le := Nat.zero_le _
  delivered_lt := by simp [initial, delivered]
  sent_lt := by simp [initial]
  accounts j w hw := by
    simp only [initial, List.getElem?_map, Option.map_eq_some_iff] at hw
    obtain ⟨server, -, rfl⟩ := hw
    refine .alive [] nofun ?_ ?_ ?_
    · simp [SweepSetup.shared, SweepWorker.todo, initial]
    · simp [SweepWorker.held, initial, delivered]
    · simp [initial]
  left w hw h := by
    simp only [initial, List.mem_map] at hw
    obtain ⟨server, -, rfl⟩ := hw
    cases h
  ended outcome h := by cases h

namespace Accounted

/-- No worker gets lost. -/
theorem length_workers (h : Accounted clients setup s) :
    s.workers.length = setup.servers.length := by
  rw [← h.servers, List.length_map]

/-- A step that concerns one worker keeps the accounts if it does so for this worker's. -/
theorem update (requests : List (Nat × ScanRequest)) (responses : List ScanResponse)
    (asked : List Nat) (h : Accounted clients setup s) (hw : s.workers[i]? = some w)
    (hworkers : t.workers = s.workers.set i v) (hserver : v.server = w.server)
    (hdealt : s.dealt ≤ t.dealt ∧ t.dealt ≤ setup.requests.length)
    (hshared : setup.shared t.dealt = setup.shared s.dealt ++ requests.map (Prod.mk i))
    (hdelivered : t.delivered = s.delivered ++ responses.map (Prod.mk i))
    (hsent : t.sent = s.sent ++ asked.map (Prod.mk i)) (hresult : t.result = none)
    (haccounts : v.Accounted clients (ofWorker i (setup.shared s.dealt) ++ requests)
      (ofWorker i s.delivered ++ responses) (ofWorker i s.sent ++ asked))
    (hleft : v.activity = .left → v.queue = [] ∧ t.allDealt setup) :
    Accounted clients setup t := by
  obtain ⟨hlt, hget⟩ := List.getElem?_eq_some_iff.mp hw
  have hi : i < setup.servers.length := h.length_workers ▸ hlt
  refine ⟨?_, hdealt.2, ?_, ?_, fun j u hu => ?_, fun u hu hgone => ?_, ?_⟩
  · rw [hworkers, List.map_set, hserver, ← h.servers]
    refine List.ext_getElem? fun j => ?_
    by_cases hj : i = j
    · subst hj
      simp [hlt, hget]
    · simp [List.getElem?_set_ne hj]
  · rw [hdelivered]
    exact List.forall_mem_append.mpr ⟨h.delivered_lt, by simpa using fun _ _ => hi⟩
  · rw [hsent]
    exact List.forall_mem_append.mpr ⟨h.sent_lt, by simpa using fun _ _ => hi⟩
  · rw [hworkers] at hu
    rw [hshared, hdelivered, hsent, ofWorker_append, ofWorker_append, ofWorker_append]
    by_cases hj : i = j
    · subst hj
      rw [List.getElem?_set_self hlt] at hu
      cases hu
      rwa [ofWorker_map_mk_self, ofWorker_map_mk_self, ofWorker_map_mk_self]
    · rw [List.getElem?_set_ne hj] at hu
      rw [ofWorker_map_mk_of_ne hj, ofWorker_map_mk_of_ne hj, ofWorker_map_mk_of_ne hj,
        List.append_nil, List.append_nil, List.append_nil]
      exact h.accounts j u hu
  · rw [hworkers] at hu
    rcases List.mem_or_eq_of_mem_set hu with hu | rfl
    · obtain ⟨hqueue, hall⟩ := h.left u hu hgone
      exact ⟨hqueue, Nat.le_trans hall hdealt.1⟩
    · exact hleft hgone
  · intro outcome houtcome
    rw [hresult] at houtcome
    cases houtcome

/-- A worker that is gone before all requests are dealt is dead. -/
theorem eq_dead_of_isGone (h : Accounted clients setup s) (hw : s.workers[i]? = some w)
    (hdealt : s.dealt < setup.requests.length) (hgone : w.activity.isGone = true) :
    w.activity = .dead := by
  have hleft := h.left w (List.mem_of_getElem? hw)
  cases hactivity : w.activity with
  | left => exact absurd (hleft hactivity).2 (Nat.not_le.mpr hdealt)
  | dead => rfl
  | _ => simp [hactivity, WorkerActivity.isGone] at hgone

/-- Every step keeps the accounts, if the client is one of those in question. -/
theorem moves (hclient : clients setup.client) (h : Accounted clients setup s)
    (hresult : s.result = none) (ht : Moves setup s t) : Accounted clients setup t := by
  cases ht with
  | @drop request w hnext hturn hgone =>
    have hlt : s.dealt < setup.requests.length := (List.getElem?_eq_some_iff.mp hnext).1
    have hdied := h.eq_dead_of_isGone hturn hlt hgone
    refine h.update [(s.dealt, request)] [] [] (v := w) hturn ?_ rfl ⟨Nat.le_succ _, hlt⟩ ?_
      (by simp; rfl) (by simp) hresult ?_ fun hleft => ?_
    · obtain ⟨hi, hget⟩ := List.getElem?_eq_some_iff.mp hturn
      rw [← hget, List.set_getElem_self]
    · rw [h.length_workers]
      exact SweepSetup.shared_succ hnext
    · simpa using (h.accounts _ w hturn).drop hdied (s.dealt, request)
    · rw [hdied] at hleft
      cases hleft
  | @deal request w hnext hturn hpresent =>
    have hlt : s.dealt < setup.requests.length := (List.getElem?_eq_some_iff.mp hnext).1
    have hliving : w.activity ≠ .dead := by
      rintro hdied
      simp [hdied, WorkerActivity.isGone] at hpresent
    refine h.update [(s.dealt, request)] [] [] hturn rfl rfl ⟨Nat.le_succ _, hlt⟩ ?_
      (by simp; rfl) (by simp; rfl) hresult ?_ fun hleft => ?_
    · rw [h.length_workers]
      exact SweepSetup.shared_succ hnext
    · simpa using (h.accounts _ w hturn).deal hliving (s.dealt, request)
    · rw [show w.activity = .left from hleft] at hpresent
      cases hpresent
  | fetch hworker hidle hqueued =>
    refine h.update [] [] [] hworker rfl rfl ⟨Nat.le_refl _, h.dealt_le⟩ (by simp; rfl)
      (by simp; rfl) (by simp; rfl) hresult ?_ nofun
    simpa using (h.accounts _ _ hworker).fetch hidle hqueued
  | answer hworker hprobing houtcome =>
    refine h.update [] [] [_] hworker rfl rfl ⟨Nat.le_refl _, h.dealt_le⟩ (by simp; rfl)
      (by simp; rfl) rfl hresult ?_ nofun
    simpa using (h.accounts _ _ hworker).answer hprobing ⟨_, hclient, houtcome⟩
  | die hworker hprobing houtcome =>
    refine h.update [] [] [_] hworker rfl rfl ⟨Nat.le_refl _, h.dealt_le⟩ (by simp; rfl)
      (by simp; rfl) rfl hresult ?_ nofun
    simpa using (h.accounts _ _ hworker).die hprobing ⟨_, hclient, houtcome⟩
  | deliver hworker hholding =>
    refine h.update [] [_] [] hworker rfl rfl ⟨Nat.le_refl _, h.dealt_le⟩ (by simp; rfl)
      (List.append_assoc ..).symm (by simp; rfl) hresult ?_ nofun
    simpa using (h.accounts _ _ hworker).deliver hholding
  | leave hworker hidle hqueue hclosed =>
    refine h.update [] [] [] hworker rfl rfl ⟨Nat.le_refl _, h.dealt_le⟩ (by simp; rfl)
      (by simp; rfl) (by simp; rfl) hresult ?_ fun _ => ⟨hqueue, hclosed⟩
    simpa using (h.accounts _ _ hworker).leave hidle
  | @collect response channel hwaiting =>
    have hdelivered : delivered { s with channel, collected := s.collected ++ [response] } =
        s.delivered := by
      simp [delivered, hwaiting]
    refine ⟨h.servers, h.dealt_le, hdelivered ▸ h.delivered_lt, h.sent_lt, ?_, h.left, ?_⟩
    · exact hdelivered ▸ h.accounts
    · intro outcome houtcome
      rw [hresult] at houtcome
      cases houtcome
  | finish hclosed hover =>
    refine ⟨h.servers, h.dealt_le, h.delivered_lt, h.sent_lt, h.accounts, h.left, ?_⟩
    intro outcome houtcome
    cases houtcome
    exact ⟨hclosed, hover, rfl⟩

/-- A turn keeps a sweep accounted for. -/
theorem turn (h : Accounted clients setup s) (ht : Turn clients setup s t) :
    Accounted clients setup t := by
  obtain ⟨hresult, client, hclient, hmoves⟩ := turn_iff.mp ht
  have hbefore : Accounted clients { setup with client } s :=
    ⟨h.servers, h.dealt_le, h.delivered_lt, h.sent_lt, h.accounts, h.left, h.ended⟩
  have hafter := hbefore.moves hclient hresult hmoves
  exact ⟨hafter.servers, hafter.dealt_le, hafter.delivered_lt, hafter.sent_lt, hafter.accounts,
    hafter.left, hafter.ended⟩

end Accounted

/-- There are accounts in every state that a sweep comes to with clients of some kind. -/
theorem accounted_of_turns (h : Relation.ReflTransGen (Turn clients setup) (initial setup) s) :
    Accounted clients setup s := by
  induction h with
  | refl => exact accounted_initial clients setup
  | tail _ hturn ih => exact ih.turn hturn

/-- What every step keeps: the books of all workers are balanced. -/
structure Conserved (c : Client Id) (setup : SweepSetup) (s : SweepState) : Prop where
  /-- Every worker asks its own server. -/
  servers : s.workers.map (·.server) = setup.servers
  /-- No more requests are dealt than there are. -/
  dealt_le : s.dealt ≤ setup.requests.length
  /-- Responses are delivered by workers. -/
  delivered_lt : ∀ p ∈ s.delivered, p.1 < setup.servers.length
  /-- Requests are sent out by workers. -/
  sent_lt : ∀ p ∈ s.sent, p.1 < setup.servers.length
  /-- The books of every worker are balanced. -/
  balanced : ∀ (j : Nat) (w : SweepWorker), s.workers[j]? = some w →
    w.Balanced c (ofWorker j (setup.shared s.dealt)) (ofWorker j s.delivered) (ofWorker j s.sent)
  /-- No worker leaves before all requests are dealt and its own are fetched. -/
  left : ∀ w ∈ s.workers, w.activity = .left → w.queue = [] ∧ s.allDealt setup
  /-- A sweep ends with what was collected, once the collection is over. -/
  ended : ∀ outcome, s.result = some outcome → s.allDealt setup ∧ s.isOver setup ∧
    outcome = SweepResult.collect setup.wildcard setup.requests.length (s.collected.map (·.2))

/-- No worker gets lost. -/
theorem Conserved.length_workers {c : Client Id} (h : Conserved c setup s) :
    s.workers.length = setup.servers.length := by
  rw [← h.servers, List.length_map]

/-- The books are balanced in every state that some interleaving leads to, if no probe kills its
worker. -/
theorem Reachable.conserved {c : Client Id} (hclient : setup.client = c.surviving)
    (h : Reachable setup s) : Conserved c setup s := by
  have haccounted := accounted_of_turns (h.reflTransGen (· = c.surviving) hclient)
  exact ⟨haccounted.servers, haccounted.dealt_le, haccounted.delivered_lt, haccounted.sent_lt,
    fun j w hw => (haccounted.accounts j w hw).balanced, haccounted.left, haccounted.ended⟩

end SweepState

end DnsHealth
