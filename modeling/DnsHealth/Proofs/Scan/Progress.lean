import DnsHealth.Proofs.Scan.Steps
import Mathlib.Algebra.GroupWithZero.Nat
import Mathlib.Algebra.Order.BigOperators.Group.List
import Mathlib.Algebra.Order.Group.Nat
import Mathlib.Order.OrderIsoNat

/-!
# A sweep never stands still

The dispatcher fills the queues of the workers before it looks at what they deliver, so all workers
may come to stand before a full channel. Still there is always a party that can act: the queue of a
worker holds no more than has been dealt, so there is room in it for what is left to be dealt, and
once everything has been dealt the dispatcher empties the channel. Every step takes some of the work
off that is left, and so does the death of a worker. So a sweep comes to its end, in whatever order
its parties act and whichever workers die on the way.
-/

namespace DnsHealth

/-- A sum over a list in which one member has taken the place of another. -/
theorem sum_map_set {α : Type} (f : α → Nat) {xs : List α} {i : Nat} {x : α} (y : α)
    (h : xs[i]? = some x) : ((xs.set i y).map f).sum + f x = (xs.map f).sum + f y := by
  induction xs generalizing i with
  | nil => cases h
  | cons z xs ih =>
    cases i with
    | zero =>
      cases h
      simp only [List.set_cons_zero, List.map_cons, List.sum_cons]
      omega
    | succ i =>
      have hrest := ih h
      simp only [List.set_cons_succ, List.map_cons, List.sum_cons]
      omega

namespace SweepWorker

/-- The number of requests that a worker has under way. -/
def load (w : SweepWorker) : Nat :=
  w.queue.length + match w.activity with
    | .probing _ | .holding _ => 1
    | .idle | .left | .dead => 0

/-- The work that is left to a worker: a request is taken out of the queue, probed, delivered and
collected, and at the end the worker leaves. -/
def effort (w : SweepWorker) : Nat :=
  4 * w.queue.length + match w.activity with
    | .idle => 1
    | .probing _ => 4
    | .holding _ => 3
    | .left | .dead => 0

private theorem length_queue_le_load (w : SweepWorker) :
    w.queue.length ≤ w.load := Nat.le_add_right ..

end SweepWorker

namespace SweepState

variable {setup : SweepSetup} {s t : SweepState}

/-- What happens to a sweep: a party takes a step, whatever the client answers at the time, or a
worker dies of whatever it is about. -/
inductive Event (setup : SweepSetup) (s : SweepState) : SweepState → Prop where
  /-- A party takes a step. -/
  | step {t : SweepState} (turn : Turn (fun _ => True) setup s t) : Event setup s t
  /-- A worker dies. -/
  | death {i : Nat} {w : SweepWorker} (worker : s.workers[i]? = some w)
      (present : w.activity.isGone = false) :
      Event setup s (s.setWorker i { w with queue := [], activity := .dead })

/-- What everything that happens to a sweep keeps: no more is under way than has been dealt. -/
structure Bounded (setup : SweepSetup) (s : SweepState) : Prop where
  /-- There is a worker for every server. -/
  workers : s.workers.length = setup.servers.length
  /-- No more requests are dealt than there are. -/
  dealt_le : s.dealt ≤ setup.requests.length
  /-- What is collected, on the channel or with a worker has been dealt. -/
  load_le : s.collected.length + s.channel.length + (s.workers.map SweepWorker.load).sum ≤ s.dealt

/-- The work that is left: a request is dealt, or else it has further to go, and at the end the
sweep ends. -/
def effort (setup : SweepSetup) (s : SweepState) : Nat :=
  (if s.result.isNone then 1 else 0) + 5 * (setup.requests.length - s.dealt) + s.channel.length +
    (s.workers.map SweepWorker.effort).sum

/-- A sweep begins within its bounds. -/
theorem bounded_initial (setup : SweepSetup) : Bounded setup (initial setup) where
  workers := List.length_map ..
  dealt_le := Nat.zero_le _
  load_le := by
    simp [initial, Function.comp_def, SweepWorker.load, List.map_const']

namespace Bounded

/-- What concerns one worker keeps the bound if its load grows by no more than has been dealt, less
what has been put on the channel. -/
theorem update {i : Nat} {w v : SweepWorker} (h : Bounded setup s) (hw : s.workers[i]? = some w)
    (hworkers : t.workers = s.workers.set i v) (hdealt : t.dealt ≤ setup.requests.length)
    (hload : t.collected.length + t.channel.length + v.load + s.dealt ≤
      s.collected.length + s.channel.length + w.load + t.dealt) : Bounded setup t where
  workers := by rw [hworkers, List.length_set, h.workers]
  dealt_le := hdealt
  load_le := by
    have hsum := sum_map_set SweepWorker.load v hw
    have hbefore := h.load_le
    rw [hworkers]
    omega

/-- A step keeps a sweep within its bounds. -/
theorem moves (h : Bounded setup s) (ht : Moves setup s t) : Bounded setup t := by
  cases ht with
  | drop hnext =>
    exact ⟨h.workers, (List.getElem?_eq_some_iff.mp hnext).1, Nat.le_succ_of_le h.load_le⟩
  | @deal _ w hnext hturn =>
    refine h.update hturn rfl (List.getElem?_eq_some_iff.mp hnext).1 ?_
    cases hactivity : w.activity <;>
      simp [setWorker, SweepWorker.load, hactivity] <;> omega
  | fetch hworker hidle hqueued =>
    refine h.update hworker rfl h.dealt_le ?_
    simp [setWorker, SweepWorker.load, hidle, hqueued]
  | answer hworker hprobing =>
    refine h.update hworker rfl h.dealt_le ?_
    simp [setWorker, SweepWorker.load, hprobing]
  | die hworker hprobing =>
    refine h.update hworker rfl h.dealt_le ?_
    simp [setWorker, SweepWorker.load, hprobing]
  | deliver hworker hholding =>
    refine h.update hworker rfl h.dealt_le ?_
    simp [setWorker, SweepWorker.load, hholding]
    omega
  | leave hworker hidle =>
    refine h.update hworker rfl h.dealt_le ?_
    simp [setWorker, SweepWorker.load, hidle]
  | collect hwaiting =>
    have hload := h.load_le
    rw [hwaiting, List.length_cons] at hload
    refine ⟨h.workers, h.dealt_le, ?_⟩
    simp only [List.length_append, List.length_singleton]
    omega
  | finish => exact ⟨h.workers, h.dealt_le, h.load_le⟩

/-- Whatever happens keeps a sweep within its bounds. -/
theorem event (h : Bounded setup s) (ht : Event setup s t) : Bounded setup t := by
  cases ht with
  | step hturn =>
    obtain ⟨-, client, -, hmoves⟩ := turn_iff.mp hturn
    have hafter : Bounded { setup with client } t := moves ⟨h.workers, h.dealt_le, h.load_le⟩ hmoves
    exact ⟨hafter.workers, hafter.dealt_le, hafter.load_le⟩
  | death hworker =>
    refine h.update hworker rfl h.dealt_le ?_
    simp [setWorker, SweepWorker.load]

end Bounded

/-- Nothing that can happen takes more into work than is dealt. -/
theorem bounded_of_events (h : Relation.ReflTransGen (Event setup) (initial setup) s) :
    Bounded setup s := by
  induction h with
  | refl => exact bounded_initial setup
  | tail _ hevent ih => exact ih.event hevent

namespace Bounded

/-- As long as not all requests are dealt, the dispatcher can deal or drop the next. -/
theorem exists_moves_of_dealt_lt (h : Bounded setup s) (hservers : setup.servers ≠ [])
    (hlt : s.dealt < setup.requests.length) : ∃ t, Moves setup s t := by
  have hpos : 0 < s.workers.length := h.workers ▸ List.length_pos_iff.mpr hservers
  have hnext := List.getElem?_eq_getElem hlt
  obtain ⟨w, hturn⟩ : ∃ w, s.workers[s.dealt % s.workers.length]? = some w :=
    ⟨_, List.getElem?_eq_getElem (Nat.mod_lt s.dealt hpos)⟩
  cases hgone : w.activity.isGone with
  | true => exact ⟨_, .drop hnext hturn hgone⟩
  | false =>
    refine ⟨_, .deal hnext hturn hgone ?_⟩
    -- The queue holds no more than has been dealt, which is not everything.
    have hqueue := w.length_queue_le_load
    have hload := List.le_sum_of_mem
      (List.mem_map_of_mem (f := SweepWorker.load) (List.mem_of_getElem? hturn))
    have hbound := h.load_le
    have hsize : setup.requests.length ≤ setup.queueSize := Nat.le_max_left ..
    omega

end Bounded

/-- A worker that is there can act, if there is nothing on the channel and all requests are
dealt. -/
theorem exists_moves_of_present {i : Nat} {w : SweepWorker} (hworker : s.workers[i]? = some w)
    (hpresent : w.activity.isGone = false) (hchannel : s.channel = [])
    (hclosed : s.allDealt setup) : ∃ t, Moves setup s t := by
  cases hactivity : w.activity with
  | idle =>
    cases hqueue : w.queue with
    | nil => exact ⟨_, .leave hworker hactivity hqueue hclosed⟩
    | cons request queue => exact ⟨_, .fetch hworker hactivity hqueue⟩
  | probing request =>
    cases houtcome : setup.client.probe w.server request.2 with
    | some response => exact ⟨_, .answer hworker hactivity houtcome⟩
    | none => exact ⟨_, .die hworker hactivity houtcome⟩
  | holding response =>
    refine ⟨_, .deliver hworker hactivity ?_⟩
    rw [hchannel]
    exact Nat.lt_of_lt_of_le Nat.one_pos (Nat.le_max_right ..)
  | left => simp [hactivity, WorkerActivity.isGone] at hpresent
  | dead => simp [hactivity, WorkerActivity.isGone] at hpresent

/-- Once all requests are dealt, the dispatcher collects or ends the sweep, or else there is a
worker that can act. -/
theorem Bounded.exists_moves_of_allDealt (h : Bounded setup s) (hclosed : s.allDealt setup) :
    ∃ t, Moves setup s t := by
  by_cases hover : s.isOver setup = true
  · exact ⟨_, .finish hclosed hover⟩
  simp only [isOver, Bool.or_eq_true, decide_eq_true_eq, Bool.and_eq_true, List.isEmpty_iff,
    not_or, not_and] at hover
  obtain ⟨hmissing, hpresent⟩ := hover
  cases hchannel : s.channel with
  | cons response channel =>
    have hload := h.load_le
    have hdealt := h.dealt_le
    exact ⟨_, .collect hchannel hclosed (by omega)⟩
  | nil =>
    have hsome := hpresent hchannel
    obtain ⟨w, hw, hgone⟩ := List.all_eq_false.mp (Bool.eq_false_iff.mpr hsome)
    obtain ⟨i, hi⟩ := List.getElem?_of_mem hw
    exact exists_moves_of_present hi (Bool.eq_false_iff.mpr hgone) hchannel hclosed

/-- As long as a sweep has not ended, a party can act. -/
theorem Bounded.canAct (h : Bounded setup s) (hservers : setup.servers ≠ [])
    (hresult : s.result = none) : CanAct setup s := by
  have hmoves : ∃ t, Moves setup s t := by
    rcases Nat.lt_or_ge s.dealt setup.requests.length with hlt | hclosed
    · exact h.exists_moves_of_dealt_lt hservers hlt
    · exact h.exists_moves_of_allDealt hclosed
  obtain ⟨t, ht⟩ := hmoves
  obtain ⟨action, haction⟩ := exists_act?_eq_some_iff.mpr ⟨hresult, ht⟩
  exact ⟨action, by rw [haction]; rfl⟩

/-- What concerns one worker takes work off if it does so for this worker, the channel and what is
left to be dealt taken together. -/
theorem effort_lt_of_set {i : Nat} {w v : SweepWorker} (hw : s.workers[i]? = some w)
    (hworkers : t.workers = s.workers.set i v) (hresult : t.result = s.result)
    (heffort : 5 * (setup.requests.length - t.dealt) + t.channel.length + v.effort <
      5 * (setup.requests.length - s.dealt) + s.channel.length + w.effort) :
    t.effort setup < s.effort setup := by
  have hsum := sum_map_set SweepWorker.effort v hw
  rw [effort, effort, hworkers, hresult]
  omega

/-- Every step takes some of the work off that is left. -/
theorem Moves.effort_lt (ht : Moves setup s t) (hresult : s.result = none) :
    t.effort setup < s.effort setup := by
  cases ht with
  | drop hnext =>
    have hlt := (List.getElem?_eq_some_iff.mp hnext).1
    simp only [effort]
    omega
  | deal hnext hturn =>
    have hlt := (List.getElem?_eq_some_iff.mp hnext).1
    refine effort_lt_of_set hturn rfl rfl ?_
    simp only [setWorker, SweepWorker.effort, List.length_append, List.length_singleton]
    omega
  | fetch hworker hidle hqueued =>
    refine effort_lt_of_set hworker rfl rfl ?_
    simp only [setWorker, SweepWorker.effort, hidle, hqueued, List.length_cons]
    omega
  | answer hworker hprobing =>
    refine effort_lt_of_set hworker rfl rfl ?_
    simp only [setWorker, SweepWorker.effort, hprobing]
    omega
  | die hworker hprobing =>
    refine effort_lt_of_set hworker rfl rfl ?_
    simp only [setWorker, SweepWorker.effort, hprobing, List.length_nil]
    omega
  | deliver hworker hholding =>
    refine effort_lt_of_set hworker rfl rfl ?_
    simp only [setWorker, SweepWorker.effort, hholding, List.length_append, List.length_singleton]
    omega
  | leave hworker hidle =>
    refine effort_lt_of_set hworker rfl rfl ?_
    simp only [setWorker, SweepWorker.effort, hidle]
    omega
  | collect hwaiting =>
    simp only [effort, hwaiting, List.length_cons]
    omega
  | finish =>
    simp only [effort, hresult, Option.isNone_none, Option.isNone_some]
    simp

/-- Everything that happens takes some of the work off that is left. -/
theorem Event.effort_lt (ht : Event setup s t) : t.effort setup < s.effort setup := by
  cases ht with
  | step hturn =>
    obtain ⟨hresult, client, -, hmoves⟩ := turn_iff.mp hturn
    have hlt := hmoves.effort_lt hresult
    exact hlt
  | @death i w hworker hpresent =>
    refine effort_lt_of_set hworker rfl rfl ?_
    cases hactivity : w.activity <;>
      simp_all [setWorker, SweepWorker.effort, WorkerActivity.isGone]

/-- The work that a sweep has before it. -/
theorem effort_initial (setup : SweepSetup) :
    (initial setup).effort setup = 5 * setup.requests.length + setup.servers.length + 1 := by
  simp [effort, initial, Function.comp_def, SweepWorker.effort, List.map_const']
  omega

/-- The work that is left is never more than at the beginning. -/
theorem effort_le_of_events (h : Relation.ReflTransGen (Event setup) (initial setup) s) :
    s.effort setup ≤ 5 * setup.requests.length + setup.servers.length + 1 := by
  induction h with
  | refl => exact (effort_initial setup).le
  | tail _ hevent ih => exact hevent.effort_lt.le.trans ih

/-- Things cannot go on happening without end. -/
theorem not_forall_event (run : Nat → SweepState) :
    ¬ ∀ n, Event setup (run n) (run (n + 1)) := fun hrun =>
  not_strictAnti_of_wellFoundedLT (fun n => (run n).effort setup)
    (strictAnti_nat_of_succ_lt fun n => (hrun n).effort_lt)

/-- What a client of some kind lets happen is part of what can happen. -/
theorem event_of_turn {clients : Client Option → Prop} (h : Turn clients setup s t) :
    Event setup s t := by
  obtain ⟨client, action, -, hact⟩ := h
  exact .step ⟨client, action, True.intro, hact⟩

/-- Turns are events. -/
theorem events_of_turns {clients : Client Option → Prop}
    (h : Relation.ReflTransGen (Turn clients setup) s t) :
    Relation.ReflTransGen (Event setup) s t :=
  h.lift id fun _ _ => event_of_turn

/-- Whatever has happened to a sweep, and whichever of its workers have died: as long as it has not
ended a party can act, whatever the client would answer. Everything that happens takes some of the
work off that is left, which is limited from the beginning, so things cannot go on happening without
end. -/
theorem never_deadlocks (hservers : setup.servers ≠ [])
    (h : Relation.ReflTransGen (Event setup) (initial setup) s) :
    (s.result = none → ∀ client, CanAct { setup with client } s) ∧
    (∀ t, Event setup s t → t.effort setup < s.effort setup) ∧
    s.effort setup ≤ 5 * setup.requests.length + setup.servers.length + 1 ∧
    ∀ run : Nat → SweepState, run 0 = s → ¬ ∀ n, Event setup (run n) (run (n + 1)) := by
  have hbounded := bounded_of_events h
  refine ⟨fun hresult client => ?_, fun t ht => ht.effort_lt, effort_le_of_events h,
    fun run _ => not_forall_event run⟩
  have hclient : Bounded { setup with client } s :=
    ⟨hbounded.workers, hbounded.dealt_le, hbounded.load_le⟩
  exact hclient.canAct hservers hresult

/-- The channel is full, one worker waits to deliver and the other one is dead, and a request is
still to be dealt: a party can act. -/
theorem never_deadlocks_full_channel :
    let server (n : UInt8) : Address := .v4 ⟨192, 0, 2, n⟩
    let client : Client Option :=
      { query := fun q server =>
          some (.ok ⟨[⟨q.name, 60, .txt ["x"]⟩], [], true, false, server, .zero⟩)
        transfer := fun _ _ => some (.ok []) }
    let request (stem : String) : ScanRequest := ⟨.txt, stem, "a."⟩
    let setup : SweepSetup :=
      ⟨client, [server 1, server 2], .empty,
        [request "w", request "x", request "y", request "z"], 0⟩
    let actions : List SweepAction :=
      [.deal, .deal, .fetch 0, .probe 0, .deliver 0, .deal, .fetch 0, .probe 0]
    ∃ s t, run? setup actions (initial setup) = some s ∧
      t = s.setWorker 1 ⟨server 2, [], .dead⟩ ∧ t.channel.length = setup.channelSize ∧
      t.dealt < setup.requests.length ∧
      setup.servers ≠ [] ∧ Relation.ReflTransGen (Event setup) (initial setup) t ∧
      CanAct setup t := by
  intro server client request setup actions
  have hsome : (run? setup actions (initial setup)).isSome = true := by decide +kernel
  obtain ⟨s, hs⟩ := Option.isSome_iff_exists.mp hsome
  have hstate : (run? setup actions (initial setup)).map
      (fun s => (s.channel.length, s.dealt, s.workers[1]?, s.result.isNone)) =
      some (1, 3, some ⟨server 2, [(1, request "x")], .idle⟩, true) := by
    decide +kernel
  rw [hs] at hstate
  obtain ⟨hchannel, hdealt, hworker, hresult⟩ : s.channel.length = 1 ∧ s.dealt = 3 ∧
      s.workers[1]? = some ⟨server 2, [(1, request "x")], .idle⟩ ∧ s.result.isNone = true := by
    simpa using hstate
  have hreached : Reachable setup s := ⟨actions, hs⟩
  have hturns := hreached.reflTransGen (fun _ => True) True.intro
  have hevents := (events_of_turns hturns).tail (Event.death hworker rfl)
  refine ⟨s, _, hs, rfl, hchannel, by simp [setWorker, hdealt, setup], by decide, hevents, ?_⟩
  exact (never_deadlocks (by decide) hevents).1 (by simpa [setWorker] using hresult) client

end SweepState

end DnsHealth
