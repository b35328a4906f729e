import DnsHealth.Scan.Sweep

/-!
# Interleavings of a sweep

A sweep as its parties run side by side: a dispatcher that deals every request to the queue of a
worker before it does anything else, workers that fetch, probe and deliver, a channel of bounded
size for what they deliver, and the collection, which the dispatcher turns to at the end. Whichever
party can act may act next. A probe may kill its worker: the worker's queue is lost, and what would
be dealt to it later is dropped. A sweep ends when as many responses have been collected as there
were requests, or when the channel is empty and no worker is left that could deliver.
-/

namespace DnsHealth

/-- A sweep to be run. -/
structure SweepSetup where
  /-- The client, in which a question may kill the worker that asks it. -/
  client : Client Option
  /-- The servers, one for each worker. -/
  servers : List Address
  /-- The addresses of the wildcard. -/
  wildcard : WildcardSet
  /-- The requests. -/
  requests : List ScanRequest
  /-- The size of the channel as it is set. -/
  resultBuffer : Nat

namespace SweepSetup

/-- The number of responses that the channel can hold. -/
def channelSize (setup : SweepSetup) : Nat := max setup.resultBuffer 1

/-- The number of requests that the queue of a worker can hold. -/
def queueSize (setup : SweepSetup) : Nat := max setup.requests.length 1

end SweepSetup

/-- What a worker is about. -/
inductive WorkerActivity where
  /-- The worker is ready for the next request. -/
  | idle
  /-- The worker is asking. -/
  | probing (request : Nat × ScanRequest)
  /-- The worker has a response to deliver. -/
  | holding (response : ScanResponse)
  /-- The worker has left after its last request. -/
  | left
  /-- The worker is dead. -/
  | dead
  deriving DecidableEq, Repr

/-- The worker will never deliver again. -/
def WorkerActivity.isGone : WorkerActivity → Bool
  | left | dead => true
  | _ => false

/-- A worker. -/
structure SweepWorker where
  /-- The server that it asks. -/
  server : Address
  /-- The requests that it has not fetched, with their numbers. -/
  queue : List (Nat × ScanRequest)
  /-- What it is about. -/
  activity : WorkerActivity
  deriving DecidableEq, Repr

/-- A sweep on its way. -/
structure SweepState where
  /-- The number of requests that have been dealt or dropped. -/
  dealt : Nat
  /-- The workers. -/
  workers : List SweepWorker
  /-- The responses on the channel, with the numbers of the workers that delivered them. -/
  channel : List (Nat × ScanResponse)
  /-- The responses that have been collected, in their order. -/
  collected : List (Nat × ScanResponse)
  /-- The requests that have been sent out, as the numbers of the worker and of the request. -/
  sent : List (Nat × Nat)
  /-- The result, once the sweep has ended. -/
  result : Option (Except Failure SweepResult)
  deriving Repr

/-- What a party does in one step; workers are numbered. -/
inductive SweepAction where
  /-- The dispatcher deals the next request. -/
  | deal
  /-- A worker takes the next request out of its queue. -/
  | fetch (worker : Nat)
  /-- A worker's probe comes to its end. -/
  | probe (worker : Nat)
  /-- A worker puts its response on the channel. -/
  | deliver (worker : Nat)
  /-- A worker finds its queue closed and leaves. -/
  | leave (worker : Nat)
  /-- The dispatcher collects a response. -/
  | collect
  /-- The dispatcher ends the sweep. -/
  | finish
  deriving DecidableEq, Repr

namespace SweepState

/-- The state in which a sweep begins. -/
def initial (setup : SweepSetup) : SweepState :=
  { dealt := 0
    workers := setup.servers.map fun server => ⟨server, [], .idle⟩
    channel := []
    collected := []
    sent := []
    result := none }

/-- The dispatcher has dealt all requests. -/
def allDealt (setup : SweepSetup) (s : SweepState) : Prop := setup.requests.length ≤ s.dealt

instance (setup : SweepSetup) (s : SweepState) : Decidable (s.allDealt setup) :=
  inferInstanceAs (Decidable (_ ≤ _))

/-- The state with another worker in the place of one. -/
def setWorker (s : SweepState) (i : Nat) (worker : SweepWorker) : SweepState :=
  { s with workers := s.workers.set i worker }

/-- Deals the next request to the worker whose turn it is. A full queue has to be waited for. -/
def deal? (setup : SweepSetup) (s : SweepState) : Option SweepState := do
  let request ← setup.requests[s.dealt]?
  let i := s.dealt % s.workers.length
  let worker ← s.workers[i]?
  if worker.activity.isGone then return { s with dealt := s.dealt + 1 }
  else if worker.queue.length < setup.queueSize then
    let worker := { worker with queue := worker.queue ++ [(s.dealt, request)] }
    return { s.setWorker i worker with dealt := s.dealt + 1 }
  else none

/-- Lets a worker fetch its next request. -/
def fetch? (i : Nat) (s : SweepState) : Option SweepState := do
  let worker ← s.workers[i]?
  match worker.activity, worker.queue with
  | .idle, request :: queue =>
    return s.setWorker i { worker with queue, activity := .probing request }
  | _, _ => none

/-- Lets the probe of a worker come to its end. -/
def probe? (setup : SweepSetup) (i : Nat) (s : SweepState) : Option SweepState := do
  let worker ← s.workers[i]?
  match worker.activity with
  | .probing (number, request) =>
    let worker := match setup.client.probe worker.server request with
      | some response => { worker with activity := .holding response }
      | none => { worker with queue := [], activity := .dead }
    return { s.setWorker i worker with sent := s.sent ++ [(i, number)] }
  | _ => none

/-- Lets a worker deliver its response, if there is room on the channel. -/
def deliver? (setup : SweepSetup) (i : Nat) (s : SweepState) : Option SweepState := do
  let worker ← s.workers[i]?
  match worker.activity with
  | .holding response =>
    if s.channel.length < setup.channelSize then
      return { s.setWorker i { worker with activity := .idle } with
        channel := s.channel ++ [(i, response)] }
    else none
  | _ => none

/-- Lets a worker leave whose queue is empty and closed. -/
def leave? (setup : SweepSetup) (i : Nat) (s : SweepState) : Option SweepState := do
  let worker ← s.workers[i]?
  if worker.activity = .idle ∧ worker.queue = [] ∧ s.allDealt setup then
    return s.setWorker i { worker with activity := .left }
  else none

/-- Collects the next response on the channel, as long as one is missing. -/
def collect? (setup : SweepSetup) (s : SweepState) : Option SweepState :=
  match s.channel with
  | response :: channel =>
    if s.allDealt setup ∧ s.collected.length < setup.requests.length then
      some { s with channel, collected := s.collected ++ [response] }
    else none
  | [] => none

/-- The collection is over: nothing is missing, or nothing can come any more. -/
def isOver (setup : SweepSetup) (s : SweepState) : Bool :=
  s.collected.length = setup.requests.length ||
    (s.channel.isEmpty && s.workers.all (·.activity.isGone))

/-- Ends the sweep with what has been collected. -/
def finish? (setup : SweepSetup) (s : SweepState) : Option SweepState :=
  if s.allDealt setup ∧ s.isOver setup then
    some { s with result := some (SweepResult.collect setup.wildcard setup.requests.length
      (s.collected.map (·.2))) }
  else none

/-- Takes one step, if the party can act and the sweep has not ended. -/
def act? (setup : SweepSetup) (action : SweepAction) (s : SweepState) : Option SweepState :=
  if s.result.isSome then none
  else match action with
    | .deal => s.deal? setup
    | .fetch i => s.fetch? i
    | .probe i => s.probe? setup i
    | .deliver i => s.deliver? setup i
    | .leave i => s.leave? setup i
    | .collect => s.collect? setup
    | .finish => s.finish? setup

/-- Takes steps one after the other. -/
def run? (setup : SweepSetup) : List SweepAction → SweepState → Option SweepState
  | [], s => some s
  | action :: rest, s => s.act? setup action >>= run? setup rest

/-- A state that some interleaving leads to. -/
def Reachable (setup : SweepSetup) (s : SweepState) : Prop :=
  ∃ actions, run? setup actions (initial setup) = some s

/-- A party can act. -/
def CanAct (setup : SweepSetup) (s : SweepState) : Prop :=
  ∃ action, (s.act? setup action).isSome

@[simp] theorem run?_nil (setup : SweepSetup) (s : SweepState) : run? setup [] s = some s := rfl

/-- Steps taken in two goes are the steps taken in one. -/
theorem run?_append (setup : SweepSetup) (first second : List SweepAction) (s : SweepState) :
    run? setup (first ++ second) s = run? setup first s >>= run? setup second := by
  induction first generalizing s with
  | nil => rfl
  | cons action rest ih =>
    simp only [List.cons_append, run?, Option.bind_eq_bind, Option.bind_assoc]
    congr 1
    funext t
    exact ih t

/-- A sweep begins without a step. -/
theorem reachable_initial (setup : SweepSetup) : Reachable setup (initial setup) := ⟨[], rfl⟩

/-- A step from a state that was reached reaches a state. -/
theorem Reachable.act {setup : SweepSetup} {s t : SweepState} {action : SweepAction}
    (hs : Reachable setup s) (h : s.act? setup action = some t) : Reachable setup t := by
  obtain ⟨actions, hrun⟩ := hs
  exact ⟨actions ++ [action], by simp [run?_append, hrun, run?, h]⟩

end SweepState

end DnsHealth
