import DnsHealth.Scan.Interleaving
import Mathlib.Logic.Relation

/-!
# The steps of a sweep

Everything that a party can do in one step, one case for each thing that may happen, with what has
to hold before it and the state that it leaves. A step is possible exactly if the sweep has not
ended and one of the cases applies, so what is said about steps needs to look at these cases only.
The client of a sweep may also answer differently from one step to the next.
-/

namespace DnsHealth.SweepState

variable {setup : SweepSetup} {s t : SweepState} {i : Nat}

/-- What one step of one party does. -/
inductive Moves (setup : SweepSetup) (s : SweepState) : SweepState → Prop where
  /-- The dispatcher drops a request, since the worker whose turn it is is gone. -/
  | drop {request : ScanRequest} {w : SweepWorker}
      (next : setup.requests[s.dealt]? = some request)
      (turn : s.workers[s.dealt % s.workers.length]? = some w)
      (gone : w.activity.isGone = true) :
      Moves setup s { s with dealt := s.dealt + 1 }
  /-- The dispatcher puts a request into the queue of the worker whose turn it is. -/
  | deal {request : ScanRequest} {w : SweepWorker}
      (next : setup.requests[s.dealt]? = some request)
      (turn : s.workers[s.dealt % s.workers.length]? = some w)
      (present : w.activity.isGone = false) (room : w.queue.length < setup.queueSize) :
      Moves setup s { s.setWorker (s.dealt % s.workers.length)
        { w with queue := w.queue ++ [(s.dealt, request)] } with dealt := s.dealt + 1 }
  /-- A worker takes the next request out of its queue. -/
  | fetch {i : Nat} {w : SweepWorker} {request : Nat × ScanRequest}
      {queue : List (Nat × ScanRequest)} (worker : s.workers[i]? = some w)
      (idle : w.activity = .idle) (queued : w.queue = request :: queue) :
      Moves setup s (s.setWorker i { w with queue, activity := .probing request })
  /-- The probe of a worker gives a response. -/
  | answer {i number : Nat} {w : SweepWorker} {request : ScanRequest} {response : ScanResponse}
      (worker : s.workers[i]? = some w) (probing : w.activity = .probing (number, request))
      (outcome : setup.client.probe w.server request = some response) :
      Moves setup s { s.setWorker i { w with activity := .holding response } with
        sent := s.sent ++ [(i, number)] }
  /-- The probe of a worker kills it. -/
  | die {i number : Nat} {w : SweepWorker} {request : ScanRequest}
      (worker : s.workers[i]? = some w) (probing : w.activity = .probing (number, request))
      (outcome : setup.client.probe w.server request = none) :
      Moves setup s { s.setWorker i { w with queue := [], activity := .dead } with
        sent := s.sent ++ [(i, number)] }
  /-- A worker puts its response on the channel. -/
  | deliver {i : Nat} {w : SweepWorker} {response : ScanResponse}
      (worker : s.workers[i]? = some w) (holding : w.activity = .holding response)
      (room : s.channel.length < setup.channelSize) :
      Moves setup s { s.setWorker i { w with activity := .idle } with
        channel := s.channel ++ [(i, response)] }
  /-- A worker leaves whose queue is empty and closed. -/
  | leave {i : Nat} {w : SweepWorker} (worker : s.workers[i]? = some w)
      (idle : w.activity = .idle) (empty : w.queue = []) (closed : s.allDealt setup) :
      Moves setup s (s.setWorker i { w with activity := .left })
  /-- The dispatcher collects a response. -/
  | collect {response : Nat × ScanResponse} {channel : List (Nat × ScanResponse)}
      (waiting : s.channel = response :: channel) (closed : s.allDealt setup)
      (missing : s.collected.length < setup.requests.length) :
      Moves setup s { s with channel, collected := s.collected ++ [response] }
  /-- The dispatcher ends the sweep. -/
  | finish (closed : s.allDealt setup) (gathered : s.isOver setup = true) :
      Moves setup s { s with
        result := some (SweepResult.collect setup.wildcard setup.requests.length
          (s.collected.map (·.2))) }

private theorem moves_of_deal? (h : s.deal? setup = some t) : Moves setup s t := by
  simp only [deal?, Option.bind_eq_bind, Option.bind_eq_some_iff] at h
  obtain ⟨request, hnext, w, hturn, h⟩ := h
  split at h
  · next hgone =>
    cases h
    exact .drop hnext hturn hgone
  · next hpresent =>
    split at h
    · next hroom =>
      cases h
      exact .deal hnext hturn (Bool.eq_false_iff.mpr hpresent) hroom
    · cases h

private theorem moves_of_fetch? (h : s.fetch? i = some t) : Moves setup s t := by
  simp only [fetch?, Option.bind_eq_bind, Option.bind_eq_some_iff] at h
  obtain ⟨w, hworker, h⟩ := h
  split at h
  · next hidle hqueued =>
    cases h
    exact .fetch hworker hidle hqueued
  · cases h

private theorem moves_of_probe? (h : s.probe? setup i = some t) : Moves setup s t := by
  simp only [probe?, Option.bind_eq_bind, Option.bind_eq_some_iff] at h
  obtain ⟨w, hworker, h⟩ := h
  split at h
  · next number request hprobing =>
    cases h
    cases houtcome : setup.client.probe w.server request with
    | some response => exact .answer hworker hprobing houtcome
    | none => exact .die hworker hprobing houtcome
  · cases h

private theorem moves_of_deliver? (h : s.deliver? setup i = some t) : Moves setup s t := by
  simp only [deliver?, Option.bind_eq_bind, Option.bind_eq_some_iff] at h
  obtain ⟨w, hworker, h⟩ := h
  split at h
  · next hholding =>
    split at h
    · next hroom =>
      cases h
      exact .deliver hworker hholding hroom
    · cases h
  · cases h

private theorem moves_of_leave? (h : s.leave? setup i = some t) : Moves setup s t := by
  simp only [leave?, Option.bind_eq_bind, Option.bind_eq_some_iff] at h
  obtain ⟨w, hworker, h⟩ := h
  split at h
  · next hready =>
    cases h
    exact .leave hworker hready.1 hready.2.1 hready.2.2
  · cases h

private theorem moves_of_collect? (h : s.collect? setup = some t) : Moves setup s t := by
  unfold collect? at h
  split at h
  · next hwaiting =>
    split at h
    · next hready =>
      cases h
      exact .collect hwaiting hready.1 hready.2
    · cases h
  · cases h

private theorem moves_of_finish? (h : s.finish? setup = some t) : Moves setup s t := by
  unfold finish? at h
  split at h
  · next hready =>
    cases h
    exact .finish hready.1 hready.2
  · cases h

/-- A step is possible exactly if the sweep has not ended and one of the cases applies. -/
theorem exists_act?_eq_some_iff :
    (∃ action, s.act? setup action = some t) ↔ s.result = none ∧ Moves setup s t := by
  constructor
  · rintro ⟨action, h⟩
    unfold act? at h
    split at h
    · cases h
    · next hresult =>
      refine ⟨by simpa using hresult, ?_⟩
      cases action with
      | deal => exact moves_of_deal? h
      | fetch i => exact moves_of_fetch? h
      | probe i => exact moves_of_probe? h
      | deliver i => exact moves_of_deliver? h
      | leave i => exact moves_of_leave? h
      | collect => exact moves_of_collect? h
      | finish => exact moves_of_finish? h
  · rintro ⟨hresult, h⟩
    cases h with
    | drop hnext hturn hgone => exact ⟨.deal, by simp [act?, deal?, hresult, hnext, hturn, hgone]⟩
    | deal hnext hturn hpresent hroom =>
      exact ⟨.deal, by simp [act?, deal?, hresult, hnext, hturn, hpresent, hroom]⟩
    | @fetch i _ _ _ hworker hidle hqueued =>
      exact ⟨.fetch i, by simp [act?, fetch?, hresult, hworker, hidle, hqueued]⟩
    | @answer i _ _ _ _ hworker hprobing houtcome =>
      exact ⟨.probe i, by simp [act?, probe?, hresult, hworker, hprobing, houtcome]⟩
    | @die i _ _ _ hworker hprobing houtcome =>
      exact ⟨.probe i, by simp [act?, probe?, hresult, hworker, hprobing, houtcome]⟩
    | @deliver i _ _ hworker hholding hroom =>
      exact ⟨.deliver i, by simp [act?, deliver?, hresult, hworker, hholding, hroom]⟩
    | @leave i _ hworker hidle hempty hclosed =>
      exact ⟨.leave i, by simp [act?, leave?, hresult, hworker, hidle, hempty, hclosed]⟩
    | collect hwaiting hclosed hmissing =>
      exact ⟨.collect, by simp [act?, collect?, hresult, hwaiting, hclosed, hmissing]⟩
    | finish hclosed hover => exact ⟨.finish, by simp [act?, finish?, hresult, hclosed, hover]⟩

/-- One step of a sweep whose client is one of several at the time of the step. -/
def Turn (clients : Client Option → Prop) (setup : SweepSetup) (s t : SweepState) : Prop :=
  ∃ client action, clients client ∧ s.act? { setup with client } action = some t

/-- A turn is a move of a sweep that has not ended, with some client. -/
theorem turn_iff {clients : Client Option → Prop} :
    Turn clients setup s t ↔
      s.result = none ∧ ∃ client, clients client ∧ Moves { setup with client } s t := by
  simp only [Turn, exists_and_left, exists_act?_eq_some_iff]
  exact ⟨fun ⟨client, hclient, hresult, h⟩ => ⟨hresult, client, hclient, h⟩,
    fun ⟨hresult, client, hclient, h⟩ => ⟨client, hclient, hresult, h⟩⟩

/-- A state that some interleaving leads to is reached with the one client of the sweep. -/
theorem Reachable.reflTransGen (h : Reachable setup s) (clients : Client Option → Prop)
    (hclient : clients setup.client) :
    Relation.ReflTransGen (Turn clients setup) (initial setup) s := by
  obtain ⟨actions, hrun⟩ := h
  generalize initial setup = first at hrun ⊢
  induction actions generalizing first with
  | nil =>
    cases hrun
    exact .refl
  | cons action actions ih =>
    obtain ⟨next, hnext, hrest⟩ := Option.bind_eq_some_iff.mp hrun
    exact .head ⟨setup.client, action, hclient, hnext⟩ (ih next hrest)

end DnsHealth.SweepState
