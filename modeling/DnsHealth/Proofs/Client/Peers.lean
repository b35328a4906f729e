import DnsHealth.Client.Network
import DnsHealth.Proofs.Fallible

/-!
# Talking to peers

With peers that are given by what they send, the client of a network is a function of it. A
conversation looks at the messages on a stream one after the other and comes to the same result if
the stream ends right behind the message that brings it.
-/

namespace DnsHealth

namespace Step

variable {σ μ β : Type} {step : σ → μ → Step σ β}

/-- The messages that a conversation looks at, up to the one that brings its result. -/
def heard (step : σ → μ → Step σ β) : σ → List μ → List μ
  | _, [] => []
  | state, message :: rest =>
    match step state message with
    | next state => message :: heard step state rest
    | stop _ => [message]

/-- The result depends on nothing but the messages that were looked at. -/
theorem feed_heard (state : σ) (messages : List μ) :
    feed step state (heard step state messages) = feed step state messages := by
  induction messages generalizing state with
  | nil => rfl
  | cons message rest ih =>
    unfold heard
    split
    · next hstep => simp only [feed, hstep, ih]
    · next hstep => simp only [feed, hstep]

/-- A conversation that stops at once has the first message for its result. -/
theorem feed_stop (state : σ) (messages : List μ) :
    feed (fun _ message => stop message) state messages = messages.head? := by
  cases messages <;> rfl

end Step

namespace Peer

variable (peers : Address → Peer) (id port : UInt16)

@[simp] theorem run_freshId : Id.run (link peers id).freshId = id := rfl

@[simp] theorem run_watch : Id.run (Tasks.watch : Id Duration) = .zero := rfl

@[simp] theorem run_datagram (server : Address) (message : List UInt8) :
    Id.run ((link peers id).datagram server message) =
      (peers server).datagram.map (·.take payloadSize.toNat) := rfl

@[simp] theorem run_converse {σ β : Type} (step : σ → List UInt8 → Step σ β) (state : σ)
    (server : Address) (message : List UInt8) :
    Id.run ((link peers id).converse step state server message) =
      (peers server).converse step state message := rfl

/-- A conversation has a result exactly if there is a stream, the message can be sent, and the
messages on the stream bring the result. -/
theorem converse_eq_ok_iff {peer : Peer} {σ β : Type} {step : σ → List UInt8 → Step σ β}
    {state : σ} {message : List UInt8} {result : β} :
    peer.converse step state message = .ok result ↔
      ∃ stream ending, peer.stream = .ok (stream, ending) ∧
        (Framing.frame? message).isSome ∧
        Step.feed step state (Framing.messages stream) = some result := by
  rw [converse, bind_eq_ok_iff, Prod.exists]
  refine exists_congr fun stream => exists_congr fun ending => and_congr_right fun _ => ?_
  cases Framing.frame? message with
  | none => simp [bind, Except.bind, throw, throwThe, MonadExceptOf.throw]
  | some framed =>
    cases hfeed : Step.feed step state (Framing.messages stream) <;>
      simp [hfeed, pure, Except.pure, throw, throwThe, MonadExceptOf.throw]

/-- What an exchange with a peer comes to. -/
theorem exchange_eq (server : Address) (endpoint : String) (message : List UInt8) :
    ((link peers id).exchange server endpoint message).run =
      match (peers server).datagram with
      | .error fault => .error (fault.failure endpoint)
      | .ok bytes =>
        match Response.ofWire (bytes.take payloadSize.toNat) with
        | .error failure => .error failure
        | .ok response =>
          if response.truncated then
            match (peers server).converse (fun (_ : Unit) bytes => Step.stop bytes) () message with
            | .error fault => .error (fault.failure endpoint)
            | .ok bytes => Response.ofWire bytes
          else .ok response := by
  change Id.run (ExceptT.run _) = _
  simp only [Link.exchange, Link.reach, ExceptT.run_bind, ExceptT.run_mk, Id.run_bind, Id.run_map,
    run_datagram]
  cases (peers server).datagram with
  | error fault => rfl
  | ok bytes =>
    simp only [Except.map, Except.mapError, Id.run_bind, Id.run_pure]
    cases Response.ofWire (bytes.take payloadSize.toNat) with
    | error failure => rfl
    | ok response =>
      dsimp only
      split
      · simp only [ExceptT.run_bind, ExceptT.run_mk, Id.run_bind, Id.run_map, run_converse]
        cases (peers server).converse (fun (_ : Unit) bytes => Step.stop bytes) () message with
        | error fault => rfl
        | ok reply => rfl
      · rfl

/-- What a question to a peer comes to. -/
theorem query_eq (q : Question) (server : Address) :
    ((link peers id).client port).query q server =
      match q.toWire id with
      | .error failure => .error failure
      | .ok message =>
        match ((link peers id).exchange server (server.withPort port) message).run with
        | .error failure => .error failure
        | .ok response => q.accept server (server.withPort port) id response .zero := by
  change Id.run _ = _
  simp only [Link.client, ExceptT.run_bind, ExceptT.run_lift, ExceptT.run_mk, Id.run_bind,
    Id.run_map, Id.run_pure, run_freshId]
  cases q.toWire id with
  | error failure => rfl
  | ok message =>
    simp only [Id.run_bind, Id.run_map, run_watch]
    cases ((link peers id).exchange server (server.withPort port) message).run with
    | error failure => rfl
    | ok response => rfl

/-- What a transfer from a peer comes to. -/
theorem transfer_eq (zone : String) (server : Address) :
    ((link peers id).client port).transfer zone server =
      match (Question.transfer zone).toWire id with
      | .error failure => .error failure
      | .ok message =>
        match (peers server).converse (Transfer.receive ⟨zone, server, id⟩) .empty message with
        | .error fault => .error (fault.failure (server.withPort port))
        | .ok result => result := by
  change Id.run _ = _
  simp only [Link.client, Link.reach, ExceptT.run_bind, ExceptT.run_lift, ExceptT.run_mk,
    Id.run_bind, Id.run_map, Id.run_pure, run_freshId]
  cases (Question.transfer zone).toWire id with
  | error failure => rfl
  | ok message =>
    simp only [Id.run_bind, Id.run_map, run_converse]
    cases (peers server).converse (Transfer.receive ⟨zone, server, id⟩) .empty message with
    | error fault => rfl
    | ok result => cases result <;> rfl

/-- A transfer succeeds exactly if the messages on the stream bring it to its success. -/
theorem transfer_eq_ok_iff {zone : String} {server : Address} {records : List Record} :
    ((link peers id).client port).transfer zone server = .ok records ↔
      ∃ message stream ending, (Question.transfer zone).toWire id = .ok message ∧
        (peers server).stream = .ok (stream, ending) ∧ (Framing.frame? message).isSome ∧
        Step.feed (Transfer.receive ⟨zone, server, id⟩) .empty (Framing.messages stream) =
          some (.ok records) := by
  rw [transfer_eq]
  constructor
  · intro h
    split at h
    · cases h
    · next message hmessage =>
      split at h
      · cases h
      · next hconverse =>
        obtain ⟨stream, ending, hstream, hshort, hfeed⟩ := converse_eq_ok_iff.mp hconverse
        exact ⟨message, stream, ending, hmessage, hstream, hshort, h ▸ hfeed⟩
  · rintro ⟨message, stream, ending, hmessage, hstream, hshort, hfeed⟩
    have hconverse := converse_eq_ok_iff.mpr ⟨stream, ending, hstream, hshort, hfeed⟩
    simp only [hmessage, hconverse]

end Peer

end DnsHealth
