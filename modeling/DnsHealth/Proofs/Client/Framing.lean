import DnsHealth.Client.Link
import DnsHealth.Proofs.Bytes

/-!
# Messages come off a stream as they were written

A stream is looked at from its two ends: a message is put behind the bytes that are on their way,
or taken off their front. What is taken is exactly a message that was put there behind its length;
if there is none, the stream ended within the two bytes of a length or within the message that the
length announces. Messages that are written one after the other are therefore received in order,
with whatever follows them left on the stream, and a stream that is cut off anywhere before the end
of the last one gives a fault in place of a message.
-/

namespace DnsHealth.Framing

/-- A stream that ends where a whole message should stand. -/
inductive Cut : List UInt8 → Prop where
  /-- It ends within the two bytes of a length. -/
  | length {stream : List UInt8} (short : stream.length < 2) : Cut stream
  /-- It ends within the message whose length is announced. -/
  | body {length : UInt16} {part : List UInt8} (short : part.length < length.toNat) :
    Cut (Bytes.of16 length ++ part)

section Reading

variable {stream message rest : List UInt8}

/-- A message of up to 65535 bytes is framed by its length. -/
theorem frame?_of_le (h : message.length ≤ 65535) :
    frame? message = some (Bytes.of16 (.ofNat message.length) ++ message) :=
  if_pos h

/-- A longer message is not framed. -/
theorem frame?_of_lt (h : 65535 < message.length) : frame? message = none :=
  if_neg (Nat.not_le_of_lt h)

/-- A message of the announced length is the message that is written with this length. -/
theorem frame?_of_length_eq {length : UInt16} (h : message.length = length.toNat) :
    frame? message = some (Bytes.of16 length ++ message) := by
  have hlength := length.toNat_lt
  rw [frame?_of_le (by omega), h, UInt16.ofNat_toNat]

/-- Behind two bytes of a length, there is a message if there are enough bytes. -/
theorem read?_of16_append (length : UInt16) (part : List UInt8) :
    read? (Bytes.of16 length ++ part) =
      if length.toNat ≤ part.length then
        some (part.take length.toNat, part.drop length.toNat)
      else none := by
  simp only [read?, Bytes.read16_of16, Option.bind_eq_bind, Option.bind_some]

private theorem length_lt_two_or_exists_of16 (stream : List UInt8) :
    stream.length < 2 ∨ ∃ length part, stream = Bytes.of16 length ++ part :=
  match stream with
  | [] => .inl (Nat.zero_lt_two)
  | [_] => .inl (Nat.one_lt_two)
  | a :: b :: part => .inr ⟨Bytes.to16 a b, part, by rw [Bytes.of16_to16]; rfl⟩

private theorem read?_of_length_lt_two (h : stream.length < 2) : read? stream = none :=
  match stream, h with
  | [], _ => rfl
  | [_], _ => rfl

/-- A message is taken off a stream exactly if the stream begins with the message as it is
written. -/
theorem read?_eq_some_iff :
    read? stream = some (message, rest) ↔
      ∃ framed, frame? message = some framed ∧ stream = framed ++ rest := by
  constructor
  · intro h
    obtain hshort | ⟨length, part, rfl⟩ := length_lt_two_or_exists_of16 stream
    · rw [read?_of_length_lt_two hshort] at h
      cases h
    · rw [read?_of16_append] at h
      by_cases hlength : length.toNat ≤ part.length
      · rw [if_pos hlength] at h
        cases h
        have htake : (part.take length.toNat).length = length.toNat := by
          rw [List.length_take, Nat.min_eq_left hlength]
        refine ⟨_, frame?_of_length_eq htake, ?_⟩
        rw [List.append_assoc, List.take_append_drop]
      · rw [if_neg hlength] at h
        cases h
  · rintro ⟨framed, hframed, rfl⟩
    exact read?_append_of_frame? hframed rest

/-- No message is taken off a stream exactly if the stream ends where a message should stand. -/
theorem read?_eq_none_iff : read? stream = none ↔ Cut stream := by
  constructor
  · intro h
    obtain hshort | ⟨length, part, rfl⟩ := length_lt_two_or_exists_of16 stream
    · exact .length hshort
    · apply Cut.body
      apply Nat.lt_of_not_le
      intro hlength
      rw [read?_of16_append, if_pos hlength] at h
      cases h
  · intro h
    cases h with
    | length short => exact read?_of_length_lt_two short
    | body short => rw [read?_of16_append, if_neg (Nat.not_le_of_lt short)]

/-- What arrives later does not change a message that has arrived as a whole. -/
theorem read?_append (h : read? stream = some (message, rest)) (later : List UInt8) :
    read? (stream ++ later) = some (message, rest ++ later) := by
  obtain ⟨framed, hframed, rfl⟩ := read?_eq_some_iff.mp h
  rw [List.append_assoc]
  exact read?_append_of_frame? hframed (rest ++ later)

end Reading

/-- What is done at the ends of a stream, whose state is the bytes that are on their way. -/
abbrev OnStream := ExceptT LinkFault (StateM (List UInt8))

namespace OnStream

variable {α β : Type} {x : OnStream α} {stream rest : List UInt8}

/-- What something done on a stream gives, and the bytes that are then on their way. -/
def outcome (x : OnStream α) (stream : List UInt8) : Except LinkFault α × List UInt8 :=
  (x.run.run stream).run

@[simp] theorem outcome_pure (a : α) (stream : List UInt8) :
    outcome (pure a) stream = (.ok a, stream) := rfl

/-- After a step that succeeded the next one works on what is left of the stream. -/
theorem outcome_bind_of_ok {a : α} (h : x.outcome stream = (.ok a, rest)) (f : α → OnStream β) :
    outcome (x >>= f) stream = (f a).outcome rest := by
  have hrun : x stream = (.ok a, rest) := h
  change (StateT.bind x (ExceptT.bindCont f)) stream = f a rest
  simp only [StateT.bind, hrun]
  rfl

/-- After a step that failed there is no next one. -/
theorem outcome_bind_of_error {fault : LinkFault} (h : x.outcome stream = (.error fault, rest))
    (f : α → OnStream β) : outcome (x >>= f) stream = (.error fault, rest) := by
  have hrun : x stream = (.error fault, rest) := h
  change (StateT.bind x (ExceptT.bindCont f)) stream = (.error fault, rest)
  simp only [StateT.bind, hrun]
  rfl

end OnStream

/-- Writes a message behind the bytes that are on their way. -/
def send (message : List UInt8) : OnStream Unit :=
  match frame? message with
  | some framed => modify (· ++ framed)
  | none => throw .tooLong

/-- Writes messages one after the other. -/
def sendAll : List (List UInt8) → OnStream Unit
  | [] => return
  | message :: messages => do
    send message
    sendAll messages

/-- Waits for the next message. The bytes of one that does not come to its end are gone. -/
def receive : OnStream (List UInt8) := do
  match read? (← get) with
  | some (message, rest) =>
    set rest
    return message
  | none =>
    set ([] : List UInt8)
    throw .closed

/-- Waits for some messages, one after the other. -/
def receiveMany : Nat → OnStream (List (List UInt8))
  | 0 => return []
  | count + 1 => do
    let message ← receive
    let messages ← receiveMany count
    return message :: messages

/-- The bytes of messages one after the other, each behind its length. -/
def written (messages : List (List UInt8)) : List UInt8 :=
  (messages.filterMap frame?).flatten

private theorem written_cons_of_le {message : List UInt8} (h : message.length ≤ 65535)
    (messages : List (List UInt8)) :
    written (message :: messages) =
      Bytes.of16 (.ofNat message.length) ++ message ++ written messages := by
  rw [written, List.filterMap_cons_some (frame?_of_le h), List.flatten_cons, written]

section Steps

variable {message stream rest : List UInt8}

/-- A message that can be framed is put on the stream. -/
theorem outcome_send_of_le (h : message.length ≤ 65535) (stream : List UInt8) :
    (send message).outcome stream =
      (.ok (), stream ++ (Bytes.of16 (.ofNat message.length) ++ message)) := by
  rw [send, frame?_of_le h]
  rfl

/-- A message that is too long is refused and leaves the stream as it was. -/
theorem outcome_send_of_lt (h : 65535 < message.length) (stream : List UInt8) :
    (send message).outcome stream = (.error .tooLong, stream) := by
  rw [send, frame?_of_lt h]
  rfl

/-- What waiting for a message gives and leaves. -/
theorem outcome_receive (stream : List UInt8) :
    receive.outcome stream =
      match read? stream with
      | some (message, rest) => (.ok message, rest)
      | none => (.error .closed, []) := by
  have hget : OnStream.outcome get stream = (.ok stream, stream) := rfl
  rw [receive, OnStream.outcome_bind_of_ok hget]
  cases read? stream <;> rfl

/-- A message is received exactly if it stands whole at the front of the stream. -/
theorem outcome_receive_eq_ok_iff :
    receive.outcome stream = (.ok message, rest) ↔
      ∃ framed, frame? message = some framed ∧ stream = framed ++ rest := by
  rw [← read?_eq_some_iff, outcome_receive]
  cases read? stream <;> simp [Prod.ext_iff]

/-- Waiting for a message fails exactly if the stream ends before the message does. -/
theorem outcome_receive_eq_error_iff :
    receive.outcome stream = (.error .closed, []) ↔ Cut stream := by
  rw [← read?_eq_none_iff, outcome_receive]
  cases read? stream <;> simp

end Steps

/-- The messages on a stream are those that are received before it ends within one. -/
theorem exists_outcome_receiveMany_messages (stream : List UInt8) :
    ∃ left, (receiveMany (messages stream).length).outcome stream = (.ok (messages stream), left) ∧
      Cut left := by
  fun_induction messages stream with
  | case1 stream message rest hread ih =>
    obtain ⟨left, hrest, hcut⟩ := ih
    have hreceive : receive.outcome stream = (.ok message, rest) :=
      outcome_receive_eq_ok_iff.mpr (read?_eq_some_iff.mp hread)
    refine ⟨left, ?_, hcut⟩
    rw [List.length_cons, receiveMany, OnStream.outcome_bind_of_ok hreceive,
      OnStream.outcome_bind_of_ok hrest, OnStream.outcome_pure]
  | case2 stream hread => exact ⟨stream, rfl, read?_eq_none_iff.mp hread⟩

section Runs

variable {messages : List (List UInt8)}

/-- Messages that are written one after the other stand behind what is on its way, in order. -/
theorem outcome_sendAll (h : ∀ message ∈ messages, message.length ≤ 65535)
    (stream : List UInt8) :
    (sendAll messages).outcome stream = (.ok (), stream ++ written messages) := by
  induction messages generalizing stream with
  | nil =>
    rw [written, List.filterMap_nil, List.flatten_nil, List.append_nil]
    rfl
  | cons message messages ih =>
    obtain ⟨hmessage, hmessages⟩ := List.forall_mem_cons.mp h
    have hsend := outcome_send_of_le hmessage stream
    rw [sendAll, OnStream.outcome_bind_of_ok hsend, ih hmessages,
      written_cons_of_le hmessage, List.append_assoc]

/-- As many messages as were written are received, and what follows them is left. -/
theorem outcome_receiveMany (h : ∀ message ∈ messages, message.length ≤ 65535)
    (rest : List UInt8) :
    (receiveMany messages.length).outcome (written messages ++ rest) = (.ok messages, rest) := by
  induction messages with
  | nil => rfl
  | cons message messages ih =>
    obtain ⟨hmessage, hmessages⟩ := List.forall_mem_cons.mp h
    have hreceive : receive.outcome (written (message :: messages) ++ rest) =
        (.ok message, written messages ++ rest) := by
      apply outcome_receive_eq_ok_iff.mpr
      exact ⟨_, frame?_of_le hmessage, by rw [written_cons_of_le hmessage, List.append_assoc]⟩
    rw [List.length_cons, receiveMany, OnStream.outcome_bind_of_ok hreceive,
      OnStream.outcome_bind_of_ok (ih hmessages), OnStream.outcome_pure]

/-- What is written can only be received as a whole: a stream that ends anywhere before the end of
the last message gives a fault, whatever came before. -/
theorem outcome_receiveMany_of_prefix (h : ∀ message ∈ messages, message.length ≤ 65535)
    {cut : List UInt8} (hcut : cut <+: written messages) (hne : cut ≠ written messages) :
    (receiveMany messages.length).outcome cut = (.error .closed, []) := by
  induction messages generalizing cut with
  | nil => exact absurd (List.prefix_nil.mp hcut) hne
  | cons message messages ih =>
    obtain ⟨hmessage, hmessages⟩ := List.forall_mem_cons.mp h
    rw [List.length_cons, receiveMany]
    cases hread : read? cut with
    | none =>
      have hreceive := outcome_receive_eq_error_iff.mpr (read?_eq_none_iff.mp hread)
      exact OnStream.outcome_bind_of_error hreceive _
    | some taken =>
      obtain ⟨first, rest⟩ := taken
      obtain ⟨later, hlater⟩ := hcut
      -- The rest of the stream would not have changed the first message.
      have hwhole := read?_append hread later
      rw [hlater, written_cons_of_le hmessage,
        read?_append_of_frame? (frame?_of_le hmessage)] at hwhole
      obtain ⟨rfl, hrest⟩ := Prod.mk.inj (Option.some.inj hwhole)
      have hreceive : receive.outcome cut = (.ok message, rest) :=
        outcome_receive_eq_ok_iff.mpr (read?_eq_some_iff.mp hread)
      have hrestCut : (receiveMany messages.length).outcome rest = (.error .closed, []) := by
        refine ih hmessages ⟨later, hrest.symm⟩ ?_
        intro hsame
        obtain ⟨framed, hframed, rfl⟩ := read?_eq_some_iff.mp hread
        cases hframed.symm.trans (frame?_of_le hmessage)
        apply hne
        rw [hsame, written_cons_of_le hmessage]
      rw [OnStream.outcome_bind_of_ok hreceive, OnStream.outcome_bind_of_error hrestCut]

/-- Messages come off a stream as they were written. If each is at most 65535 bytes long, writing
them in order puts bytes behind those that are on their way, and whatever follows these bytes, as
many messages are received again, the same in the same order, and just what follows them is left;
of a stream that ends before these bytes do, not all messages are received, and waiting for them is
an error. A longer message is an error, and nothing is written. Waiting for a message is an error
exactly if the stream ends within the two bytes of a length or within the message that the length
announces, and gives nothing but a message that stands whole behind its length. -/
theorem messages_cross_stream (messages : List (List UInt8)) (message stream rest : List UInt8) :
    ((∀ message ∈ messages, message.length ≤ 65535) →
      ∃ bytes, (sendAll messages).outcome stream = (.ok (), stream ++ bytes) ∧
        (∀ rest, (receiveMany messages.length).outcome (bytes ++ rest) = (.ok messages, rest)) ∧
        (∀ cut, cut <+: bytes → cut ≠ bytes →
          (receiveMany messages.length).outcome cut = (.error .closed, []))) ∧
      (65535 < message.length →
        (send message).outcome stream = (.error .tooLong, stream)) ∧
      (receive.outcome stream = (.error .closed, []) ↔ Cut stream) ∧
      (receive.outcome stream = (.ok message, rest) ↔
        message.length ≤ 65535 ∧
          stream = Bytes.of16 (.ofNat message.length) ++ message ++ rest) := by
  refine ⟨?_, fun hlong => outcome_send_of_lt hlong stream, outcome_receive_eq_error_iff, ?_⟩
  · intro h
    refine ⟨written messages, outcome_sendAll h stream, outcome_receiveMany h, ?_⟩
    intro cut hcut hne
    exact outcome_receiveMany_of_prefix h hcut hne
  · rw [outcome_receive_eq_ok_iff]
    constructor
    · rintro ⟨framed, hframed, rfl⟩
      have hlength : message.length ≤ 65535 := by
        apply Nat.le_of_not_lt
        intro hlong
        rw [frame?_of_lt hlong] at hframed
        cases hframed
      rw [frame?_of_le hlength] at hframed
      exact ⟨hlength, by rw [← Option.some.inj hframed]⟩
    · rintro ⟨hlength, hstream⟩
      exact ⟨_, frame?_of_le hlength, hstream⟩

/-- Three messages, the first and the last of them empty, a message of 65536 bytes, and a stream
that ends within its second message. -/
theorem messages_cross_stream_three :
    (∃ bytes, (sendAll [[], [7, 8], []]).outcome [] = (.ok (), bytes) ∧
        (receiveMany 3).outcome (bytes ++ [0, 9]) = (.ok [[], [7, 8], []], [0, 9]) ∧
        (receiveMany 3).outcome [0, 0, 0, 2, 7] = (.error .closed, [])) ∧
      (send (List.replicate 65536 0)).outcome [5] = (.error .tooLong, [5]) ∧
      receive.outcome [0, 2, 7] = (.error .closed, []) ∧
      receive.outcome [0, 0, 0, 2, 7] = (.ok [], [0, 2, 7]) := by
  refine ⟨?_, ?_, ?_, ?_⟩
  · obtain ⟨bytes, hsend, hreceive, hcut⟩ :=
      (messages_cross_stream [[], [7, 8], []] [] [] []).1 (by decide)
    have hbytes : bytes = [0, 0, 0, 2, 7, 8, 0, 0] := (Prod.mk.inj hsend).2.symm
    refine ⟨bytes, hsend, hreceive [0, 9], hcut _ ?_ ?_⟩
    · rw [hbytes]
      exact ⟨[8, 0, 0], rfl⟩
    · rw [hbytes]
      decide
  · refine (messages_cross_stream [] (List.replicate 65536 0) [5] []).2.1 ?_
    rw [List.length_replicate]
    omega
  · exact (messages_cross_stream [] [] [0, 2, 7] []).2.2.1.mpr
      (@Cut.body 2 [7] (by decide))
  · exact (messages_cross_stream [] [] [0, 0, 0, 2, 7] [0, 2, 7]).2.2.2.mpr ⟨by decide, rfl⟩

end Runs

end DnsHealth.Framing
