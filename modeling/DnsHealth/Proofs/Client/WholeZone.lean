import DnsHealth.Proofs.Client.Matching
import Mathlib.Data.List.Infix

/-!
# Zones come whole or not at all

A transfer takes in the records of the messages on a stream as if they had come in a single one, as
long as the first message has any. What it gives is then decided by the records alone: the part of
them from an opening SOA to the next one, or a failure if there is no such part. No message is
looked at behind the one that closes the zone.
-/

namespace DnsHealth

/-- Records that begin with an SOA and end with the next one. -/
inductive WholeZone : List Record → Prop where
  /-- Between the two SOA records stand records of other types. -/
  | intro {opening closing : Record} {between : List Record} (opens : opening.type = .soa)
      (inside : ∀ r ∈ between, r.type ≠ .soa) (closes : closing.type = .soa) :
      WholeZone (opening :: (between ++ [closing]))

namespace Step

variable {σ μ β : Type} {step : σ → μ → Step σ β}

/-- If a conversation comes to its result with a message and not before, that is the last message
it looks at. -/
theorem heard_eq_of_feed {before : List μ} {message : μ} {state : σ}
    (hbefore : feed step state before = none)
    (hresult : feed step state (before ++ [message]) ≠ none) (after : List μ) :
    heard step state (before ++ message :: after) = before ++ [message] := by
  induction before generalizing state with
  | nil =>
    simp only [List.nil_append, feed, heard] at hresult ⊢
    cases hstep : step state message with
    | next state => simp [hstep] at hresult
    | stop result => rfl
  | cons first rest ih =>
    simp only [List.cons_append, feed, heard] at hbefore hresult ⊢
    cases hstep : step state first with
    | next state =>
      simp only [hstep] at hbefore hresult ⊢
      rw [ih hbefore hresult]
    | stop result => simp [hstep] at hbefore

end Step

namespace Transfer

variable {zone : String} {t : Transfer} {request : TransferRequest}

/-- A transfer with one more record. -/
def grow (t : Transfer) (r : Record) : Transfer :=
  ⟨t.records ++ [r], if r.type = .soa then t.soaCount + 1 else t.soaCount⟩

private theorem add_cons (zone : String) (t : Transfer) (r : Record) (rest : List Record) :
    t.add zone (r :: rest) =
      if r.type ≠ .soa ∧ t.soaCount = 0 then
        .error (.invalidResponse ("AXFR of " ++ zone ++ " did not start with SOA"))
      else if (t.grow r).isComplete then .ok (t.grow r) else (t.grow r).add zone rest := rfl

/-- Records that come in two lots are taken in as in one, unless the first completes the
transfer. -/
theorem add_append (ht : t.isComplete = false) (records more : List Record) :
    t.add zone (records ++ more) =
      match t.add zone records with
      | .error failure => .error failure
      | .ok next => if next.isComplete then .ok next else next.add zone more := by
  induction records generalizing t with
  | nil => simp [add, ht]
  | cons r rest ih =>
    rw [List.cons_append, add_cons, add_cons]
    split
    · rfl
    · cases hcomplete : (t.grow r).isComplete with
      | true => simp [hcomplete]
      | false => simpa using ih hcomplete

/-- The result to which records bring a transfer, if they are enough. -/
def result? (zone : String) (t : Transfer) (records : List Record) :
    Option (Except Failure (List Record)) :=
  match t.add zone records with
  | .error failure => some (.error failure)
  | .ok next => if next.isComplete then some (.ok next.records) else none

private theorem result?_append (ht : t.isComplete = false) (records more : List Record) :
    t.result? zone (records ++ more) =
      match t.add zone records with
      | .error failure => some (.error failure)
      | .ok next =>
        if next.isComplete then some (.ok next.records) else next.result? zone more := by
  rw [result?, add_append ht]
  cases t.add zone records with
  | error failure => rfl
  | ok next =>
    cases hcomplete : next.isComplete <;> simp [hcomplete, result?]

/-- More records do not change a result. -/
theorem result?_append_of_some (ht : t.isComplete = false) {records : List Record}
    {result : Except Failure (List Record)} (h : t.result? zone records = some result)
    (more : List Record) : t.result? zone (records ++ more) = some result := by
  rw [result?] at h
  rw [result?_append ht]
  cases hadd : t.add zone records with
  | error failure =>
    rw [hadd] at h
    exact h
  | ok next =>
    rw [hadd] at h
    cases hcomplete : next.isComplete <;> simp_all

section Records

variable {r : Record} {records between : List Record}

/-- Records of other types leave a zone open. -/
theorem add_between (ht : t.soaCount = 1) (hbetween : ∀ r ∈ between, r.type ≠ .soa)
    (more : List Record) :
    t.add zone (between ++ more) = add zone ⟨t.records ++ between, 1⟩ more := by
  induction between generalizing t with
  | nil => rw [List.nil_append, List.append_nil, ← ht]
  | cons r rest ih =>
    obtain ⟨hr, hrest⟩ := List.forall_mem_cons.mp hbetween
    have hgrow : t.grow r = ⟨t.records ++ [r], 1⟩ := by rw [grow, if_neg hr, ht]
    rw [List.cons_append, add_cons, if_neg (by simp [ht]), hgrow, if_neg (by simp [isComplete]),
      ih rfl hrest, List.append_assoc, List.singleton_append]

/-- The next SOA closes a zone. -/
theorem result?_of_closing (ht : t.soaCount = 1) (hr : r.type = .soa) (more : List Record) :
    t.result? zone (r :: more) = some (.ok (t.records ++ [r])) := by
  simp [result?, add, hr, ht, isComplete]

/-- A zone begins with its SOA. -/
theorem result?_of_not_opening (hr : r.type ≠ .soa) (more : List Record) :
    empty.result? zone (r :: more) =
      some (.error (.invalidResponse ("AXFR of " ++ zone ++ " did not start with SOA"))) := by
  simp [result?, add, hr, empty]

private theorem result?_of_opening (hr : r.type = .soa) (more : List Record) :
    empty.result? zone (r :: more) = result? zone ⟨[r], 1⟩ more := by
  simp [result?, add, hr, empty, isComplete]

/-- From an opening SOA to the next one the records are the result, whatever follows. -/
theorem result?_of_wholeZone (h : WholeZone records) (more : List Record) :
    empty.result? zone (records ++ more) = some (.ok records) := by
  obtain ⟨opens, inside, closes⟩ := h
  rw [List.cons_append, List.append_assoc, List.singleton_append, result?_of_opening opens, result?,
    add_between rfl inside, ← result?, result?_of_closing rfl closes, List.append_assoc]
  rfl

/-- Without a closing SOA there is no result. -/
theorem result?_of_open (hr : r.type = .soa) (hbetween : ∀ s ∈ between, s.type ≠ .soa) :
    empty.result? zone (r :: between) = none := by
  have hadd : add zone ⟨[r], 1⟩ (between ++ []) = _ := add_between rfl hbetween []
  rw [List.append_nil] at hadd
  rw [result?_of_opening hr, result?, hadd, add]
  rfl

/-- Records are enough for a zone exactly if they begin with a whole one. -/
theorem result?_eq_ok_iff {whole : List Record} :
    empty.result? zone records = some (.ok whole) ↔ WholeZone whole ∧ whole <+: records := by
  constructor
  · intro h
    cases records with
    | nil => cases h
    | cons r rest =>
      by_cases hr : r.type = .soa
      · cases hfind : rest.find? fun s => s.type = .soa with
        | none =>
          rw [List.find?_eq_none] at hfind
          rw [result?_of_open hr (by simpa using hfind)] at h
          cases h
        | some closing =>
          obtain ⟨hclosing, between, more, rfl, hbetween⟩ :=
            List.find?_eq_some_iff_append.mp hfind
          have hwhole : WholeZone (r :: (between ++ [closing])) :=
            ⟨hr, by simpa using hbetween, by simpa using hclosing⟩
          have hresult : empty.result? zone _ = _ := result?_of_wholeZone hwhole more
          rw [List.cons_append, List.append_assoc, List.singleton_append, h] at hresult
          cases hresult
          exact ⟨hwhole, more, by simp⟩
      · rw [result?_of_not_opening hr] at h
        cases h
  · rintro ⟨hwhole, more, rfl⟩
    exact result?_of_wholeZone hwhole more

end Records

/-- The records that a message brings to a transfer. -/
abbrev brought (m : Message.Decoded) : List Record := Message.convertSection m.answers

/-- A reply that is not the first, or that has records, is taken in record by record. -/
theorem feed_cons_of_isReply {bytes : List UInt8} {m : Message.Decoded}
    (hm : Message.IsReply request.id bytes m) (hsome : brought m ≠ [] ∨ t.records ≠ [])
    (rest : List (List UInt8)) :
    Step.feed (receive request) t (bytes :: rest) =
      match t.add request.zone (brought m) with
      | .error failure => some (.error failure)
      | .ok next =>
        if next.isComplete then some (.ok next.records)
        else Step.feed (receive request) next rest := by
  have hreceive := receive_of_isReply (t := t) hm
  rw [if_neg (by tauto)] at hreceive
  rw [Step.feed, hreceive]
  cases t.add request.zone (brought m) with
  | error failure => rfl
  | ok next => cases hcomplete : next.isComplete <;> simp [hcomplete]

/-- A transfer that has begun does not depend on where one reply ends and the next begins. -/
theorem feed_eq_result?_of_ne_nil {messages : List (List UInt8)} {ms : List Message.Decoded}
    (hms : List.Forall₂ (Message.IsReply request.id) messages ms) (ht : t.isComplete = false)
    (hbegun : t.records ≠ []) :
    Step.feed (receive request) t messages = t.result? request.zone (ms.flatMap brought) := by
  induction hms generalizing t with
  | nil => simp [Step.feed, result?, add, ht]
  | @cons bytes m rest ms hm _ ih =>
    rw [feed_cons_of_isReply hm (.inr hbegun), List.flatMap_cons, result?_append ht]
    cases hadd : t.add request.zone (brought m) with
    | error failure => rfl
    | ok next =>
      dsimp only
      split
      · rfl
      · next hgoing =>
        have hgoing := Bool.eq_false_iff.mpr hgoing
        refine ih hgoing ?_
        rw [(records_of_add hadd).2 hgoing]
        exact List.append_ne_nil_of_left_ne_nil hbegun _

end Transfer

namespace Message

/-- Messages that are replies, of which the first has records, and which bring these records
together, wherever one message ends and the next begins. -/
def Brings (id : UInt16) (messages : List (List UInt8)) (records : List Record) : Prop :=
  ∃ m ms, List.Forall₂ (IsReply id) messages (m :: ms) ∧ Transfer.brought m ≠ [] ∧
    records = (m :: ms).flatMap Transfer.brought

variable {id : UInt16} {messages before : List (List UInt8)} {reply : List UInt8}
  {records : List Record}

/-- A response that is read, bears the number, and reports no error is a reply. -/
theorem exists_isReply {bytes : List UInt8} {response : Response}
    (h : Response.ofWire bytes = .ok response) (hid : response.id = id)
    (hrcode : response.rcode = 0) :
    ∃ m, IsReply id bytes m ∧ Transfer.brought m = response.answers := by
  obtain ⟨m, hread, hkind, rfl⟩ := Response.ofWire_eq_ok_iff.mp h
  exact ⟨m, ⟨hread, hkind, hid, hrcode⟩, rfl⟩

/-- The messages before the last bring a part of the records, unless there are none. -/
theorem Brings.exists_part (h : Brings id (before ++ [reply]) records) (hne : before ≠ []) :
    ∃ part, Brings id before part ∧ part <+: records := by
  obtain ⟨m, ms, hms, hsome, rfl⟩ := h
  obtain ⟨first, rest, rfl⟩ := List.exists_cons_of_ne_nil hne
  have hpart := List.forall₂_take (rest.length + 1) hms
  rw [List.cons_append, List.take_succ_cons, List.take_left, List.take_succ_cons] at hpart
  refine ⟨_, ⟨m, ms.take rest.length, hpart, hsome, rfl⟩, ?_⟩
  exact (List.cons_prefix_cons.mpr ⟨rfl, List.take_prefix _ _⟩).flatMap _

end Message

namespace Transfer

variable {request : TransferRequest} {messages : List (List UInt8)} {records : List Record}

/-- What messages bring a transfer to depends on nothing but their records. -/
theorem feed_of_brings (h : Message.Brings request.id messages records) :
    Step.feed (receive request) empty messages = empty.result? request.zone records := by
  obtain ⟨m, ms, hms, hsome, rfl⟩ := h
  obtain _ | ⟨hm, hrest⟩ := hms
  rw [feed_cons_of_isReply hm (.inl hsome), List.flatMap_cons, result?_append rfl]
  cases hadd : empty.add request.zone (brought m) with
  | error failure => rfl
  | ok next =>
    dsimp only
    split
    · rfl
    · next hgoing =>
      have hgoing := Bool.eq_false_iff.mpr hgoing
      refine feed_eq_result?_of_ne_nil hrest hgoing ?_
      rw [(records_of_add hadd).2 hgoing]
      exact hsome

/-- If a first reply brings no record, that is the result. -/
theorem feed_of_first_empty {bytes : List UInt8} {m : Message.Decoded}
    (hm : Message.IsReply request.id bytes m) (hnone : brought m = [])
    (rest : List (List UInt8)) :
    Step.feed (receive request) empty (bytes :: rest) = some (.ok []) := by
  have hreceive := receive_of_isReply (t := empty) hm
  rw [if_pos ⟨hnone, rfl⟩] at hreceive
  rw [Step.feed, hreceive]

/-- A transfer that succeeds has a whole zone out of the replies that it looked at, or the first of
them brought no record. -/
theorem wholeZone_of_feed {messages : List (List UInt8)} {records : List Record}
    (h : Step.feed (receive request) empty messages = some (.ok records)) :
    ∃ ms, List.Forall₂ (Message.IsReply request.id)
        (Step.heard (receive request) empty messages) ms ∧
      ((records = [] ∧ (ms.head?.map brought) = some []) ∨
        WholeZone records ∧ records <+: ms.flatMap brought) := by
  obtain ⟨ms, hms, -⟩ := replies_of_feed h
  rw [← Step.feed_heard] at h
  refine ⟨ms, hms, ?_⟩
  cases hheard : Step.heard (receive request) empty messages with
  | nil => rw [hheard] at h; cases h
  | cons bytes rest =>
    rw [hheard] at h hms
    obtain _ | @⟨_, m, _, ms, hm, hrest⟩ := hms
    by_cases hsome : brought m = []
    · rw [feed_of_first_empty hm hsome] at h
      cases h
      exact .inl ⟨rfl, congrArg some hsome⟩
    · rw [feed_of_brings ⟨m, ms, .cons hm hrest, hsome, rfl⟩] at h
      exact .inr (result?_eq_ok_iff.mp h)

/-- No message is looked at behind the one that closes the zone. -/
theorem heard_of_closing {before : List (List UInt8)} {reply : List UInt8} {whole : List Record}
    (h : Message.Brings request.id (before ++ [reply]) records) (hwhole : WholeZone whole)
    (hrecords : whole <+: records)
    (hopen : ∀ part, Message.Brings request.id before part → ¬ whole <+: part)
    (after : List (List UInt8)) :
    Step.heard (receive request) empty (before ++ reply :: after) = before ++ [reply] := by
  have hresult : empty.result? request.zone records = some (.ok whole) :=
    result?_eq_ok_iff.mpr ⟨hwhole, hrecords⟩
  refine Step.heard_eq_of_feed ?_ ?_ after
  · by_cases hbefore : before = []
    · rw [hbefore]
      rfl
    · obtain ⟨part, hpart, more, hmore⟩ := h.exists_part hbefore
      rw [feed_of_brings hpart]
      -- A result before the last message would be the whole zone.
      refine Option.eq_none_iff_forall_ne_some.mpr fun result hpartial => hopen part hpart ?_
      have hsame := result?_append_of_some rfl hpartial more
      rw [hmore, hresult] at hsame
      cases hsame
      exact (result?_eq_ok_iff.mp hpartial).2
  · rw [feed_of_brings h, hresult]
    exact Option.some_ne_none _

end Transfer

/-- A message that was written is the first one that is read. -/
theorem Framing.messages_append {message framed : List UInt8} (h : frame? message = some framed)
    (rest : List UInt8) : messages (framed ++ rest) = message :: messages rest := by
  have hread := read?_append_of_frame? h rest
  rw [messages]
  split
  · next hfound =>
    cases hread.symm.trans hfound
    rfl
  · next hnone => cases hread.symm.trans hnone

/-- The messages on a stream are those that were written, none of them too long. -/
theorem Framing.messages_written {written : List (List UInt8)}
    (h : ∀ message ∈ written, message.length ≤ maxLength) :
    messages (written.filterMap frame?).flatten = written := by
  induction written with
  | nil =>
    rw [messages]
    rfl
  | cons message rest ih =>
    obtain ⟨hmessage, hrest⟩ := List.forall_mem_cons.mp h
    have hframe : frame? message = some _ := if_pos hmessage
    rw [List.filterMap_cons_some hframe, List.flatten_cons, messages_append hframe, ih hrest]

/-- A question is short enough for a stream. -/
theorem Question.isSome_frame? {q : Question} {id : UInt16} {message : List UInt8}
    (h : q.toWire id = .ok message) : (Framing.frame? message).isSome := by
  have hadditional : q.additional.length ≤ 11 := by
    unfold additional
    split <;> simp [optRecord]
  have hflags : q.flags.length = 2 := by
    unfold flags
    split <;> rfl
  unfold toWire at h
  split at h
  · cases h
  · split at h
    · cases h
    · next name _ wire hwire =>
      have hlength : wire.length ≤ 255 := by
        unfold LabelName.toWire? at hwire
        simp only at hwire
        split at hwire
        · cases hwire
        · cases hwire
          omega
      cases h
      simp only [Framing.frame?, Framing.maxLength, List.length_append, Bytes.length_of16]
      rw [if_pos (by omega)]
      rfl

namespace Peer

variable {peers : Address → Peer} {id port : UInt16}

/-- What a transfer comes to over a stream: its result, or the failure that waiting for more runs
into. -/
theorem transfer_of_stream {zone : String} {server : Address} {message stream : List UInt8}
    {ending : LinkFault} (hmessage : (Question.transfer zone).toWire id = .ok message)
    (hstream : (peers server).stream = .ok (stream, ending)) :
    ((link peers id).client port).transfer zone server =
      (Step.feed (Transfer.receive ⟨zone, server, id⟩) .empty
        (Framing.messages stream)).getD (.error (ending.failure (server.withPort port))) := by
  rw [transfer_eq]
  simp only [hmessage, converse, hstream, bind, Except.bind]
  rw [if_neg (by simp [Option.isSome_iff_ne_none.mp (Question.isSome_frame? hmessage)])]
  cases Step.feed (Transfer.receive ⟨zone, server, id⟩) .empty (Framing.messages stream) <;> rfl

end Peer

/-- A transfer gives a whole zone or none. If it succeeds, the messages that it looked at are
replies, and its records run from the opening SOA of theirs to the next one, unless the first reply
brought none. What a stream of replies brings is decided by their records alone: a whole zone if
they begin with one, and otherwise a failure, because the first is no SOA or because the stream ends
before the next SOA. So two streams that cut the same records into replies in different ways give
the same result. No message is looked at behind the one that closes the zone, whatever it is. -/
theorem Peer.transfer_whole_or_failed (peers : Address → Peer) (id port : UInt16) (zone : String)
    (server : Address) :
    (∀ records, ((link peers id).client port).transfer zone server = .ok records →
      ∃ stream ending ms, (peers server).stream = .ok (stream, ending) ∧
        List.Forall₂ (Message.IsReply id)
          (Step.heard (Transfer.receive ⟨zone, server, id⟩) .empty (Framing.messages stream)) ms ∧
        ((records = [] ∧ ms.head?.map Transfer.brought = some []) ∨
          WholeZone records ∧ records <+: ms.flatMap Transfer.brought)) ∧
    (∀ message stream ending records, (Question.transfer zone).toWire id = .ok message →
      (peers server).stream = .ok (stream, ending) →
      Message.Brings id (Framing.messages stream) records →
      (∀ whole, WholeZone whole → whole <+: records →
        ((link peers id).client port).transfer zone server = .ok whole) ∧
      (∀ r rest, records = r :: rest → r.type ≠ .soa →
        ((link peers id).client port).transfer zone server =
          .error (.invalidResponse ("AXFR of " ++ zone ++ " did not start with SOA"))) ∧
      ∀ r rest, records = r :: rest → r.type = .soa → (∀ s ∈ rest, s.type ≠ .soa) →
        ((link peers id).client port).transfer zone server =
          .error (ending.failure (server.withPort port))) ∧
    (∀ others stream cut ending records, (peers server).stream = .ok (stream, ending) →
      (others server).stream = .ok (cut, ending) →
      Message.Brings id (Framing.messages stream) records →
      Message.Brings id (Framing.messages cut) records →
      ((link peers id).client port).transfer zone server =
        ((link others id).client port).transfer zone server) ∧
    ∀ message stream ending before reply after records whole,
      (Question.transfer zone).toWire id = .ok message →
      (peers server).stream = .ok (stream, ending) →
      Framing.messages stream = before ++ reply :: after →
      Message.Brings id (before ++ [reply]) records → WholeZone whole → whole <+: records →
      (∀ part, Message.Brings id before part → ¬ whole <+: part) →
      ((link peers id).client port).transfer zone server = .ok whole ∧
        Step.heard (Transfer.receive ⟨zone, server, id⟩) .empty (Framing.messages stream) =
          before ++ [reply] := by
  refine ⟨fun records h => ?_, fun message stream ending records hmessage hstream hbrings => ?_,
    fun others stream cut ending records hstream hcut hbrings hbringsCut => ?_,
    fun message stream ending before reply after records whole hmessage hstream hmessages hbrings
      hwhole hrecords hopen => ⟨?_, ?_⟩⟩
  · obtain ⟨message, stream, ending, -, hstream, -, hfeed⟩ :=
      (transfer_eq_ok_iff peers id port).mp h
    obtain ⟨ms, hms, hresult⟩ := Transfer.wholeZone_of_feed hfeed
    exact ⟨stream, ending, ms, hstream, hms, hresult⟩
  · rw [transfer_of_stream hmessage hstream, Transfer.feed_of_brings hbrings]
    refine ⟨fun whole hwhole hrecords => ?_, ?_, ?_⟩
    · rw [Transfer.result?_eq_ok_iff.mpr ⟨hwhole, hrecords⟩]
      rfl
    · rintro r rest rfl hr
      rw [Transfer.result?_of_not_opening hr]
      rfl
    · rintro r rest rfl hr hrest
      rw [Transfer.result?_of_open hr hrest]
      rfl
  · cases hmessage : (Question.transfer zone).toWire id with
    | error failure => simp only [transfer_eq, hmessage]
    | ok message =>
      rw [transfer_of_stream hmessage hstream, transfer_of_stream hmessage hcut,
        Transfer.feed_of_brings hbrings, Transfer.feed_of_brings hbringsCut]
  · have hresult : Step.feed (Transfer.receive ⟨zone, server, id⟩) .empty (before ++ [reply]) =
        some (.ok whole) := by
      rw [Transfer.feed_of_brings hbrings]
      exact Transfer.result?_eq_ok_iff.mpr ⟨hwhole, hrecords⟩
    have hmore := Step.feed_append hresult after
    rw [List.append_assoc, List.singleton_append] at hmore
    rw [transfer_of_stream hmessage hstream, hmessages, hmore]
    rfl
  · rw [hmessages]
    exact Transfer.heard_of_closing hbrings hwhole hrecords hopen after

/-- A zone of three records in three messages, of which the second is empty; in one message; and in
two, behind which stands one that cannot be read. -/
theorem Peer.transfer_whole_or_failed_three_cuts :
    let header (count : UInt8) : List UInt8 := [0, 7, 0x84, 0, 0, 0, 0, count, 0, 0, 0, 0]
    let soa : List UInt8 := [1, 97, 0, 0, 6, 0, 1, 0, 0, 0, 60, 0, 22, 0, 0,
      0, 0, 0, 1, 0, 0, 0, 2, 0, 0, 0, 3, 0, 0, 0, 4, 0, 0, 0, 5]
    let host : List UInt8 := [1, 97, 0, 0, 1, 0, 1, 0, 0, 0, 60, 0, 4, 192, 0, 2, 7]
    let stream (messages : List (List UInt8)) : List UInt8 :=
      (messages.filterMap Framing.frame?).flatten
    let peers (messages : List (List UInt8)) (_ : Address) : Peer :=
      ⟨.error .refused, .ok (stream messages, .closed)⟩
    let server : Address := .v4 ⟨192, 0, 2, 1⟩
    let transfer (messages : List (List UInt8)) : Except Failure (List Record) :=
      ((link (peers messages) 7).client 53).transfer "a." server
    let three := [header 1 ++ soa, header 0, header 2 ++ host ++ soa]
    let one := [header 3 ++ soa ++ host ++ soa]
    let two := [header 1 ++ soa, header 2 ++ host ++ soa]
    let start : Record := ⟨"a.", 60, .soa ⟨".", ".", 1, 2, 3, 4, 5⟩⟩
    let zone := [start, ⟨"a.", 60, .a ⟨192, 0, 2, 7⟩⟩, start]
    Message.Brings 7 three zone ∧ Message.Brings 7 one zone ∧ WholeZone zone ∧
      transfer three = .ok zone ∧ transfer three = transfer one ∧
      transfer (two ++ [[1]]) = .ok zone ∧
      Step.heard (Transfer.receive ⟨"a.", server, 7⟩) .empty (two ++ [[1]]) = two := by
  intro header soa host stream peers server transfer three one two start zone
  have hwhole : WholeZone (start :: ([⟨"a.", 60, .a ⟨192, 0, 2, 7⟩⟩] ++ [start])) :=
    .intro rfl (by decide) rfl
  have hread (records : List Record) (bytes : List UInt8)
      (h : Response.ofWire bytes = .ok ⟨7, 0, false, true, false, records, []⟩) :
      ∃ m, Message.IsReply 7 bytes m ∧ Transfer.brought m = records :=
    Message.exists_isReply h rfl rfl
  obtain ⟨mStart, hstart, hstartRecords⟩ := hread [start] (header 1 ++ soa) (by decide +kernel)
  obtain ⟨mNone, hnone, hnoneRecords⟩ := hread [] (header 0) (by decide +kernel)
  obtain ⟨mRest, hrest, hrestRecords⟩ := hread [⟨"a.", 60, .a ⟨192, 0, 2, 7⟩⟩, start]
    (header 2 ++ host ++ soa) (by decide +kernel)
  obtain ⟨mAll, hall, hallRecords⟩ :=
    hread zone (header 3 ++ soa ++ host ++ soa) (by decide +kernel)
  have hthree : Message.Brings 7 three zone :=
    ⟨mStart, [mNone, mRest], .cons hstart (.cons hnone (.cons hrest .nil)),
      by simp [hstartRecords], by simp [hstartRecords, hnoneRecords, hrestRecords, zone]⟩
  have hone : Message.Brings 7 one zone :=
    ⟨mAll, [], .cons hall .nil, by simp [hallRecords, zone], by simp [hallRecords]⟩
  have htwo : Message.Brings 7 two zone :=
    ⟨mStart, [mRest], .cons hstart (.cons hrest .nil),
      by simp [hstartRecords], by simp [hstartRecords, hrestRecords, zone]⟩
  have hopen (part : List Record) (hpart : Message.Brings 7 [header 1 ++ soa] part) :
      ¬ zone <+: part := by
    obtain ⟨m, ms, hms, -, rfl⟩ := hpart
    obtain _ | ⟨hm, hnil⟩ := hms
    cases hnil
    obtain rfl := Option.some.inj (hm.read.symm.trans hstart.read)
    simp [hstartRecords, zone]
  obtain ⟨message, hmessage⟩ : ∃ message, (Question.transfer "a.").toWire 7 = .ok message :=
    exists_eq_ok_iff_isOk.mpr (by decide +kernel)
  have hthreeStream : Framing.messages (stream three) = three :=
    Framing.messages_written (by decide)
  have honeStream : Framing.messages (stream one) = one := Framing.messages_written (by decide)
  have htwoStream : Framing.messages (stream (two ++ [[1]])) = two ++ [[1]] :=
    Framing.messages_written (by decide)
  obtain ⟨-, hdecided, hcuts, -⟩ := transfer_whole_or_failed (peers three) 7 53 "a." server
  obtain ⟨-, -, -, hclosed⟩ := transfer_whole_or_failed (peers (two ++ [[1]])) 7 53 "a." server
  obtain ⟨hzone, -, -⟩ := hdecided message (stream three) .closed zone hmessage rfl
    (by rwa [hthreeStream])
  obtain ⟨hbehind, hheard⟩ := hclosed message _ .closed [header 1 ++ soa] (header 2 ++ host ++ soa)
    [[1]] zone zone hmessage rfl htwoStream htwo hwhole List.prefix_rfl hopen
  rw [htwoStream] at hheard
  exact ⟨hthree, hone, hwhole, hzone zone hwhole List.prefix_rfl,
    hcuts (peers one) _ _ .closed zone rfl rfl (by rwa [hthreeStream]) (by rwa [honeStream]),
    hbehind, hheard⟩

end DnsHealth
