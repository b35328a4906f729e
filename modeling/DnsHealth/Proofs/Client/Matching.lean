import DnsHealth.Proofs.Client.Peers
import DnsHealth.Proofs.Message.Reading
import Mathlib.Data.List.Forall2

/-!
# Messages that match

All that a caller gets to hear from the client of a network comes out of messages that can be read,
are responses, bear the number of the question, and report no error: the one reply to a question,
which is not a datagram that was cut off, and every message that a transfer looks at, up to the one
that ends it. A transfer that looks at any other message fails.
-/

namespace DnsHealth

namespace Message

/-- The bytes of a message that answers the question with a number, and what they say. -/
structure IsReply (id : UInt16) (bytes : List UInt8) (m : Decoded) : Prop where
  /-- The bytes can be read. -/
  read : decoded.run? bytes = some m
  /-- The message is a response. -/
  response : m.response = true
  /-- Its number is that of the question. -/
  id_eq : m.id = id
  /-- It reports no error. -/
  rcode_eq : m.rcode = 0

/-- A reply begins with the two bytes with which the question began. -/
theorem IsReply.take_eq {id : UInt16} {bytes message : List UInt8} {m : Decoded} {q : Question}
    (h : IsReply id bytes m) (hq : q.toWire id = .ok message) : bytes.take 2 = message.take 2 := by
  obtain ⟨high, low, rest, hbytes, -⟩ := header_of_decoded h.read
  have hmessage : message.take 2 = Bytes.of16 id := by
    unfold Question.toWire at hq
    split at hq
    · cases hq
    · split at hq
      · cases hq
      · cases hq
        rfl
  rw [hbytes, h.id_eq, hmessage]
  rfl

end Message

namespace Response

/-- What a message says as a response. -/
def ofDecoded (m : Message.Decoded) : Response where
  id := m.id
  rcode := m.rcode
  truncated := m.truncated
  authoritative := m.authoritative
  recursionAvailable := m.recursionAvailable
  answers := Message.convertSection m.answers
  authority := Message.convertSection m.authority

/-- A response is made of bytes exactly if they can be read as a message that is one. -/
theorem ofWire_eq_ok_iff {bytes : List UInt8} {response : Response} :
    ofWire bytes = .ok response ↔
      ∃ m, Message.decoded.run? bytes = some m ∧ m.response = true ∧ response = ofDecoded m := by
  unfold ofWire
  split
  · next hread => simp [hread]
  · next m hread =>
    by_cases hm : m.response = true
    · simp only [hread, hm, ofDecoded, if_true, Except.ok.injEq, Option.some.injEq, exists_eq_left',
        true_and]
      exact eq_comm
    · simp [hread, hm]

end Response

/-- What a message says as an answer. -/
def Answer.ofDecoded (m : Message.Decoded) (server : Address) (rtt : Duration) : Answer where
  answers := Message.convertSection m.answers
  authority := Message.convertSection m.authority
  authoritative := m.authoritative
  recursionAvailable := m.recursionAvailable
  server := server
  rtt := rtt

/-- A response is accepted if its number is that of the question and it reports no error. -/
theorem Question.accept_eq_ok_iff {q : Question} {server : Address} {endpoint : String}
    {id : UInt16} {m : Message.Decoded} {rtt : Duration} {answer : Answer} :
    q.accept server endpoint id (.ofDecoded m) rtt = .ok answer ↔
      m.id = id ∧ m.rcode = 0 ∧ answer = .ofDecoded m server rtt := by
  by_cases hid : m.id = id
  · by_cases hrcode : m.rcode = 0
    · simp [accept, Response.ofDecoded, Response.isSuccess, hid, hrcode, Answer.ofDecoded, eq_comm]
    · simp [accept, Response.ofDecoded, Response.isSuccess, hid, hrcode]
  · simp [accept, Response.ofDecoded, hid]

/-- The message that counts as a peer's reply to a question. -/
inductive Peer.Replies (peer : Peer) (message : List UInt8) : List UInt8 → Prop where
  /-- The datagram, unless it was cut off. -/
  | datagram {bytes : List UInt8} {m : Message.Decoded} (received : peer.datagram = .ok bytes)
      (read : Message.decoded.run? (bytes.take payloadSize.toNat) = some m)
      (whole : m.truncated = false) : Replies peer message (bytes.take payloadSize.toNat)
  /-- The first message on a connection, if the datagram was cut off. -/
  | connection {bytes stream reply : List UInt8} {m : Message.Decoded} {ending : LinkFault}
      (received : peer.datagram = .ok bytes)
      (read : Message.decoded.run? (bytes.take payloadSize.toNat) = some m)
      (response : m.response = true) (cut : m.truncated = true)
      (connected : peer.stream = .ok (stream, ending))
      (short : (Framing.frame? message).isSome)
      (first : (Framing.messages stream).head? = some reply) : Replies peer message reply

namespace Peer

variable {peers : Address → Peer} {id port : UInt16}

/-- An exchange gives the response that the peer's reply is. -/
theorem exchange_eq_ok_iff {server : Address} {endpoint : String} {message : List UInt8}
    {response : Response} :
    ((link peers id).exchange server endpoint message).run = .ok response ↔
      ∃ reply, (peers server).Replies message reply ∧ Response.ofWire reply = .ok response := by
  rw [exchange_eq]
  constructor
  · intro h
    split at h
    · cases h
    · next bytes hdatagram =>
      split at h
      · cases h
      · next first hfirst =>
        obtain ⟨m, hread, hresponse, rfl⟩ := Response.ofWire_eq_ok_iff.mp hfirst
        split at h
        · next hcut =>
          split at h
          · cases h
          · next reply hconverse =>
            obtain ⟨stream, ending, hstream, hshort, hfeed⟩ := converse_eq_ok_iff.mp hconverse
            rw [Step.feed_stop] at hfeed
            exact ⟨reply, .connection hdatagram hread hresponse hcut hstream hshort hfeed, h⟩
        · next hwhole =>
          cases h
          exact ⟨_, .datagram hdatagram hread (Bool.eq_false_iff.mpr hwhole), hfirst⟩
  · rintro ⟨reply, hreply, hresponse⟩
    cases hreply with
    | @datagram bytes m received read whole =>
      obtain ⟨found, hread, -, rfl⟩ := Response.ofWire_eq_ok_iff.mp hresponse
      obtain rfl := Option.some.inj (read.symm.trans hread)
      simp only [received, hresponse]
      exact if_neg (by simp [Response.ofDecoded, whole])
    | connection received read response cut connected short first =>
      have hfirst := Response.ofWire_eq_ok_iff.mpr ⟨_, read, response, rfl⟩
      have hconverse := converse_eq_ok_iff.mpr
        ⟨_, _, connected, short, (Step.feed_stop () _).trans first⟩
      simp only [received, hfirst, Response.ofDecoded, cut, if_true, hconverse, hresponse]

/-- A question is answered by what the peer's reply says, if that counts. -/
theorem query_eq_ok_iff {q : Question} {server : Address} {answer : Answer} :
    ((link peers id).client port).query q server = .ok answer ↔
      ∃ message reply m, q.toWire id = .ok message ∧ (peers server).Replies message reply ∧
        Message.IsReply id reply m ∧ answer = .ofDecoded m server .zero := by
  rw [query_eq]
  constructor
  · intro h
    split at h
    · cases h
    · next message hmessage =>
      split at h
      · cases h
      · next response hexchange =>
        obtain ⟨reply, hreply, hresponse⟩ := exchange_eq_ok_iff.mp hexchange
        obtain ⟨m, hread, hkind, rfl⟩ := Response.ofWire_eq_ok_iff.mp hresponse
        obtain ⟨hid, hrcode, rfl⟩ := Question.accept_eq_ok_iff.mp h
        exact ⟨message, reply, m, hmessage, hreply, ⟨hread, hkind, hid, hrcode⟩, rfl⟩
  · rintro ⟨message, reply, m, hmessage, hreply, hm, rfl⟩
    have hresponse := Response.ofWire_eq_ok_iff.mpr ⟨m, hm.read, hm.response, rfl⟩
    have hexchange : ((link peers id).exchange server (server.withPort port) message).run = _ :=
      exchange_eq_ok_iff.mpr ⟨reply, hreply, hresponse⟩
    simp only [hmessage, hexchange]
    exact Question.accept_eq_ok_iff.mpr ⟨hm.id_eq, hm.rcode_eq, rfl⟩

end Peer

namespace Transfer

variable {request : TransferRequest} {t : Transfer}

/-- Records are taken in one after the other, all of them unless the transfer is complete before. -/
theorem records_of_add {zone : String} {t next : Transfer} {records : List Record}
    (h : t.add zone records = .ok next) :
    next.records <+: t.records ++ records ∧
      (next.isComplete = false → next.records = t.records ++ records) := by
  induction records generalizing t with
  | nil =>
    cases h
    simp
  | cons r rest ih =>
    unfold add at h
    split at h
    · cases h
    · let grown : Transfer :=
        ⟨t.records ++ [r], if r.type = .soa then t.soaCount + 1 else t.soaCount⟩
      change (if grown.isComplete then .ok grown else grown.add zone rest) = .ok next at h
      split at h
      · next hcomplete =>
        rw [← Except.ok.inj h]
        refine ⟨?_, fun hgoing => absurd hcomplete (Bool.eq_false_iff.mp hgoing)⟩
        have hfirst : [r] <+: r :: rest := List.cons_prefix_cons.mpr ⟨rfl, List.nil_prefix⟩
        exact (List.prefix_append_right_inj _).mpr hfirst
      · have hrest := ih h
        rwa [List.append_assoc] at hrest

/-- What a reply does to a transfer. -/
theorem receive_of_isReply {bytes : List UInt8} {m : Message.Decoded}
    (hm : Message.IsReply request.id bytes m) :
    receive request t bytes =
      if Message.convertSection m.answers = [] ∧ t.records = [] then .stop (.ok [])
      else match t.add request.zone (Message.convertSection m.answers) with
        | .error failure => .stop (.error failure)
        | .ok next => if next.isComplete then .stop (.ok next.records) else .next next := by
  have hresponse := Response.ofWire_eq_ok_iff.mpr ⟨m, hm.read, hm.response, rfl⟩
  have hid : ¬ (Response.ofDecoded m).id ≠ request.id := not_not.mpr hm.id_eq
  have hsuccess : ¬ (!(Response.ofDecoded m).isSuccess) = true := by
    simp [Response.isSuccess, Response.ofDecoded, hm.rcode_eq]
  calc receive request t bytes = take request t (.ofDecoded m) := by simp only [receive, hresponse]
    _ = _ := (if_neg hid).trans (if_neg hsuccess)

/-- Any other message makes a transfer fail. -/
theorem exists_receive_eq_error {bytes : List UInt8}
    (h : ∀ m, ¬ Message.IsReply request.id bytes m) :
    ∃ failure, receive request t bytes = .stop (.error failure) := by
  unfold receive
  cases hresponse : Response.ofWire bytes with
  | error failure => exact ⟨failure, rfl⟩
  | ok response =>
    obtain ⟨m, hread, hkind, rfl⟩ := Response.ofWire_eq_ok_iff.mp hresponse
    by_cases hid : m.id = request.id
    · have hrcode : m.rcode ≠ 0 := fun hrcode => h m ⟨hread, hkind, hid, hrcode⟩
      simp [take, Response.ofDecoded, Response.isSuccess, hid, hrcode]
    · simp [take, Response.ofDecoded, hid]

/-- If a transfer succeeds, all the messages that it looked at are replies, and its records are
those of their answers up to some place. -/
theorem replies_of_feed {messages : List (List UInt8)} {records : List Record}
    (h : Step.feed (receive request) t messages = some (.ok records)) :
    ∃ ms, List.Forall₂ (Message.IsReply request.id)
        (Step.heard (receive request) t messages) ms ∧
      records <+: t.records ++ ms.flatMap fun m => Message.convertSection m.answers := by
  induction messages generalizing t with
  | nil => cases h
  | cons bytes rest ih =>
    by_cases hreply : ∃ m, Message.IsReply request.id bytes m
    · obtain ⟨m, hm⟩ := hreply
      have hreceive := receive_of_isReply (t := t) hm
      split at hreceive
      · simp only [Step.feed, Step.heard, hreceive] at h ⊢
        cases h
        exact ⟨[m], .cons hm .nil, List.nil_prefix⟩
      · split at hreceive
        · simp only [Step.feed, hreceive] at h
          cases h
        · next next hadd =>
          obtain ⟨hpart, hall⟩ := records_of_add hadd
          split at hreceive
          · simp only [Step.feed, Step.heard, hreceive] at h ⊢
            cases h
            exact ⟨[m], .cons hm .nil, by simpa using hpart⟩
          · next hgoing =>
            simp only [Step.feed, Step.heard, hreceive] at h ⊢
            obtain ⟨ms, hms, hrecords⟩ := ih h
            rw [hall (Bool.eq_false_iff.mpr hgoing), List.append_assoc] at hrecords
            exact ⟨m :: ms, .cons hm hms, hrecords⟩
    · obtain ⟨failure, hreceive⟩ := exists_receive_eq_error (t := t) (not_exists.mp hreply)
      simp only [Step.feed, hreceive] at h
      cases h

end Transfer

/-- What a caller gets to hear from the client of peers comes out of messages that are replies. An
answer says what the peer's reply says, which begins with the two bytes with which the question
began. The records of a transfer are those of the answers of the messages that it looked at up to
some place, and each of these messages is a reply. If one is not, the transfer fails. -/
theorem Peer.results_match (peers : Address → Peer) (id port : UInt16) :
    (∀ q server answer, ((link peers id).client port).query q server = .ok answer ↔
      ∃ message reply m, q.toWire id = .ok message ∧ (peers server).Replies message reply ∧
        reply.take 2 = message.take 2 ∧ Message.IsReply id reply m ∧
        answer = .ofDecoded m server .zero) ∧
    (∀ zone server records, ((link peers id).client port).transfer zone server = .ok records →
      ∃ message stream ending ms, (Question.transfer zone).toWire id = .ok message ∧
        (peers server).stream = .ok (stream, ending) ∧
        List.Forall₂ (fun reply m => reply.take 2 = message.take 2 ∧ Message.IsReply id reply m)
          (Step.heard (Transfer.receive ⟨zone, server, id⟩) .empty (Framing.messages stream)) ms ∧
        records <+: ms.flatMap fun m => Message.convertSection m.answers) ∧
    ∀ zone server stream ending, (peers server).stream = .ok (stream, ending) →
      ∀ bytes ∈ Step.heard (Transfer.receive ⟨zone, server, id⟩) .empty (Framing.messages stream),
        (∀ m, ¬ Message.IsReply id bytes m) →
        ∃ failure, ((link peers id).client port).transfer zone server = .error failure := by
  refine ⟨fun q server answer => ?_, fun zone server records h => ?_,
    fun zone server stream ending hstream bytes hbytes hfault => ?_⟩
  · rw [query_eq_ok_iff]
    constructor
    · rintro ⟨message, reply, m, hmessage, hreply, hm, rfl⟩
      exact ⟨message, reply, m, hmessage, hreply, hm.take_eq hmessage, hm, rfl⟩
    · rintro ⟨message, reply, m, hmessage, hreply, -, hm, rfl⟩
      exact ⟨message, reply, m, hmessage, hreply, hm, rfl⟩
  · obtain ⟨message, stream, ending, hmessage, hstream, -, hfeed⟩ :=
      (transfer_eq_ok_iff peers id port).mp h
    obtain ⟨ms, hms, hrecords⟩ := Transfer.replies_of_feed hfeed
    exact ⟨message, stream, ending, ms, hmessage, hstream,
      hms.imp fun reply m hm => ⟨hm.take_eq hmessage, hm⟩, hrecords⟩
  · cases hresult : ((link peers id).client port).transfer zone server with
    | error failure => exact ⟨failure, rfl⟩
    | ok records =>
      obtain ⟨_, _, _, -, hsent, -, hfeed⟩ := (transfer_eq_ok_iff peers id port).mp hresult
      obtain ⟨rfl, rfl⟩ := Prod.mk.inj (Except.ok.inj (hstream.symm.trans hsent))
      obtain ⟨ms, hms, -⟩ := Transfer.replies_of_feed hfeed
      obtain ⟨i, hi, rfl⟩ := List.mem_iff_getElem.mp hbytes
      exact absurd (hms.get hi (hms.length_eq ▸ hi)) (hfault _)

/-- A datagram that was cut off under another number, and the reply over a connection in its place;
a transfer over two messages; and one whose second message bears another number. -/
theorem Peer.results_match_three_peers :
    let server (n : UInt8) : Address := .v4 ⟨192, 0, 2, n⟩
    let cut : List UInt8 := [0, 9, 0x82, 0, 0, 0, 0, 0, 0, 0, 0, 0]
    let answer : List UInt8 := [0, 7, 0x84, 0, 0, 0, 0, 1, 0, 0, 0, 0,
      1, 97, 0, 0, 1, 0, 1, 0, 0, 0, 60, 0, 4, 192, 0, 2, 7]
    let soa (id : UInt8) : List UInt8 := [0, id, 0x84, 0, 0, 0, 0, 1, 0, 0, 0, 0,
      1, 97, 0, 0, 6, 0, 1, 0, 0, 0, 60, 0, 22, 0, 0,
      0, 0, 0, 1, 0, 0, 0, 2, 0, 0, 0, 3, 0, 0, 0, 4, 0, 0, 0, 5]
    let framed (message : List UInt8) : List UInt8 := [0, .ofNat message.length] ++ message
    let streams (address : Address) : List UInt8 :=
      if address = server 1 then framed answer
      else if address = server 2 then framed (soa 7) ++ framed (soa 7)
      else framed (soa 7) ++ framed (soa 8) ++ framed (soa 7)
    let peers (address : Address) : Peer := ⟨.ok cut, .ok (streams address, .closed)⟩
    let client := (link peers 7).client 53
    let start : Record := ⟨"a.", 60, .soa ⟨".", ".", 1, 2, 3, 4, 5⟩⟩
    client.query ⟨"a.", .a, false⟩ (server 1) =
        .ok ⟨[⟨"a.", 60, .a ⟨192, 0, 2, 7⟩⟩], [], true, false, server 1, .zero⟩ ∧
      (∃ message reply m, (peers (server 1)).Replies message reply ∧ Message.IsReply 7 reply m) ∧
      client.transfer "a." (server 2) = .ok [start, start] ∧
      (∃ ms, List.Forall₂ (Message.IsReply 7) [soa 7, soa 7] ms) ∧
      ∃ failure, client.transfer "a." (server 3) = .error failure := by
  intro server cut answer soa framed streams peers client start
  have hquery : (client.query ⟨"a.", .a, false⟩ (server 1)).run =
      .ok ⟨[⟨"a.", 60, .a ⟨192, 0, 2, 7⟩⟩], [], true, false, server 1, .zero⟩ := by decide +kernel
  have htransfer : (client.transfer "a." (server 2)).run = .ok [start, start] := by decide +kernel
  have hheard : Step.heard (Transfer.receive ⟨"a.", server 2, 7⟩) .empty
      (Framing.messages (streams (server 2))) = [soa 7, soa 7] := by decide +kernel
  have hmismatch : Step.heard (Transfer.receive ⟨"a.", server 3, 7⟩) .empty
      (Framing.messages (streams (server 3))) = [soa 7, soa 8] := by decide +kernel
  have hread : (Message.decoded.run? (soa 8)).map (·.id) = some 8 := by decide +kernel
  obtain ⟨hqueries, htransfers, hfaults⟩ := results_match peers 7 53
  refine ⟨hquery, ?_, htransfer, ?_, hfaults "a." (server 3) _ _ rfl (soa 8) ?_ fun m hm => ?_⟩
  · obtain ⟨message, reply, m, -, hreply, -, hm, -⟩ := (hqueries _ _ _).mp hquery
    exact ⟨message, reply, m, hreply, hm⟩
  · obtain ⟨message, stream, ending, ms, -, hstream, hms, -⟩ := htransfers _ _ _ htransfer
    cases hstream
    rw [hheard] at hms
    exact ⟨ms, hms.imp fun _ _ => And.right⟩
  · rw [hmismatch]
    exact List.mem_cons_of_mem _ (List.mem_cons_self ..)
  · rw [hm.read, Option.map_some, hm.id_eq] at hread
    exact absurd hread (by decide)

end DnsHealth
