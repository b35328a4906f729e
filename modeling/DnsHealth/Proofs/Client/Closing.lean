import DnsHealth.Proofs.Client.WholeZone

/-!
# The SOA that closes a zone

A zone that is sent as it should be begins with its SOA and ends when this very record comes again.
A transfer counts SOA records and compares none, so it ends with the first SOA behind the opening
one, of whatever owner and with whatever data. It gives a zone as it was sent if and only if no
other SOA stands inside; otherwise it succeeds with a part of the zone that its SOA does not close.
-/

namespace DnsHealth

/-- An SOA record of the same owner, up to the case of ASCII letters, and with the same data. -/
structure Record.Returns (opening r : Record) : Prop where
  /-- The record is an SOA. -/
  isSoa : r.type = .soa
  /-- Its owner is that of the opening record. -/
  sameOwner : Name.eqIgnoreCase r.name opening.name = true
  /-- Its data are those of the opening record. -/
  sameData : r.soa? = opening.soa?

namespace Record

variable {opening r : Record}

private theorem returns_iff : opening.Returns r ↔
    r.type = .soa ∧ Name.eqIgnoreCase r.name opening.name = true ∧ r.soa? = opening.soa? :=
  ⟨fun h => ⟨h.isSoa, h.sameOwner, h.sameData⟩, fun h => ⟨h.1, h.2.1, h.2.2⟩⟩

instance (opening r : Record) : Decidable (opening.Returns r) :=
  decidable_of_iff _ returns_iff.symm

end Record

/-- Records that begin with an SOA and end when it comes again. -/
inductive ClosedZone : List Record → Prop where
  /-- Between the two stand any records, SOA records of other owners or with other data among
  them. -/
  | intro {opening closing : Record} {between : List Record} (opens : opening.type = .soa)
      (inside : ∀ r ∈ between, ¬ opening.Returns r) (closes : opening.Returns closing) :
      ClosedZone (opening :: (between ++ [closing]))

section Zones

variable {opening closing : Record} {between whole : List Record}

/-- A list of records tells its first, its last, and those between. -/
theorem zone_inj {first last : Record} {inside : List Record}
    (h : opening :: (between ++ [closing]) = first :: (inside ++ [last])) :
    opening = first ∧ between = inside ∧ closing = last := by
  obtain ⟨rfl, hrest⟩ := List.cons.inj h
  obtain ⟨rfl, rfl⟩ := List.append_singleton_inj.mp hrest
  exact ⟨rfl, rfl, rfl⟩

private theorem wholeZone_iff : WholeZone (opening :: (between ++ [closing])) ↔
    opening.type = .soa ∧ (∀ r ∈ between, r.type ≠ .soa) ∧ closing.type = .soa := by
  constructor
  · intro h
    generalize hwhole : opening :: (between ++ [closing]) = whole at h
    obtain ⟨opens, inside, closes⟩ := h
    obtain ⟨rfl, rfl, rfl⟩ := zone_inj hwhole
    exact ⟨opens, inside, closes⟩
  · rintro ⟨opens, inside, closes⟩
    exact .intro opens inside closes

private theorem closedZone_iff : ClosedZone (opening :: (between ++ [closing])) ↔
    opening.type = .soa ∧ (∀ r ∈ between, ¬ opening.Returns r) ∧ opening.Returns closing := by
  constructor
  · intro h
    generalize hwhole : opening :: (between ++ [closing]) = whole at h
    obtain ⟨opens, inside, closes⟩ := h
    obtain ⟨rfl, rfl, rfl⟩ := zone_inj hwhole
    exact ⟨opens, inside, closes⟩
  · rintro ⟨opens, inside, closes⟩
    exact .intro opens inside closes

/-- What a transfer gives is closed by its SOA just when its last record is the SOA again. -/
theorem WholeZone.closedZone_iff (h : WholeZone (opening :: (between ++ [closing]))) :
    ClosedZone (opening :: (between ++ [closing])) ↔ opening.Returns closing := by
  obtain ⟨opens, inside, -⟩ := wholeZone_iff.mp h
  have hinside : ∀ r ∈ between, ¬ opening.Returns r := fun r hr hreturns =>
    inside r hr hreturns.isSoa
  rw [DnsHealth.closedZone_iff]
  exact ⟨fun hclosed => hclosed.2.2, fun hreturns => ⟨opens, hinside, hreturns⟩⟩

/-- A zone that its SOA closes begins with what a transfer gives, the whole of it or a part that its
SOA does not close. -/
theorem ClosedZone.exists_wholeZone (h : ClosedZone whole) :
    ∃ given, WholeZone given ∧ given <+: whole ∧ (given = whole ∨ ¬ ClosedZone given) := by
  obtain @⟨opening, closing, between, opens, inside, closes⟩ := h
  -- The first SOA inside, if there is one, ends the transfer before the zone is closed.
  cases hfind : between.find? fun r => r.type = .soa with
  | none =>
    have hbetween : ∀ r ∈ between, r.type ≠ .soa := by simpa using List.find?_eq_none.mp hfind
    exact ⟨_, .intro opens hbetween closes.isSoa, List.prefix_rfl, .inl rfl⟩
  | some next =>
    obtain ⟨hnext, before, after, rfl, hbefore⟩ := List.find?_eq_some_iff_append.mp hfind
    have hgiven : WholeZone (opening :: (before ++ [next])) :=
      .intro opens (by simpa using hbefore) (by simpa using hnext)
    refine ⟨_, hgiven, ⟨after ++ [closing], by simp⟩, .inr ?_⟩
    rw [hgiven.closedZone_iff]
    exact inside next (List.mem_append_right _ List.mem_cons_self)

end Zones

/-- A transfer gives the whole zone with which the records of the replies begin. -/
theorem Peer.transfer_of_wholeZone {peers : Address → Peer} {id port : UInt16} {zone : String}
    {server : Address} {message stream : List UInt8} {ending : LinkFault}
    {records whole : List Record} (hmessage : (Question.transfer zone).toWire id = .ok message)
    (hstream : (peers server).stream = .ok (stream, ending))
    (hbrings : Message.Brings id (Framing.messages stream) records) (hwhole : WholeZone whole)
    (hsent : whole <+: records) :
    ((link peers id).client port).transfer zone server = .ok whole := by
  rw [transfer_of_stream hmessage hstream, Transfer.feed_of_brings hbrings,
    Transfer.result?_eq_ok_iff.mpr ⟨hwhole, hsent⟩]
  rfl

/-- A transfer ends with the first SOA behind the opening one, whatever its owner and its data. What
it gives is closed by its opening SOA if and only if its last record is that SOA again, which is so
if the server sends no other. If replies bring a zone that its SOA closes, the transfer gives this
zone if and only if no other SOA stands inside, and otherwise a part of it, as a success. -/
theorem Peer.transfer_closed_iff (peers : Address → Peer) (id port : UInt16) (zone : String)
    (server : Address) :
    (∀ opening rest, ((link peers id).client port).transfer zone server = .ok (opening :: rest) →
      ∃ stream ending ms between closing, (peers server).stream = .ok (stream, ending) ∧
        List.Forall₂ (Message.IsReply id)
          (Step.heard (Transfer.receive ⟨zone, server, id⟩) .empty (Framing.messages stream)) ms ∧
        opening :: rest <+: ms.flatMap Transfer.brought ∧ rest = between ++ [closing] ∧
        opening.type = .soa ∧ closing.type = .soa ∧ (∀ r ∈ between, r.type ≠ .soa) ∧
        (ClosedZone (opening :: rest) ↔ opening.Returns closing) ∧
        ((∀ r ∈ ms.flatMap Transfer.brought, r.type = .soa → opening.Returns r) →
          ClosedZone (opening :: rest))) ∧
    ∀ message stream ending records, (Question.transfer zone).toWire id = .ok message →
      (peers server).stream = .ok (stream, ending) →
      Message.Brings id (Framing.messages stream) records →
      (∀ opening between next after, opening.type = .soa → (∀ r ∈ between, r.type ≠ .soa) →
        next.type = .soa → records = opening :: (between ++ next :: after) →
        ((link peers id).client port).transfer zone server =
          .ok (opening :: (between ++ [next])) ∧
        (ClosedZone (opening :: (between ++ [next])) ↔ opening.Returns next)) ∧
      ∀ opening between closing, ClosedZone (opening :: (between ++ [closing])) →
        opening :: (between ++ [closing]) <+: records →
        (((link peers id).client port).transfer zone server =
            .ok (opening :: (between ++ [closing])) ↔ ∀ r ∈ between, r.type ≠ .soa) ∧
        ∃ given, ((link peers id).client port).transfer zone server = .ok given ∧
          given <+: opening :: (between ++ [closing]) ∧
          (given = opening :: (between ++ [closing]) ∨ ¬ ClosedZone given) := by
  refine ⟨fun opening rest h => ?_, fun message stream ending records hmessage hstream hbrings =>
    ⟨fun opening between next after opens inside hnext hrecords => ?_,
      fun opening between closing hclosed hsent => ?_⟩⟩
  · obtain ⟨message, stream, ending, -, hstream, -, hfeed⟩ :=
      (transfer_eq_ok_iff peers id port).mp h
    obtain ⟨ms, hms, hresult⟩ := Transfer.wholeZone_of_feed hfeed
    rcases hresult with ⟨hnil, -⟩ | ⟨hwhole, hsent⟩
    · cases hnil
    · generalize hgiven : opening :: rest = given at hwhole
      obtain @⟨_, closing, between, opens, inside, closes⟩ := hwhole
      obtain ⟨rfl, rfl⟩ := List.cons.inj hgiven
      have hiff := (WholeZone.intro opens inside closes).closedZone_iff
      refine ⟨stream, ending, ms, between, closing, hstream, hms, hsent, rfl, opens, closes, inside,
        hiff, fun hreturns => hiff.mpr (hreturns closing (hsent.subset ?_) closes)⟩
      exact List.mem_cons_of_mem _ (List.mem_append_right _ List.mem_cons_self)
  · have hwhole : WholeZone (opening :: (between ++ [next])) := .intro opens inside hnext
    refine ⟨?_, hwhole.closedZone_iff⟩
    have hsent : opening :: (between ++ [next]) <+: records := ⟨after, by simp [hrecords]⟩
    exact transfer_of_wholeZone hmessage hstream hbrings hwhole hsent
  · obtain ⟨opens, -, closes⟩ := closedZone_iff.mp hclosed
    obtain ⟨given, hgiven, hpart, hend⟩ := hclosed.exists_wholeZone
    have hresult : ((link peers id).client port).transfer zone server = .ok given :=
      transfer_of_wholeZone hmessage hstream hbrings hgiven (hpart.trans hsent)
    refine ⟨⟨fun h => ?_, fun inside => ?_⟩, given, hresult, hpart, hend⟩
    · rw [hresult, Except.ok.injEq] at h
      rw [h, wholeZone_iff] at hgiven
      exact hgiven.2.1
    · exact transfer_of_wholeZone hmessage hstream hbrings (.intro opens inside closes.isSoa) hsent

/-- A zone whose SOA comes again with its owner in capitals, in two messages. -/
theorem Peer.transfer_closed_iff_capital_owner :
    let header (count : UInt8) : List UInt8 := [0, 7, 0x84, 0, 0, 0, 0, count, 0, 0, 0, 0]
    let soa (owner : UInt8) : List UInt8 := [1, owner, 0, 0, 6, 0, 1, 0, 0, 0, 60, 0, 22, 0, 0,
      0, 0, 0, 1, 0, 0, 0, 2, 0, 0, 0, 3, 0, 0, 0, 4, 0, 0, 0, 5]
    let host : List UInt8 := [1, 97, 0, 0, 1, 0, 1, 0, 0, 0, 60, 0, 4, 192, 0, 2, 7]
    let replies := [header 2 ++ soa 97 ++ host, header 1 ++ soa 65]
    let server : Address := .v4 ⟨192, 0, 2, 1⟩
    let peers (_ : Address) : Peer :=
      ⟨.error .refused, .ok ((replies.filterMap Framing.frame?).flatten, .closed)⟩
    let start (owner : String) : Record := ⟨owner, 60, .soa ⟨".", ".", 1, 2, 3, 4, 5⟩⟩
    let zone := [start "a.", ⟨"a.", 60, .a ⟨192, 0, 2, 7⟩⟩, start "A."]
    Message.Brings 7 replies zone ∧ ClosedZone zone ∧
      ((link peers 7).client 53).transfer "a." server = .ok zone := by
  intro header soa host replies server peers start zone
  have hread (records : List Record) (bytes : List UInt8)
      (h : Response.ofWire bytes = .ok ⟨7, 0, false, true, false, records, []⟩) :
      ∃ m, Message.IsReply 7 bytes m ∧ Transfer.brought m = records :=
    Message.exists_isReply h rfl rfl
  obtain ⟨mStart, hstart, hstartRecords⟩ := hread [start "a.", ⟨"a.", 60, .a ⟨192, 0, 2, 7⟩⟩]
    (header 2 ++ soa 97 ++ host) (by decide +kernel)
  obtain ⟨mEnd, hend, hendRecords⟩ := hread [start "A."] (header 1 ++ soa 65) (by decide +kernel)
  have hbrings : Message.Brings 7 replies zone :=
    ⟨mStart, [mEnd], .cons hstart (.cons hend .nil), by simp [hstartRecords],
      by simp [hstartRecords, hendRecords, zone]⟩
  have hclosed : ClosedZone (start "a." :: ([⟨"a.", 60, .a ⟨192, 0, 2, 7⟩⟩] ++ [start "A."])) :=
    .intro rfl (by decide) (by decide)
  obtain ⟨message, hmessage⟩ : ∃ message, (Question.transfer "a.").toWire 7 = .ok message :=
    exists_eq_ok_iff_isOk.mpr (by decide +kernel)
  have hreplies : Framing.messages (replies.filterMap Framing.frame?).flatten = replies :=
    Framing.messages_written (by decide)
  obtain ⟨-, hsent⟩ := transfer_closed_iff peers 7 53 "a." server
  obtain ⟨-, hzone⟩ := hsent message _ .closed zone hmessage rfl (by rwa [hreplies])
  obtain ⟨hwhole, -⟩ := hzone _ _ _ hclosed List.prefix_rfl
  exact ⟨hbrings, hclosed, hwhole.mpr (by decide)⟩

/-- A zone inside which stands the SOA of another owner, and the part of it that a transfer
gives. -/
theorem Peer.transfer_cut_by_foreign_soa :
    let header (count : UInt8) : List UInt8 := [0, 7, 0x84, 0, 0, 0, 0, count, 0, 0, 0, 0]
    let soa (owner serial : UInt8) : List UInt8 := [1, owner, 0, 0, 6, 0, 1, 0, 0, 0, 60, 0, 22, 0,
      0, 0, 0, 0, serial, 0, 0, 0, 2, 0, 0, 0, 3, 0, 0, 0, 4, 0, 0, 0, 5]
    let host (number : UInt8) : List UInt8 :=
      [1, 97, 0, 0, 1, 0, 1, 0, 0, 0, 60, 0, 4, 192, 0, 2, number]
    let reply := header 5 ++ soa 97 1 ++ host 7 ++ soa 98 9 ++ host 8 ++ soa 97 1
    let server : Address := .v4 ⟨192, 0, 2, 1⟩
    let peers (_ : Address) : Peer :=
      ⟨.error .refused, .ok (([reply].filterMap Framing.frame?).flatten, .closed)⟩
    let start (owner : String) (serial : UInt32) : Record :=
      ⟨owner, 60, .soa ⟨".", ".", serial, 2, 3, 4, 5⟩⟩
    let address (number : UInt8) : Record := ⟨"a.", 60, .a ⟨192, 0, 2, number⟩⟩
    let zone := [start "a." 1, address 7, start "b." 9, address 8, start "a." 1]
    let given := [start "a." 1, address 7, start "b." 9]
    Message.Brings 7 [reply] zone ∧ ClosedZone zone ∧
      ((link peers 7).client 53).transfer "a." server = .ok given ∧ ¬ ClosedZone given := by
  intro header soa host reply server peers start address zone given
  have hread : Response.ofWire reply = .ok ⟨7, 0, false, true, false, zone, []⟩ := by decide +kernel
  obtain ⟨m, hm, hrecords⟩ : ∃ m, Message.IsReply 7 reply m ∧ Transfer.brought m = zone :=
    Message.exists_isReply hread rfl rfl
  have hbrings : Message.Brings 7 [reply] zone :=
    ⟨m, [], .cons hm .nil, by simp [hrecords, zone], by simp [hrecords]⟩
  have hclosed : ClosedZone
      (start "a." 1 :: ([address 7, start "b." 9, address 8] ++ [start "a." 1])) :=
    .intro rfl (by decide) (by decide)
  have hgiven : WholeZone (start "a." 1 :: ([address 7] ++ [start "b." 9])) :=
    .intro rfl (by decide) rfl
  obtain ⟨message, hmessage⟩ : ∃ message, (Question.transfer "a.").toWire 7 = .ok message :=
    exists_eq_ok_iff_isOk.mpr (by decide +kernel)
  have hreplies : Framing.messages ([reply].filterMap Framing.frame?).flatten = [reply] :=
    Framing.messages_written (by simp [reply, header, soa, host, Framing.maxLength])
  have hresult : ((link peers 7).client 53).transfer "a." server = .ok given :=
    transfer_of_wholeZone hmessage rfl (by rwa [hreplies]) hgiven
      ⟨[address 8, start "a." 1], rfl⟩
  have hopen : ¬ (start "a." 1).Returns (start "b." 9) := by decide
  exact ⟨hbrings, hclosed, hresult, mt hgiven.closedZone_iff.mp hopen⟩

end DnsHealth
