import DnsHealth.Message.Query
import DnsHealth.Proofs.Message.Uncompressed
import DnsHealth.Proofs.Name.Unescaped

/-!
# What a question says on the wire

The form that every message has: a header with its flags, and four sections, the first of questions
and the others of records, as many in each as the header says. The bytes of a question are such a
message and nothing more. It asks for recursion, it asks one thing, about the name under whose wire
form signatures over the answer are checked, and it has an OPT record exactly if signatures are
asked for.
-/

namespace DnsHealth

namespace Message

/-- The header of a message, without the sizes of its sections. -/
structure Header where
  /-- The number of the message. -/
  id : UInt16
  /-- The message is an answer and not a question. -/
  response : Bool
  /-- The kind of question. -/
  opcode : Nat
  /-- The server has authority for the name. -/
  authoritative : Bool
  /-- The answer did not fit into one datagram. -/
  truncated : Bool
  /-- The server is asked to ask others. -/
  recursionDesired : Bool
  /-- The server offers recursion. -/
  recursionAvailable : Bool
  /-- The bit that is kept for later use. -/
  reserved : Bool
  /-- The server has checked the signatures. -/
  authenticData : Bool
  /-- The server is told not to check signatures. -/
  checkingDisabled : Bool
  /-- The response code. -/
  rcode : Nat
  deriving DecidableEq, Repr

/-- The header that a number and the two bytes of flags give. -/
def Header.ofFlags (id : UInt16) (high low : UInt8) : Header where
  id := id
  response := high.toNat / 128 = 1
  opcode := high.toNat / 8 % 16
  authoritative := high.toNat / 4 % 2 = 1
  truncated := high.toNat / 2 % 2 = 1
  recursionDesired := high.toNat % 2 = 1
  recursionAvailable := low.toNat / 128 = 1
  reserved := low.toNat / 64 % 2 = 1
  authenticData := low.toNat / 32 % 2 = 1
  checkingDisabled := low.toNat / 16 % 2 = 1
  rcode := low.toNat % 16

/-- A question in a message. -/
structure Entry where
  /-- The name that is asked about. -/
  name : LabelName
  /-- The number of the type. -/
  code : UInt16
  /-- The class. -/
  cls : UInt16
  deriving DecidableEq, Repr

/-- A record in a message, with its data as bytes. -/
structure Resource where
  /-- The owner. -/
  owner : LabelName
  /-- The number of the type. -/
  code : UInt16
  /-- The class, and in an OPT record the largest answer in one datagram. -/
  cls : UInt16
  /-- The time to live, and in an OPT record more flags. -/
  ttl : UInt32
  /-- The bytes of the data. -/
  rdata : List UInt8
  deriving DecidableEq, Repr

/-- A message by its sections. -/
structure Packet where
  /-- The header. -/
  header : Header
  /-- The questions. -/
  questions : List Entry
  /-- The answers. -/
  answers : List Resource
  /-- The records of the authority section. -/
  authority : List Resource
  /-- The records of the additional section. -/
  additional : List Resource
  deriving DecidableEq, Repr

open Reader

/-- Takes a question. -/
def entry : Reader Entry := do
  let name ← name
  let code ← u16
  let cls ← u16
  return ⟨name, code, cls⟩

/-- Takes a record. -/
def resource : Reader Resource := do
  let owner ← name
  let code ← u16
  let cls ← u16
  let ttl ← u32
  let length ← u16
  let rdata ← take length.toNat
  return ⟨owner, code, cls, ttl, rdata⟩

/-- Takes a message. -/
def packet : Reader Packet := do
  let id ← u16
  let high ← u8
  let low ← u8
  let questionCount ← u16
  let answerCount ← u16
  let authorityCount ← u16
  let additionalCount ← u16
  let questions ← times questionCount.toNat entry
  let answers ← times answerCount.toNat resource
  let authority ← times authorityCount.toNat resource
  let additional ← times additionalCount.toNat resource
  return ⟨.ofFlags id high low, questions, answers, authority, additional⟩

/-- A whole byte string as a message, with nothing left over. -/
def Packet.ofBytes? (bytes : List UInt8) : Option Packet :=
  (within bytes.length packet).run? bytes

private theorem Packet.ofBytes?_of_reads {bytes : List UInt8} {p : Packet}
    (h : packet.Reads bytes p) : ofBytes? bytes = some p := by
  have hread := h bytes 0 []
  rw [List.append_nil] at hread
  simp [ofBytes?, Reader.run?, within, hread]

/-- The bytes of a question. -/
def Entry.bytes (e : Entry) : List UInt8 :=
  LabelName.labelsToWire e.name.labels ++ (Bytes.of16 e.code ++ Bytes.of16 e.cls)

/-- The bytes of a record, none of whose names is compressed. -/
def Resource.bytes (r : Resource) : List UInt8 :=
  LabelName.labelsToWire r.owner.labels ++ (Bytes.of16 r.code ++ (Bytes.of16 r.cls ++
    (Bytes.of32 r.ttl ++ (Bytes.of16 (UInt16.ofNat r.rdata.length) ++ r.rdata))))

/-- An entry of the question section is read from its bytes. -/
theorem entry_reads {e : Entry} (h : IsCarried e.name) : entry.Reads e.bytes e :=
  .bind (name_reads h) (.bind (u16_reads _) (.andThen (u16_reads _) (.pure _)))

/-- A record whose data is not too long is read from its bytes. -/
theorem resource_reads {r : Resource} (h : IsCarried r.owner) (hlength : r.rdata.length < 65536) :
    resource.Reads r.bytes r := by
  have hrdata : (take (UInt16.ofNat r.rdata.length).toNat).Reads r.rdata r.rdata := by
    rw [UInt16.toNat_ofNat_of_lt' hlength]
    exact take_reads r.rdata
  exact .bind (name_reads h) (.bind (u16_reads _) (.bind (u16_reads _) (.bind (u32_reads _)
    (.bind (u16_reads _) (.andThen hrdata (.pure _))))))

/-- A section of a message with the number of its members. -/
theorem section_reads {α : Type} {r : Reader α} {bytes : α → List UInt8} {xs : List α}
    (h : ∀ x ∈ xs, r.Reads (bytes x) x) (hlength : xs.length < 65536) :
    (times (UInt16.ofNat xs.length).toNat r).Reads (xs.flatMap bytes) xs := by
  rw [UInt16.toNat_ofNat_of_lt' hlength]
  exact .times h

/-- What follows the number and the flags of a message. -/
def Packet.body (p : Packet) : List UInt8 :=
  Bytes.of16 (UInt16.ofNat p.questions.length) ++ (Bytes.of16 (UInt16.ofNat p.answers.length) ++
    (Bytes.of16 (UInt16.ofNat p.authority.length) ++
      (Bytes.of16 (UInt16.ofNat p.additional.length) ++
        (p.questions.flatMap Entry.bytes ++ (p.answers.flatMap Resource.bytes ++
          (p.authority.flatMap Resource.bytes ++ p.additional.flatMap Resource.bytes))))))

/-- The sections of a message have the form that the wire asks for. -/
structure Packet.IsCarried (p : Packet) : Prop where
  /-- The questions can be counted. -/
  few_questions : p.questions.length < 65536
  /-- The records of each section can be counted. -/
  few_records : ∀ records ∈ [p.answers, p.authority, p.additional], records.length < 65536
  /-- The wire takes the names that are asked about. -/
  question : ∀ e ∈ p.questions, Message.IsCarried e.name
  /-- The wire takes the owners and the lengths of all records. -/
  record : ∀ records ∈ [p.answers, p.authority, p.additional], ∀ r ∈ records,
    Message.IsCarried r.owner ∧ r.rdata.length < 65536

/-- A message is read off its bytes. -/
theorem packet_reads {p : Packet} {id : UInt16} {high low : UInt8} (h : p.IsCarried)
    (hheader : p.header = .ofFlags id high low) :
    packet.Reads (Bytes.of16 id ++ ([high] ++ ([low] ++ p.body))) p := by
  have hquestions := section_reads (fun e he => entry_reads (h.question e he)) h.few_questions
  have hrecords {records : List Resource}
      (hmem : records ∈ [p.answers, p.authority, p.additional]) :
      (times (UInt16.ofNat records.length).toNat resource).Reads (records.flatMap Resource.bytes)
        records :=
    section_reads (fun r hr => resource_reads (h.record records hmem r hr).1
      (h.record records hmem r hr).2) (h.few_records records hmem)
  have hend : (Pure.pure ⟨.ofFlags id high low, p.questions, p.answers, p.authority, p.additional⟩ :
      Reader Packet).Reads [] p := by
    rw [← hheader]
    exact .pure p
  exact .bind (u16_reads id) (.bind (u8_reads high) (.bind (u8_reads low) (.bind (u16_reads _)
    (.bind (u16_reads _) (.bind (u16_reads _) (.bind (u16_reads _) (.bind hquestions
      (.bind (hrecords (by simp)) (.bind (hrecords (by simp))
        (.andThen (hrecords (by simp)) hend))))))))))

end Message

namespace Question

open Message

/-- The OPT record of a question that asks for signatures: it belongs to the root, an answer in one
datagram may have 4096 bytes, and of the flags only the one that asks for signatures is set. -/
def opt : Resource := ⟨.root, 41, 4096, 0x8000, []⟩

/-- The message that asks a question about a name. -/
def packet (q : Question) (id : UInt16) (name : LabelName) : Packet where
  header :=
    { id
      response := false
      opcode := 0
      authoritative := false
      truncated := false
      recursionDesired := true
      recursionAvailable := false
      reserved := false
      authenticData := false
      checkingDisabled := !q.dnssec
      rcode := 0 }
  questions := [⟨name, q.recordType.code, 1⟩]
  answers := []
  authority := []
  additional := if q.dnssec then [opt] else []

private theorem body_packet (q : Question) (id : UInt16) (name : LabelName) :
    (q.packet id name).body = Bytes.of16 1 ++ (Bytes.of16 0 ++ (Bytes.of16 0 ++
      (Bytes.of16 (if q.dnssec then 1 else 0) ++ (LabelName.labelsToWire name.labels ++
        (Bytes.of16 q.recordType.code ++ (Bytes.of16 1 ++ q.additional)))))) := by
  simp only [packet, Packet.body, additional, List.flatMap_singleton, List.flatMap_nil,
    List.nil_append, Entry.bytes, List.append_assoc]
  cases q.dnssec <;> rfl

/-- A question is put on the wire exactly if the labels of its name are taken and the wire has room
for them. Then it is the message that asks about this name. -/
theorem toWire_eq_ok_iff {q : Question} {id : UInt16} {bytes : List UInt8} :
    q.toWire id = .ok bytes ↔
      ∃ name, LabelName.ofChars? LabelName.asciiLabel? q.name.toList = some name ∧
        LabelName.size name.labels ≤ 254 ∧
        bytes = Bytes.of16 id ++ (q.flags ++ (q.packet id name).body) := by
  unfold toWire
  cases hname : LabelName.ofChars? LabelName.asciiLabel? q.name.toList with
  | none => simp
  | some name =>
    have hlength := LabelName.length_labelsToWire name.labels
    have hbytes : Bytes.of16 id ++ q.flags ++ Bytes.of16 1 ++ Bytes.of16 0 ++ Bytes.of16 0 ++
          Bytes.of16 (if q.dnssec then 1 else 0) ++ LabelName.labelsToWire name.labels ++
          Bytes.of16 q.recordType.code ++ Bytes.of16 1 ++ q.additional =
        Bytes.of16 id ++ (q.flags ++ (q.packet id name).body) := by
      rw [body_packet]
      simp only [List.append_assoc]
    simp only [Option.some.injEq, exists_eq_left', LabelName.toWire?]
    by_cases hlong : 255 < (LabelName.labelsToWire name.labels).length
    · rw [if_pos hlong]
      exact ⟨fun h => (by cases h), fun h => (by omega)⟩
    · rw [if_neg hlong]
      change Except.ok _ = Except.ok bytes ↔ _
      rw [Except.ok.injEq, hbytes]
      exact ⟨fun h => ⟨by omega, h.symm⟩, fun h => h.2.symm⟩

/-- The two bytes of flags of a question give its header. -/
theorem exists_flags_eq (q : Question) (id : UInt16) (name : LabelName) :
    ∃ high low, q.flags = [high, low] ∧ (q.packet id name).header = .ofFlags id high low := by
  rw [flags, packet]
  cases q.dnssec with
  | true => exact ⟨0x01, 0x00, rfl, rfl⟩
  | false => exact ⟨0x01, 0x10, rfl, rfl⟩

private theorem isCarried_packet (q : Question) (id : UInt16) {name : LabelName}
    (h : Message.IsCarried name) : (q.packet id name).IsCarried := by
  have hroot : Message.IsCarried LabelName.root := ⟨⟨nofun, nofun, Nat.zero_le 254⟩, rfl⟩
  have hsection : ∀ records ∈ [[], [], (q.packet id name).additional], records.length < 65536 ∧
      ∀ r ∈ records, Message.IsCarried r.owner ∧ r.rdata.length < 65536 := by
    intro records hrecords
    have hcases : records = [] ∨ records = [opt] := by
      simp only [List.mem_cons, List.not_mem_nil, or_false, or_self_left, packet] at hrecords
      rcases hrecords with hnone | hadditional
      · exact .inl hnone
      · rw [hadditional]
        cases q.dnssec
        · exact .inl rfl
        · exact .inr rfl
    rcases hcases with rfl | rfl
    · exact ⟨by decide, nofun⟩
    · refine ⟨by decide, fun r hr => ?_⟩
      rw [List.mem_singleton.mp hr]
      exact ⟨hroot, by decide⟩
  exact
    { few_questions := show 1 < 65536 by decide
      few_records := fun records hrecords => (hsection records hrecords).1
      question := fun e he => List.mem_singleton.mp he ▸ h
      record := fun records hrecords => (hsection records hrecords).2 }

/-- A question without escapes is put on the wire exactly if its name has a wire form and is made of
labels that may be asked about. -/
theorem exists_toWire_iff {q : Question} (id : UInt16) (unescaped : '\\' ∉ q.name.toList) :
    (∃ bytes, q.toWire id = .ok bytes) ↔
      (∃ wire, Name.toWire q.name = .ok wire) ∧ LabelName.IsAsked q.name.toList := by
  rw [Name.toWire, ← LabelName.exists_ofChars?_iff unescaped]
  constructor
  · rintro ⟨bytes, hbytes⟩
    obtain ⟨name, hname, hsize, -⟩ := toWire_eq_ok_iff.mp hbytes
    exact ⟨name, hname, hsize⟩
  · rintro ⟨name, hname, hsize⟩
    exact ⟨_, toWire_eq_ok_iff.mpr ⟨name, hname, hsize, rfl⟩⟩

/-- The bytes of a question are one message with nothing left over, which asks about one name. In
small letters this name is on the wire what the text of the name is there. -/
theorem toWire_is_packet {q : Question} {id : UInt16} {bytes : List UInt8}
    (unescaped : '\\' ∉ q.name.toList) (built : q.toWire id = .ok bytes) :
    ∃ name : LabelName, Packet.ofBytes? bytes = some (q.packet id name) ∧
      Name.toWire q.name = .ok (LabelName.labelsToWire name.lower.labels) := by
  obtain ⟨found, hfound, hsize, rfl⟩ := toWire_eq_ok_iff.mp built
  obtain ⟨hlabels, hlengths⟩ := LabelName.wireLabels_of_ofChars? unescaped hfound
  have hvalid : LabelName.Valid found.labels :=
    ⟨fun l hl => (hlengths l hl).1, fun l hl => (hlengths l hl).2, hsize⟩
  -- On the wire every name ends at the root, whether its text does or not.
  let name : LabelName := { found with absolute := true }
  have hname : Message.IsCarried name := ⟨hvalid, rfl⟩
  obtain ⟨high, low, hflags, hheader⟩ := q.exists_flags_eq id name
  have hreads := packet_reads (q.isCarried_packet id hname) hheader
  refine ⟨name, Packet.ofBytes?_of_reads ?_, ?_⟩
  · rw [hflags]
    exact hreads
  · exact Name.encode_eq_ok_iff.mpr ⟨hlabels ▸ hvalid.lower, congrArg _ hlabels.symm⟩

/-- A question about keys with their signatures, whose name has a great letter and no point at its
end. -/
theorem toWire_is_packet_great_letter :
    let q : Question := ⟨"A.b", .dnskey, true⟩
    let bytes : List UInt8 := [0, 7, 1, 0, 0, 1, 0, 0, 0, 0, 0, 1, 1, 65, 1, 98, 0, 0, 48, 0, 1,
      0, 0, 41, 16, 0, 0, 0, 128, 0, 0, 0]
    q.toWire 7 = .ok bytes ∧
      ∃ name : LabelName, Packet.ofBytes? bytes = some (q.packet 7 name) ∧
        LabelName.labelsToWire name.lower.labels = [1, 97, 1, 98, 0] := by
  intro q bytes
  have hbuilt : q.toWire 7 = .ok bytes := by decide +kernel
  have hform : Name.toWire q.name = .ok [1, 97, 1, 98, 0] := by decide +kernel
  obtain ⟨name, hread, hwire⟩ := toWire_is_packet (by decide) hbuilt
  exact ⟨hbuilt, name, hread, Except.ok.inj (hwire.symm.trans hform)⟩

end Question

end DnsHealth
