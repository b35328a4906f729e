import DnsHealth.Proofs.Client.Process
import DnsHealth.Proofs.Scan.Collection

/-!
# The outcome of a probe

A probe asks all its questions, whatever is replied to the first of them, and its response is
decided by the replies: the records that they brought make it an answer, without any the first
failure counts that is no mere lack of data, and without such a failure there is no data. What one
reply adds is said once, and a probe is told by the replies that it got, in their order.
-/

namespace DnsHealth

/-- The questions of a probe. -/
def ScanRequest.questions (request : ScanRequest) : List Question :=
  if request.recordType = .a then [⟨request.qname, .a, true⟩, ⟨request.qname, .aaaa, true⟩]
  else [⟨request.qname, request.recordType, true⟩]

private theorem ScanRequest.questions_of_host {request : ScanRequest}
    (h : request.recordType = .a) :
    request.questions = [⟨request.qname, .a, true⟩, ⟨request.qname, .aaaa, true⟩] :=
  if_pos h

private theorem ScanRequest.questions_of_other {request : ScanRequest}
    (h : request.recordType ≠ .a) :
    request.questions = [⟨request.qname, request.recordType, true⟩] :=
  if_neg h

/-- A failure says that there is no data: in so many words, because the name does not exist, or as
the cause of a failure of a zone. -/
inductive Failure.SaysNoData : Failure → Prop where
  /-- The answer was empty. -/
  | noData (name recordType server : String) : SaysNoData (.noData name recordType server)
  /-- The name does not exist. -/
  | noName (name recordType server : String) :
      SaysNoData (.protocolError "NXDOMAIN" name recordType server)
  /-- The validation of a zone ended with such a failure. -/
  | inZone {source : Failure} (zone : String) (cause : SaysNoData source) :
      SaysNoData (.zoneQueryFailed zone source)

/-- The program knows these failures. -/
theorem Failure.isNoData_iff {f : Failure} : f.isNoData = true ↔ f.SaysNoData := by
  constructor
  · intro h
    induction f with
    | noData name recordType server => exact .noData name recordType server
    | protocolError rcode name recordType server =>
      obtain rfl : rcode = "NXDOMAIN" := eq_of_beq h
      exact .noName name recordType server
    | zoneQueryFailed zone source ih => exact .inZone zone (ih h)
    | _ => cases h
  · intro h
    induction h with
    | noData => rfl
    | noName => rfl
    | inZone zone _ ih => exact ih

instance (f : Failure) : Decidable f.SaysNoData := decidable_of_iff _ Failure.isNoData_iff

namespace Call

/-- A call puts a question to a server. -/
def Puts (server : Address) (q : Question) (call : Call) : Prop :=
  ∃ reply, call = .query q server reply

/-- The types of the records that a probe takes from the answer to a question: with the IPv4
addresses of a host come its aliases. -/
def wanted (type : RecordType) : List RecordType := if type = .a then [.a, .cname] else [type]

/-- The records that a call gives a probe. -/
def found : Call → List Record
  | .query q _ (.ok answer) => answer.answers.filter fun r => r.type ∈ wanted q.recordType
  | _ => []

/-- They are those of the types that the program picks. -/
theorem found_query_ok (q : Question) (server : Address) (answer : Answer) :
    found (.query q server (.ok answer)) =
      Record.ofTypes (wanted q.recordType) answer.answers := by
  simp only [found, Record.ofTypes, List.contains_eq_mem]

/-- The time of a call that counts for a probe: it gave records, or at least an answer about the
IPv4 addresses. -/
def time? : Call → Option Duration
  | .query q server (.ok answer) =>
    if q.recordType = .a ∨ found (.query q server (.ok answer)) ≠ [] then some answer.rtt else none
  | _ => none

/-- The failure of a call, if it is more than a lack of data. -/
def failure? : Call → Option Failure
  | .query _ _ (.error f) => if f.SaysNoData then none else some f
  | _ => none

end Call

/-- A time is the longest of a list, or zero if there is none. -/
def Duration.IsLongest (times : List Duration) (longest : Duration) : Prop :=
  (∀ t ∈ times, t.nanoseconds ≤ longest.nanoseconds) ∧
    (longest ∈ times ∨ times = [] ∧ longest = .zero)

instance (times : List Duration) (longest : Duration) :
    Decidable (Duration.IsLongest times longest) :=
  inferInstanceAs (Decidable (_ ∧ _))

/-- There is one longest time only. -/
theorem Duration.IsLongest.unique {times : List Duration} {d e : Duration}
    (hd : IsLongest times d) (he : IsLongest times e) : d = e := by
  obtain ⟨hd, hdmem | ⟨hnone, rfl⟩⟩ := hd
  · obtain ⟨he, hemem | ⟨rfl, -⟩⟩ := he
    · have hle := hd e hemem
      have hge := he d hdmem
      cases d
      cases e
      simp only at hle hge
      rw [Nat.le_antisymm hge hle]
    · cases hdmem
  · obtain ⟨-, hemem | ⟨-, rfl⟩⟩ := he
    · rw [hnone] at hemem
      cases hemem
    · rfl

/-- A further time makes the longer one the longest. -/
theorem Duration.IsLongest.append_singleton {times : List Duration} {longest : Duration}
    (h : IsLongest times longest) (t : Duration) : IsLongest (times ++ [t]) (longest.max t) := by
  obtain ⟨hbound, hmem⟩ := h
  refine ⟨fun s hs => ?_, .inl ?_⟩
  · rcases List.mem_append.mp hs with hs | hs
    · exact Nat.le_trans (hbound s hs) (Nat.le_max_left ..)
    · obtain rfl := List.mem_singleton.mp hs
      exact Nat.le_max_right ..
  · by_cases hle : t.nanoseconds ≤ longest.nanoseconds
    · have hmax : longest.max t = longest := congrArg Duration.mk (Nat.max_eq_left hle)
      rw [hmax]
      rcases hmem with hmem | ⟨rfl, rfl⟩
      · exact List.mem_append_left _ hmem
      · have hzero : t = .zero := congrArg Duration.mk (Nat.le_zero.mp hle)
        rw [hzero]
        exact List.mem_singleton_self _
    · have hmax : longest.max t = t :=
        congrArg Duration.mk (Nat.max_eq_right (Nat.le_of_not_le hle))
      rw [hmax]
      exact List.mem_append_right _ (List.mem_singleton_self t)

namespace ProbeProgress

/-- A probe is where the replies of its calls have brought it. -/
structure Tells (p : ProbeProgress) (calls : List Call) : Prop where
  /-- It has the records that were found. -/
  records : p.records = calls.flatMap Call.found
  /-- It remembers the first failure. -/
  failure : p.failure = (calls.findSome? Call.failure?).map Failure.message
  /-- It has the longest time. -/
  rtt : Duration.IsLongest (calls.filterMap Call.time?) p.rtt

private theorem tells_start : start.Tells [] := ⟨rfl, rfl, nofun, .inr ⟨rfl, rfl⟩⟩

variable {p : ProbeProgress} {calls : List Call} {q : Question} {server : Address}

/-- A call that brings records, or counts without. -/
theorem Tells.add_ok {call : Call} {set : RecordSet} (h : p.Tells calls)
    (hfound : call.found = set.records) (htime : call.time? = some set.rtt)
    (hfailure : call.failure? = none) : (p.add (.ok set)).Tells (calls ++ [call]) where
  records := by
    rw [List.flatMap_append, List.flatMap_singleton, hfound, ← h.records]
    rfl
  failure := by
    rw [List.findSome?_append, List.findSome?_singleton, hfailure, Option.or_none, ← h.failure]
    rfl
  rtt := by
    rw [List.filterMap_append, List.filterMap_cons_some htime]
    exact h.rtt.append_singleton set.rtt

/-- A call that brings nothing. -/
theorem Tells.add_error {call : Call} {f : Failure} (h : p.Tells calls) (hfound : call.found = [])
    (htime : call.time? = none) (hfailure : call.failure? = if f.SaysNoData then none else some f) :
    (p.add (.error f)).Tells (calls ++ [call]) := by
  have hrecords : (p.add (.error f)).records = p.records := by
    rw [add]
    split <;> rfl
  have hrtt : (p.add (.error f)).rtt = p.rtt := by
    rw [add]
    split <;> rfl
  refine ⟨?_, ?_, ?_⟩
  · rw [hrecords, List.flatMap_append, List.flatMap_singleton, hfound, List.append_nil, h.records]
  · rw [List.findSome?_append, List.findSome?_singleton, hfailure, Option.map_or, ← h.failure, add]
    by_cases hdata : f.SaysNoData
    · simp [hdata, Failure.isNoData_iff.mpr hdata]
    · simp [hdata, Bool.eq_false_iff.mpr (Failure.isNoData_iff.not.mpr hdata)]
  · rw [hrtt, List.filterMap_append, List.filterMap_cons_none htime, List.filterMap_nil,
      List.append_nil]
    exact h.rtt

/-- The reply to the question for IPv4 addresses. -/
theorem Tells.add_hosts (h : p.Tells calls) (hq : q.recordType = .a)
    (reply : Except Failure Answer) :
    (p.add (reply.map Answer.hostRecords)).Tells (calls ++ [.query q server reply]) := by
  cases reply with
  | ok answer =>
    refine h.add_ok ?_ ?_ rfl
    · rw [Call.found_query_ok, Call.wanted, if_pos hq]
      rfl
    · exact if_pos (.inl hq)
  | error f => exact h.add_error rfl rfl rfl

/-- The reply to any other question. -/
theorem Tells.add_recordSet (h : p.Tells calls) (hq : q.recordType ≠ .a)
    (reply : Except Failure Answer) :
    (p.add (reply >>= Answer.recordSet q server)).Tells (calls ++ [.query q server reply]) := by
  cases reply with
  | error f => exact h.add_error rfl rfl rfl
  | ok answer =>
    have hfound : Call.found (.query q server (.ok answer)) =
        Record.ofTypes [q.recordType] answer.answers := by
      rw [Call.found_query_ok, Call.wanted, if_neg hq]
    by_cases hnone : Record.ofTypes [q.recordType] answer.answers = []
    · have htime : Call.time? (.query q server (.ok answer)) = none := by
        rw [Call.time?, hfound]
        exact if_neg (by simp [hq, hnone])
      rw [Answer.recordSet_of_none q server hnone]
      exact h.add_error (hfound.trans hnone) htime rfl
    · have htime : Call.time? (.query q server (.ok answer)) = some answer.rtt := by
        rw [Call.time?, hfound]
        exact if_pos (.inr hnone)
      rw [Answer.recordSet_of_some q server hnone]
      exact h.add_ok hfound htime rfl

end ProbeProgress

/-- The response to a probe is what the replies to its calls make of it. -/
structure ScanResponse.Sums (response : ScanResponse) (request : ScanRequest) (server : Address)
    (calls : List Call) : Prop where
  /-- It is the response to the request. -/
  request_eq : response.request = request
  /-- It is the response of the server. -/
  server_eq : response.server = server
  /-- Its records are those that were found, in their order. -/
  records_eq : response.records = calls.flatMap Call.found
  /-- It is an answer exactly if there are records. -/
  answered_iff : response.status = .answered ↔ response.records ≠ []
  /-- It is a failure exactly if there are none and a call failed, and the reason is the text of the
  first failure that is more than a lack of data. -/
  failed_iff : ∀ reason, response.status = .failed reason ↔
    response.records = [] ∧ ∃ f, calls.findSome? Call.failure? = some f ∧ f.message = reason
  /-- Otherwise there is no data. -/
  noData_iff : response.status = .noData ↔
    response.records = [] ∧ ∀ call ∈ calls, call.failure? = none
  /-- Its time is the longest that counts. -/
  rtt_longest : Duration.IsLongest (calls.filterMap Call.time?) response.rtt

namespace ScanResponse

variable {request : ScanRequest} {server : Address} {calls : List Call}

/-- Replies make one response only. -/
theorem Sums.unique {r s : ScanResponse} (hr : r.Sums request server calls)
    (hs : s.Sums request server calls) : r = s := by
  have hrecords : r.records = s.records := hr.records_eq.trans hs.records_eq.symm
  have hstatus : r.status = s.status := by
    cases h : r.status with
    | answered => exact (hs.answered_iff.mpr (hrecords ▸ hr.answered_iff.mp h)).symm
    | noData => exact (hs.noData_iff.mpr (hrecords ▸ hr.noData_iff.mp h)).symm
    | failed reason =>
      exact ((hs.failed_iff reason).mpr (hrecords ▸ (hr.failed_iff reason).mp h)).symm
  have hrtt := hr.rtt_longest.unique hs.rtt_longest
  cases r
  cases s
  simp only [ScanResponse.mk.injEq]
  exact ⟨hr.request_eq.trans hs.request_eq.symm, hrecords, hr.server_eq.trans hs.server_eq.symm,
    hrtt, hstatus⟩

/-- The response of a probe that has asked all its questions. -/
theorem sums_response {p : ProbeProgress} (h : p.Tells calls) :
    (request.response server p).Sums request server calls where
  request_eq := rfl
  server_eq := rfl
  records_eq := h.records
  answered_iff := p.status_eq_answered_iff
  failed_iff reason := by
    change p.status = .failed reason ↔ p.records = [] ∧ _
    rw [p.status_eq_failed_iff, h.failure, Option.map_eq_some_iff]
  noData_iff := by
    change p.status = .noData ↔ p.records = [] ∧ _
    rw [p.status_eq_noData_iff, h.failure, Option.map_eq_none_iff, List.findSome?_eq_none_iff]
  rtt_longest := h.rtt

end ScanResponse

namespace Process

variable {server : Address} {request : ScanRequest} {calls : List Call} {response : ScanResponse}

/-- What happens in a probe of a host. -/
theorem run_probe_host_iff (htype : request.recordType = .a) :
    (client.probe server request).Run calls response ↔
      ∃ v4 v6, calls = [.query ⟨request.qname, .a, true⟩ server v4,
          .query ⟨request.qname, .aaaa, true⟩ server v6] ∧
        response = request.response server
          ((ProbeProgress.start.add (v4.map Answer.hostRecords)).add
            (v6 >>= Answer.recordSet ⟨request.qname, .aaaa, true⟩ server)) := by
  rw [Client.probe, if_pos htype, run_bind_iff]
  simp only [run_query_iff, run_bind_iff, run_recordSet_iff, run_pure_iff]
  constructor
  · rintro ⟨_, _, v4, rfl, ⟨_, _, _, ⟨v6, rfl, rfl⟩, ⟨rfl, rfl⟩, rfl⟩, rfl⟩
    exact ⟨v4, v6, rfl, rfl⟩
  · rintro ⟨v4, v6, rfl, rfl⟩
    exact ⟨_, _, v4, rfl, ⟨_, _, _, ⟨v6, rfl, rfl⟩, ⟨rfl, rfl⟩, rfl⟩, rfl⟩

/-- What happens in any other probe. -/
theorem run_probe_other_iff (htype : request.recordType ≠ .a) :
    (client.probe server request).Run calls response ↔
      ∃ reply, calls = [.query ⟨request.qname, request.recordType, true⟩ server reply] ∧
        response = request.response server (ProbeProgress.start.add
          (reply >>= Answer.recordSet ⟨request.qname, request.recordType, true⟩ server)) := by
  rw [Client.probe, if_neg htype, run_bind_iff]
  simp only [run_recordSet_iff, run_pure_iff]
  constructor
  · rintro ⟨_, _, _, ⟨reply, rfl, rfl⟩, ⟨rfl, rfl⟩, rfl⟩
    exact ⟨reply, rfl, rfl⟩
  · rintro ⟨reply, rfl, rfl⟩
    exact ⟨_, _, _, ⟨reply, rfl, rfl⟩, ⟨rfl, rfl⟩, rfl⟩

/-- A probe puts all its questions, in their order, and no other, and the replies make its
response. -/
theorem sums_of_run_probe (h : (client.probe server request).Run calls response) :
    List.Forall₂ (Call.Puts server) request.questions calls ∧
      response.Sums request server calls := by
  by_cases htype : request.recordType = .a
  · obtain ⟨v4, v6, rfl, rfl⟩ := (run_probe_host_iff htype).mp h
    have hsecond : RecordType.aaaa ≠ .a := by decide
    rw [ScanRequest.questions_of_host htype]
    refine ⟨.cons ⟨v4, rfl⟩ (.cons ⟨v6, rfl⟩ .nil), ScanResponse.sums_response ?_⟩
    exact (ProbeProgress.tells_start.add_hosts rfl v4).add_recordSet hsecond v6
  · obtain ⟨reply, rfl, rfl⟩ := (run_probe_other_iff htype).mp h
    rw [ScanRequest.questions_of_other htype]
    refine ⟨.cons ⟨reply, rfl⟩ .nil, ScanResponse.sums_response ?_⟩
    exact ProbeProgress.tells_start.add_recordSet htype reply

/-- Whatever is replied to its questions, a probe comes to a response. -/
theorem exists_run_probe (h : List.Forall₂ (Call.Puts server) request.questions calls) :
    ∃ response, (client.probe server request).Run calls response := by
  by_cases htype : request.recordType = .a
  · rw [ScanRequest.questions_of_host htype] at h
    obtain ⟨_, _, ⟨v4, rfl⟩, hrest, rfl⟩ := List.forall₂_cons_left_iff.mp h
    obtain ⟨_, _, ⟨v6, rfl⟩, hnil, rfl⟩ := List.forall₂_cons_left_iff.mp hrest
    obtain rfl := List.forall₂_nil_left_iff.mp hnil
    exact ⟨_, (run_probe_host_iff htype).mpr ⟨v4, v6, rfl, rfl⟩⟩
  · rw [ScanRequest.questions_of_other htype] at h
    obtain ⟨_, _, ⟨reply, rfl⟩, hnil, rfl⟩ := List.forall₂_cons_left_iff.mp h
    obtain rfl := List.forall₂_nil_left_iff.mp hnil
    exact ⟨_, (run_probe_other_iff htype).mpr ⟨reply, rfl, rfl⟩⟩

/-- A probe puts each of its questions to its server once, whatever is replied to the one before,
and it always comes to a response; the response is the one that the replies make, and no other. -/
theorem probe_outcome (server : Address) (request : ScanRequest) (calls : List Call) :
    (∀ response, (client.probe server request).Run calls response ↔
      List.Forall₂ (Call.Puts server) request.questions calls ∧
        response.Sums request server calls) ∧
    (List.Forall₂ (Call.Puts server) request.questions calls →
      ∃ response, (client.probe server request).Run calls response) := by
  refine ⟨fun response => ⟨sums_of_run_probe, ?_⟩, exists_run_probe⟩
  rintro ⟨hputs, hsums⟩
  obtain ⟨other, hrun⟩ := exists_run_probe hputs
  rwa [hsums.unique (sums_of_run_probe hrun).2]

/-- A host whose IPv4 address is not to be had: with an IPv6 address the probe is answered all the
same; if there is none, it fails for the reason that came first, and not for the lack of data. -/
theorem probe_outcome_second_family :
    let server : Address := .v4 ⟨192, 0, 2, 53⟩
    let request : ScanRequest := .below .a "www" "a"
    let record : Record := ⟨"www.a.", 60, .aaaa ⟨#v[0x2001, 0xDB8, 0, 0, 0, 0, 0, 1]⟩⟩
    let calls (v6 : Except Failure Answer) : List Call :=
      [.query ⟨"www.a.", .a, true⟩ server (.error (.timeout "192.0.2.53")),
        .query ⟨"www.a.", .aaaa, true⟩ server v6]
    let noName : Failure := .protocolError "NXDOMAIN" "www.a." "AAAA" "192.0.2.53"
    (∃ response, (client.probe server request).Run
        (calls (.ok ⟨[record], [], true, false, server, ⟨7⟩⟩)) response ∧
      response.records = [record] ∧ response.status = .answered ∧ response.rtt = ⟨7⟩) ∧
    ∃ response, (client.probe server request).Run
        (calls (.error (.zoneQueryFailed "a." noName))) response ∧
      response.records = [] ∧
      response.status = .failed "Query timeout waiting for 192.0.2.53" ∧
      response.rtt = .zero := by
  intro server request record calls noName
  have hputs (v6 : Except Failure Answer) :
      List.Forall₂ (Call.Puts server) request.questions (calls v6) :=
    .cons ⟨_, rfl⟩ (.cons ⟨v6, rfl⟩ .nil)
  constructor
  · obtain ⟨response, hrun⟩ := (probe_outcome server request _).2 (hputs (.ok _))
    obtain ⟨-, hsums⟩ := ((probe_outcome server request _).1 response).mp hrun
    refine ⟨response, hrun, hsums.records_eq, hsums.answered_iff.mpr ?_,
      hsums.rtt_longest.unique (by decide +kernel)⟩
    rw [hsums.records_eq]
    exact List.cons_ne_nil record []
  · obtain ⟨response, hrun⟩ := (probe_outcome server request _).2 (hputs (.error _))
    obtain ⟨-, hsums⟩ := ((probe_outcome server request _).1 response).mp hrun
    refine ⟨response, hrun, hsums.records_eq, (hsums.failed_iff _).mpr ⟨hsums.records_eq, ?_⟩,
      hsums.rtt_longest.unique (by decide +kernel)⟩
    exact ⟨.timeout "192.0.2.53", rfl, rfl⟩

end Process

end DnsHealth
