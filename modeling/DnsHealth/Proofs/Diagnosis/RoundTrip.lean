import DnsHealth.Nameserver.Basic
import DnsHealth.Proofs.Record.Json
import DnsHealth.Scan.Report

/-!
# Reports read back from JSON

A duration is written in whole milliseconds, and what is left of one is lost. Everything else in the
report of a scan and in the status of a nameserver is kept. So a report reads back with its
durations rounded down, is then written as before, and reads back as it was if its durations were
whole milliseconds.
-/

namespace DnsHealth

namespace Duration

variable {d : Duration}

/-- The milliseconds fit a counter of sixty-four bits. -/
def Fits (d : Duration) : Prop := d.nanoseconds < 18446744073709551616 * 1000000

/-- The duration is a number of whole milliseconds. -/
def Whole (d : Duration) : Prop := ∃ n, d = ofMillis n

/-- The duration rounded down to whole milliseconds. -/
def rounded (d : Duration) : Duration := ofMillis (d.nanoseconds / 1000000)

/-- Whole milliseconds are kept. -/
theorem Whole.rounded_eq (h : d.Whole) : d.rounded = d := by
  obtain ⟨n, rfl⟩ := h
  simp only [rounded, ofMillis, Nat.mul_div_cancel n (show 0 < 1000000 by decide)]

/-- Rounding keeps the milliseconds. -/
@[simp] theorem millis_rounded (d : Duration) : d.rounded.millis = d.millis := by
  rw [millis, rounded, ofMillis, Nat.mul_div_cancel _ (by decide), millis]

@[simp] theorem toJson_rounded (d : Duration) : d.rounded.toJson = d.toJson := by
  rw [toJson, millis_rounded, toJson]

/-- A duration reads back rounded down. -/
theorem ofJson?_toJson (h : d.Fits) : ofJson? d.toJson = some d.rounded := by
  have hlimit : d.nanoseconds / 1000000 < 18446744073709551616 := by
    unfold Fits at h
    omega
  rw [toJson, ofJson?, millis, Nat.mod_eq_of_lt hlimit, Json.uint64?_nat hlimit, Option.map_some,
    rounded]

end Duration

/-- The request of a probe reads back. -/
@[simp] theorem ScanRequest.ofJson?_toJson (r : ScanRequest) : ofJson? r.toJson = some r := by
  simp [toJson, ofJson?]

/-- The status of a probe reads back. -/
@[simp] theorem ProbeStatus.ofJson?_toJson (s : ProbeStatus) : ofJson? s.toJson = some s := by
  cases s <;> simp [toJson, ofJson?, Json.tagged?, Json.tag?]

/-- The method of a scan reads back. -/
@[simp] theorem ScanMethod.ofJson?_toJson (m : ScanMethod) : ofJson? m.toJson = some m := by
  cases m <;> simp [toJson, ofJson?]

namespace ScanResponse

variable {r : ScanResponse}

/-- The response with its duration rounded down to whole milliseconds. -/
def rounded (r : ScanResponse) : ScanResponse := { r with rtt := r.rtt.rounded }

/-- The response of a probe is written as if it had been rounded first. -/
@[simp] theorem toJson_rounded (r : ScanResponse) : r.rounded.toJson = r.toJson := by
  simp only [toJson, rounded, Duration.toJson_rounded]

/-- A response reads back with its duration rounded down. -/
theorem ofJson?_toJson (h : r.rtt.Fits) : ofJson? r.toJson = some r.rounded := by
  have hrecords := Json.list?_list_self Record.ofJson?_toJson r.records
  simp [toJson, ofJson?, hrecords, Duration.ofJson?_toJson h, rounded]

end ScanResponse

namespace ScanReport

variable {r : ScanReport}

/-- The durations and the counters of a report fit counters of sixty-four bits. -/
structure Fits (r : ScanReport) : Prop where
  /-- The duration of the scan fits. -/
  elapsed : r.elapsed.Fits
  /-- The durations of the answers fit. -/
  rtts : ∀ response ∈ r.responses, response.rtt.Fits
  /-- The number of planned probes fits. -/
  sent : r.probesSent < 18446744073709551616
  /-- The number of probes that came to an end fits. -/
  received : r.probesReceived < 18446744073709551616
  /-- The number of probes that could not be answered fits. -/
  failed : r.probesFailed < 18446744073709551616

/-- The durations of a report are whole milliseconds. -/
def Whole (r : ScanReport) : Prop :=
  r.elapsed.Whole ∧ ∀ response ∈ r.responses, response.rtt.Whole

/-- The report with its durations rounded down to whole milliseconds. -/
def rounded (r : ScanReport) : ScanReport :=
  { r with responses := r.responses.map ScanResponse.rounded, elapsed := r.elapsed.rounded }

/-- A report in whole milliseconds is kept. -/
theorem Whole.rounded_eq (h : r.Whole) : r.rounded = r := by
  have hresponse : ∀ response ∈ r.responses, response.rounded = response := by
    intro response hmem
    rw [ScanResponse.rounded, (h.2 response hmem).rounded_eq]
  rw [rounded, List.map_congr_left hresponse, List.map_id', h.1.rounded_eq]

/-- The report of a scan is written as if it had been rounded first. -/
theorem toJson_rounded (r : ScanReport) : r.rounded.toJson = r.toJson := by
  simp [toJson, rounded, Json.list]

/-- A report reads back with its durations rounded down. -/
theorem ofJson?_toJson (h : r.Fits) : ofJson? r.toJson = some r.rounded := by
  have hresponses := Json.list?_list fun response hmem =>
    ScanResponse.ofJson?_toJson (h.rtts response hmem)
  have hrecords := Json.list?_list_self Record.ofJson?_toJson r.wildcardRecords
  simp [toJson, ofJson?, hresponses, hrecords, Json.uint64?_nat, h.sent, h.received, h.failed,
    Duration.ofJson?_toJson h.elapsed, rounded]

end ScanReport

namespace ValidityWindow

variable {w : ValidityWindow}

/-- The ends of a window fit signed counters of sixty-four bits. -/
structure Fits (w : ValidityWindow) : Prop where
  /-- The first second fits. -/
  start : -9223372036854775808 ≤ w.start ∧ w.start < 9223372036854775808
  /-- The last second fits. -/
  stop : -9223372036854775808 ≤ w.stop ∧ w.stop < 9223372036854775808

/-- A window reads back if its ends fit. -/
theorem ofJson?_toJson (h : w.Fits) : ofJson? w.toJson = some w := by
  simp [toJson, ofJson?, Json.int64?_int h.start, Json.int64?_int h.stop]

end ValidityWindow

/-- The state of signatures reads back if the ends of its window fit. -/
theorem SignatureStatus.ofJson?_toJson {s : SignatureStatus} (h : ∀ w ∈ s.window, w.Fits) :
    ofJson? s.toJson = some s := by
  have hne (w : ValidityWindow) : w.toJson ≠ .null := nofun
  have hwindow := Json.nullable_option_self hne fun w hw => ValidityWindow.ofJson?_toJson (h w hw)
  simp [toJson, ofJson?, hwindow]

namespace NameserverStatus

variable {s : NameserverStatus}

/-- The duration of a status and the ends of its window fit counters of sixty-four bits. -/
structure Fits (s : NameserverStatus) : Prop where
  /-- The duration of the answer fits, if there is one. -/
  rtt : ∀ d ∈ s.rtt, d.Fits
  /-- The ends of the window fit, if there is one. -/
  window : ∀ w ∈ s.signatures.window, w.Fits

/-- The duration of a status is whole milliseconds, if there is one. -/
def Whole (s : NameserverStatus) : Prop := ∀ d ∈ s.rtt, d.Whole

/-- The status with its duration rounded down to whole milliseconds. -/
def rounded (s : NameserverStatus) : NameserverStatus :=
  { s with rtt := s.rtt.map Duration.rounded }

/-- The status of a nameserver in whole milliseconds is kept. -/
theorem Whole.rounded_eq (h : s.Whole) : s.rounded = s := by
  have hrtt : s.rtt.map Duration.rounded = s.rtt := by
    rw [Option.map_congr fun d hd => (h d hd).rounded_eq, Option.map_id']
  rw [rounded, hrtt]

/-- The status of a nameserver is written as if it had been rounded first. -/
theorem toJson_rounded (s : NameserverStatus) : s.rounded.toJson = s.toJson := by
  cases hrtt : s.rtt <;> simp [toJson, rounded, hrtt, Json.option]

/-- A status reads back with its duration rounded down. -/
theorem ofJson?_toJson (h : s.Fits) : ofJson? s.toJson = some s.rounded := by
  have hduration (d : Duration) : d.toJson ≠ .null := nofun
  have hnumber (n : UInt32) : Json.nat n.toNat ≠ .null := nofun
  have htext (text : String) : Json.str text ≠ .null := nofun
  have hrtt := Json.nullable_option hduration fun d hd => Duration.ofJson?_toJson (h.rtt d hd)
  have hserial := Json.nullable_option_self hnumber fun n (_ : n ∈ s.serial) => Json.uint32?_nat n
  have herror := Json.nullable_option_self htext fun text (_ : text ∈ s.error) =>
    Json.str?_str text
  simp [toJson, ofJson?, hrtt, hserial, herror, SignatureStatus.ofJson?_toJson h.window, rounded]

end NameserverStatus

/-- The report of a scan and the status of a nameserver read back from their JSON, whatever kinds of
records, methods and outcomes they hold and whether their optional parts are there or not, as long
as durations, counters and the ends of a window fit counters of sixty-four bits. Durations read back
rounded down to whole milliseconds, and what was read back is written as before; if the durations
were whole milliseconds, the same value is read back. -/
theorem reports_read_back :
    (∀ r : ScanReport, r.Fits →
      ScanReport.ofJson? r.toJson = some r.rounded ∧ r.rounded.toJson = r.toJson ∧
      (r.Whole → ScanReport.ofJson? r.toJson = some r)) ∧
    ∀ s : NameserverStatus, s.Fits →
      NameserverStatus.ofJson? s.toJson = some s.rounded ∧ s.rounded.toJson = s.toJson ∧
      (s.Whole → NameserverStatus.ofJson? s.toJson = some s) := by
  constructor
  · intro r h
    refine ⟨r.ofJson?_toJson h, r.toJson_rounded, fun hwhole => ?_⟩
    rw [r.ofJson?_toJson h, hwhole.rounded_eq]
  · intro s h
    refine ⟨s.ofJson?_toJson h, s.toJson_rounded, fun hwhole => ?_⟩
    rw [s.ofJson?_toJson h, hwhole.rounded_eq]

/-- A sweep with all kinds of records and all outcomes, whose answers took one nanosecond less than
two milliseconds; a transfer that took whole milliseconds; and a status without a duration and a
version, but with a window that begins before the epoch. -/
theorem reports_read_back_all_kinds :
    let server : Address := .v4 ⟨192, 0, 2, 53⟩
    let data : List RecordData := [.a ⟨192, 0, 2, 1⟩, .aaaa ⟨#v[0x2001, 0xdb8, 0, 0, 0, 0, 0, 1]⟩,
      .ns "ns.a.", .cname "b.a.", .mx 10 "mx.a.", .soa ⟨"ns.a.", "root.a.", 7, 6, 5, 4, 3⟩,
      .txt ["x", ""], .srv 0 1 53 "b.a.", .caa 0 "issue" [0x61, 0xFF], .dnskey ⟨257, 3, 13, [1]⟩,
      .ds ⟨7, 13, 2, [1, 2]⟩, .rrsig ⟨.a, 13, 1, 60, 20, 10, 7, "a.", [5]⟩]
    let records : List Record := data.map fun d => ⟨"a.", 60, d⟩
    let answer (status : ProbeStatus) : ScanResponse :=
      ⟨⟨.a, "www", "a."⟩, records, server, ⟨1999999⟩, status⟩
    let sweep : ScanReport := ⟨"a.", .bruteForce, [answer .answered, answer .noData,
      answer (.failed "timeout")], records, 3, 2, 1, ⟨5000001⟩⟩
    let transfer : ScanReport := ⟨"a.", .zoneTransfer server, [], [], 1, 1, 0, ⟨5000000⟩⟩
    let status : NameserverStatus :=
      ⟨"ns.a.", server, none, none, true, false, ⟨true, false, some ⟨-1, 60⟩⟩, some "late"⟩
    sweep.Fits ∧ ScanReport.ofJson? sweep.toJson = some sweep.rounded ∧
      sweep.rounded.elapsed = .ofMillis 5 ∧
      sweep.rounded.responses.map (·.rtt) = [.ofMillis 1, .ofMillis 1, .ofMillis 1] ∧
      sweep.rounded.toJson = sweep.toJson ∧
      transfer.Fits ∧ transfer.Whole ∧ ScanReport.ofJson? transfer.toJson = some transfer ∧
      status.Fits ∧ status.Whole ∧ NameserverStatus.ofJson? status.toJson = some status := by
  intro server data records answer sweep transfer status
  have hsweep : sweep.Fits := by
    refine ⟨by unfold Duration.Fits; decide, ?_, by decide, by decide, by decide⟩
    intro response hresponse
    simp only [sweep, List.mem_cons, List.not_mem_nil, or_false] at hresponse
    rcases hresponse with rfl | rfl | rfl <;> (unfold Duration.Fits; decide)
  have htransfer : transfer.Fits := by
    refine ⟨by unfold Duration.Fits; decide, ?_, by decide, by decide, by decide⟩
    exact List.forall_mem_nil _
  have hwhole : transfer.Whole := ⟨⟨5, rfl⟩, List.forall_mem_nil _⟩
  have hstatus : status.Fits := by
    refine ⟨nofun, ?_⟩
    rintro w ⟨⟩
    exact ⟨by decide, by decide⟩
  have hnone : status.Whole := nofun
  obtain ⟨hreports, hstatuses⟩ := reports_read_back
  obtain ⟨hread, hagain, -⟩ := hreports sweep hsweep
  obtain ⟨-, -, htransferRead⟩ := hreports transfer htransfer
  obtain ⟨-, -, hstatusRead⟩ := hstatuses status hstatus
  have helapsed : sweep.rounded.elapsed = .ofMillis 5 := by decide
  have hrtts : sweep.rounded.responses.map (·.rtt) = [.ofMillis 1, .ofMillis 1, .ofMillis 1] := by
    decide
  exact ⟨hsweep, hread, helapsed, hrtts, hagain, htransfer, hwhole, htransferRead hwhole, hstatus,
    hnone, hstatusRead hnone⟩

end DnsHealth
