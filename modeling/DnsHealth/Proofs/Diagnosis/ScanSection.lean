import DnsHealth.Diagnosis.Text
import DnsHealth.Proofs.Record.Line
import DnsHealth.Proofs.Sorting
import DnsHealth.Proofs.Text.Splitting
import DnsHealth.Scan.Run
import Mathlib.Data.String.Basic

/-!
# The section of a scan

The text of a diagnosis ends in the section of its scan: a line about the method, perhaps one about
the time, the records of the wildcard, and each different line of a record once. Everything but the
records is put together from numbers and addresses, so the section falls into the lines that were
meant if and only if no line of a record has a line feed inside. For records that came in messages
this is up to the signers of signatures and the tags of CAA records alone.
-/

namespace DnsHealth

open Text

/-- A line feed stands in the line of a received record just when it stands in a text that nothing
has escaped. -/
theorem Message.newline_mem_line_iff {w : WireRecord} {r : Record}
    (h : w.convert = .ok (some r)) :
    '\n' ∈ r.line.toList ↔ ∃ text ∈ r.data.rawTexts, '\n' ∈ text.toList := by
  have hfeed : isControl '\n' = true := rfl
  rw [← mem_controls_iff hfeed, controls_line_of_convert h, List.mem_append, List.mem_flatMap]
  simp only [mem_controls_iff hfeed]
  simp [Record.tabs]

/-- The lines of a report increase strictly, so that none is there twice. -/
theorem ScanReport.nodup_sortedLines (r : ScanReport) : r.sortedLines.Nodup :=
  (pairwise_lt_sortedSet _).imp fun h => ne_of_lt h

/-- The lines of a report are those of its records. -/
theorem ScanReport.mem_sortedLines {r : ScanReport} {line : String} :
    line ∈ r.sortedLines ↔ ∃ record ∈ r.records, record.line = line := by
  rw [sortedLines, mem_sortedSet, List.mem_map]

namespace Diagnosis

variable {d : Diagnosis} {r : ScanReport}

/-- The section of a scan. -/
def scanText (r : ScanReport) (estimate : Option Nat) : String :=
  String.join ((scanLines r estimate).map (· ++ "\n"))

/-- The section of the scan is the end of the text, behind an empty line. -/
theorem exists_text_eq_append (h : d.scan = some r) :
    ∃ before, d.text = before ++ "\n" ++ scanText r d.scanEstimate := by
  obtain ⟨front, hlines⟩ : ∃ front, d.lines = front ++ "" :: scanLines r d.scanEstimate :=
    ⟨_, by rw [lines, h]⟩
  refine ⟨String.join (front.map (· ++ "\n")), ?_⟩
  rw [text, hlines, List.map_append, String.join_append, List.map_cons, String.join_cons, scanText,
    String.empty_append, String.append_assoc]

private theorem toList_scanText (r : ScanReport) (estimate : Option Nat) :
    (scanText r estimate).toList =
      ((scanLines r estimate).map String.toList).flatMap (· ++ ['\n']) := by
  simp [scanText, String.toList_join, List.flatMap_map]

private theorem controls_methodLine (r : ScanReport) : controls (methodLine r).toList = [] := by
  unfold methodLine
  split
  · next server _ =>
    rw [String.toList_append, controls_append, server.controls_text]
    rfl
  · simp only [String.toList_append, controls_append, controls_decimal]
    rfl

private theorem controls_secondsText (x : Number.Binary64) :
    controls (Duration.secondsText x).toList = [] := by
  simp only [Duration.secondsText, String.toList_append, controls_append, controls_decimal]
  rfl

private theorem controls_timeLine (estimate : Nat) (elapsed : Duration) :
    controls (timeLine estimate elapsed).toList = [] := by
  unfold timeLine
  -- What the numbers are does not matter, and unfolding their arithmetic would take too long.
  generalize (Number.Binary64.ofNat estimate).div (Number.Binary64.ofNat 1000) = planned
  generalize elapsed.seconds = taken
  rw [String.toList_append, String.toList_append, String.toList_append, controls_append,
    controls_append, controls_append, controls_secondsText planned, controls_secondsText taken]
  rfl

/-- Which lines a section has. -/
theorem mem_scanLines_iff {estimate : Option Nat} {line : String} :
    line ∈ scanLines r estimate ↔
      line = methodLine r ∨ (∃ n, estimate = some n ∧ line = timeLine n r.elapsed) ∨
      (r.wildcardRecords ≠ [] ∧ line = "Wildcard records (filtered from results):") ∨
      (∃ record ∈ r.wildcardRecords, line = "  " ++ record.line) ∨
      (r.records = [] ∧ line = "No records found") ∨ ∃ record ∈ r.records, line = record.line := by
  have hnone : r.sortedLines = [] ↔ r.records = [] := by
    simp only [List.eq_nil_iff_forall_not_mem, ScanReport.mem_sortedLines]
    constructor
    · exact fun h record hrecord => h record.line ⟨record, hrecord, rfl⟩
    · rintro h line ⟨record, hrecord, -⟩
      exact h record hrecord
  have hwildcard : (line ∈ if r.wildcardRecords = [] then [] else
        "Wildcard records (filtered from results):" ::
          r.wildcardRecords.map fun record => "  " ++ record.line) ↔
      (r.wildcardRecords ≠ [] ∧ line = "Wildcard records (filtered from results):") ∨
      ∃ record ∈ r.wildcardRecords, line = "  " ++ record.line := by
    split
    · next h => simp [h]
    · next h => simp [h, eq_comm (a := line)]
  have hfound : (line ∈ if r.sortedLines = [] then ["No records found"] else r.sortedLines) ↔
      (r.records = [] ∧ line = "No records found") ∨ ∃ record ∈ r.records, line = record.line := by
    split
    · next h => simp [hnone.mp h]
    · next h => simp [mt hnone.mpr h, ScanReport.mem_sortedLines, eq_comm (a := line)]
  simp only [scanLines, List.mem_append, hwildcard, hfound, List.mem_singleton, Option.mem_toList,
    Option.map_eq_some_iff, or_assoc, eq_comm (a := line)]

/-- A section has a line feed inside a line just when the line of a record has one. -/
theorem newline_notMem_scanLines_iff (r : ScanReport) (estimate : Option Nat) :
    (∀ line ∈ scanLines r estimate, '\n' ∉ line.toList) ↔
      ∀ record ∈ r.records ++ r.wildcardRecords, '\n' ∉ record.line.toList := by
  have hclean {text : String} (h : controls text.toList = []) : '\n' ∉ text.toList := by
    rw [← mem_controls_iff (show isControl '\n' = true from rfl), h]
    exact List.not_mem_nil
  have hindent (line : String) : '\n' ∈ ("  " ++ line).toList ↔ '\n' ∈ line.toList := by simp
  constructor
  · intro h record hrecord
    rcases List.mem_append.mp hrecord with hfound | hwildcard
    · exact h _ (mem_scanLines_iff.mpr (.inr (.inr (.inr (.inr (.inr ⟨record, hfound, rfl⟩))))))
    · rw [← hindent]
      exact h _ (mem_scanLines_iff.mpr (.inr (.inr (.inr (.inl ⟨record, hwildcard, rfl⟩)))))
  · intro h line hline
    rcases mem_scanLines_iff.mp hline with rfl | ⟨n, -, rfl⟩ | ⟨-, rfl⟩ | ⟨record, hrecord, rfl⟩ |
      ⟨-, rfl⟩ | ⟨record, hrecord, rfl⟩
    · exact hclean (controls_methodLine r)
    · exact hclean (controls_timeLine n r.elapsed)
    · decide
    · rw [hindent]
      exact h record (List.mem_append_right _ hrecord)
    · decide
    · exact h record (List.mem_append_left _ hrecord)

/-- Between its line feeds the section of a scan has just the lines that were meant. -/
def PrintsLines (r : ScanReport) (estimate : Option Nat) : Prop :=
  (scanText r estimate).toList.splitOn '\n' = (scanLines r estimate).map String.toList ++ [[]]

/-- A section prints its lines exactly if no line of a record has a line feed inside. -/
theorem printsLines_iff {estimate : Option Nat} : PrintsLines r estimate ↔
    ∀ record ∈ r.records ++ r.wildcardRecords, '\n' ∉ record.line.toList := by
  rw [PrintsLines, toList_scanText, splitOn_flatMap_iff, List.forall_mem_map,
    newline_notMem_scanLines_iff]

/-- The control characters of a line are the tabs between its fields and those of the texts that its
data print as they are: of a signature that was read, those of the labels of its signer, and of a
property of certificate authorities, those of its tag. Character strings, values, addresses, keys
and digests add none, and neither do the names of a received record, but for the signer. The section
of a scan is the end of the text. It has one line for each different line of a record, and it falls
into its lines if and only if no line of a record has a line feed inside, which for received records
is up to the signers and the tags. -/
theorem scan_prints_lines_iff (owner : LabelName) (ttl : UInt32) (d : Diagnosis) :
    (∀ bytes s, Rrsig.ofRdata bytes = .ok (some s) → ∃ labels : List (List UInt8),
      bytes = s.fixedFields ++ (LabelName.labelsToWire labels ++ s.signature) ∧
      controls (Record.line ⟨owner.text, ttl, .rrsig s⟩).toList =
        Record.tabs ++ labels.flatMap fun label => controls (Utf8.decodeLossy label)) ∧
    (∀ bytes data, RecordData.caaOfRdata bytes = .ok data → ∃ flags tag value,
      tag.length ≤ 255 ∧ bytes = flags :: (Bytes.sized tag ++ value) ∧
      controls (Record.line ⟨owner.text, ttl, data⟩).toList =
        Record.tabs ++ controls (Utf8.decodeLossy tag)) ∧
    (∀ data, controls (Record.line ⟨owner.text, ttl, data⟩).toList =
      Record.tabs ++ data.bareTexts.flatMap fun text => controls text.toList) ∧
    (∀ (w : Message.WireRecord) (record : Record), w.convert = .ok (some record) →
      controls record.line.toList =
        Record.tabs ++ record.data.rawTexts.flatMap fun text => controls text.toList) ∧
    ∀ r, d.scan = some r →
      (∃ before, d.text = before ++ "\n" ++ scanText r d.scanEstimate) ∧
      r.sortedLines.Nodup ∧
      (∀ line, line ∈ r.sortedLines ↔ ∃ record ∈ r.records, record.line = line) ∧
      (PrintsLines r d.scanEstimate ↔
        ∀ record ∈ r.records ++ r.wildcardRecords, '\n' ∉ record.line.toList) ∧
      ((∀ record ∈ r.records ++ r.wildcardRecords,
          ∃ w : Message.WireRecord, w.convert = .ok (some record)) →
        (PrintsLines r d.scanEstimate ↔
          ∀ record ∈ r.records ++ r.wildcardRecords, ∀ text ∈ record.data.rawTexts,
            '\n' ∉ text.toList)) := by
  refine ⟨fun bytes s h => ?_, fun bytes data h => ?_, fun data => ?_,
    fun w record => Message.controls_line_of_convert, fun r h => ?_⟩
  · obtain ⟨labels, hbytes, hsigner⟩ := Rrsig.controls_of_ofRdata h
    refine ⟨labels, hbytes, ?_⟩
    rw [Record.controls_line, owner.controls_text, ← hsigner]
    simp [RecordData.bareTexts]
  · obtain ⟨flags, tag, value, hlength, hbytes, rfl⟩ := RecordData.caaOfRdata_eq_ok_iff.mp h
    refine ⟨flags, tag, value, hlength, hbytes, ?_⟩
    rw [Record.controls_line, owner.controls_text]
    simp [RecordData.bareTexts]
  · rw [Record.controls_line, owner.controls_text, List.nil_append]
  · refine ⟨exists_text_eq_append h, r.nodup_sortedLines, fun line => ScanReport.mem_sortedLines,
      printsLines_iff, fun hreceived => ?_⟩
    rw [printsLines_iff]
    refine forall₂_congr fun record hrecord => ?_
    obtain ⟨w, hw⟩ := hreceived record hrecord
    rw [Message.newline_mem_line_iff hw]
    simp only [not_exists, not_and]

/-- A signature, a property whose value is a line feed, and a character string with one, as they
come in messages: the section falls into its lines. -/
theorem scan_prints_lines_iff_quoted_newline :
    let owner : LabelName := ⟨[[97]], true⟩
    let signature : List UInt8 :=
      [0, 1, 13, 1, 0, 0, 0, 60, 0, 0, 0, 20, 0, 0, 0, 10, 0, 7, 1, 97, 0, 5]
    let property : List UInt8 := [0, 5, 105, 115, 115, 117, 101, 10]
    let s : Rrsig := ⟨.a, 13, 1, 60, 20, 10, 7, "a.", [5]⟩
    let records : List Record := [⟨owner.text, 60, .rrsig s⟩,
      ⟨owner.text, 60, .caa 0 "issue" [10]⟩, ⟨owner.text, 60, .txt ["x\ny"]⟩]
    let report := Resolver.transferReport "a." (.v4 ⟨192, 0, 2, 1⟩) records .zero .zero
    let d : Diagnosis :=
      ⟨"a.", .v4 ⟨192, 0, 2, 53⟩, [], [], .ofResult (.ok true), none, some report⟩
    Rrsig.ofRdata signature = .ok (some s) ∧
      RecordData.caaOfRdata property = .ok (.caa 0 "issue" [10]) ∧
      (∃ labels : List (List UInt8),
        signature = s.fixedFields ++ (LabelName.labelsToWire labels ++ s.signature) ∧
        controls (Record.line ⟨owner.text, 60, .rrsig s⟩).toList =
          Record.tabs ++ labels.flatMap fun label => controls (Utf8.decodeLossy label)) ∧
      (∃ tag, controls (Record.line ⟨owner.text, 60, .caa 0 "issue" [10]⟩).toList =
        Record.tabs ++ controls (Utf8.decodeLossy tag)) ∧
      d.scan = some report ∧ PrintsLines report none ∧
      ∀ record ∈ report.records ++ report.wildcardRecords, '\n' ∉ record.line.toList := by
  intro owner signature property s records report d
  have hs : Rrsig.ofRdata signature = .ok (some s) := by decide +kernel
  have hproperty : RecordData.caaOfRdata property = .ok (.caa 0 "issue" [10]) := by decide +kernel
  have hrrsig : Message.WireRecord.convert ⟨owner, 46, 60, some (.bytes signature)⟩ =
      .ok (some ⟨owner.text, 60, .rrsig s⟩) := by decide +kernel
  have hcaa : Message.WireRecord.convert ⟨owner, 257, 60, some (.bytes property)⟩ =
      .ok (some ⟨owner.text, 60, .caa 0 "issue" [10]⟩) := by decide +kernel
  have htxt : Message.WireRecord.convert ⟨owner, 16, 60, some (.txt [[120, 10, 121]])⟩ =
      .ok (some ⟨owner.text, 60, .txt ["x\ny"]⟩) := by decide +kernel
  have hreceived : ∀ record ∈ report.records ++ report.wildcardRecords,
      ∃ w : Message.WireRecord, w.convert = .ok (some record) := by
    intro record hrecord
    have hmem : record ∈ records := by
      simpa [report, Resolver.transferReport, ScanReport.records] using hrecord
    simp only [records, List.mem_cons, List.not_mem_nil, or_false] at hmem
    rcases hmem with rfl | rfl | rfl
    · exact ⟨_, hrrsig⟩
    · exact ⟨_, hcaa⟩
    · exact ⟨_, htxt⟩
  obtain ⟨hsignatureLine, hpropertyLine, -, -, hsection⟩ := scan_prints_lines_iff owner 60 d
  obtain ⟨flags, tag, value, -, -, htag⟩ := hpropertyLine property _ hproperty
  obtain ⟨-, -, -, hlines, hraw⟩ := hsection report rfl
  have hprints : PrintsLines report none := (hraw hreceived).mpr (by decide +kernel)
  exact ⟨hs, hproperty, hsignatureLine signature s hs, ⟨tag, htag⟩, rfl, hprints,
    hlines.mp hprints⟩

/-- A property whose tag holds the line of an address: the line is part of the section, though the
report has no such record. A signature whose signer holds a line feed breaks its line as well. -/
theorem scan_prints_forged_line :
    let forged : Record := ⟨"a.", 60, .a ⟨192, 0, 2, 7⟩⟩
    let property : Record := ⟨"a.", 60, .caa 0 "x\na.\t60\tIN\tA\t192.0.2.7\n" []⟩
    let s : Rrsig := ⟨.a, 13, 1, 60, 20, 10, 7, "x\ny.", [5]⟩
    let report := Resolver.transferReport "a." (.v4 ⟨192, 0, 2, 1⟩) [property] .zero .zero
    RecordData.caaOfRdata ([0, 23] ++ Utf8.encode "x\na.\t60\tIN\tA\t192.0.2.7\n".toList) =
        .ok property.data ∧
      forged.line ∉ report.sortedLines ∧
      forged.line.toList ∈ (scanText report none).toList.splitOn '\n' ∧
      Rrsig.ofRdata [0, 1, 13, 1, 0, 0, 0, 60, 0, 0, 0, 20, 0, 0, 0, 10, 0, 7, 3, 120, 10, 121, 0,
          5] = .ok (some s) ∧
      controls (Record.line ⟨"a.", 60, .rrsig s⟩).toList = Record.tabs ++ ['\n'] := by
  intro forged property s report
  refine ⟨by decide +kernel, ?_, ?_, by decide +kernel, ?_⟩
  · decide +kernel
  · decide +kernel
  · decide +kernel

end Diagnosis

end DnsHealth
