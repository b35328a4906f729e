import DnsHealth.Proofs.Diagnosis.ScanSection
import DnsHealth.Proofs.Record.Columns
import DnsHealth.Proofs.Text.Order
import Mathlib.Data.List.Dedup

/-!
# Lines of a report and its records

The lines of a report increase in the order of their bytes, each there once. As no two records share
a line, leaving out repeated lines leaves out repeated records only: a report has one line for each
different record that was found.
-/

namespace DnsHealth

open Text

namespace ScanReport

variable {report : ScanReport}

/-- The lines of a report increase strictly in the order of their bytes. -/
theorem pairwise_lt_bytes (report : ScanReport) :
    (report.sortedLines.map fun line => Utf8.encode line.toList).Pairwise (· < ·) := by
  rw [List.pairwise_map]
  apply (pairwise_lt_sortedSet (report.records.map Record.line)).imp
  intro line next h
  exact Utf8.encode_lt_encode (String.lt_iff_toList_lt.mp h)

/-- If the lines tell the records, a report has one line for each different record. -/
theorem perm_map_line (h : ∀ r ∈ report.records, ∀ s ∈ report.records, r.line = s.line → r = s) :
    report.sortedLines.Perm (report.records.dedup.map Record.line) := by
  have hlines : (report.records.dedup.map Record.line).Nodup := by
    apply List.Nodup.map_on ?_ (List.nodup_dedup _)
    intro r hr s hs
    exact h r (List.mem_dedup.mp hr) s (List.mem_dedup.mp hs)
  rw [List.perm_ext_iff_of_nodup report.nodup_sortedLines hlines]
  intro line
  simp only [mem_sortedLines, List.mem_map, List.mem_dedup]

/-- No two records share a line, if neither is a property of certificate authorities and their
owners and the names in their data have no white space and no control characters, as the
presentation form of a name has none. So the lines of a report of such records increase strictly in
the order of their bytes, and there is one of them for each different record: every line is that of
just one record. -/
theorem sortedLines_tell_records :
    (∀ name : LabelName, Unbroken name.text) ∧
    (∀ r s : Record, r.type ≠ .caa → s.type ≠ .caa → r.Unbroken → s.Unbroken →
      r.line = s.line → r = s) ∧
    ∀ report : ScanReport, (∀ r ∈ report.records, r.type ≠ .caa ∧ r.Unbroken) →
      (report.sortedLines.map fun line => Utf8.encode line.toList).Pairwise (· < ·) ∧
      report.sortedLines.Perm (report.records.dedup.map Record.line) ∧
      ∀ line ∈ report.sortedLines, ∃! r, r ∈ report.records ∧ r.line = line := by
  refine ⟨LabelName.unbroken_text, fun r s hr _ => ?_, ?_⟩
  · intro hr' hs' h
    exact Record.line_inj hr' hs' hr h
  · intro report hrecords
    have hinj : ∀ r ∈ report.records, ∀ s ∈ report.records, r.line = s.line → r = s := by
      intro r hr s hs h
      exact Record.line_inj (hrecords r hr).2 (hrecords s hs).2 (hrecords r hr).1 h
    refine ⟨report.pairwise_lt_bytes, perm_map_line hinj, ?_⟩
    intro line hline
    obtain ⟨r, hr, hrline⟩ := mem_sortedLines.mp hline
    refine ⟨r, ⟨hr, hrline⟩, ?_⟩
    rintro s ⟨hs, hsline⟩
    exact hinj s hs r hr (hsline.trans hrline.symm)

/-- No character string, an empty one, two of them, one that looks like two when its quotes are not
escaped, and a nameserver that was found twice: five lines. -/
theorem sortedLines_tell_records_txt :
    let owner : LabelName := ⟨[[97]], true⟩
    let nothing : Record := ⟨owner.text, 60, .txt []⟩
    let empty : Record := ⟨owner.text, 60, .txt [""]⟩
    let two : Record := ⟨owner.text, 60, .txt ["x", "y"]⟩
    let joined : Record := ⟨owner.text, 60, .txt ["x\" \"y"]⟩
    let host : Record := ⟨owner.text, 60, .ns owner.text⟩
    let records := [host, nothing, empty, two, joined, host]
    let report := Resolver.transferReport "a." (.v4 ⟨192, 0, 2, 1⟩) records .zero .zero
    (∀ r ∈ report.records, r.type ≠ .caa ∧ r.Unbroken) ∧ nothing.line ≠ empty.line ∧
      two.line ≠ joined.line ∧ report.records.dedup.length = 5 ∧
      report.sortedLines.Perm (report.records.dedup.map Record.line) := by
  intro owner nothing empty two joined host records report
  obtain ⟨hnames, hinj, hreports⟩ := sortedLines_tell_records
  have hallowed (data : RecordData) (htype : data.type ≠ .caa)
      (hbare : ∀ text ∈ data.bareTexts, text = owner.text) :
      Record.type ⟨owner.text, 60, data⟩ ≠ .caa ∧ Record.Unbroken ⟨owner.text, 60, data⟩ := by
    refine ⟨htype, hnames owner, fun text htext => ?_⟩
    rw [hbare text htext]
    exact hnames owner
  have hnothing := hallowed (.txt []) (by decide) (List.forall_mem_nil _)
  have hempty := hallowed (.txt [""]) (by decide) (List.forall_mem_nil _)
  have htwo := hallowed (.txt ["x", "y"]) (by decide) (List.forall_mem_nil _)
  have hjoined := hallowed (.txt ["x\" \"y"]) (by decide) (List.forall_mem_nil _)
  have hhost := hallowed (.ns owner.text) (by decide) (List.forall_mem_singleton.mpr rfl)
  have hrecords : ∀ r ∈ report.records, r.type ≠ .caa ∧ r.Unbroken := by
    intro r hr
    have hmem : r ∈ records := by
      simpa [report, Resolver.transferReport, ScanReport.records] using hr
    simp only [records, List.mem_cons, List.not_mem_nil, or_false] at hmem
    rcases hmem with rfl | rfl | rfl | rfl | rfl | rfl <;> assumption
  refine ⟨hrecords, ?_, ?_, by decide +kernel, (hreports report hrecords).2.1⟩
  · intro h
    have hsame := hinj nothing empty hnothing.1 hempty.1 hnothing.2 hempty.2 h
    exact absurd hsame (by decide)
  · intro h
    have hsame := hinj two joined htwo.1 hjoined.1 htwo.2 hjoined.2 h
    exact absurd hsame (by decide)

end ScanReport

end DnsHealth
