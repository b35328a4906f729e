import DnsHealth.Proofs.Message.Fidelity
import DnsHealth.Proofs.Record.Caa
import DnsHealth.Proofs.Record.Rdata
import DnsHealth.Proofs.Text.Control
import DnsHealth.Record.Text

/-!
# The line of a record

Four tabs stand between the five fields of a line. Numbers, addresses, keys and digests add no
control character to them, and character strings and the values of CAA records are quoted; only the
names that the data hold and the tag of a CAA record are printed as they are. Names that came in a
message have been escaped before, but for the signer of a signature, which like the tag is taken as
the text that the bytes are. So the control characters of a received record are the tabs and those
that a server put into a signer or a tag.
-/

namespace DnsHealth

open Text

/-- The tabs between the fields of a line. -/
def Record.tabs : List Char := ['\t', '\t', '\t', '\t']

@[simp] theorem RecordType.controls_mnemonic (type : RecordType) :
    controls type.mnemonic.toList = [] := by
  cases type <;> rfl

namespace RecordData

/-- The texts that are part of the presentation form as they are. -/
def bareTexts : RecordData → List String
  | ns host => [host]
  | cname target => [target]
  | mx _ exchange => [exchange]
  | soa authority => [authority.mname, authority.rname]
  | srv _ _ _ target => [target]
  | caa _ tag _ => [tag]
  | rrsig signed => [signed.signerName]
  | _ => []

/-- The texts that nothing has escaped on their way from a message into the presentation form. -/
def rawTexts : RecordData → List String
  | caa _ tag _ => [tag]
  | rrsig signed => [signed.signerName]
  | _ => []

/-- The control characters of the presentation form of data. -/
theorem controls_text (data : RecordData) :
    controls data.text.toList = data.bareTexts.flatMap fun text => controls text.toList := by
  cases data with
  | a address => exact address.controls_text
  | aaaa address => exact address.controls_text
  | ns host => simp [text, bareTexts]
  | cname target => simp [text, bareTexts]
  | mx preference exchange => simp [text, bareTexts]
  | soa authority => simp [text, bareTexts, Soa.text]
  | txt strings =>
    have hbare : (txt strings).bareTexts = [] := rfl
    rw [text, String.toList_intercalate, controls_intercalate rfl, List.map_map, List.flatMap_map,
      hbare, List.flatMap_nil, List.flatMap_eq_nil_iff]
    exact fun s _ => controls_quote s
  | srv priority weight port target => simp [text, bareTexts]
  | caa flags tag value => simp [text, bareTexts]
  | dnskey key => simp [text, bareTexts, Dnskey.text, controls_base64]
  | ds signer => simp [text, bareTexts, Ds.text, Ds.digestHex, controls_upper]
  | rrsig signed => simp [text, bareTexts, Rrsig.text, controls_base64]

end RecordData

/-- The control characters of a line are those of the owner, the tabs, and those of the texts that
the data print as they are. -/
theorem Record.controls_line (r : Record) :
    controls r.line.toList = controls r.name.toList ++ tabs ++
      r.data.bareTexts.flatMap fun text => controls text.toList := by
  have hclass : controls "\tIN\t".toList = ['\t', '\t'] := rfl
  have htab : controls "\t".toList = ['\t'] := rfl
  simp only [line, String.toList_append, controls_append, controls_decimal,
    RecordType.controls_mnemonic, RecordData.controls_text, hclass, htab, tabs]
  simp

namespace Message

/-- Data that is kept as bytes prints nothing as it is but what has not been escaped before. -/
theorem bareTexts_of_recordDataOfBytes {type : RecordType} {bytes : List UInt8} {data : RecordData}
    (h : recordDataOfBytes type bytes = .ok (some data)) : data.bareTexts = data.rawTexts := by
  obtain ⟨htype, -⟩ := type_of_recordDataOfBytes h
  cases data with
  | ns | cname | mx | soa | srv =>
    cases htype
    cases h
  | _ => rfl

/-- The names that received data print as they are have no control characters, but for the signer of
a signature. -/
theorem controls_of_convert {type : RecordType} {w : WireData} {data : RecordData}
    (h : w.convert type = .ok (some data)) :
    (data.bareTexts.flatMap fun text => controls text.toList) =
      data.rawTexts.flatMap fun text => controls text.toList := by
  cases w with
  | rrsig head signer signature =>
    simp only [WireData.convert, bind_eq_ok_iff] at h
    obtain ⟨bytes, -, hdata⟩ := h
    rw [bareTexts_of_recordDataOfBytes hdata]
  | bytes bytes => rw [bareTexts_of_recordDataOfBytes h]
  | _ =>
    cases h
    simp [RecordData.bareTexts, RecordData.rawTexts]

/-- The control characters of the line of a received record are the tabs and those of the texts that
nothing has escaped. -/
theorem controls_line_of_convert {w : WireRecord} {r : Record} (h : w.convert = .ok (some r)) :
    controls r.line.toList = Record.tabs ++
      r.data.rawTexts.flatMap fun text => controls text.toList := by
  unfold WireRecord.convert at h
  split at h
  · next type wire _ _ =>
    simp only [bind_eq_ok_iff] at h
    obtain ⟨data?, hdata, hrecord⟩ := h
    obtain ⟨data, rfl, rfl⟩ := Option.map_eq_some_iff.mp (Except.ok.inj hrecord)
    rw [Record.controls_line, LabelName.controls_text, List.nil_append, controls_of_convert hdata]
  · cases h

end Message

/-- The control characters of a signature that was read are those of the labels of its signer. -/
theorem Rrsig.controls_of_ofRdata {bytes : List UInt8} {s : Rrsig}
    (h : ofRdata bytes = .ok (some s)) :
    ∃ labels : List (List UInt8),
      bytes = s.fixedFields ++ (LabelName.labelsToWire labels ++ s.signature) ∧
      controls s.signerName.toList = labels.flatMap fun label =>
        controls (Utf8.decodeLossy label) := by
  obtain ⟨tail, rfl, hread⟩ := ofRdata_eq_ok_some_iff.mp h
  obtain ⟨labels, -, rfl, hname⟩ := Name.read_eq_ok_iff.mp hread
  refine ⟨labels, rfl, ?_⟩
  rw [hname, String.toList_ofList, Name.join_eq, controls_append, controls_intercalate rfl,
    List.flatMap_map]
  simp only [controls_lower]
  exact List.append_nil _

end DnsHealth
