import DnsHealth.Proofs.Address.Text
import DnsHealth.Proofs.Record.Line
import DnsHealth.Proofs.Text.Codes
import DnsHealth.Proofs.Text.Quoted
import DnsHealth.Proofs.Text.Splitting

/-!
# The columns of a line

A line has five columns between tabs, and the data of a record of one type has so many columns
between blanks, the character strings of a text apart. Only the last column may have a separator
inside, as long as the names in the others have none, so the columns are told apart; and every
column tells what it was printed from. So no two records share a line, unless they are properties
of certificate authorities, whose values are printed as the text that they nearly are.
-/

namespace DnsHealth

open Text (Decimal.ofNat Quoted.quote Quoted.quote_inj Quoted.intercalate_quote_inj isBlank
  isControl)

/-- A text without white space and without control characters. -/
def Text.Unbroken (text : String) : Prop :=
  ∀ c ∈ text.toList, isBlank c = false ∧ isControl c = false

private theorem Text.Unbroken.blank_notMem {text : String} (h : Unbroken text) :
    ' ' ∉ text.toList :=
  fun hmem => nomatch (h ' ' hmem).1

private theorem Text.Unbroken.tab_notMem {text : String} (h : Unbroken text) : '\t' ∉ text.toList :=
  fun hmem => nomatch (h '\t' hmem).2

/-- The presentation form of a name is not broken, whatever bytes its labels hold. -/
theorem LabelName.unbroken_text (name : LabelName) : Text.Unbroken name.text := by
  intro c hc
  obtain ⟨hlow, hhigh⟩ := name.visible_text c hc
  refine ⟨?_, Text.isControl_of_lt (Nat.le_of_lt hlow) hhigh⟩
  simp only [isBlank, Bool.or_eq_false_iff, Bool.and_eq_false_iff, decide_eq_false_iff_not,
    beq_eq_false_iff_ne]
  omega

private theorem blank_notMem_decimal (n : Nat) : ' ' ∉ (Decimal.ofNat n).toList :=
  Text.Decimal.notMem_ofNat (by decide) n

private theorem tab_notMem_decimal (n : Nat) : '\t' ∉ (Decimal.ofNat n).toList :=
  Text.Decimal.notMem_ofNat (by decide) n

@[simp] theorem RecordType.mnemonic_inj {s t : RecordType} : s.mnemonic = t.mnemonic ↔ s = t :=
  eq_iff_of_read ofMnemonic?_mnemonic

namespace RecordData

variable {data other : RecordData}

/-- The columns of the presentation form of data. -/
def columns : RecordData → List String
  | a address => [address.text]
  | aaaa address => [address.text]
  | ns host => [host]
  | cname target => [target]
  | mx preference exchange => [Decimal.ofNat preference.toNat, exchange]
  | soa s => [s.mname, s.rname, Decimal.ofNat s.serial.toNat, Decimal.ofNat s.refresh.toNat,
      Decimal.ofNat s.retry.toNat, Decimal.ofNat s.expire.toNat, Decimal.ofNat s.minimum.toNat]
  | txt strings => strings.map Quoted.quote
  | srv priority weight port target => [Decimal.ofNat priority.toNat, Decimal.ofNat weight.toNat,
      Decimal.ofNat port.toNat, target]
  | caa flags tag value => [Decimal.ofNat flags.toNat, tag,
      Quoted.quote (String.ofList (Text.Utf8.decodeLossy value))]
  | dnskey k => [Decimal.ofNat k.flags.toNat, Decimal.ofNat k.protocol.toNat,
      Decimal.ofNat k.algorithm.toNat, String.ofList (Text.Base64.encode k.publicKey)]
  | ds d => [Decimal.ofNat d.keyTag.toNat, Decimal.ofNat d.algorithm.toNat,
      Decimal.ofNat d.digestType.toNat, d.digestHex]
  | rrsig s => [s.typeCovered.mnemonic, Decimal.ofNat s.algorithm.toNat,
      Decimal.ofNat s.labels.toNat, Decimal.ofNat s.originalTtl.toNat,
      Decimal.ofNat s.expiration.toNat, Decimal.ofNat s.inception.toNat,
      Decimal.ofNat s.keyTag.toNat, s.signerName, String.ofList (Text.Base64.encode s.signature)]

/-- The presentation form of data is its columns with blanks between them. -/
theorem text_eq_intercalate (data : RecordData) : data.text = " ".intercalate data.columns := by
  cases data <;> rfl

/-- Data of one type have equally many columns, unless they are character strings. -/
theorem length_columns (h : data.type = other.type) (htxt : data.type ≠ .txt) :
    data.columns.length = other.columns.length := by
  cases data with
  | txt strings => exact absurd rfl htxt
  | _ =>
    cases other <;> try cases h
    all_goals simp only [columns, List.length_cons, List.length_nil]

/-- No column but the last has a blank inside, unless they are character strings. -/
theorem blank_notMem_columns (htxt : data.type ≠ .txt)
    (hnames : ∀ text ∈ data.bareTexts, ' ' ∉ text.toList) :
    ∀ column ∈ data.columns.dropLast, ' ' ∉ column.toList := by
  have hmnemonic (type : RecordType) : ' ' ∉ type.mnemonic.toList := by
    cases type <;> decide
  cases data with
  | txt strings => exact absurd rfl htxt
  | _ => simp_all [columns, bareTexts, blank_notMem_decimal]

/-- The columns tell the data, except for properties of certificate authorities. -/
theorem eq_of_columns_eq (htype : data.type = other.type) (hcaa : data.type ≠ .caa)
    (h : data.columns = other.columns) : data = other := by
  cases data <;> cases other <;> try cases htype
  case caa.caa => exact absurd rfl hcaa
  case txt.txt xs ys =>
    have hquote : Function.Injective Quoted.quote := fun s t => Quoted.quote_inj.mp
    rw [hquote.list_map h]
  case soa.soa s t =>
    cases s
    cases t
    simpa [columns, UInt32.toNat_inj] using h
  case dnskey.dnskey k l =>
    cases k
    cases l
    simpa [columns, UInt16.toNat_inj, UInt8.toNat_inj, String.ofList_inj] using h
  case ds.ds d e =>
    cases d
    cases e
    simpa [columns, Ds.digestHex, UInt16.toNat_inj, UInt8.toNat_inj, String.ofList_inj] using h
  case rrsig.rrsig s t =>
    cases s
    cases t
    simpa [columns, UInt32.toNat_inj, UInt16.toNat_inj, UInt8.toNat_inj, String.ofList_inj] using h
  all_goals simpa [columns, UInt16.toNat_inj] using h

/-- Data of one type with the same presentation form are equal, unless they are properties of
certificate authorities, if no name that is followed by more has a blank. -/
theorem text_inj (htype : data.type = other.type) (hcaa : data.type ≠ .caa)
    (hdata : ∀ text ∈ data.bareTexts, ' ' ∉ text.toList)
    (hother : ∀ text ∈ other.bareTexts, ' ' ∉ text.toList) (h : data.text = other.text) :
    data = other := by
  apply eq_of_columns_eq htype hcaa
  rw [text_eq_intercalate, text_eq_intercalate] at h
  by_cases htxt : data.type = .txt
  · obtain ⟨xs, rfl⟩ : ∃ xs, data = txt xs := by
      cases data <;> first | exact ⟨_, rfl⟩ | cases htxt
    obtain ⟨ys, rfl⟩ : ∃ ys, other = txt ys := by
      cases other <;> first | exact ⟨_, rfl⟩ | cases htype
    exact congrArg (List.map Quoted.quote) (Quoted.intercalate_quote_inj h)
  · have hlength := length_columns htype htxt
    have hblanks := blank_notMem_columns htxt hdata
    have hothers := blank_notMem_columns (htype ▸ htxt) hother
    exact Text.columns_inj rfl hlength hblanks hothers h

end RecordData

namespace Record

variable {r s : Record}

/-- A record whose owner and names have no white space and no control characters. -/
structure Unbroken (r : Record) : Prop where
  /-- The owner has none. -/
  owner : Text.Unbroken r.name
  /-- The texts that the data print as they are have none. -/
  names : ∀ text ∈ r.data.bareTexts, Text.Unbroken text

/-- The columns of a line. -/
def columns (r : Record) : List String :=
  [r.name, Decimal.ofNat r.ttl.toNat, "IN", r.type.mnemonic, r.data.text]

/-- A line is its columns with tabs between them. -/
theorem line_eq_intercalate (r : Record) : r.line = "\t".intercalate r.columns := by
  have hclass : "\tIN\t" = "\t" ++ "IN" ++ "\t" := rfl
  rw [line, hclass, ← String.append_assoc, ← String.append_assoc]
  rfl

/-- No column but the last has a tab inside. -/
theorem tab_notMem_columns (h : Text.Unbroken r.name) :
    ∀ column ∈ r.columns.dropLast, '\t' ∉ column.toList := by
  have hmnemonic : '\t' ∉ r.type.mnemonic.toList := by
    cases r.type <;> decide
  have hclass : '\t' ∉ "IN".toList := by decide
  simp only [columns, List.dropLast_cons_cons, List.dropLast_singleton, List.forall_mem_cons]
  exact ⟨h.tab_notMem, tab_notMem_decimal _, hclass, hmnemonic, List.forall_mem_nil _⟩

/-- No two records share a line, properties of certificate authorities apart. -/
theorem line_inj (hr : r.Unbroken) (hs : s.Unbroken) (hcaa : r.type ≠ .caa)
    (h : r.line = s.line) : r = s := by
  rw [line_eq_intercalate, line_eq_intercalate] at h
  have hcolumns : r.columns = s.columns :=
    Text.columns_inj rfl rfl (tab_notMem_columns hr.owner) (tab_notMem_columns hs.owner) h
  simp only [columns, List.cons.injEq, and_true,
    Text.Decimal.ofNat_inj, UInt32.toNat_inj, RecordType.mnemonic_inj, true_and] at hcolumns
  obtain ⟨hname, httl, htype, htext⟩ := hcolumns
  have hdata := RecordData.text_inj htype hcaa
    (fun text htext => (hr.names text htext).blank_notMem)
    (fun text htext => (hs.names text htext).blank_notMem) htext
  cases r
  cases s
  cases hname
  cases httl
  cases hdata
  rfl

end Record

end DnsHealth
