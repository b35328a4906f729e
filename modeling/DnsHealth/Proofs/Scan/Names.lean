import DnsHealth.Proofs.Name.Reading
import DnsHealth.Proofs.Name.Zones
import DnsHealth.Proofs.Scan.Transfers

/-!
# The names of probes

A probe puts a stem of labels in front of a domain, and the name that it asks for is in absolute
form, has as many labels as stem and domain together, stands on the wire as the labels of the stem
and then the domain, and leads back to the domain when the labels of the stem are taken off. All
this holds of every domain, and so it does of the name that is asked for to find a wildcard. That no
label is empty, and that only one point stands at the end, holds of every domain but the root: the
point behind a stem is set before the domain whatever it is, and the root is a point itself.
-/

namespace DnsHealth

namespace Name

open Text

/-- A fully qualified name: the root, or labels of which none is empty, with one point behind the
last of them. -/
def FullyQualified (name : List Char) : Prop :=
  name = root ∨ ∃ body, name = body ++ ['.'] ∧ ∀ part ∈ parts body, part ≠ []

/-- Labels as a text with points between them, and none at the end. -/
structure IsStem (text : String) (labels : List (List Char)) : Prop where
  /-- Each label may stand in a name as it is. -/
  isLabel : ∀ label ∈ labels, IsLabel label
  /-- Points stand between the labels. -/
  toList_eq : text.toList = ['.'].intercalate labels

/-- Labels as a text with points between them, with or without a point at the end; the root, if
there are no labels. -/
structure IsDomain (text : String) (labels : List (List Char)) : Prop where
  /-- Each label may stand in a name as it is. -/
  isLabel : ∀ label ∈ labels, IsLabel label
  /-- Points stand between the labels, and perhaps at the end. -/
  toList_eq : text.toList = ['.'].intercalate labels ∨
    text.toList = ['.'].intercalate labels ++ ['.']

/-- The labels of a stem, each with its point, in front of a domain of labels. -/
def stacked (stem labels : List (List Char)) : List Char := stem.flatMap (· ++ ['.']) ++ join labels

section Stacked

variable {stem labels : List (List Char)}

@[simp] theorem stacked_nil (labels : List (List Char)) : stacked [] labels = join labels := rfl

private theorem stacked_cons (label : List Char) (stem labels : List (List Char)) :
    stacked (label :: stem) labels = label ++ '.' :: stacked stem labels := by
  simp [stacked]

private theorem stacked_ne_nil (stem labels : List (List Char)) : stacked stem labels ≠ [] := by
  rw [stacked, join_eq]
  simp

/-- A stem in front of a domain other than the root makes a name of the labels of both. -/
theorem stacked_of_ne_nil (stem : List (List Char)) (h : labels ≠ []) :
    stacked stem labels = join (stem ++ labels) := by
  rw [stacked, join, join, if_neg h, if_neg (by simp [h]), List.flatMap_append]

/-- In front of the root a stem has one point more than labels. -/
theorem stacked_root (stem : List (List Char)) :
    stacked stem [] = stem.flatMap (· ++ ['.']) ++ ['.'] := rfl

/-- The points at the end apart, a stem in front of any domain makes the labels of both. -/
theorem trimPoints_stacked (hstem : ∀ label ∈ stem, IsLabel label)
    (hlabels : ∀ label ∈ labels, IsLabel label) :
    trimPoints (stacked stem labels) = ['.'].intercalate (stem ++ labels) := by
  have hall : ∀ label ∈ stem ++ labels, IsLabel label := by
    simpa only [List.forall_mem_append] using And.intro hstem hlabels
  have htrim := trimPoints_intercalate (fun label hlabel => (hall label hlabel).ne_nil)
    fun label hlabel => (hall label hlabel).no_point
  rw [← join_eq] at htrim
  by_cases h : labels = []
  · subst h
    rw [List.append_nil] at htrim ⊢
    by_cases hnil : stem = []
    · subst hnil
      exact htrim
    · rw [stacked_root, trimPoints_append_point]
      rwa [join, if_neg hnil] at htrim
  · rwa [stacked_of_ne_nil stem h]

/-- A stem in front of a domain begins with the first character of a label, if there is a label. -/
theorem stacked_eq_root_or (hstem : ∀ label ∈ stem, IsLabel label)
    (hlabels : ∀ label ∈ labels, IsLabel label) : stem = [] ∧ labels = [] ∨
    ∃ c rest, stacked stem labels = c :: rest ∧ c ≠ '.' ∧ isBlank c = false := by
  cases stem with
  | nil =>
    rcases join_eq_root_or hlabels with rfl | hfirst
    · exact .inl ⟨rfl, rfl⟩
    · exact .inr hfirst
  | cons label stem =>
    rcases join_eq_root_or hstem with hnil | ⟨c, rest, hjoin, hc, hblank⟩
    · cases hnil
    · rw [join, if_neg (List.cons_ne_nil _ _)] at hjoin
      exact .inr ⟨c, rest ++ join labels, by rw [stacked, hjoin, List.cons_append], hc, hblank⟩

/-- A stem in front of a domain is in absolute form. -/
theorem absolute_stacked (hstem : ∀ label ∈ stem, IsLabel label)
    (hlabels : ∀ label ∈ labels, IsLabel label) :
    absolute (stacked stem labels) = stacked stem labels := by
  rcases stacked_eq_root_or hstem hlabels with ⟨rfl, rfl⟩ | ⟨c, rest, hcons, -, hblank⟩
  · decide
  · have hlast : (stacked stem labels).getLast? = some '.' := by
      rw [stacked, join_eq]
      simp
    rw [hcons] at hlast ⊢
    rw [absolute, trim_eq_self hblank hlast (by decide)]
    simp [hlast]

/-- A stem in front of a domain has as many labels as both together. -/
theorem labelCount_stacked (hstem : ∀ label ∈ stem, IsLabel label)
    (hlabels : ∀ label ∈ labels, IsLabel label) :
    labelCount (stacked stem labels) = stem.length + labels.length := by
  have habsolute := absolute_stacked hstem hlabels
  rcases stacked_eq_root_or hstem hlabels with ⟨rfl, rfl⟩ | ⟨c, rest, hcons, hc, -⟩
  · decide
  · have hroot : isRoot (stacked stem labels) = false := by
      rw [isRoot, habsolute, hcons, root]
      simp [hc]
    have hne : stem ++ labels ≠ [] := by
      intro hnil
      obtain ⟨rfl, rfl⟩ := List.append_eq_nil_iff.mp hnil
      exact absurd hroot (by decide)
    have hpoint : ∀ label ∈ stem ++ labels, '.' ∉ label := by
      rw [List.forall_mem_append]
      exact ⟨fun l hl => (hstem l hl).no_point, fun l hl => (hlabels l hl).no_point⟩
    rw [labelCount, hroot, habsolute, trimPoints_stacked hstem hlabels, parts,
      List.splitOn_intercalate '.' hpoint hne, List.length_append]
    rfl

/-- The parent of a stem in front of a domain has lost the first label of the stem. -/
theorem parent_stacked_cons {label : List Char} (hstem : ∀ l ∈ label :: stem, IsLabel l)
    (hlabels : ∀ label ∈ labels, IsLabel label) :
    parent (stacked (label :: stem) labels) = stacked stem labels := by
  have hnopoint : ∀ c ∈ label, (c != '.') = true := by
    intro c hc
    rw [bne_iff_ne]
    rintro rfl
    exact (hstem label List.mem_cons_self).no_point hc
  have hrest : afterPoint (stacked (label :: stem) labels) = stacked stem labels := by
    rw [afterPoint, stacked_cons, List.dropWhile_append_of_pos hnopoint]
    rfl
  rw [parent, absolute_stacked hstem hlabels, hrest, if_neg (stacked_ne_nil stem labels)]

/-- As many steps towards the root as a stem has labels lead to the domain. -/
theorem parentZone_iterate_stacked (hstem : ∀ label ∈ stem, IsLabel label)
    (hlabels : ∀ label ∈ labels, IsLabel label) :
    parentZone^[stem.length] (String.ofList (stacked stem labels)) =
      String.ofList (join labels) := by
  induction stem with
  | nil => rfl
  | cons label stem ih =>
    have hparent := parent_stacked_cons hstem hlabels
    rw [List.length_cons, Function.iterate_succ_apply, parentZone, String.toList_ofList, hparent]
    exact ih (List.forall_mem_cons.mp hstem).2

/-- On the wire, a stem in front of a domain has the labels of both, in small letters. -/
theorem wireLabels_stacked (hstem : ∀ label ∈ stem, IsLabel label)
    (hlabels : ∀ label ∈ labels, IsLabel label) :
    wireLabels (stacked stem labels) =
      (stem ++ labels).map fun label => Utf8.encode (lower label) := by
  have hall : ∀ label ∈ stem ++ labels, IsLabel label := by
    simpa only [List.forall_mem_append] using And.intro hstem hlabels
  have hnil : ∀ label ∈ ([] : List (List Char)), IsLabel label := by simp
  rw [← wireLabels_join hall, wireLabels_inj, bare, bare, trimPoints_stacked hstem hlabels,
    ← stacked_nil, trimPoints_stacked hnil hall, List.nil_append]

/-- A stem in front of a domain is a fully qualified name unless the domain is the root. -/
theorem fullyQualified_stacked_iff (hstem : ∀ label ∈ stem, IsLabel label)
    (hlabels : ∀ label ∈ labels, IsLabel label) :
    FullyQualified (stacked stem labels) ↔ stem = [] ∨ labels ≠ [] := by
  have hjoin {all : List (List Char)} (hall : ∀ label ∈ all, IsLabel label) :
      FullyQualified (join all) := by
    by_cases hnil : all = []
    · exact .inl (by rw [hnil]; rfl)
    · refine .inr ⟨['.'].intercalate all, join_eq all, fun part hpart => ?_⟩
      rw [parts, List.splitOn_intercalate '.' (fun l hl => (hall l hl).no_point) hnil] at hpart
      exact (hall part hpart).ne_nil
  by_cases h : labels = []
  · subst h
    simp only [ne_eq, not_true_eq_false, or_false]
    constructor
    · rintro (hroot | ⟨body, hbody, hparts⟩)
      · rcases stacked_eq_root_or hstem hlabels with ⟨rfl, -⟩ | ⟨c, rest, hcons, hc, -⟩
        · rfl
        · rw [hcons] at hroot
          exact absurd (List.cons.inj hroot).1 hc
      · -- What stands before the last point ends in a point itself, behind which is nothing.
        by_contra hne
        rw [stacked_root] at hbody
        obtain ⟨hsame, -⟩ := List.append_inj' hbody rfl
        have hsplit : parts body = stem ++ [[]] := by
          rw [parts, ← hsame]
          exact splitOn_flatMap_iff.mpr fun label hlabel => (hstem label hlabel).no_point
        exact hparts [] (by rw [hsplit]; simp) rfl
    · rintro rfl
      exact hjoin hlabels
  · simp only [ne_eq, h, not_false_eq_true, or_true, iff_true]
    rw [stacked_of_ne_nil stem h]
    exact hjoin (List.forall_mem_append.mpr ⟨hstem, hlabels⟩)

end Stacked

/-- A domain in absolute form is the name of its labels. -/
theorem IsDomain.absolute_eq {domain : String} {labels : List (List Char)}
    (h : IsDomain domain labels) : absolute domain.toList = join labels := by
  by_cases hnil : labels = []
  · subst hnil
    rcases h.toList_eq with htext | htext <;> rw [htext] <;> decide
  · rcases h.toList_eq with htext | htext
    · rw [htext, absolute_intercalate h.isLabel hnil]
    · rw [htext, ← join_eq, absolute_join h.isLabel]

/-- On the wire a domain has its labels in small letters. -/
theorem IsDomain.wireLabels_eq {domain : String} {labels : List (List Char)}
    (h : IsDomain domain labels) :
    wireLabels domain.toList = labels.map fun label => Utf8.encode (lower label) := by
  have htrim : trimPoints domain.toList = trimPoints (join labels) := by
    rcases h.toList_eq with htext | htext
    · rw [htext, join_eq, trimPoints_append_point]
    · rw [htext, join_eq]
  rw [← wireLabels_join h.isLabel, wireLabels_inj, bare, bare, htrim]

/-- What is known of the name of a stem below a domain. -/
structure Below (name : String) (stem labels : List (List Char)) (domain : String) : Prop where
  /-- The name is in absolute form. -/
  fqdn_eq : fqdn name = name
  /-- The name has the labels of the stem and of the domain. -/
  labelCount_eq : labelCount name.toList = stem.length + labels.length
  /-- The wire form of the name is that of the labels of the stem and then that of the domain, and
  it exists if these do and fit into a name. -/
  toWire_iff (wire : List UInt8) : toWire name = .ok wire ↔
    ∃ rest, toWire domain = .ok rest ∧ (∀ label ∈ stem, (Utf8.encode label).length ≤ 63) ∧
      wire = (stem.flatMap fun label => Bytes.sized (Utf8.encode (lower label))) ++ rest ∧
      wire.length ≤ 255
  /-- The domain is as many steps nearer to the root as the stem has labels. -/
  ancestor_eq : parentZone^[stem.length] name = fqdn domain
  /-- The name has no empty label and one point at its end, unless a stem is below the root. -/
  fullyQualified_iff : FullyQualified name.toList ↔ stem = [] ∨ labels ≠ []

/-- The wire form of a stem in front of a domain is that of the labels of the stem and then that of
the domain, as far as they fit into a name. -/
theorem encode_stacked_iff {domain : String} {stem labels : List (List Char)}
    (hstem : ∀ label ∈ stem, IsLabel label) (hdomain : IsDomain domain labels)
    {wire : List UInt8} : encode (stacked stem labels) = .ok wire ↔
      ∃ rest, toWire domain = .ok rest ∧ (∀ label ∈ stem, (Utf8.encode label).length ≤ 63) ∧
        wire = (stem.flatMap fun label => Bytes.sized (Utf8.encode (lower label))) ++ rest ∧
        wire.length ≤ 255 := by
  have hpos : ∀ label ∈ stem.map fun label => Utf8.encode (lower label), 0 < label.length := by
    rw [List.forall_mem_map]
    intro label hlabel
    rw [length_encode_lower, List.length_pos_iff, ne_eq, Utf8.encode_eq_nil_iff]
    exact (hstem label hlabel).ne_nil
  have hshort : (∀ label ∈ stem.map fun label => Utf8.encode (lower label), label.length ≤ 63) ↔
      ∀ label ∈ stem, (Utf8.encode label).length ≤ 63 := by
    simp only [List.forall_mem_map, length_encode_lower]
  rw [encode_eq_ok_iff, wireLabels_stacked hstem hdomain.isLabel, List.map_append]
  simp only [toWire, encode_eq_ok_iff, hdomain.wireLabels_eq]
  generalize labels.map (fun label => Utf8.encode (lower label)) = last
  rw [← List.flatMap_map (fun label => Utf8.encode (lower label)) Bytes.sized stem]
  generalize stem.map (fun label => Utf8.encode (lower label)) = front at hpos hshort
  have hlength := LabelName.length_labelsToWire (front ++ last)
  constructor
  · rintro ⟨hvalid, rfl⟩
    have hsize := hvalid.size_le
    have hfront : ∀ label ∈ front, label.length ≤ 63 := fun label hlabel =>
      hvalid.short label (List.mem_append_left last hlabel)
    exact ⟨_, ⟨hvalid.of_suffix (List.suffix_append _ _), rfl⟩, hshort.mp hfront,
      LabelName.labelsToWire_append front last, by omega⟩
  · rintro ⟨_, ⟨hvalid, rfl⟩, hfront, rfl, hle⟩
    rw [← LabelName.labelsToWire_append] at hle ⊢
    have hall : LabelName.Valid (front ++ last) :=
      { pos := List.forall_mem_append.mpr ⟨hpos, hvalid.pos⟩
        short := List.forall_mem_append.mpr ⟨hshort.mpr hfront, hvalid.short⟩
        size_le := by omega }
    exact ⟨hall, rfl⟩

/-- The name of a stem in front of a domain tells the labels of both. -/
theorem below_stacked {domain : String} {stem labels : List (List Char)}
    (hstem : ∀ label ∈ stem, IsLabel label) (hdomain : IsDomain domain labels) :
    Below (String.ofList (stacked stem labels)) stem labels domain := by
  have hname : (String.ofList (stacked stem labels)).toList = stacked stem labels :=
    String.toList_ofList
  have hlabels := hdomain.isLabel
  constructor
  · rw [fqdn, hname, absolute_stacked hstem hlabels]
  · rw [hname, labelCount_stacked hstem hlabels]
  · intro wire
    rw [toWire, hname, encode_stacked_iff hstem hdomain]
  · rw [fqdn, hdomain.absolute_eq, parentZone_iterate_stacked hstem hlabels]
  · rw [hname, fullyQualified_stacked_iff hstem hlabels]

end Name

namespace Dictionary

open Name

/-- The stems of the dictionary. -/
def stems : List String := textStems ++ hostStems ++ serviceStems

/-- Each stem of the dictionary is empty or has labels with points between them. -/
theorem exists_isStem {text : String} (h : text = "" ∨ text ∈ stems) :
    ∃ stem, IsStem text stem := by
  have hparts : ∀ text ∈ stems, text = "" ∨ ∀ part ∈ parts text.toList, IsLabel part := by
    decide +kernel
  have hempty : IsStem "" [] := ⟨by simp, rfl⟩
  rcases h with rfl | hmem
  · exact ⟨[], hempty⟩
  · rcases hparts text hmem with rfl | hlabels
    · exact ⟨[], hempty⟩
    · exact ⟨parts text.toList, hlabels, (intercalate_parts text.toList).symm⟩

/-- Each probe of the dictionary puts one of its stems below the domain. -/
theorem exists_stem_of_mem_requests {domain : String} {r : ScanRequest}
    (h : r ∈ requests domain) :
    ∃ stem, IsStem r.stem stem ∧ r = .below r.recordType r.stem domain := by
  simp only [requests, List.mem_append, List.mem_map] at h
  rcases h with ((⟨type, -, rfl⟩ | ⟨text, htext, rfl⟩) | ⟨text, htext, rfl⟩) | ⟨text, htext, rfl⟩
  · obtain ⟨stem, hstem⟩ := exists_isStem (.inl (rfl : "" = ""))
    exact ⟨stem, hstem, rfl⟩
  all_goals
    have hmem : text ∈ stems := by simp [stems, htext]
    obtain ⟨stem, hstem⟩ := exists_isStem (.inr hmem)
    exact ⟨stem, hstem, rfl⟩

end Dictionary

namespace ScanRequest

open Name

/-- A probe asks for its stem in front of the domain. -/
theorem qname_below {text domain : String} {stem labels : List (List Char)}
    (hstem : IsStem text stem) (hdomain : IsDomain domain labels) (type : RecordType) :
    (below type text domain).qname = String.ofList (stacked stem labels) := by
  have habsolute : (fqdn domain).toList = join labels := by
    rw [toList_fqdn, hdomain.absolute_eq]
  rw [← String.toList_inj, String.toList_ofList, qname, below]
  simp only
  split
  · next hempty =>
    have hnil : ['.'].intercalate stem = [] := by
      rw [← hstem.toList_eq, String.toList_eq_nil_iff]
      exact String.isEmpty_iff.mp hempty
    cases stem with
    | nil => exact habsolute
    | cons label stem =>
      have hlabel := (hstem.isLabel label List.mem_cons_self).ne_nil
      exact absurd hnil (intercalate_ne_nil hlabel stem)
  · next hsome =>
    have hne : stem ≠ [] := by
      rintro rfl
      have htext : text = "" := String.toList_eq_nil_iff.mp hstem.toList_eq
      exact hsome (String.isEmpty_iff.mpr htext)
    have hjoin : join stem = stem.flatMap (· ++ ['.']) := if_neg hne
    have hpoint : ".".toList = ['.'] := rfl
    rw [String.toList_append, String.toList_append, hstem.toList_eq, habsolute, hpoint, ← join_eq,
      hjoin, stacked]

/-- A probe for a stem of labels asks for a name that tells these and the labels of the domain.
Every probe of the dictionary has such a stem, and in every run the question for the wildcard of a
domain is about the name of the probe with the stem of an asterisk. -/
theorem names_below_domain {domain : String} {labels : List (List Char)}
    (hdomain : IsDomain domain labels) :
    (∀ (type : RecordType) (text : String) (stem : List (List Char)), IsStem text stem →
      Below (below type text domain).qname stem labels domain) ∧
    (∀ r ∈ Dictionary.requests domain, ∃ stem, IsStem r.stem stem ∧
      Below r.qname stem labels domain) ∧
    ∀ (resolver server : Address) (calls : List Call) (records : List Record),
      ((Resolver.ofAddress resolver).wildcardRecords (fqdn domain) server).Run calls records →
      ∃ name reply, calls = [.query ⟨name, .a, true⟩ server reply] ∧
        name = (below .a "*" domain).qname ∧ Below name [['*']] labels domain := by
  have hbelow (type : RecordType) (text : String) (stem : List (List Char))
      (hstem : IsStem text stem) : Below (below type text domain).qname stem labels domain := by
    rw [qname_below hstem hdomain]
    exact below_stacked hstem.isLabel hdomain
  have hstar : IsStem "*" [['*']] := ⟨by decide, rfl⟩
  refine ⟨hbelow, fun r hr => ?_, fun resolver server calls records hrun => ?_⟩
  · obtain ⟨stem, hstem, hrequest⟩ := Dictionary.exists_stem_of_mem_requests hr
    refine ⟨stem, hstem, ?_⟩
    rw [hrequest]
    exact hbelow r.recordType r.stem stem hstem
  · obtain ⟨reply, rfl⟩ := Resolver.exists_of_run_wildcardRecords hrun
    have hname : "*." ++ fqdn domain = (below .a "*" domain).qname := by
      rw [qname, below]
      simp only [String.isEmpty_iff, String.reduceEq, if_false]
      rfl
    exact ⟨_, reply, rfl, hname, hname ▸ hbelow .a "*" [['*']] hstar⟩

/-- A service below a domain of two labels without a point at its end, the probe of the dictionary
for it, and a run of the question for the wildcard of the domain. -/
theorem names_below_domain_service :
    let labels := ["Example".toList, "COM".toList]
    let name := (below .srv "_sip._tcp" "Example.COM").qname
    IsDomain "Example.COM" labels ∧ IsStem "_sip._tcp" ["_sip".toList, "_tcp".toList] ∧
      name = "_sip._tcp.Example.COM." ∧ FullyQualified name.toList ∧ fqdn name = name ∧
      labelCount name.toList = 4 ∧
      toWire name = .ok [4, 95, 115, 105, 112, 4, 95, 116, 99, 112, 7, 101, 120, 97, 109, 112, 108,
        101, 3, 99, 111, 109, 0] ∧
      parentZone (parentZone name) = "Example.COM." ∧
      below .srv "_sip._tcp" "Example.COM" ∈ Dictionary.requests "Example.COM" ∧
      ∃ (resolver server : Address) (calls : List Call) (records : List Record) (asked : String),
        ((Resolver.ofAddress resolver).wildcardRecords (fqdn "Example.COM") server).Run calls
          records ∧ asked = "*.Example.COM." ∧ labelCount asked.toList = 3 := by
  intro labels name
  have hdomain : IsDomain "Example.COM" labels := ⟨by decide, .inl rfl⟩
  have hstem : IsStem "_sip._tcp" ["_sip".toList, "_tcp".toList] := ⟨by decide, rfl⟩
  obtain ⟨hbelow, hrequests, hwildcard⟩ := names_below_domain hdomain
  obtain ⟨habsolute, hcount, hwire, hparent, hqualified⟩ := hbelow .srv "_sip._tcp" _ hstem
  have hmem : below .srv "_sip._tcp" "Example.COM" ∈ Dictionary.requests "Example.COM" := by
    decide +kernel
  have hdomainWire : toWire "Example.COM" =
      .ok [7, 101, 120, 97, 109, 112, 108, 101, 3, 99, 111, 109, 0] := by decide +kernel
  have hbytes := (hwire _).mpr ⟨_, hdomainWire, by decide, rfl, by decide⟩
  let server : Address := .v4 ⟨192, 0, 2, 1⟩
  let world (_ : List Call) := Effect.reply
    { query := fun q _ => .error (.timeout q.name)
      transfer := fun zone _ => .error (.timeout zone) } 50
  obtain ⟨calls, -, hrun⟩ := Process.run_play world []
    ((Resolver.ofAddress server).wildcardRecords (fqdn "Example.COM") server)
  obtain ⟨asked, reply, -, hasked, hstar⟩ := hwildcard _ _ _ _ hrun
  have hname : asked = "*.Example.COM." := by
    rw [hasked]
    decide +kernel
  exact ⟨hdomain, hstem, by decide +kernel, hqualified.mpr (.inr (by decide)), habsolute, hcount,
    hbytes, hparent.trans (by decide +kernel), hmem, server, server, calls, _, asked, hrun, hname,
    hstar.labelCount_eq⟩

/-- The name of a probe below the root has an empty label and a point too many, and so has the name
that is asked for to find the wildcard of the root; no question can be asked about them. -/
theorem names_below_root :
    IsDomain "." [] ∧ IsStem "www" ["www".toList] ∧ IsStem "*" [['*']] ∧
      (below .a "www" ".").qname = "www.." ∧ ¬ FullyQualified "www..".toList ∧
      (Question.mk "www.." .a true).toWire 7 = .error (.invalidName "www..") ∧
      (below .a "*" ".").qname = "*.." ∧ ¬ FullyQualified "*..".toList ∧
      (Question.mk "*.." .a true).toWire 7 = .error (.invalidName "*..") := by
  have hnot {label : List Char} (hlabel : IsLabel label) :
      ¬ FullyQualified (stacked [label] []) := by
    rw [fullyQualified_stacked_iff (by simpa using hlabel) (by simp)]
    simp
  have hwww : IsLabel "www".toList := by decide
  have hstar : IsLabel ['*'] := by decide
  exact ⟨⟨by simp, .inr rfl⟩, ⟨by simpa using hwww, rfl⟩, ⟨by simpa using hstar, rfl⟩,
    by decide +kernel, hnot hwww, by decide +kernel, by decide +kernel, hnot hstar,
    by decide +kernel⟩

end ScanRequest

end DnsHealth
