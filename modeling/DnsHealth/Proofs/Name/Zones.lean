import DnsHealth.Proofs.Name.Count
import Mathlib.Data.String.Basic

/-!
# The way to the root

A step from a name towards the root takes something off the front of its absolute form, and this is
so for every text. So each name on the way takes fewer bytes than the one before, and the way ends
at the root. The way of a domain that is put together from labels leads over the names of its last
labels, one label fewer with each step, and on the wire each of them is what is left of the domain
behind the labels that are gone.
-/

namespace DnsHealth.Name

open Text

private theorem afterPoint_suffix (cs : List Char) : afterPoint cs <:+ cs :=
  (List.drop_suffix 1 _).trans (List.dropWhile_suffix _)

/-- The absolute form of the parent of a name stands at the end of the absolute form of the name. -/
theorem absolute_parent_suffix (name : List Char) :
    absolute (parent name) <:+ absolute name := by
  have hlast := getLast?_absolute name
  unfold parent
  simp only
  split
  · obtain ⟨front, hfront⟩ := List.getLast?_eq_some_iff.mp hlast
    rw [hfront]
    exact List.suffix_append front root
  · next hne =>
    have hrest := getLast?_afterPoint hlast hne
    exact (absolute_suffix hrest).trans (afterPoint_suffix _)

/-- The absolute form of the parent of a name other than the root takes fewer bytes than that of the
name. -/
theorem utf8ByteSize_fqdn_parentZone_lt {name : String} (h : isRoot name.toList = false) :
    (fqdn (parentZone name)).utf8ByteSize < (fqdn name).utf8ByteSize := by
  obtain ⟨front, hfront⟩ := absolute_parent_suffix name.toList
  have hne : front ≠ [] := by
    rintro rfl
    have hlt := length_absolute_parent_lt h
    rw [← hfront, List.nil_append] at hlt
    exact Nat.lt_irrefl _ hlt
  have hpos : 0 < String.utf8Len front := by
    rw [Nat.pos_iff_ne_zero]
    exact mt String.utf8Len_eq_zero.mp hne
  rw [fqdn, fqdn, toList_parentZone, String.utf8ByteSize_ofList, String.utf8ByteSize_ofList,
    ← hfront, String.utf8Len_append]
  omega

section Join

variable {label : List Char} {labels : List (List Char)}

/-- A text of labels with points between them becomes absolute by a point at its end. -/
theorem absolute_intercalate (hlabels : ∀ label ∈ labels, IsLabel label) (hne : labels ≠ []) :
    absolute (['.'].intercalate labels) = join labels := by
  obtain ⟨front, label, hlabel, heq⟩ := exists_intercalate_eq_append hne
  obtain ⟨cs, last, rfl⟩ : ∃ cs last, label = cs ++ [last] :=
    ⟨_, _, (List.dropLast_concat_getLast (hlabels label hlabel).ne_nil).symm⟩
  have hpoint : last ≠ '.' := by
    rintro rfl
    exact (hlabels _ hlabel).no_point (List.mem_append_right cs List.mem_cons_self)
  have hblank : isBlank last = false :=
    (hlabels _ hlabel).no_blank last (List.mem_append_right cs List.mem_cons_self)
  have hlast : (['.'].intercalate labels).getLast? = some last := by
    rw [heq]
    simp
  -- The first character is that of the name with its point.
  obtain ⟨c, rest, hfirst⟩ : ∃ c rest, ['.'].intercalate labels = c :: rest := by
    refine List.exists_cons_of_ne_nil fun hnil => ?_
    rw [hnil] at hlast
    cases hlast
  rcases join_eq_root_or hlabels with hnil | ⟨d, more, hjoin, -, hd⟩
  · exact absurd hnil hne
  · rw [join_eq, hfirst, List.cons_append, List.cons.injEq] at hjoin
    have htrim : trim (c :: rest) = c :: rest := by
      rw [hfirst] at hlast
      exact trim_eq_self (hjoin.1 ▸ hd) hlast hblank
    rw [join_eq, hfirst, absolute, htrim]
    simp only [reduceCtorEq, ite_false]
    rw [if_neg]
    rw [← hfirst, hlast, Option.some.injEq]
    exact hpoint

private theorem isRoot_join_cons (hlabels : ∀ l ∈ label :: labels, IsLabel l) :
    isRoot (join (label :: labels)) = false := by
  rcases join_eq_root_or hlabels with hnil | ⟨c, rest, hjoin, hc, -⟩
  · cases hnil
  · rw [isRoot, absolute_join hlabels, hjoin, root]
    simp [hc]

/-- The parent of a name of labels is the name of the labels after the first. -/
theorem parent_join_cons (hlabels : ∀ l ∈ label :: labels, IsLabel l) :
    parent (join (label :: labels)) = join labels := by
  have hrest : afterPoint (join (label :: labels)) = labels.flatMap (· ++ ['.']) := by
    have hnopoint : ∀ c ∈ label, (c != '.') = true := by
      intro c hc
      rw [bne_iff_ne]
      rintro rfl
      exact (hlabels label List.mem_cons_self).no_point hc
    rw [join, if_neg (List.cons_ne_nil _ _), List.flatMap_cons, afterPoint, List.append_assoc,
      List.dropWhile_append_of_pos hnopoint]
    rfl
  rw [parent, absolute_join hlabels, hrest, join]
  cases labels with
  | nil => rfl
  | cons next labels => simp

/-- The zones from a name of labels up to the root are the names of its last labels. -/
theorem zonesFrom_join (hlabels : ∀ label ∈ labels, IsLabel label) :
    zonesFrom (String.ofList (join labels)) =
      (List.range labels.length).map fun count => String.ofList (join (labels.drop count)) := by
  induction labels with
  | nil =>
    have hroot : isRoot (String.ofList (join [])).toList = true := by
      rw [String.toList_ofList]
      decide
    rw [zonesFrom_of_isRoot hroot]
    rfl
  | cons label labels ih =>
    have hroot := isRoot_join_cons hlabels
    have hparent := parent_join_cons hlabels
    obtain ⟨-, hrest⟩ := List.forall_mem_cons.mp hlabels
    have hname : (String.ofList (join (label :: labels))).toList = join (label :: labels) :=
      String.toList_ofList
    -- The first name is the domain itself, and the others are those of its parent.
    rw [zonesFrom_of_not_isRoot (by rw [hname, hroot]), parentZone, hname, hparent, ih hrest,
      List.length_cons, List.range_succ_eq_map, List.map_cons, List.map_map]
    rfl

/-- The zones on the way of a domain of labels are the names of its last labels, whether or not it
ends in a point. -/
theorem zonesToRoot_of_labels {domain : String} (hlabels : ∀ label ∈ labels, IsLabel label)
    (hne : labels ≠ [])
    (hdomain : domain.toList = ['.'].intercalate labels ∨
      domain.toList = ['.'].intercalate labels ++ ['.']) :
    zonesToRoot domain =
      (List.range labels.length).map fun count => String.ofList (join (labels.drop count)) := by
  have habsolute : absolute domain.toList = join labels := by
    rcases hdomain with h | h
    · rw [h, absolute_intercalate hlabels hne]
    · rw [h, ← join_eq, absolute_join hlabels]
  rw [← zonesFrom_join hlabels, zonesFrom, zonesToRoot, habsolute, String.toList_ofList]

/-- The wire form of a name of labels consists of its first labels and of the wire form of the name
of the others. -/
theorem toWire_join_drop (hlabels : ∀ label ∈ labels, IsLabel label) {wire : List UInt8}
    (h : toWire (String.ofList (join labels)) = .ok wire) (count : Nat) :
    ∃ rest, toWire (String.ofList (join (labels.drop count))) = .ok rest ∧
      wire = ((labels.take count).flatMap fun label => Bytes.sized (Utf8.encode (lower label))) ++
        rest := by
  have hdrop : ∀ label ∈ labels.drop count, IsLabel label := fun label hlabel =>
    hlabels label (List.mem_of_mem_drop hlabel)
  rw [toWire, String.toList_ofList, encode_eq_ok_iff, wireLabels_join hlabels] at h
  obtain ⟨hvalid, rfl⟩ := h
  refine ⟨LabelName.labelsToWire ((labels.drop count).map fun label => Utf8.encode (lower label)),
    ?_, ?_⟩
  · rw [toWire, String.toList_ofList, encode_eq_ok_iff, wireLabels_join hdrop]
    refine ⟨hvalid.of_suffix ?_, rfl⟩
    rw [List.map_drop]
    exact List.drop_suffix _ _
  · conv_lhs => rw [← List.take_append_drop count labels, List.map_append]
    rw [LabelName.labelsToWire_append, List.flatMap_map]

end Join

/-- Of every text, the way to the root ends there, and the absolute forms of the names on it take
fewer bytes with each step. The way of a domain of labels leads over the names of its last labels.
Each has as many labels as it is made of, and a wire form if the domain has one, which is then what
follows the labels that are gone in the wire form of the domain. -/
theorem way_to_root (domain : String) :
    (∃ count, isRoot (ancestor domain count).toList = true ∧
      (∀ steps < count, isRoot (ancestor domain steps).toList = false) ∧
      zonesToRoot domain = (List.range count).map (ancestor domain)) ∧
    (∀ steps, isRoot (ancestor domain steps).toList = false →
      (fqdn (ancestor domain (steps + 1))).utf8ByteSize <
        (fqdn (ancestor domain steps)).utf8ByteSize) ∧
    ∀ labels : List (List Char), labels ≠ [] → (∀ label ∈ labels, IsLabel label) →
      (domain.toList = ['.'].intercalate labels ∨
        domain.toList = ['.'].intercalate labels ++ ['.']) →
      let zone (count : Nat) : String := String.ofList (join (labels.drop count))
      zonesToRoot domain = (List.range labels.length).map zone ∧
      ∀ count < labels.length, labelCount (zone count).toList = labels.length - count ∧
        ∀ wire, toWire (zone 0) = .ok wire → ∃ rest, toWire (zone count) = .ok rest ∧
          wire = ((labels.take count).flatMap fun label =>
            Bytes.sized (Utf8.encode (lower label))) ++ rest := by
  refine ⟨?_, fun steps hroot => ?_, fun labels hne hlabels hdomain => ?_⟩
  · obtain ⟨count, hzones, hend⟩ := exists_zonesToRoot_eq domain
    refine ⟨count, ?_, fun steps hsteps => (hend steps).mpr hsteps, hzones⟩
    have hlast := mt (hend count).mp (Nat.lt_irrefl count)
    exact Bool.eq_true_of_not_eq_false hlast
  · rw [ancestor_succ]
    exact utf8ByteSize_fqdn_parentZone_lt hroot
  · intro zone
    refine ⟨zonesToRoot_of_labels hlabels hne hdomain, fun count _ => ⟨?_, fun wire hwire => ?_⟩⟩
    · have hdrop : ∀ label ∈ labels.drop count, IsLabel label := fun label hlabel =>
        hlabels label (List.mem_of_mem_drop hlabel)
      rw [String.toList_ofList, labelCount_join hdrop, List.length_drop]
    · exact toWire_join_drop hlabels hwire count

/-- A domain of three labels without a point at its end, and its way by three zones. -/
theorem way_to_root_host :
    let labels := ["WWW".toList, "Example".toList, "COM".toList]
    (∀ label ∈ labels, IsLabel label) ∧ "WWW.Example.COM".toList = ['.'].intercalate labels ∧
      isRoot (ancestor "WWW.Example.COM" 0).toList = false ∧
      (fqdn (ancestor "WWW.Example.COM" 1)).utf8ByteSize <
        (fqdn (ancestor "WWW.Example.COM" 0)).utf8ByteSize ∧
      zonesToRoot "WWW.Example.COM" = ["WWW.Example.COM.", "Example.COM.", "COM."] ∧
      labelCount "Example.COM.".toList = 2 ∧
      toWire "WWW.Example.COM." =
        .ok [3, 119, 119, 119, 7, 101, 120, 97, 109, 112, 108, 101, 3, 99, 111, 109, 0] ∧
      toWire "Example.COM." = .ok [7, 101, 120, 97, 109, 112, 108, 101, 3, 99, 111, 109, 0] := by
  intro labels
  have hlabels : ∀ label ∈ labels, IsLabel label := by decide
  have hdomain : "WWW.Example.COM".toList = ['.'].intercalate labels := by decide
  have hbelow : isRoot (ancestor "WWW.Example.COM" 0).toList = false := by decide
  obtain ⟨-, hshorter, hway⟩ := way_to_root "WWW.Example.COM"
  obtain ⟨hzones, hzone⟩ := hway labels (by decide) hlabels (.inl hdomain)
  obtain ⟨hcount, hwire⟩ := hzone 1 (by decide)
  have hdomainWire : toWire "WWW.Example.COM." =
      .ok [3, 119, 119, 119, 7, 101, 120, 97, 109, 112, 108, 101, 3, 99, 111, 109, 0] := by
    decide +kernel
  obtain ⟨rest, hrest, hparts⟩ := hwire _ hdomainWire
  have hfirst : ((labels.take 1).flatMap fun label => Bytes.sized (Utf8.encode (lower label))) =
      [3, 119, 119, 119] := by decide
  rw [hfirst] at hparts
  have hsame : _ = rest := congrArg (List.drop 4) hparts
  rw [← hsame] at hrest
  exact ⟨hlabels, hdomain, hbelow, hshorter 0 hbelow, hzones, hcount, hdomainWire, hrest⟩

end DnsHealth.Name
