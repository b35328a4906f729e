import DnsHealth.Name.Basic
import Mathlib.Logic.Function.Iterate

/-!
# The ancestors of a name

A name in absolute form stays as it is when it is put in absolute form again, so a name and its
absolute form have the same parent. The zones on the way from a domain to the root are the absolute
form of the domain, its parent, the parent of that and so on, up to the last one that is not the
root.
-/

namespace DnsHealth.Name

open Text

/-- A text whose two ends are no blanks stays as it is when blanks are trimmed. -/
theorem trim_eq_self {c last : Char} {rest : List Char} (hc : isBlank c = false)
    (hlast : (c :: rest).getLast? = some last) (hblank : isBlank last = false) :
    trim (c :: rest) = c :: rest := by
  obtain ⟨front, hfront⟩ := List.getLast?_eq_some_iff.mp hlast
  have hstart : trimStart (c :: rest) = c :: rest := by
    rw [trimStart, List.dropWhile_cons_of_neg (by simp [hc])]
  rw [trim, hstart, hfront, trimEnd_append_singleton front hblank]

/-- A trimmed text does not begin with a blank. -/
theorem isBlank_of_trim_eq_cons {cs rest : List Char} {c : Char} (h : trim cs = c :: rest) :
    isBlank c = false := by
  have hprefix : trim cs <+: trimStart cs := by
    have hsuffix := List.dropWhile_suffix isBlank (l := (trimStart cs).reverse)
    have hreversed := List.reverse_prefix.mpr hsuffix
    rwa [List.reverse_reverse] at hreversed
  rw [h] at hprefix
  obtain ⟨more, hmore⟩ := hprefix
  have hhead := List.head?_dropWhile_not isBlank cs
  rw [← trimStart, ← hmore] at hhead
  simpa using hhead

/-- The absolute form of a name begins with a character that is no blank. -/
theorem exists_absolute_eq_cons (name : List Char) :
    ∃ c rest, absolute name = c :: rest ∧ isBlank c = false := by
  unfold absolute root
  simp only
  split
  · exact ⟨'.', [], rfl, by decide⟩
  · cases htrim : trim name with
    | nil => contradiction
    | cons c rest =>
      split
      · exact ⟨c, rest, rfl, isBlank_of_trim_eq_cons htrim⟩
      · exact ⟨c, rest ++ ['.'], rfl, isBlank_of_trim_eq_cons htrim⟩

/-- The absolute form of a name is in absolute form. -/
@[simp] theorem absolute_absolute (name : List Char) :
    absolute (absolute name) = absolute name := by
  obtain ⟨c, rest, hcons, hc⟩ := exists_absolute_eq_cons name
  have hlast := getLast?_absolute name
  rw [hcons] at hlast ⊢
  have htrim := trim_eq_self hc hlast (by decide)
  simp only [absolute, htrim, hlast, reduceCtorEq, ite_false, ite_true]

@[simp] theorem toList_fqdn (name : String) : (fqdn name).toList = absolute name.toList :=
  String.toList_ofList

@[simp] theorem toList_parentZone (name : String) :
    (parentZone name).toList = parent name.toList :=
  String.toList_ofList

@[simp] theorem fqdn_fqdn (name : String) : fqdn (fqdn name) = fqdn name := by
  rw [fqdn, toList_fqdn, absolute_absolute, fqdn]

/-- A name and its absolute form have the same parent. -/
@[simp] theorem parentZone_fqdn (name : String) : parentZone (fqdn name) = parentZone name := by
  simp only [parentZone, parent, toList_fqdn, absolute_absolute]

/-- The parent of the root is the root. -/
theorem isRoot_parent {name : List Char} (h : isRoot name = true) :
    isRoot (parent name) = true := by
  have habsolute : absolute name = root := by simpa only [isRoot, beq_iff_eq] using h
  have hparent : parent name = root := by
    rw [parent, habsolute]
    decide
  rw [hparent]
  decide

/-- The ancestor of a domain that so many steps towards the root lead to, beginning with its
absolute form. -/
def ancestor (domain : String) (steps : Nat) : String := parentZone^[steps] (fqdn domain)

@[simp] theorem ancestor_zero (domain : String) : ancestor domain 0 = fqdn domain := rfl

/-- One step further is the parent zone. -/
theorem ancestor_succ (domain : String) (steps : Nat) :
    ancestor domain (steps + 1) = parentZone (ancestor domain steps) :=
  Function.iterate_succ_apply' parentZone steps (fqdn domain)

/-- Steps on the way to the root add up. -/
theorem fqdn_ancestor_ancestor (domain : String) (steps more : Nat) :
    fqdn (ancestor (ancestor domain steps) more) = fqdn (ancestor domain (steps + more)) := by
  induction more with
  | zero => rw [ancestor_zero, fqdn_fqdn, Nat.add_zero]
  | succ more ih =>
    rw [ancestor_succ, ← Nat.add_assoc, ancestor_succ, ← parentZone_fqdn, ih, parentZone_fqdn]

/-- An ancestor of an ancestor is the root exactly if that of as many steps together is. -/
theorem isRoot_ancestor_ancestor (domain : String) (steps more : Nat) :
    isRoot (ancestor (ancestor domain steps) more).toList =
      isRoot (ancestor domain (steps + more)).toList := by
  have habsolute := congrArg String.toList (fqdn_ancestor_ancestor domain steps more)
  rw [toList_fqdn, toList_fqdn] at habsolute
  rw [isRoot, habsolute, isRoot]

/-- Beyond the root there is only the root. -/
theorem isRoot_ancestor_mono {domain : String} {steps more : Nat} (hle : steps ≤ more)
    (h : isRoot (ancestor domain steps).toList = true) :
    isRoot (ancestor domain more).toList = true := by
  obtain ⟨extra, rfl⟩ := Nat.exists_eq_add_of_le hle
  induction extra with
  | zero => exact h
  | succ extra ih =>
    rw [← Nat.add_assoc, ancestor_succ, toList_parentZone]
    exact isRoot_parent (ih (Nat.le_add_right steps extra))

/-- The zones from a name up to the root. -/
def zonesFrom (name : String) : List String := (ancestry name.toList).map String.ofList

/-- No zone stands on the way from the root. -/
theorem zonesFrom_of_isRoot {name : String} (h : isRoot name.toList = true) :
    zonesFrom name = [] := by
  rw [zonesFrom, ancestry]
  simp [h]

/-- The way from any other name begins with the name. -/
theorem zonesFrom_of_not_isRoot {name : String} (h : isRoot name.toList = false) :
    zonesFrom name = name :: zonesFrom (parentZone name) := by
  rw [zonesFrom, ancestry]
  simp [h, zonesFrom]

/-- From an ancestor on, the zones up to the root are the further ancestors before the root. -/
theorem exists_zonesFrom_ancestor (domain : String) (steps : Nat) :
    ∃ count, zonesFrom (ancestor domain steps) =
        (List.range' steps count).map (ancestor domain) ∧
      ∀ more, isRoot (ancestor domain (steps + more)).toList = false ↔ more < count := by
  -- Each step shortens the absolute form, which measures how much of the way is left.
  induction hlength : (absolute (ancestor domain steps).toList).length using Nat.strongRecOn
    generalizing steps with
  | ind length ih =>
    cases hroot : isRoot (ancestor domain steps).toList with
    | true =>
      refine ⟨0, zonesFrom_of_isRoot hroot, fun more => ?_⟩
      rw [isRoot_ancestor_mono (Nat.le_add_right steps more) hroot]
      simp
    | false =>
      have hlt := length_absolute_parent_lt hroot
      rw [← toList_parentZone, ← ancestor_succ, hlength] at hlt
      obtain ⟨count, hzones, hend⟩ := ih _ hlt (steps + 1) rfl
      refine ⟨count + 1, ?_, fun more => ?_⟩
      · rw [zonesFrom_of_not_isRoot hroot, ← ancestor_succ, hzones, List.range'_succ, List.map_cons]
      · cases more with
        | zero => simp [hroot]
        | succ more =>
          rw [Nat.add_comm more 1, ← Nat.add_assoc, hend more]
          omega

/-- The zones on the way from a domain to the root are its ancestors before the root. -/
theorem exists_zonesToRoot_eq (domain : String) :
    ∃ count, zonesToRoot domain = (List.range count).map (ancestor domain) ∧
      ∀ steps, isRoot (ancestor domain steps).toList = false ↔ steps < count := by
  obtain ⟨count, hzones, hend⟩ := exists_zonesFrom_ancestor domain 0
  refine ⟨count, ?_, fun steps => by simpa using hend steps⟩
  rw [List.range_eq_range', ← hzones, zonesToRoot, zonesFrom, ancestor_zero, toList_fqdn]

end DnsHealth.Name
