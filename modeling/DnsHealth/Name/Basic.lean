import DnsHealth.Text.Blank

/-!
# Domain names as text

A name is a text of labels with points between them, and the root is a single point. The absolute
form of a text has its blanks at both ends removed and a point at its end; the parent of a name
loses everything up to its first point. Taking parents comes to the root in finitely many steps,
because the absolute form becomes strictly shorter with each, and so `ancestry` lists a name and all
its ancestors below the root.
-/

namespace DnsHealth.Name

open Text

/-- The root name. -/
def root : List Char := ['.']

/-- A name in absolute form: trimmed, and with a point at its end. -/
def absolute (name : List Char) : List Char :=
  let trimmed := trim name
  if trimmed = [] then root
  else if trimmed.getLast? = some '.' then trimmed
  else trimmed ++ ['.']

/-- Tells whether a name is the root. -/
def isRoot (name : List Char) : Bool := absolute name == root

/-- What follows the first point of a text. -/
def afterPoint (cs : List Char) : List Char := (cs.dropWhile (· != '.')).drop 1

/-- A name without its first label, which is the root for names of one label and for the root. -/
def parent (name : List Char) : List Char :=
  let rest := afterPoint (absolute name)
  if rest = [] then root else rest

/-- A text without the points at its end. -/
def trimPoints (cs : List Char) : List Char := (cs.reverse.dropWhile (· == '.')).reverse

/-- The parts of a text between its points. -/
def parts (cs : List Char) : List (List Char) := cs.splitOn '.'

/-- The number of labels of a name, the root label not counted. -/
def labelCount (name : List Char) : Nat :=
  if isRoot name then 0 else (parts (trimPoints (absolute name))).length

/-- A text with its ASCII letters in small form. -/
def lower (cs : List Char) : List Char := cs.map Char.toLower

/-- Tells whether two texts name the same domain, up to the case of ASCII letters. -/
def same (a b : List Char) : Bool := lower (absolute a) == lower (absolute b)

theorem getLast?_absolute (name : List Char) : (absolute name).getLast? = some '.' := by
  unfold absolute root
  simp only
  split
  · rfl
  · split
    · assumption
    · simp

theorem absolute_ne_nil (name : List Char) : absolute name ≠ [] := by
  intro h
  have := getLast?_absolute name
  simp [h] at this

/-- The absolute form of a text that ends in a point is what is left of it without the blanks in
front. -/
theorem absolute_suffix {name : List Char} (h : name.getLast? = some '.') :
    absolute name <:+ name := by
  obtain ⟨front, rfl⟩ := List.getLast?_eq_some_iff.1 h
  have hstart : ∃ rest, trimStart (front ++ ['.']) = rest ++ ['.'] := by
    induction front with
    | nil => exact ⟨[], by decide⟩
    | cons c front ih =>
      unfold trimStart at ih ⊢
      rw [List.cons_append, List.dropWhile_cons]
      split
      · exact ih (by simp)
      · exact ⟨c :: front, rfl⟩
  obtain ⟨rest, hrest⟩ := hstart
  have htrim : trim (front ++ ['.']) = rest ++ ['.'] := by
    rw [trim, hrest, trimEnd_append_singleton _ (by decide)]
  have habsolute : absolute (front ++ ['.']) = trimStart (front ++ ['.']) := by
    simp [absolute, htrim, hrest]
  rw [habsolute]
  exact List.dropWhile_suffix _

/-- A text that ends in a point is no longer in absolute form. -/
theorem length_absolute_le {name : List Char} (h : name.getLast? = some '.') :
    (absolute name).length ≤ name.length :=
  (absolute_suffix h).length_le

theorem length_afterPoint_lt {cs : List Char} (h : cs ≠ []) :
    (afterPoint cs).length < cs.length := by
  have hdrop := (List.dropWhile_sublist (· != '.') (l := cs)).length_le
  have hpos : 0 < cs.length := List.length_pos_iff.2 h
  simp only [afterPoint, List.length_drop]
  omega

theorem getLast?_afterPoint {cs : List Char} (h : cs.getLast? = some '.')
    (hne : afterPoint cs ≠ []) : (afterPoint cs).getLast? = some '.' := by
  obtain ⟨front, hfront⟩ : ∃ front, cs = front ++ afterPoint cs :=
    ⟨cs.takeWhile (· != '.') ++ (cs.dropWhile (· != '.')).take 1, by
      rw [List.append_assoc, afterPoint, List.take_append_drop, List.takeWhile_append_dropWhile]⟩
  rw [hfront, List.getLast?_append] at h
  rw [List.getLast?_eq_some_getLast hne] at h ⊢
  simpa using h

/-- The parent of a name other than the root has a strictly shorter absolute form. -/
theorem length_absolute_parent_lt {name : List Char} (h : isRoot name = false) :
    (absolute (parent name)).length < (absolute name).length := by
  have hlast := getLast?_absolute name
  unfold parent
  simp only
  split
  · have hne : absolute name ≠ root := by simpa [isRoot] using h
    have hroot : absolute root = root := by decide
    rw [hroot]
    obtain ⟨front, hfront⟩ := List.getLast?_eq_some_iff.1 hlast
    rw [hfront] at hne ⊢
    cases front with
    | nil => exact absurd rfl hne
    | cons c front => simp [root]
  · next hne =>
    exact Nat.lt_of_le_of_lt (length_absolute_le (getLast?_afterPoint hlast hne))
      (length_afterPoint_lt (absolute_ne_nil name))

/-- A name and its ancestors, nearest first, the root left out. -/
def ancestry (name : List Char) : List (List Char) :=
  if _h : isRoot name = false then name :: ancestry (parent name) else []
termination_by (absolute name).length
decreasing_by exact length_absolute_parent_lt _h

/-- The absolute form of a name, as a string. -/
def fqdn (name : String) : String := String.ofList (absolute name.toList)

/-- The parent of a name, as a string. -/
def parentZone (name : String) : String := String.ofList (parent name.toList)

/-- The zones on the way from a domain up to the root, the root left out. -/
def zonesToRoot (domain : String) : List String :=
  (ancestry (absolute domain.toList)).map String.ofList

/-- Tells whether two strings name the same domain, up to the case of ASCII letters. -/
def eqIgnoreCase (a b : String) : Bool := same a.toList b.toList

end DnsHealth.Name
