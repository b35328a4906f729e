import DnsHealth.Address.Text
import DnsHealth.Proofs.Name.Presentation
import DnsHealth.Proofs.Text.Digits
import DnsHealth.Proofs.Text.Splitting
import DnsHealth.Text.Base64
import DnsHealth.Text.Quoted

/-!
# Control characters

What a text does to the output beyond being seen: the control characters and the two characters that
separate lines and paragraphs. The numbers, the digits and the addresses that this library prints
have none, and neither have quoted text and the presentation form of a name, whatever stands in the
text or in the name: their escapes are made for that.
-/

namespace DnsHealth

namespace Text

/-- Tells whether a character is one of the control characters, or separates lines or paragraphs. -/
def isControl (c : Char) : Bool :=
  c.toNat < 0x20 || (0x7F ≤ c.toNat && c.toNat < 0xA0) || c.toNat == 0x2028 || c.toNat == 0x2029

/-- The control characters of a text, in their order. -/
def controls (cs : List Char) : List Char := cs.filter isControl

/-- Printed ASCII characters are no control characters. -/
theorem isControl_of_lt {c : Char} (hlow : 0x20 ≤ c.toNat) (hhigh : c.toNat < 0x7F) :
    isControl c = false := by
  simp only [isControl, Bool.or_eq_false_iff, Bool.and_eq_false_iff, decide_eq_false_iff_not,
    beq_eq_false_iff_ne]
  omega

/-- A character with a printable code of ASCII is no control character. -/
theorem isControl_ofNat {n : Nat} (hlow : 0x20 ≤ n) (hhigh : n < 0x7F) :
    isControl (Char.ofNat n) = false := by
  have hn := LabelName.toNat_ofNat (show n < 256 by omega)
  exact isControl_of_lt (by omega) (by omega)

/-- A text has no control characters exactly if none of its characters is one. -/
theorem controls_eq_nil_iff {cs : List Char} :
    controls cs = [] ↔ ∀ c ∈ cs, isControl c = false := by
  simp [controls, List.filter_eq_nil_iff]

/-- A control character stands in a text just when it is among those of the text. -/
theorem mem_controls_iff {c : Char} (hc : isControl c = true) {cs : List Char} :
    c ∈ controls cs ↔ c ∈ cs := by
  rw [controls, List.mem_filter, and_iff_left hc]

@[simp] theorem controls_nil : controls [] = [] := rfl

@[simp] theorem controls_append (xs ys : List Char) :
    controls (xs ++ ys) = controls xs ++ controls ys := List.filter_append xs ys

private theorem controls_cons (c : Char) (cs : List Char) :
    controls (c :: cs) = controls [c] ++ controls cs :=
  controls_append [c] cs

/-- A blank is no control character. -/
@[simp] theorem controls_blank_cons (cs : List Char) : controls (' ' :: cs) = controls cs :=
  List.filter_cons_of_neg (by decide)

/-- The control characters of pieces in a row are those of each. -/
theorem controls_flatMap {α : Type} (f : α → List Char) (xs : List α) :
    controls (xs.flatMap f) = xs.flatMap fun x => controls (f x) := List.filter_flatMap

/-- A text that is put together from texts without control characters has none. -/
theorem controls_flatMap_eq_nil {α : Type} {f : α → List Char} {xs : List α}
    (h : ∀ x ∈ xs, controls (f x) = []) : controls (xs.flatMap f) = [] := by
  rw [controls_flatMap, List.flatMap_eq_nil_iff]
  exact h

/-- The separators of a list of texts add their control characters, if they have any. -/
theorem controls_intercalate {sep : List Char} (hsep : controls sep = [])
    (texts : List (List Char)) : controls (sep.intercalate texts) = texts.flatMap controls := by
  induction texts with
  | nil => rfl
  | cons text texts ih =>
    cases texts with
    | nil => simp
    | cons next texts =>
      rw [List.intercalate_cons_cons, controls_append, controls_append, hsep, List.append_nil, ih]
      rfl

section Digits

/-- The digits of a number are no control characters. -/
theorem controls_toDigits {base : Nat} (hbase : 1 < base) (hmax : base ≤ 16) (n : Nat) :
    controls (Nat.toDigits base n) = [] := by
  have hdigit : ∀ d < 16, isControl d.digitChar = false := by decide
  rw [controls_eq_nil_iff]
  intro c hc
  obtain ⟨d, hd, rfl⟩ := exists_digitChar_of_mem_toDigits hbase hc
  exact hdigit d (Nat.lt_of_lt_of_le hd hmax)

/-- Decimal digits are no control characters. -/
@[simp] theorem controls_decimal (n : Nat) : controls (Decimal.ofNat n).toList = [] := by
  rw [Decimal.ofNat, String.toList_ofList]
  exact controls_toDigits (by decide) (by decide) n

/-- Hexadecimal digits are no control characters. -/
theorem controls_hex (n : Nat) : controls (Hex.ofNat n) = [] :=
  controls_toDigits (by decide) (by decide) n

/-- The hexadecimal digits of bytes are no control characters. -/
theorem controls_upper (bytes : List UInt8) : controls (Hex.upper bytes) = [] := by
  have hdigit {n : Nat} (hn : n < 16) : isControl (Hex.upperDigit n) = false := by
    unfold Hex.upperDigit
    split
    · exact isControl_ofNat (by omega) (by omega)
    · exact isControl_ofNat (by omega) (by omega)
  refine controls_flatMap_eq_nil fun b _ => ?_
  have hlt := b.toNat_lt
  simp only [controls_eq_nil_iff, List.forall_mem_cons]
  exact ⟨hdigit (by omega), hdigit (by omega), by simp⟩

private theorem isControl_sextet (n : Nat) : isControl (Base64.sextet n) = false := by
  unfold Base64.sextet
  split
  · exact isControl_ofNat (by omega) (by omega)
  · split
    · exact isControl_ofNat (by omega) (by omega)
    · split
      · exact isControl_ofNat (by omega) (by omega)
      · split <;> rfl

/-- Base64 has no control characters. -/
theorem controls_base64 (bytes : List UInt8) : controls (Base64.encode bytes) = [] := by
  have hquartet (n : Nat) : ∀ c ∈ Base64.quartet n, isControl c = false := by
    simp [Base64.quartet, isControl_sextet]
  have htake (count n : Nat) : controls ((Base64.quartet n).take count) = [] :=
    controls_eq_nil_iff.mpr fun c hc => hquartet n c (List.mem_of_mem_take hc)
  fun_induction Base64.encode bytes with
  | case1 => rfl
  | case2 a => rw [controls_append, htake]; rfl
  | case3 a b => rw [controls_append, htake]; rfl
  | case4 a b c rest ih => rw [controls_append, ih, controls_eq_nil_iff.mpr (hquartet _)]; rfl

end Digits

/-- A character that is shown as it is inside quotes is no control character. -/
theorem isControl_of_isShown {c : Char} (h : isShown c = true) : isControl c = false := by
  rw [← Bool.not_eq_true]
  intro hc
  have hescaped (first last : Nat) (hrange : (first, last) ∈ escapedRanges) :
      ¬ (first ≤ c.toNat ∧ c.toNat ≤ last ∧ 0x80 ≤ c.toNat) := by
    rintro ⟨hfirst, hlast, hwide⟩
    have hany : escapedRanges.any (fun r => r.1 ≤ c.toNat && c.toNat ≤ r.2) = true :=
      List.any_eq_true.mpr ⟨(first, last), hrange, by simp [hfirst, hlast]⟩
    simp only [isShown, hany, Bool.not_true] at h
    rw [if_neg (by omega)] at h
    cases h
  -- Above the ASCII range the control characters lie in two of the escaped ranges.
  have hupper := hescaped 0x80 0xA0 (by decide +kernel)
  have hlines := hescaped 0x2028 0x202F (by decide +kernel)
  by_cases hascii : c.toNat < 0x80
  · simp only [isShown, if_pos hascii, Bool.and_eq_true, decide_eq_true_eq] at h
    rw [isControl_of_lt h.1 h.2] at hc
    cases hc
  · simp only [isControl, Bool.or_eq_true, Bool.and_eq_true, decide_eq_true_eq, beq_iff_eq] at hc
    omega

/-- Quoted text has no control characters, whatever is quoted. -/
@[simp] theorem controls_quote (s : String) : controls (Quoted.quote s).toList = [] := by
  have hescape (c : Char) : controls (Quoted.escape c) = [] := by
    unfold Quoted.escape
    -- The short escapes come first.
    iterate 6
      split
      · rfl
    split
    · next hshown =>
      rw [controls_eq_nil_iff, List.forall_mem_singleton]
      exact isControl_of_isShown hshown
    · rw [controls_append, controls_append, controls_hex]
      rfl
  rw [Quoted.quote, String.toList_ofList, Quoted.encode, controls_append, controls_cons,
    controls_flatMap_eq_nil fun c _ => hescape c]
  rfl

private theorem isControl_toLower (c : Char) : isControl c.toLower = isControl c := by
  have htoNat := Name.toNat_toLower c
  by_cases hc : 65 ≤ c.toNat ∧ c.toNat ≤ 90
  · rw [if_pos hc] at htoNat
    rw [isControl_of_lt (by omega) (by omega), isControl_of_lt (by omega) (by omega)]
  · rw [if_neg hc] at htoNat
    rw [Char.toNat_inj.mp htoNat]

/-- The control characters of a text stay when it is written in small letters. -/
@[simp] theorem controls_lower (cs : List Char) : controls (Name.lower cs) = controls cs := by
  have hsame : isControl ∘ Char.toLower = isControl := funext isControl_toLower
  have hkept : ∀ c ∈ cs.filter isControl, c.toLower = c := by
    intro c hc
    have hcontrol := (List.mem_filter.mp hc).2
    have hletter : ¬ (65 ≤ c.toNat ∧ c.toNat ≤ 90) := by
      intro h
      rw [isControl_of_lt (by omega) (by omega)] at hcontrol
      cases hcontrol
    rw [← Char.toNat_inj, Name.toNat_toLower, if_neg hletter]
  rw [controls, Name.lower, List.filter_map, hsame, List.map_congr_left hkept, List.map_id']
  rfl

end Text

section Addresses

open Text

@[simp] theorem Ipv4.controls_text (x : Ipv4) : controls x.text.toList = [] := by
  simp only [text, String.toList_append, controls_append, controls_decimal]
  rfl

private theorem Ipv6.controls_groupsText (groups : List UInt16) :
    controls (groupsText groups) = [] := by
  have hgroups : groupsText groups = [':'].intercalate (groups.map fun g => Hex.ofNat g.toNat) :=
    rfl
  rw [hgroups, controls_intercalate rfl, List.flatMap_map, List.flatMap_eq_nil_iff]
  exact fun g _ => controls_hex g.toNat

@[simp] theorem Ipv6.controls_text (x : Ipv6) : controls x.text.toList = [] := by
  unfold text
  split
  · next y _ =>
    rw [String.toList_append, controls_append, y.controls_text]
    rfl
  · rw [String.toList_ofList, shortened]
    simp only
    split
    · rw [controls_append, controls_append, controls_groupsText, controls_groupsText]
      rfl
    · exact controls_groupsText _

/-- The text of an address has no control characters. -/
@[simp] theorem Address.controls_text (x : Address) : controls x.text.toList = [] := by
  cases x with
  | v4 x => exact x.controls_text
  | v6 x => exact x.controls_text

end Addresses

namespace LabelName

open Text

/-- A character of ASCII that is seen where it is printed. -/
def Visible (c : Char) : Prop := 0x20 < c.toNat ∧ c.toNat < 0x7F

private theorem visible_ofNat {n : Nat} (hlow : 0x20 < n) (hhigh : n < 0x7F) :
    Visible (Char.ofNat n) := by
  rw [Visible, toNat_ofNat (by omega)]
  exact ⟨hlow, hhigh⟩

/-- The written form of a byte is seen: a byte that would stand for itself is printable, and of any
other the escape is. -/
theorem visible_escapeByte (first : Bool) (b : UInt8) : ∀ c ∈ escapeByte first b, Visible c := by
  have hlt := b.toNat_lt
  have hslash : Visible '\\' := ⟨by decide, by decide⟩
  have hoctal {n : Nat} (hn : n < 8) : Visible (octalDigit n) :=
    visible_ofNat (by omega) (by omega)
  by_cases h : Bare first b
  · have hbare : ∀ n < 128, isBare first (Char.ofNat n) = true →
        0x20 < (Char.ofNat n).toNat ∧ (Char.ofNat n).toNat < 0x7F := by
      cases first <;> decide +kernel
    rw [escapeByte_of_bare h, List.forall_mem_singleton]
    exact hbare _ h.1 h.2
  · rw [escapeByte_of_not_bare h]
    split
    · next hplain =>
      simp only [List.forall_mem_cons]
      exact ⟨hslash, visible_ofNat hplain.1 hplain.2, by simp⟩
    · simp only [List.forall_mem_cons]
      exact ⟨hslash, hoctal (by omega), hoctal (by omega), hoctal (by omega), by simp⟩

/-- All of the presentation form of a name is seen, whatever bytes its labels hold. -/
theorem visible_text (name : LabelName) : ∀ c ∈ name.text.toList, Visible c := by
  have hpoint : Visible '.' := ⟨by decide, by decide⟩
  have hlabel (label : List UInt8) : ∀ c ∈ labelText label, Visible c := by
    cases label with
    | nil => exact List.forall_mem_nil _
    | cons b bytes =>
      rw [labelText, List.forall_mem_append]
      refine ⟨visible_escapeByte true b, fun c hc => ?_⟩
      obtain ⟨b, -, hb⟩ := List.mem_flatMap.mp hc
      exact visible_escapeByte false b c hb
  rw [text, String.toList_ofList, chars, List.forall_mem_append]
  constructor
  · refine forall_mem_intercalate (by simpa using hpoint) ?_
    rw [List.forall_mem_map]
    exact fun label _ => hlabel label
  · intro c hc
    split at hc
    · rw [List.mem_singleton.mp hc]
      exact hpoint
    · cases hc

/-- The presentation form of a name has no control characters. -/
@[simp] theorem controls_text (name : LabelName) : controls name.text.toList = [] := by
  rw [controls_eq_nil_iff]
  intro c hc
  have hvisible := name.visible_text c hc
  exact isControl_of_lt (Nat.le_of_lt hvisible.1) hvisible.2

end LabelName

end DnsHealth
