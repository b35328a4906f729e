import DnsHealth.Proofs.Bytes
import DnsHealth.Proofs.Text.Digits
import DnsHealth.Text.Quoted

/-!
# Quoted text read back

The written form of a character inside quotes tells the character and where it ends, and none begins
with a quote. So quoted text ends at the first quote that stands for itself, and a list of quoted
texts with blanks between tells the texts, blanks and quotes inside them or not: the empty list is
told from that of one empty text.
-/

namespace DnsHealth.Text.Quoted

/-- Reads the character for which an escape stands, behind its backslash. -/
def readEscape : List Char → Option (Char × List Char)
  | 't' :: rest => some ('\t', rest)
  | 'n' :: rest => some ('\n', rest)
  | 'r' :: rest => some ('\r', rest)
  | '0' :: rest => some ('\x00', rest)
  | '"' :: rest => some ('"', rest)
  | '\\' :: rest => some ('\\', rest)
  | 'u' :: '\x7b' :: digits => do
    let (code, rest) ← readDigits Hex.digit? 16 6 0 digits
    match rest with
    | '\x7d' :: rest => some (Char.ofNat code, rest)
    | _ => none
  | _ => none

/-- Reads a character off text inside quotes, unless the closing quote comes first. -/
def readChar : List Char → Option (Char × List Char)
  | [] => none
  | c :: rest =>
    if c = '"' then none
    else if c = '\\' then readEscape rest
    else some (c, rest)

private theorem readEscape_code (c : Char) (rest : List Char) :
    readEscape ('u' :: '\x7b' :: (Hex.ofNat c.toNat ++ '\x7d' :: rest)) = some (c, rest) := by
  have hvalid : c.toNat < 0xD800 ∨ 0xDFFF < c.toNat ∧ c.toNat < 0x110000 := c.valid
  have hlength : (Nat.toDigits 16 c.toNat).length ≤ 6 :=
    (Nat.length_toDigits_le_iff (by decide) (by decide)).mpr (by omega)
  have hend : NoDigit Hex.digit? ('\x7d' :: rest) := by
    rintro d ⟨⟩
    rfl
  have hread := readDigits_toDigits (by decide) Hex.digit?_digitChar hlength hend
  simp only [readEscape, Hex.ofNat, hread, Option.bind_eq_bind, Option.bind_some, Char.ofNat_toNat]

/-- A character reads back from its written form, and what follows is left. -/
theorem readChar_escape_append (c : Char) (rest : List Char) :
    readChar (escape c ++ rest) = some (c, rest) := by
  unfold escape
  by_cases htab : c = '\t'
  · rw [if_pos htab, htab]; rfl
  rw [if_neg htab]
  by_cases hfeed : c = '\n'
  · rw [if_pos hfeed, hfeed]; rfl
  rw [if_neg hfeed]
  by_cases hreturn : c = '\r'
  · rw [if_pos hreturn, hreturn]; rfl
  rw [if_neg hreturn]
  by_cases hnull : c = '\x00'
  · rw [if_pos hnull, hnull]; rfl
  rw [if_neg hnull]
  by_cases hquote : c = '"'
  · rw [if_pos hquote, hquote]; rfl
  rw [if_neg hquote]
  by_cases hslash : c = '\\'
  · rw [if_pos hslash, hslash]; rfl
  rw [if_neg hslash]
  by_cases hshown : isShown c = true
  · rw [if_pos hshown, List.singleton_append, readChar, if_neg hquote, if_neg hslash]
  · rw [if_neg hshown]
    simp only [List.cons_append, List.nil_append, List.append_assoc]
    exact readEscape_code c rest

/-- Text inside quotes ends at the first quote that is not part of a written character. -/
theorem flatMap_escape_append_inj {xs ys rest tail : List Char}
    (h : xs.flatMap escape ++ '"' :: rest = ys.flatMap escape ++ '"' :: tail) :
    xs = ys ∧ rest = tail := by
  have hquote (cs : List Char) : readChar ('"' :: cs) = none := rfl
  induction xs generalizing ys with
  | nil =>
    cases ys with
    | nil => exact ⟨rfl, (List.cons.inj h).2⟩
    | cons d ys =>
      rw [List.flatMap_nil, List.nil_append, List.flatMap_cons, List.append_assoc] at h
      have hread := readChar_escape_append d (ys.flatMap escape ++ '"' :: tail)
      rw [← h, hquote] at hread
      cases hread
  | cons c xs ih =>
    rw [List.flatMap_cons, List.append_assoc] at h
    have hread := readChar_escape_append c (xs.flatMap escape ++ '"' :: rest)
    cases ys with
    | nil =>
      rw [h, List.flatMap_nil, List.nil_append, hquote] at hread
      cases hread
    | cons d ys =>
      rw [h, List.flatMap_cons, List.append_assoc, readChar_escape_append] at hread
      obtain ⟨rfl, hmore⟩ := Prod.mk.inj (Option.some.inj hread)
      obtain ⟨rfl, hrest⟩ := ih hmore.symm
      exact ⟨rfl, hrest⟩

/-- A quoted text is told from what follows it. -/
theorem encode_append_inj {xs ys rest tail : List Char}
    (h : encode xs ++ rest = encode ys ++ tail) : xs = ys ∧ rest = tail := by
  simp only [encode, List.cons_append, List.append_assoc, List.nil_append] at h
  exact flatMap_escape_append_inj (List.cons.inj h).2

private theorem encode_ne_nil (cs : List Char) : encode cs ≠ [] := List.cons_ne_nil _ _

/-- No two texts are quoted alike. -/
@[simp] theorem encode_inj {xs ys : List Char} : encode xs = encode ys ↔ xs = ys := by
  constructor
  · intro h
    exact (encode_append_inj (congrArg (· ++ []) h)).1
  · exact congrArg encode

/-- Texts with the same quotation are the same. -/
@[simp] theorem quote_inj {s t : String} : quote s = quote t ↔ s = t := by
  rw [quote, quote, String.ofList_inj, encode_inj, String.toList_inj]

private theorem toList_intercalate_quote (s : String) (strings : List String) :
    (" ".intercalate ((s :: strings).map quote)).toList =
      encode s.toList ++ strings.flatMap fun t => ' ' :: encode t.toList := by
  induction strings generalizing s with
  | nil => simp [quote]
  | cons next strings ih =>
    have hnext := ih next
    simp only [String.toList_intercalate, List.map_cons] at hnext ⊢
    rw [List.intercalate_cons_cons, hnext]
    simp [quote]

/-- Quoted texts with blanks between tell the texts, and how many there are. -/
theorem intercalate_quote_inj {xs ys : List String}
    (h : " ".intercalate (xs.map quote) = " ".intercalate (ys.map quote)) : xs = ys := by
  replace h := congrArg String.toList h
  cases xs with
  | nil =>
    cases ys with
    | nil => rfl
    | cons y ys =>
      rw [toList_intercalate_quote] at h
      exact absurd (List.append_eq_nil_iff.mp h.symm).1 (encode_ne_nil _)
  | cons x xs =>
    cases ys with
    | nil =>
      rw [toList_intercalate_quote] at h
      exact absurd (List.append_eq_nil_iff.mp h).1 (encode_ne_nil _)
    | cons y ys =>
      rw [toList_intercalate_quote, toList_intercalate_quote] at h
      obtain ⟨hfirst, hothers⟩ := encode_append_inj h
      have hpiece (s t : String) (rest tail : List Char) (_ : True) (_ : True)
          (hst : ' ' :: encode s.toList ++ rest = ' ' :: encode t.toList ++ tail) :
          s = t ∧ rest = tail := by
        obtain ⟨hchars, hrest⟩ := encode_append_inj (List.cons.inj hst).2
        exact ⟨String.toList_inj.mp hchars, hrest⟩
      have hsame : xs = ys :=
        Bytes.flatMap_inj (fun _ => True) (fun _ => List.cons_ne_nil _ _) hpiece (by simp)
          (by simp) hothers
      rw [String.toList_inj.mp hfirst, hsame]

end DnsHealth.Text.Quoted
