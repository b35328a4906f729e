import DnsHealth.Proofs.Bytes
import DnsHealth.Proofs.Fallible
import DnsHealth.Proofs.Text.Digits
import Mathlib.Data.List.TakeWhile

/-!
# Addresses read back

Every address is read back from its text. An IPv4 address is told by the point behind its first
number, where an IPv6 address has a colon first; a double colon is undone because only zeros were
left out for it; and an address that maps an IPv4 address is read with the latter at its end. So no
two addresses share a text, whatever their families.
-/

namespace DnsHealth

open Text

namespace Ipv4

/-- A byte reads back from its digits, and what follows them is left. -/
theorem readByte_toDigits (b : UInt8) {rest : List Char} (hrest : NoDigit Decimal.digit? rest) :
    readByte (Nat.toDigits 10 b.toNat ++ rest) = some (b, rest) := by
  have hlt := b.toNat_lt
  have hlength : (Nat.toDigits 10 b.toNat).length ≤ 2 + 1 :=
    (Nat.length_toDigits_le_iff (by decide) (by decide)).mpr (by omega)
  obtain ⟨d, digits, hcs, hdigits, hd, hread⟩ :=
    exists_toDigits_append_eq (by decide) Decimal.digit?_digitChar hlength hrest
  -- A zero in front is the only digit.
  have hzero : d = 0 → digits = [] := by
    rintro rfl
    have hhead : (Nat.toDigits 10 b.toNat).head? = some '0' := by
      rw [hdigits]
      rfl
    have hvalue := eq_zero_of_head?_toDigits (by decide) hhead
    rw [hvalue, Nat.toDigits_zero] at hdigits
    exact (List.cons.inj hdigits).2.symm
  have hfront : (d = 0 && rest.length != (digits ++ rest).length) = false := by
    by_cases h : d = 0
    · rw [hzero h]
      simp
    · simp [h]
  rw [hcs, readByte]
  simp only [hd, hread, Option.bind_eq_bind, Option.bind_some, hfront, Bool.false_eq_true, if_false,
    if_pos hlt, UInt8.ofNat_toNat]

/-- An address reads back from its text, and what follows it is left. -/
theorem read_text_append (x : Ipv4) {rest : List Char} (hrest : NoDigit Decimal.digit? rest) :
    read (x.text.toList ++ rest) = some (x, rest) := by
  have hpoint (cs : List Char) : NoDigit Decimal.digit? ('.' :: cs) := by
    rintro c ⟨⟩
    rfl
  have htext : x.text.toList ++ rest = Nat.toDigits 10 x.a.toNat ++ '.' ::
      (Nat.toDigits 10 x.b.toNat ++ '.' :: (Nat.toDigits 10 x.c.toNat ++ '.' ::
        (Nat.toDigits 10 x.d.toNat ++ rest))) := by
    simp [text, Decimal.ofNat]
  rw [htext, read]
  simp only [readByte_toDigits _ (hpoint _), readPointByte, readByte_toDigits _ hrest,
    Option.bind_eq_bind, Option.bind_some, Option.pure_def]

private theorem read_text (x : Ipv4) : read x.text.toList = some (x, []) := by
  have hread := x.read_text_append (show NoDigit Decimal.digit? [] by rintro c ⟨⟩)
  rwa [List.append_nil] at hread

/-- An IPv4 address reads back from its text. -/
theorem ofText?_text (x : Ipv4) : ofText? x.text = some x := by
  rw [ofText?, read_text]

/-- An address has a point behind the digits in front. -/
theorem head?_dropWhile_of_read {cs : List Char} {result : Ipv4 × List Char}
    (h : read cs = some result) :
    (cs.dropWhile fun c => (Decimal.digit? c).isSome).head? = some '.' := by
  obtain ⟨⟨a, afterFirst⟩, hfirst, hrest⟩ := Option.bind_eq_some_iff.mp h
  obtain ⟨⟨b, _⟩, hsecond, -⟩ := Option.bind_eq_some_iff.mp hrest
  have hpoint : afterFirst.head? = some '.' := by
    unfold readPointByte at hsecond
    split at hsecond
    · rfl
    · cases hsecond
  have hdigits : afterFirst = cs.dropWhile fun c => (Decimal.digit? c).isSome := by
    cases cs with
    | nil => cases hfirst
    | cons c tail =>
      obtain ⟨d, hd, htail⟩ := Option.bind_eq_some_iff.mp hfirst
      obtain ⟨⟨value, rest⟩, hread, hbyte⟩ := Option.bind_eq_some_iff.mp htail
      rw [List.dropWhile_cons_of_pos (by simp [hd]), ← eq_dropWhile_of_readDigits hread]
      simp only at hbyte
      split at hbyte
      · cases hbyte
      · split at hbyte
        · cases hbyte
          rfl
        · cases hbyte
  rw [← hdigits, hpoint]

/-- There is no address where a colon, or the end, comes before any point. -/
theorem read_eq_none {front rest : List Char} (hfront : '.' ∉ front)
    (hrest : ∀ c ∈ rest.head?, c = ':') : read (front ++ rest) = none := by
  have hpoint :
      ((front ++ rest).dropWhile fun c => (Decimal.digit? c).isSome).head? ≠ some '.' := by
    induction front with
    | nil =>
      cases rest with
      | nil => exact nofun
      | cons c rest =>
        obtain rfl := hrest c rfl
        rw [List.nil_append, List.dropWhile_cons_of_neg (by decide)]
        exact nofun
    | cons c front ih =>
      rw [List.mem_cons, not_or] at hfront
      rw [List.cons_append]
      cases hc : Decimal.digit? c with
      | some d =>
        rw [List.dropWhile_cons_of_pos (by simp [hc])]
        exact ih hfront.2
      | none =>
        rw [List.dropWhile_cons_of_neg (by simp [hc]), List.head?_cons]
        exact fun h => hfront.1 (Option.some.inj h).symm
  rw [Option.eq_none_iff_forall_ne_some]
  exact fun result h => hpoint (head?_dropWhile_of_read h)

/-- There is no address where a colon stands in front. -/
theorem read_colon (cs : List Char) : read (':' :: cs) = none := by
  rw [← List.nil_append (':' :: cs)]
  refine read_eq_none List.not_mem_nil ?_
  rintro c ⟨⟩
  rfl

/-- Two IPv4 addresses with the same text are the same. -/
@[simp] theorem text_inj {x y : Ipv4} : x.text = y.text ↔ x = y := eq_iff_of_read ofText?_text

end Ipv4

namespace Ipv6

/-- What may follow a group: nothing, or a colon. -/
def Ended (rest : List Char) : Prop := ∀ c ∈ rest.head?, c = ':'

private theorem Ended.noDigit {rest : List Char} (h : Ended rest) : NoDigit Hex.digit? rest := by
  intro c hc
  rw [h c hc]
  rfl

private theorem point_notMem_hex (n : Nat) : '.' ∉ Hex.ofNat n := by
  intro h
  obtain ⟨d, -, hd⟩ := exists_digitChar_of_mem_toDigits (by decide) h
  exact Nat.digitChar_ne '.' (by decide) hd.symm

/-- A group reads back from its digits, and what follows them is left. -/
theorem readGroup_hex (g : UInt16) {rest : List Char} (hrest : Ended rest) :
    readGroup (Hex.ofNat g.toNat ++ rest) = some (g, rest) := by
  have hlt := g.toNat_lt
  have hlength : (Nat.toDigits 16 g.toNat).length ≤ 3 + 1 :=
    (Nat.length_toDigits_le_iff (by decide) (by decide)).mpr (by omega)
  obtain ⟨d, digits, hcs, -, hd, hread⟩ :=
    exists_toDigits_append_eq (by decide) Hex.digit?_digitChar hlength hrest.noDigit
  rw [Hex.ofNat, hcs, readGroup]
  simp only [hd, hread, Option.bind_eq_bind, Option.bind_some, Option.pure_def, UInt16.ofNat_toNat]

/-- No IPv4 address begins with a group that a colon, or the end, follows. -/
theorem read_hex (n : Nat) {rest : List Char} (hrest : Ended rest) :
    Ipv4.read (Hex.ofNat n ++ rest) = none :=
  Ipv4.read_eq_none (point_notMem_hex n) hrest

/-- Groups with a colon in front of each, which the first of a stretch goes without. -/
def listed (isFirst : Bool) : List UInt16 → List Char
  | [] => []
  | g :: gs => (if isFirst then [] else [':']) ++ Hex.ofNat g.toNat ++ listed false gs

/-- All groups in a row are written as a stretch that has nothing before it. -/
theorem groupsText_eq_listed (groups : List UInt16) : groupsText groups = listed true groups := by
  have hlater (gs : List UInt16) :
      listed false gs = (gs.map fun g => ':' :: Hex.ofNat g.toNat).flatten := by
    induction gs with
    | nil => rfl
    | cons g gs ih => simp [listed, ih]
  cases groups with
  | nil => rfl
  | cons g gs =>
    induction gs generalizing g with
    | nil => simp [groupsText, listed]
    | cons next gs ih =>
      have hnext := ih next
      rw [groupsText, List.map_cons] at hnext
      rw [groupsText, List.map_cons, List.map_cons, List.intersperse_cons_cons, List.flatten_cons,
        List.flatten_cons, hnext]
      simp [listed, hlater]

/-- What is listed after the first group, with what ends the stretch, follows a group. -/
theorem ended_listed_append (gs : List UInt16) {rest : List Char} (hrest : Ended rest) :
    Ended (listed false gs ++ rest) := by
  cases gs with
  | nil => exact hrest
  | cons g gs =>
    rintro c ⟨⟩
    rfl

/-- A stretch of groups ends with the text, or at a double colon. -/
def EndsStretch (rest : List Char) : Prop := rest = [] ∨ ∃ more, rest = ':' :: ':' :: more

/-- What ends a stretch of groups ends a group. -/
theorem EndsStretch.ended {rest : List Char} (h : EndsStretch rest) : Ended rest := by
  rcases h with rfl | ⟨more, rfl⟩
  · exact fun c hc => nomatch hc
  · rintro c ⟨⟩
    rfl

/-- No further group is found where a stretch ends. -/
theorem readGroups_of_endsStretch (limit : Nat) (isFirst : Bool) {rest : List Char}
    (hrest : EndsStretch rest) : readGroups limit isFirst rest = ([], false, rest) := by
  cases limit with
  | zero => rfl
  | succ limit =>
    rcases hrest with rfl | ⟨more, rfl⟩
    · cases isFirst with
      | true => cases limit <;> rfl
      | false => rfl
    · have hgroup (more : List Char) : readGroup (':' :: more) = none := rfl
      cases isFirst with
      | true => simp [readGroups, afterColon, Ipv4.read_colon, hgroup]
      | false => simp [readGroups, afterColon, Ipv4.read_colon, hgroup]

/-- Listed groups read back, and the end of their stretch is left. -/
theorem readGroups_listed_append {gs : List UInt16} {limit : Nat} (isFirst : Bool)
    {rest : List Char} (hlimit : gs.length ≤ limit) (hrest : EndsStretch rest) :
    readGroups limit isFirst (listed isFirst gs ++ rest) = (gs, false, rest) := by
  induction gs generalizing limit isFirst with
  | nil => exact readGroups_of_endsStretch limit isFirst hrest
  | cons g gs ih =>
    obtain ⟨limit, rfl⟩ : ∃ more, limit = more + 1 :=
      ⟨limit - 1, (Nat.succ_pred_eq_of_pos (Nat.lt_of_lt_of_le (Nat.succ_pos _) hlimit)).symm⟩
    have hended := ended_listed_append gs hrest.ended
    have hbody : afterColon isFirst (listed isFirst (g :: gs) ++ rest) =
        some (Hex.ofNat g.toNat ++ (listed false gs ++ rest)) := by
      cases isFirst <;> simp [listed, afterColon]
    have hmore := ih false (Nat.le_of_succ_le_succ hlimit)
    simp only [readGroups, hbody, read_hex _ hended, ite_self, readGroup_hex g hended, hmore]

/-- Listed groups read back up to the end of the text. -/
theorem readGroups_listed {gs : List UInt16} {limit : Nat} (hlimit : gs.length ≤ limit) :
    readGroups limit true (listed true gs) = (gs, false, []) := by
  have hread := readGroups_listed_append true hlimit (.inl rfl)
  rwa [List.append_nil] at hread

/-- A run of groups, given by its start and its length, is all zeros. -/
def IsZeroRun (groups : List UInt16) (run : Nat × Nat) : Prop :=
  (groups.drop run.1).take run.2 = List.replicate run.2 0

/-- What is found as the longest run of zeros is a run of zeros: so is the run that is open, and so
is the best one so far. -/
theorem isZeroRun_longestZeros {groups gs : List UInt16} (before : List UInt16)
    {run best : Nat × Nat} (hgroups : groups = before ++ gs)
    (hopen : run.2 ≠ 0 → run.1 + run.2 = before.length)
    (hrun : IsZeroRun groups run) (hbest : IsZeroRun groups best) :
    IsZeroRun groups (longestZeros gs before.length run best) := by
  induction gs generalizing before run best with
  | nil => exact hbest
  | cons g gs ih =>
    have hgroups' : groups = (before ++ [g]) ++ gs := by
      rw [List.append_assoc, List.singleton_append, hgroups]
    have hlength : (before ++ [g]).length = before.length + 1 := by simp
    by_cases hg : g = 0
    · subst hg
      have hplace : groups[before.length]? = some 0 := by simp [hgroups]
      let current := if run.2 = 0 then (before.length, 1) else (run.1, run.2 + 1)
      have hcurrent : IsZeroRun groups current := by
        by_cases hzero : run.2 = 0
        · simp only [current, if_pos hzero, IsZeroRun, hgroups, List.drop_left]
          rfl
        · simp only [current, if_neg hzero, IsZeroRun] at hrun ⊢
          rw [List.take_add_one, hrun, List.getElem?_drop, hopen hzero, hplace,
            List.replicate_succ']
          rfl
      have hnext : current.2 ≠ 0 → current.1 + current.2 = (before ++ [0]).length := by
        intro _
        by_cases hzero : run.2 = 0
        · simp [current, hzero]
        · have hend := hopen hzero
          simp only [current, if_neg hzero, hlength]
          omega
      rw [longestZeros, if_pos rfl, ← hlength]
      refine ih (before ++ [0]) hgroups' hnext hcurrent ?_
      by_cases hbetter : best.2 < current.2
      · rwa [if_pos hbetter]
      · rwa [if_neg hbetter]
    · rw [longestZeros, if_neg hg, ← hlength]
      exact ih (before ++ [g]) hgroups' (fun h => absurd rfl h) rfl hbest

/-- A list around a run of zeros is what stands before it, the zeros, and what stands behind. -/
theorem eq_append_of_isZeroRun {groups : List UInt16} {run : Nat × Nat}
    (h : IsZeroRun groups run) :
    groups = groups.take run.1 ++ List.replicate run.2 0 ++ groups.drop (run.1 + run.2) := by
  have hrun : List.replicate run.2 0 = (groups.drop run.1).take run.2 := h.symm
  rw [hrun, List.append_assoc, ← List.drop_drop, List.take_append_drop, List.take_append_drop]

private theorem length_of_isZeroRun {groups : List UInt16} {run : Nat × Nat}
    (h : IsZeroRun groups run) (hrun : run.2 ≠ 0) : run.1 + run.2 ≤ groups.length := by
  have hlength := congrArg List.length h
  rw [List.length_take, List.length_drop, List.length_replicate] at hlength
  omega

/-- Groups read back when a run of zeros is left out for a double colon. -/
theorem ofText?_shortened (x : Ipv6) : ofText? (String.ofList x.shortened) = some x := by
  have height := x.length_toList
  have hzeros : IsZeroRun x.toList (longestZeros x.toList 0 (0, 0) (0, 0)) :=
    isZeroRun_longestZeros [] rfl (fun h => absurd rfl h) rfl rfl
  rw [shortened]
  generalize longestZeros x.toList 0 (0, 0) (0, 0) = run at hzeros
  obtain ⟨start, count⟩ := run
  simp only
  split
  · next hcount =>
    have hwhole := eq_append_of_isZeroRun hzeros
    have hplace := length_of_isZeroRun hzeros (by simp only; omega)
    simp only at hwhole hplace
    have hfront : (x.toList.take start).length = start := by
      rw [List.length_take]
      omega
    have hback : (x.toList.drop (start + count)).length = 8 - start - count := by
      rw [List.length_drop]
      omega
    have hfirst : EndsStretch (':' :: ':' :: listed true (x.toList.drop (start + count))) :=
      .inr ⟨_, rfl⟩
    have hsecond : readGroups (7 - start) true (listed true (x.toList.drop (start + count))) =
        (x.toList.drop (start + count), false, []) := readGroups_listed (by omega)
    rw [ofText?, String.toList_ofList, groupsText_eq_listed, groupsText_eq_listed,
      List.append_assoc, List.cons_append, List.cons_append, List.nil_append,
      readGroups_listed_append true (by omega) hfirst]
    simp only [hfront, if_neg (show start ≠ 8 by omega), Bool.false_eq_true, if_false, hsecond,
      hback]
    rw [show 8 - start - (8 - start - count) = count by omega, ← hwhole, ofGroups?_toList]
  · have hread : readGroups 8 true (listed true x.toList) = (x.toList, false, []) :=
      readGroups_listed (by omega)
    rw [ofText?, String.toList_ofList, groupsText_eq_listed, hread]
    simp [height]

/-- The groups of an address that maps an IPv4 address are those of the latter behind a mark. -/
theorem toList_of_mapped? {x : Ipv6} {y : Ipv4} (h : x.mapped? = some y) :
    x.toList = [0, 0, 0, 0, 0, 0xFFFF, Bytes.to16 y.a y.b, Bytes.to16 y.c y.d] := by
  unfold mapped? at h
  split at h
  · next g k hlist =>
    obtain rfl := Option.some.inj h
    rw [hlist, Bytes.to16_of16, Bytes.to16_of16]
  · cases h

/-- An address that maps an IPv4 address reads back from the text with the latter at its end. -/
theorem ofText?_mapped {x : Ipv6} {y : Ipv4} (h : x.mapped? = some y) :
    ofText? ("::ffff:" ++ y.text) = some x := by
  have hfirst : EndsStretch (':' :: ':' :: (Hex.ofNat 0xFFFF ++ ':' :: y.text.toList)) :=
    .inr ⟨_, rfl⟩
  have hcolon : Ended (':' :: y.text.toList) := by
    rintro c ⟨⟩
    rfl
  have htext : ("::ffff:" ++ y.text).toList =
      ':' :: ':' :: (Hex.ofNat 0xFFFF ++ ':' :: y.text.toList) := by
    rw [String.toList_append]
    rfl
  have hlast : readGroups 6 false (':' :: y.text.toList) =
      ([Bytes.to16 y.a y.b, Bytes.to16 y.c y.d], true, []) := by
    simp [readGroups, afterColon, y.read_text, Bytes.to16]
  have hback : readGroups 7 true (Hex.ofNat 0xFFFF ++ ':' :: y.text.toList) =
      ([0xFFFF, Bytes.to16 y.a y.b, Bytes.to16 y.c y.d], true, []) := by
    have hmark : readGroup (Hex.ofNat 0xFFFF ++ ':' :: y.text.toList) =
        some (0xFFFF, ':' :: y.text.toList) := readGroup_hex 0xFFFF hcolon
    rw [readGroups]
    simp only [afterColon, read_hex _ hcolon, ite_self, hmark, hlast]
  rw [ofText?, htext, readGroups_of_endsStretch 8 true hfirst]
  simp only [List.length_nil, if_neg (show (0 : Nat) ≠ 8 by decide), Bool.false_eq_true, if_false,
    Nat.sub_zero, hback]
  rw [← ofGroups?_toList x, toList_of_mapped? h]
  rfl

/-- Every address reads back from its text. -/
theorem ofText?_text (x : Ipv6) : ofText? x.text = some x := by
  unfold text
  split
  · next y h => exact ofText?_mapped h
  · exact x.ofText?_shortened

/-- Two IPv6 addresses with the same text are the same. -/
@[simp] theorem text_inj {x y : Ipv6} : x.text = y.text ↔ x = y := eq_iff_of_read ofText?_text

end Ipv6

namespace Address

/-- The text of an IPv6 address is none of an IPv4 address. -/
theorem read_text_v6 (x : Ipv6) : Ipv4.read x.text.toList = none := by
  have hlisted (gs : List UInt16) {rest : List Char} (hrest : Ipv6.Ended rest) :
      Ipv4.read (Ipv6.listed true gs ++ rest) = none := by
    cases gs with
    | nil => exact Ipv4.read_eq_none List.not_mem_nil hrest
    | cons g gs =>
      rw [Ipv6.listed, if_pos rfl, List.nil_append, List.append_assoc]
      exact Ipv6.read_hex _ (Ipv6.ended_listed_append gs hrest)
  unfold Ipv6.text
  split
  · rw [String.toList_append]
    exact Ipv4.read_colon _
  · rw [String.toList_ofList, Ipv6.shortened]
    simp only [Ipv6.groupsText_eq_listed]
    split
    · rw [List.append_assoc]
      exact hlisted _ (by rintro c ⟨⟩; rfl)
    · rw [← List.append_nil (Ipv6.listed true x.toList)]
      exact hlisted x.toList fun c hc => nomatch hc

/-- Every address reads back from its text. -/
theorem ofText?_text (x : Address) : ofText? x.text = some x := by
  cases x with
  | v4 x => rw [text, ofText?, x.ofText?_text]
  | v6 x =>
    have hv4 : Ipv4.ofText? x.text = none := by rw [Ipv4.ofText?, read_text_v6]
    rw [text, ofText?, hv4, x.ofText?_text, Option.map_some]

/-- No two addresses share a text, be they of one family or of both. -/
theorem text_injective : Function.Injective text := fun _ _ => (eq_iff_of_read ofText?_text).mp

/-- Two addresses of either family with the same text are the same. -/
@[simp] theorem text_inj {x y : Address} : x.text = y.text ↔ x = y := text_injective.eq_iff

end Address

end DnsHealth
