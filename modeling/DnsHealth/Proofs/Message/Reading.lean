import DnsHealth.Message.Decode
import DnsHealth.Proofs.Name.Wire

/-!
# What a message can hold

Whatever bytes a message has, the names in it have labels that the wire allows, its character
strings have at most 255 bytes, and the data of a record has the shape that goes with its type. Of a
reader it is enough to know what all its results have in common, and sequences of readers inherit
that from their parts.
-/

namespace DnsHealth

namespace Message

namespace Reader

variable {α β : Type} {r : Reader α} {P : α → Prop} {Q : β → Prop}

/-- Everything that a reader takes off any message has a property. -/
def Yields (r : Reader α) (P : α → Prop) : Prop :=
  ∀ message c x next, r message c = some (x, next) → P x

namespace Yields

/-- A value that is given already is as it is. -/
theorem pure {x : α} (h : P x) : Yields (Pure.pure x) P := by
  intro message c y next heq
  cases heq
  exact h

/-- A reader that fails yields nothing at all. -/
theorem fail : Yields (Reader.fail : Reader α) P := by
  intro message c x next heq
  cases heq

/-- A sequence of readers, the second of which knows what the first yields. -/
theorem bind {f : α → Reader β} (hr : r.Yields P) (hf : ∀ x, P x → (f x).Yields Q) :
    (r >>= f).Yields Q := by
  intro message c y next heq
  obtain ⟨⟨x, middle⟩, hx, hy⟩ := Option.bind_eq_some_iff.mp heq
  exact hf x (hr _ _ _ _ hx) _ _ _ _ hy

/-- A sequence of readers, the second of which needs not know anything. -/
theorem andThen {f : α → Reader β} (hf : ∀ x, (f x).Yields Q) : (r >>= f).Yields Q :=
  bind (fun _ _ _ _ _ => True.intro) fun x _ => hf x

/-- What a reader yields may be said less exactly. -/
theorem mono {Q : α → Prop} (hr : r.Yields P) (h : ∀ x, P x → Q x) : r.Yields Q :=
  fun message c x next heq => h x (hr message c x next heq)

/-- What is made of a value is as the value makes it. -/
theorem map {f : α → β} (hr : r.Yields P) (h : ∀ x, P x → Q (f x)) : (f <$> r).Yields Q := by
  rw [map_eq_pure_bind]
  exact bind hr fun x hx => pure (h x hx)

/-- A stretch of bytes yields what its reader does. -/
theorem within {n : Nat} (hr : r.Yields P) : (r.within n).Yields P := by
  intro message c x next heq
  simp only [Reader.within] at heq
  split at heq
  · cases heq
  · split at heq
    · next hx =>
      cases heq
      exact hr _ _ _ _ hx
    · cases heq

/-- A reader that is used several times yields only such values. -/
theorem times {n : Nat} (hr : r.Yields P) : (Reader.times n r).Yields fun xs => ∀ x ∈ xs, P x := by
  induction n with
  | zero => exact pure (by simp)
  | succ n ih =>
    refine bind hr fun x hx => bind ih fun xs hxs => pure ?_
    exact List.forall_mem_cons.mpr ⟨hx, hxs⟩

/-- What is read from a whole message is as the reader yields it. -/
theorem run? {message : List UInt8} {x : α} (hr : r.Yields P) (h : r.run? message = some x) :
    P x := by
  obtain ⟨⟨y, next⟩, hy, rfl⟩ := Option.map_eq_some_iff.mp h
  exact hr _ _ _ _ hy

end Yields

private theorem take_yields (n : Nat) : (take n).Yields (·.length = n) := by
  intro message c bytes next heq
  simp only [take] at heq
  split at heq
  · cases heq
  · next h =>
    cases heq
    have hle := List.length_take_le n c.rest
    omega

private theorem ofOption_yields {x? : Option α} (h : ∀ x, x? = some x → P x) :
    (ofOption x?).Yields P := by
  cases x? with
  | none => exact Yields.fail
  | some x => exact Yields.pure (h x rfl)

/-- What was read as a byte stands at the front. -/
theorem rest_of_u8 {message : List UInt8} {c next : Cursor} {n : UInt8}
    (h : u8 message c = some (n, next)) : c.rest = n :: next.rest := by
  unfold u8 at h
  split at h
  · next hrest =>
    cases h
    exact hrest
  · cases h

/-- What was read as a number stands at the front. -/
theorem rest_of_u16 {message : List UInt8} {c next : Cursor} {n : UInt16}
    (h : u16 message c = some (n, next)) : c.rest = Bytes.of16 n ++ next.rest := by
  unfold u16 at h
  split at h
  · next hread =>
    cases h
    unfold Bytes.read16 at hread
    split at hread
    · next hrest =>
      cases hread
      rw [hrest, Bytes.of16_to16]
      rfl
    · cases hread
  · cases h

end Reader

/-- The labels of a stretch and all that it points to are such as the wire allows. -/
theorem valid_of_readRun {message : List UInt8} {start : Nat} {limit : Option Nat}
    {size index : Nat} {rest : List UInt8} {labels : List (List UInt8)} {c : Cursor}
    (hsize : size ≤ 254) (h : readRun message start limit size index rest = some (labels, c)) :
    (∀ label ∈ labels, 0 < label.length ∧ label.length ≤ 63) ∧
      size + LabelName.size labels ≤ 254 := by
  fun_induction readRun message start limit size index rest generalizing labels c with
  | case3 =>
    cases h
    exact ⟨by simp, by simpa [LabelName.size] using hsize⟩
  | case6 =>
    rename_i hfound ih
    cases h
    exact ih hsize hfound
  | case11 =>
    rename_i size index b tail _ hzero _ hkind label total hroom found after hfound ih
    cases h
    have htotal : total = size + b.toNat + 1 := rfl
    have hlength : label.length = b.toNat := by
      have hle : label.length ≤ b.toNat := List.length_take_le b.toNat tail
      omega
    have hpos : b.toNat ≠ 0 := fun h => hzero (UInt8.toNat_inj.mp h)
    have hshort : b.toNat < 64 := by
      rw [UInt8.le_iff_toNat_le] at hkind
      exact Nat.not_le.mp hkind
    obtain ⟨hlabels, hle⟩ := ih (by omega) hfound
    refine ⟨List.forall_mem_cons.mpr ⟨by omega, hlabels⟩, ?_⟩
    change size + (label.length + 1 + LabelName.size found) ≤ 254
    omega
  | _ => cases h

/-- The strings of a list behind their length bytes, the list as bytes, and the bounds of the
strings. -/
theorem flatMap_sized_of_characterStrings? {bytes : List UInt8} {strings : List (List UInt8)}
    (h : characterStrings? bytes = some strings) :
    strings.flatMap Bytes.sized = bytes ∧ ∀ s ∈ strings, s.length ≤ 255 := by
  fun_induction characterStrings? bytes generalizing strings with
  | case1 =>
    cases h
    exact ⟨rfl, by simp⟩
  | case2 => cases h
  | case3 =>
    rename_i n bytes s hlength ih
    obtain ⟨rest, hrest, rfl⟩ := Option.map_eq_some_iff.mp h
    obtain ⟨hbytes, hshort⟩ := ih hrest
    have hn := n.toNat_lt
    have hle : s.length ≤ n.toNat := List.length_take_le _ _
    have heq : s.length = n.toNat := by omega
    refine ⟨?_, List.forall_mem_cons.mpr ⟨by omega, hshort⟩⟩
    rw [List.flatMap_cons, hbytes, Bytes.sized, heq, UInt8.ofNat_toNat, List.cons_append,
      List.take_append_drop]

/-- A name such as a message carries it. -/
structure IsCarried (name : LabelName) : Prop where
  /-- The wire allows its labels. -/
  valid : LabelName.Valid name.labels
  /-- It ends at the root. -/
  absolute : name.absolute = true

/-- A name that is read has labels that fit on the wire. -/
theorem name_yields : Reader.name.Yields IsCarried := by
  intro message c name next heq
  simp only [Reader.name] at heq
  split at heq
  · cases heq
  · next hrun =>
    cases heq
    obtain ⟨hlabels, hsize⟩ := valid_of_readRun (by omega) hrun
    exact ⟨⟨fun l hl => (hlabels l hl).1, fun l hl => (hlabels l hl).2, by simpa using hsize⟩, rfl⟩

namespace WireData

/-- The parts of data are such as the wire allows. -/
def WellFormed : WireData → Prop
  | ns host => IsCarried host
  | cname target => IsCarried target
  | mx _ exchange => IsCarried exchange
  | soa mname rname .. => IsCarried mname ∧ IsCarried rname
  | txt strings => ∀ s ∈ strings, s.length ≤ 255
  | srv _ _ _ target => IsCarried target
  | rrsig head signer _ => head.length = 18 ∧ IsCarried signer
  | _ => True

/-- The numbers of the types whose data is taken apart. -/
def structured : List Nat := [1, 2, 5, 6, 15, 16, 24, 28, 33, 46]

/-- The shape of data goes with the number of the type. -/
def Fits (code : Nat) : WireData → Prop
  | a _ => code = 1
  | ns _ => code = 2
  | cname _ => code = 5
  | soa .. => code = 6
  | mx .. => code = 15
  | txt _ => code = 16
  | aaaa _ => code = 28
  | srv .. => code = 33
  | rrsig .. => code = 24 ∨ code = 46
  | bytes _ => code ∉ structured

/-- Data such as a message carries it in a record of a type. -/
structure IsCarried (code : UInt16) (data : WireData) : Prop where
  /-- Its parts are such as the wire allows. -/
  wellFormed : data.WellFormed
  /-- Its shape is that of the type. -/
  fits : data.Fits code.toNat

end WireData

open Reader

private theorem checked_yields {r : Reader Unit} :
    (checked r).Yields fun w => ∃ data, w = .bytes data := by
  intro message c w next heq
  obtain ⟨_, -, heq⟩ := Option.map_eq_some_iff.mp heq
  cases heq
  exact ⟨_, rfl⟩

private theorem keyData_yields : keyData.Yields fun w => ∃ data, w = .bytes data :=
  .andThen fun _ => .andThen fun _ => .andThen fun _ => .andThen fun _ => .andThen fun _ =>
    .pure ⟨_, rfl⟩

/-- A signature that is read has a signer that fits on the wire. -/
theorem signatureData_yields {code : UInt16} (h : code.toNat = 24 ∨ code.toNat = 46) :
    signatureData.Yields (WireData.IsCarried code) :=
  .bind (take_yields 18) fun _ hhead => .bind name_yields fun _ hsigner => .andThen fun _ =>
    .pure ⟨⟨hhead, hsigner⟩, h⟩

/-- Whatever the type, the data of a record is such as a message carries it. -/
theorem wireData_yields (code : UInt16) : (wireData code).Yields (WireData.IsCarried code) := by
  have hopaque {r : Reader WireData} (hr : r.Yields fun w => ∃ data, w = .bytes data)
      (hcode : code.toNat ∉ WireData.structured) : r.Yields (WireData.IsCarried code) := by
    refine hr.mono ?_
    rintro _ ⟨data, rfl⟩
    exact ⟨True.intro, hcode⟩
  unfold wireData
  split
  case h_2 h => exact .andThen fun _ => .pure ⟨True.intro, h⟩
  case h_3 h => exact .bind name_yields fun _ hname => .pure ⟨hname, h⟩
  case h_4 h => exact .bind name_yields fun _ hname => .pure ⟨hname, h⟩
  case h_5 h =>
    exact .bind name_yields fun _ hmname => .bind name_yields fun _ hrname => .andThen fun _ =>
      .andThen fun _ => .andThen fun _ => .andThen fun _ => .andThen fun _ =>
        .pure ⟨⟨hmname, hrname⟩, h⟩
  case h_9 h => exact .andThen fun _ => .bind name_yields fun _ hname => .pure ⟨hname, h⟩
  case h_10 h =>
    exact .andThen fun bytes => .bind (ofOption_yields fun _ hstrings =>
      (flatMap_sized_of_characterStrings? hstrings).2) fun _ hshort => .pure ⟨hshort, h⟩
  case h_11 h => exact signatureData_yields (.inl h)
  case h_12 h => exact signatureData_yields (.inr h)
  case h_14 h => exact .andThen fun _ => .pure ⟨True.intro, h⟩
  case h_15 h =>
    exact .andThen fun _ => .andThen fun _ => .andThen fun _ => .bind name_yields fun _ hname =>
      .pure ⟨hname, h⟩
  case h_34 h =>
    refine hopaque (.andThen fun _ => .andThen fun _ => .pure ⟨_, rfl⟩) ?_
    rw [h]
    decide
  case h_35 =>
    refine hopaque (.andThen fun _ => .pure ⟨_, rfl⟩) ?_
    simp only [WireData.structured, List.mem_cons, List.not_mem_nil, or_false, not_or]
    and_intros <;> assumption
  -- The other types have no data or data that is kept as bytes.
  all_goals
    first
    | exact .fail
    | exact hopaque checked_yields (by simp [WireData.structured, *])
    | exact hopaque keyData_yields (by simp [WireData.structured, *])

/-- The data of a record goes with its type. -/
theorem record_yields :
    record.Yields fun r => ∀ data, r.data = some data → data.IsCarried r.code := by
  refine .andThen fun owner => .andThen fun code => .andThen fun _ => .andThen fun _ =>
    .andThen fun ttl => .andThen fun length => ?_
  have hwithin : (some <$> within length.toNat (wireData code)).Yields
      fun data? => ∀ data, data? = some data → data.IsCarried code :=
    (wireData_yields code).within.map (by simp)
  dsimp only
  split
  · exact .pure (by simp)
  · refine .bind hwithin fun data? h => ?_
    exact .pure h

/-- The data of every record in a message goes with its type. -/
theorem isCarried_of_decoded {message : List UInt8} {m : Decoded} {r : WireRecord}
    {data : WireData} (hm : decoded.run? message = some m) (hr : r ∈ m.answers ++ m.authority)
    (hdata : r.data = some data) : data.IsCarried r.code := by
  have hyields : decoded.Yields fun m => ∀ r ∈ m.answers ++ m.authority,
      ∀ data, r.data = some data → data.IsCarried r.code := by
    refine .andThen fun _ => .andThen fun _ => .andThen fun _ => .andThen fun _ => .andThen fun _ =>
      .andThen fun _ => .andThen fun _ => .andThen fun _ => .andThen fun _ =>
      .bind record_yields.times fun answers hanswers =>
      .bind record_yields.times fun authority hauthority => .andThen fun _ => .andThen fun _ =>
        .pure ?_
    exact fun r hr => (List.mem_append.mp hr).elim (hanswers r) (hauthority r)
  exact hyields.run? hm r hr data hdata

/-- A message begins with its number, and its flags follow. -/
theorem header_of_decoded {message : List UInt8} {m : Decoded}
    (hm : decoded.run? message = some m) :
    ∃ high low rest, message = Bytes.of16 m.id ++ high :: low :: rest ∧
      m.response = decide (0x80 ≤ high) ∧ m.truncated = decide (high.toNat / 2 % 2 = 1) ∧
      m.rcode % 16 = low.toNat % 16 := by
  obtain ⟨⟨m, _⟩, hread, rfl⟩ := Option.map_eq_some_iff.mp hm
  obtain ⟨⟨id, _⟩, hid, hread⟩ := Option.bind_eq_some_iff.mp hread
  obtain ⟨⟨high, _⟩, hhigh, hread⟩ := Option.bind_eq_some_iff.mp hread
  obtain ⟨⟨low, c⟩, hlow, hread⟩ := Option.bind_eq_some_iff.mp hread
  -- What is read behind the flags leaves alone what they say.
  have hflags : m.id = id ∧ m.response = decide (0x80 ≤ high) ∧
      m.truncated = decide (high.toNat / 2 % 2 = 1) ∧ m.rcode % 16 = low.toNat % 16 := by
    refine Reader.Yields.andThen (Q := fun m : Decoded => m.id = id ∧
      m.response = decide (0x80 ≤ high) ∧ m.truncated = decide (high.toNat / 2 % 2 = 1) ∧
      m.rcode % 16 = low.toNat % 16) ?_ _ _ _ _ hread
    refine fun _ => .andThen fun _ => .andThen fun _ => .andThen fun _ => .andThen fun _ =>
      .andThen fun _ => .andThen fun _ => .andThen fun _ => .andThen fun additional =>
      .andThen fun _ => .pure ⟨rfl, rfl, rfl, ?_⟩
    dsimp only
    omega
  obtain ⟨rfl, hflags⟩ := hflags
  have hrest := Reader.rest_of_u16 hid
  rw [Reader.rest_of_u8 hhigh, Reader.rest_of_u8 hlow] at hrest
  exact ⟨high, low, c.rest, hrest, hflags⟩

end Message

end DnsHealth
