import DnsHealth.Proofs.Bytes
import DnsHealth.Proofs.Message.Reading

/-!
# Data without compression

The data of a record with all its names written out. It is the data that was received in another
form only: whatever the message that carried it, the reader of its type takes the same data off the
bytes of the uncompressed form, wherever these stand.
-/

namespace DnsHealth.Message

namespace Reader

variable {α β : Type} {r : Reader α} {f : α → Reader β} {x : α} {y : β} {bytes more : List UInt8}

/-- A reader takes something off certain bytes, whatever stands before and behind them. -/
def Reads (r : Reader α) (bytes : List UInt8) (x : α) : Prop :=
  ∀ message index rest,
    r message ⟨index, bytes ++ rest⟩ = some (x, ⟨index + bytes.length, rest⟩)

/-- A reader takes something off certain bytes and uses them up, whatever stands before them. -/
def ReadsAll (r : Reader α) (bytes : List UInt8) (x : α) : Prop :=
  ∀ message index, r message ⟨index, bytes⟩ = some (x, ⟨index + bytes.length, []⟩)

namespace Reads

/-- Nothing is read of a value that is given already. -/
theorem pure (x : α) : Reads (Pure.pure x) [] x := fun _ _ _ => rfl

/-- Two readers in a row read what stands in a row. -/
theorem bind (hr : r.Reads bytes x) (hf : (f x).Reads more y) :
    (r >>= f).Reads (bytes ++ more) y := by
  intro message index rest
  have hfirst := hr message index (more ++ rest)
  have hsecond := hf message (index + bytes.length) rest
  rw [Nat.add_assoc, ← List.length_append] at hsecond
  rw [List.append_assoc]
  exact Option.bind_eq_some_iff.mpr ⟨_, hfirst, hsecond⟩

/-- A second reader that takes nothing more. -/
theorem andThen (hr : r.Reads bytes x) (hf : (f x).Reads [] y) : (r >>= f).Reads bytes y := by
  have h := hr.bind hf
  rwa [List.append_nil] at h

/-- Nothing is read of a value that is found without the bytes. -/
theorem ofOption {x? : Option α} (h : x? = some x) : (Reader.ofOption x?).Reads [] x := h ▸ pure x

/-- Things in a row are read one after the other. -/
theorem times {g : α → List UInt8} {xs : List α} (h : ∀ x ∈ xs, r.Reads (g x) x) :
    (Reader.times xs.length r).Reads (xs.flatMap g) xs := by
  induction xs with
  | nil => exact pure []
  | cons x xs ih =>
    obtain ⟨hx, hxs⟩ := List.forall_mem_cons.mp h
    exact hx.bind ((ih hxs).andThen (pure _))

end Reads

namespace ReadsAll

/-- A reader that reads certain bytes reads them when they are all. -/
theorem ofReads (hr : r.Reads bytes x) : r.ReadsAll bytes x := by
  intro message index
  have h := hr message index []
  rwa [List.append_nil] at h

/-- The second of two readers in a row may be one that reads all that is left. -/
theorem bind (hr : r.Reads bytes x) (hf : (f x).ReadsAll more y) :
    (r >>= f).ReadsAll (bytes ++ more) y := by
  intro message index
  have hsecond := hf message (index + bytes.length)
  rw [Nat.add_assoc, ← List.length_append] at hsecond
  exact Option.bind_eq_some_iff.mpr ⟨_, hr message index more, hsecond⟩

/-- Nothing has to be left for what reads no bytes. -/
theorem andThen (hr : r.ReadsAll bytes x) (hf : (f x).Reads [] y) :
    (r >>= f).ReadsAll bytes y := by
  intro message index
  exact Option.bind_eq_some_iff.mpr ⟨_, hr message index, hf message _ []⟩

/-- All bytes are taken. -/
theorem takeAll (bytes : List UInt8) : Reader.takeAll.ReadsAll bytes bytes := fun _ _ => rfl

end ReadsAll

/-- A byte is read. -/
theorem u8_reads (b : UInt8) : u8.Reads [b] b := fun _ _ _ => rfl

/-- A number of sixteen bits is read from its two bytes. -/
theorem u16_reads (n : UInt16) : u16.Reads (Bytes.of16 n) n := by
  intro message index rest
  simp [u16]

/-- A number of thirty-two bits is read from its four bytes. -/
theorem u32_reads (n : UInt32) : u32.Reads (Bytes.of32 n) n := by
  intro message index rest
  simp [u32]

/-- As many bytes are taken as there are. -/
theorem take_reads (bytes : List UInt8) : (take bytes.length).Reads bytes bytes := by
  intro message index rest
  simp [take]

end Reader

/-- The labels of a wire form are read off it. -/
theorem readRun_labelsToWire_append {message : List UInt8} {start size index : Nat}
    {labels : List (List UInt8)} (h : LabelName.Valid labels)
    (hsize : size + LabelName.size labels ≤ 254) (rest : List UInt8) :
    readRun message start none size index (LabelName.labelsToWire labels ++ rest) =
      some (labels, ⟨index + (LabelName.labelsToWire labels).length, rest⟩) := by
  obtain ⟨hpos, hshort, -⟩ := h
  induction labels generalizing size index with
  | nil =>
    rw [LabelName.labelsToWire, List.flatMap_nil, List.nil_append, List.singleton_append,
      readRun.eq_def]
    simp
  | cons label labels ih =>
    obtain ⟨hlabel, hpos⟩ := List.forall_mem_cons.mp hpos
    obtain ⟨hle, hshort⟩ := List.forall_mem_cons.mp hshort
    have hlength := Bytes.toNat_ofNat_of_le (show label.length ≤ 255 by omega)
    have hpointer : ¬(0xC0 : UInt8) ≤ UInt8.ofNat label.length := by
      rw [UInt8.le_iff_toNat_le, hlength, show (0xC0 : UInt8).toNat = 192 from rfl]
      omega
    have hkind : ¬(64 : UInt8) ≤ UInt8.ofNat label.length := by
      rw [UInt8.le_iff_toNat_le, hlength, show (64 : UInt8).toNat = 64 from rfl]
      omega
    have htotal : size + (label.length + 1 + LabelName.size labels) ≤ 254 := hsize
    rw [LabelName.labelsToWire_cons, Bytes.sized, List.append_assoc, List.cons_append,
      readRun.eq_def]
    simp only [Option.any_none, Bool.false_eq_true, if_false, hpointer, hkind, hlength,
      LabelName.ofNat_length_ne_zero hlabel hle, List.take_left, List.drop_left, Nat.lt_irrefl,
      false_or]
    rw [if_neg (by omega), ih (by omega) hpos hshort]
    simp only [List.length_append, List.length_cons]
    congr 3
    omega

/-- A name that fits on the wire is read from its labels. -/
theorem name_reads {name : LabelName} (h : IsCarried name) :
    Reader.name.Reads (LabelName.labelsToWire name.labels) name := by
  intro message index rest
  have hle := h.valid.size_le
  rw [Reader.name, readRun_labelsToWire_append h.valid (by omega)]
  have habsolute := h.absolute
  cases name
  simp_all

private theorem characterStrings?_flatMap_sized {strings : List (List UInt8)}
    (h : ∀ s ∈ strings, s.length ≤ 255) :
    characterStrings? (strings.flatMap Bytes.sized) = some strings := by
  induction strings with
  | nil => simp [characterStrings?]
  | cons s strings ih =>
    obtain ⟨hs, hstrings⟩ := List.forall_mem_cons.mp h
    rw [List.flatMap_cons, Bytes.sized, List.cons_append, characterStrings?,
      Bytes.toNat_ofNat_of_le hs]
    simp [ih hstrings]

namespace WireData

/-- The bytes of data with all names written out. -/
def rdata : WireData → List UInt8
  | a address => address.bytes
  | aaaa address => address.bytes
  | ns host => LabelName.labelsToWire host.labels
  | cname target => LabelName.labelsToWire target.labels
  | mx preference exchange => Bytes.of16 preference ++ LabelName.labelsToWire exchange.labels
  | soa mname rname serial refresh retry expire minimum =>
    LabelName.labelsToWire mname.labels ++ (LabelName.labelsToWire rname.labels ++
      (Bytes.of32 serial ++ (Bytes.of32 refresh ++ (Bytes.of32 retry ++
        (Bytes.of32 expire ++ Bytes.of32 minimum)))))
  | txt strings => strings.flatMap Bytes.sized
  | srv priority weight port target =>
    Bytes.of16 priority ++ (Bytes.of16 weight ++ (Bytes.of16 port ++
      LabelName.labelsToWire target.labels))
  | rrsig head signer signature => head ++ (LabelName.labelsToWire signer.labels ++ signature)
  | bytes data => data

open Reader

/-- Data that a message carried in whatever form is what the reader of its type takes off the bytes
of the uncompressed form. -/
theorem IsCarried.readsAll_rdata {code : UInt16} {data : WireData} (h : data.IsCarried code)
    (hcode : code.toNat ∈ structured) : (wireData code).ReadsAll data.rdata data := by
  obtain ⟨hformed, hfits⟩ := h
  cases data with
  | a address =>
    have hbytes : ipv4.Reads address.bytes address :=
      .bind (u8_reads _) (.bind (u8_reads _) (.bind (u8_reads _) (.andThen (u8_reads _) (.pure _))))
    simp only [wireData, show code.toNat = 1 from hfits]
    exact .ofReads (.andThen hbytes (.pure _))
  | aaaa address =>
    have hgroups : (times 8 u16).Reads address.bytes address.toList := by
      rw [← address.length_toList]
      exact .times fun n _ => u16_reads n
    have hbytes : ipv6.Reads address.bytes address :=
      .andThen hgroups (.ofOption address.ofGroups?_toList)
    simp only [wireData, show code.toNat = 28 from hfits]
    exact .ofReads (.andThen hbytes (.pure _))
  | ns host =>
    simp only [wireData, show code.toNat = 2 from hfits]
    exact .ofReads (.andThen (name_reads hformed) (.pure _))
  | cname target =>
    simp only [wireData, show code.toNat = 5 from hfits]
    exact .ofReads (.andThen (name_reads hformed) (.pure _))
  | mx preference exchange =>
    simp only [wireData, show code.toNat = 15 from hfits]
    exact .ofReads (.bind (u16_reads _) (.andThen (name_reads hformed) (.pure _)))
  | soa mname rname serial refresh retry expire minimum =>
    simp only [wireData, show code.toNat = 6 from hfits]
    exact .ofReads (.bind (name_reads hformed.1) (.bind (name_reads hformed.2) (.bind (u32_reads _)
      (.bind (u32_reads _) (.bind (u32_reads _) (.bind (u32_reads _)
        (.andThen (u32_reads _) (.pure _))))))))
  | txt strings =>
    simp only [wireData, show code.toNat = 16 from hfits]
    exact .andThen (.takeAll _)
      (.andThen (.ofOption (characterStrings?_flatMap_sized hformed)) (.pure _))
  | srv priority weight port target =>
    simp only [wireData, show code.toNat = 33 from hfits]
    exact .ofReads (.bind (u16_reads _) (.bind (u16_reads _) (.bind (u16_reads _)
      (.andThen (name_reads hformed) (.pure _)))))
  | rrsig head signer signature =>
    have hall : signatureData.ReadsAll (rdata (.rrsig head signer signature))
        (.rrsig head signer signature) :=
      .bind (hformed.1 ▸ take_reads head)
        (.bind (name_reads hformed.2) (.andThen (.takeAll _) (.pure _)))
    rcases hfits with h | h
    · simp only [wireData, h]
      exact hall
    · simp only [wireData, h]
      exact hall
  | bytes data => exact absurd hcode hfits

end WireData

end DnsHealth.Message
