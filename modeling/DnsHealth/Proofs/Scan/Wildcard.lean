import DnsHealth.Proofs.Address.Text
import DnsHealth.Proofs.Repetitions
import DnsHealth.Scan.Wildcard
import Mathlib.Data.List.Induction
import Mathlib.Data.List.Nodup

/-!
# Which addresses a wildcard holds

A set of wildcard addresses keeps texts, and it goes by addresses nevertheless, because no two
addresses share a text: after any history it holds exactly the addresses that were put in since its
last replacement, counts each once, and filters by nothing else. An address that was put in does not
stand for any other, be it the IPv6 address that maps it.
-/

namespace DnsHealth

/-- The data of an address record for an address. -/
def Address.data : Address → RecordData
  | .v4 x => .a x
  | .v6 x => .aaaa x

/-- The address that a record gives is the one that it is an address record for. -/
theorem Record.address?_eq_some_iff {r : Record} {x : Address} :
    r.address? = some x ↔ r.data = x.data := by
  obtain ⟨name, ttl, data⟩ := r
  cases data <;> cases x <;> simp [Record.address?, Address.data]

namespace WildcardSet

variable {w : WildcardSet} {addresses : List Address}

/-- A set holds the addresses of a list, none of which stands in it twice. -/
structure Holds (w : WildcardSet) (addresses : List Address) : Prop where
  /-- No address stands in the list twice. -/
  nodup : addresses.Nodup
  /-- The texts are those of the addresses. -/
  texts : w.texts.Perm (addresses.map Address.text)

private theorem holds_empty : empty.Holds [] := ⟨List.nodup_nil, .refl _⟩

/-- The addresses of the address records in a list, each once. -/
theorem holds_ofRecords (records : List Record) :
    (ofRecords records).Holds (records.filterMap Record.address?).eraseDups := by
  have hnodup := nodup_eraseDups (records.filterMap Record.address?)
  refine ⟨hnodup, ?_⟩
  rw [ofRecords, List.perm_ext_iff_of_nodup (nodup_eraseDups _)
    (hnodup.map Address.text_injective)]
  intro t
  simp only [List.mem_eraseDups, List.mem_map]

/-- An address counts as put in only if it was put in itself. -/
theorem Holds.contains_iff (h : w.Holds addresses) (x : Address) :
    w.contains x = true ↔ x ∈ addresses := by
  rw [contains, decide_eq_true_iff, h.texts.mem_iff,
    List.mem_map_of_injective Address.text_injective]

/-- The size of a set is the number of addresses in it. -/
theorem Holds.size_eq (h : w.Holds addresses) : w.size = addresses.length := by
  rw [size, h.texts.length_eq, List.length_map]

/-- An address that is put in is added unless it is there. -/
theorem Holds.insert (h : w.Holds addresses) (x : Address) :
    (w.insert x).Holds (if x ∈ addresses then addresses else addresses ++ [x]) := by
  have hmem : x.text ∈ w.texts ↔ x ∈ addresses := by
    rw [h.texts.mem_iff, List.mem_map_of_injective Address.text_injective]
  by_cases hx : x ∈ addresses
  · rw [WildcardSet.insert, if_pos (hmem.mpr hx), if_pos hx]
    exact h
  · rw [WildcardSet.insert, if_neg (hmem.not.mpr hx), if_neg hx]
    refine ⟨?_, ?_⟩
    · rw [List.nodup_append_comm]
      exact List.nodup_cons.mpr ⟨hx, h.nodup⟩
    · rw [List.map_append]
      exact h.texts.append_right _

/-- A record is kept unless it is an address record for an address that the set holds. -/
theorem Holds.keeps_iff (h : w.Holds addresses) (r : Record) :
    w.keeps r = true ↔ ∀ x ∈ addresses, r.data ≠ x.data := by
  unfold keeps
  split
  · next x hx =>
    rw [Bool.not_eq_true', ← Bool.not_eq_true, h.contains_iff]
    constructor
    · rintro hnot y hy hdata
      rw [Record.address?_eq_some_iff.mpr hdata, Option.some.injEq] at hx
      exact hnot (hx ▸ hy)
    · exact fun hall hmem => hall x hmem (Record.address?_eq_some_iff.mp hx)
  · next hnone =>
    refine iff_of_true rfl fun x _ hdata => ?_
    rw [Record.address?_eq_some_iff.mpr hdata] at hnone
    cases hnone

/-- What is done to a set. -/
inductive Operation where
  /-- The addresses of records replace it. -/
  | replace (records : List Record)
  /-- An address is put in. -/
  | insert (address : Address)
  deriving DecidableEq, Repr

namespace Operation

/-- The set after an operation. -/
def apply (w : WildcardSet) : Operation → WildcardSet
  | replace records => ofRecords records
  | insert address => w.insert address

/-- Tells whether nothing is left of what was there before. -/
def isReplacement : Operation → Bool
  | replace _ => true
  | insert _ => false

/-- An operation puts an address in: by itself, or as that of an address record. -/
def Puts (x : Address) : Operation → Prop
  | replace records => ∃ r ∈ records, r.data = x.data
  | insert address => address = x

end Operation

/-- The set after a history of operations. -/
def after (history : List Operation) : WildcardSet := history.foldl Operation.apply empty

/-- An address was put in, and the set has not been replaced since. -/
def PutIn (history : List Operation) (x : Address) : Prop :=
  ∃ before op later, history = before ++ op :: later ∧ op.Puts x ∧
    ∀ next ∈ later, next.isReplacement = false

private theorem not_putIn_nil (x : Address) : ¬PutIn [] x := by
  rintro ⟨before, op, later, hhistory, -, -⟩
  exact absurd hhistory (by simp)

/-- What an operation leaves: what it puts in, and what was there if it is no replacement. -/
theorem putIn_append_singleton_iff {history : List Operation} {op : Operation} {x : Address} :
    PutIn (history ++ [op]) x ↔ op.Puts x ∨ op.isReplacement = false ∧ PutIn history x := by
  constructor
  · rintro ⟨before, first, later, hhistory, hputs, hlater⟩
    rcases List.eq_nil_or_concat later with rfl | ⟨more, last, rfl⟩
    · obtain ⟨-, hop⟩ := List.append_inj' hhistory rfl
      obtain rfl := (List.cons.inj hop).1
      exact .inl hputs
    · rw [List.concat_eq_append, ← List.cons_append, ← List.append_assoc] at hhistory
      obtain ⟨rfl, hop⟩ := List.append_inj' hhistory rfl
      obtain rfl := (List.cons.inj hop).1
      rw [List.concat_eq_append, List.forall_mem_append] at hlater
      exact .inr ⟨hlater.2 op (List.mem_singleton_self op), before, first, more, rfl, hputs,
        hlater.1⟩
  · rintro (hputs | ⟨hkeeps, before, first, later, rfl, hputs, hlater⟩)
    · exact ⟨history, op, [], rfl, hputs, fun next hnext => absurd hnext List.not_mem_nil⟩
    · refine ⟨before, first, later ++ [op], by simp, hputs, List.forall_mem_append.mpr ⟨hlater, ?_⟩⟩
      rwa [List.forall_mem_singleton]

/-- One operation, on a set that holds what was put in. -/
theorem Holds.apply {history : List Operation} (h : w.Holds addresses)
    (hmem : ∀ x, x ∈ addresses ↔ PutIn history x) (op : Operation) :
    ∃ held : List Address, (op.apply w).Holds held ∧ ∀ x, x ∈ held ↔ PutIn (history ++ [op]) x := by
  cases op with
  | replace records =>
    refine ⟨_, holds_ofRecords records, fun x => ?_⟩
    rw [List.mem_eraseDups, List.mem_filterMap, putIn_append_singleton_iff]
    simp [Operation.Puts, Operation.isReplacement, Record.address?_eq_some_iff]
  | insert address =>
    refine ⟨_, h.insert address, fun x => ?_⟩
    rw [putIn_append_singleton_iff, ← hmem]
    by_cases haddress : address ∈ addresses
    · rw [if_pos haddress]
      refine ⟨fun hx => .inr ⟨rfl, hx⟩, ?_⟩
      rintro (rfl | ⟨-, hx⟩)
      · exact haddress
      · exact hx
    · rw [if_neg haddress, List.mem_append, List.mem_singleton]
      simp only [Operation.Puts, Operation.isReplacement, true_and]
      exact ⟨fun hx => hx.symm.imp Eq.symm id, fun hx => hx.symm.imp id Eq.symm⟩

/-- After any history the set holds what was put in. -/
theorem exists_holds_after (history : List Operation) :
    ∃ held : List Address, (after history).Holds held ∧ ∀ x, x ∈ held ↔ PutIn history x := by
  induction history using List.reverseRecOn with
  | nil => exact ⟨[], holds_empty, fun x => iff_of_false List.not_mem_nil (not_putIn_nil x)⟩
  | append_singleton history op ih =>
    obtain ⟨held, hholds, hmem⟩ := ih
    have hafter : after (history ++ [op]) = op.apply (after history) := by
      rw [after, List.foldl_append]
      rfl
    rw [hafter]
    exact hholds.apply hmem op

/-- A set contains an address exactly if its history has put it in. -/
theorem contains_after_iff (history : List Operation) (x : Address) :
    (after history).contains x = true ↔ PutIn history x := by
  obtain ⟨held, hholds, hmem⟩ := exists_holds_after history
  rw [hholds.contains_iff, hmem]

instance (history : List Operation) (x : Address) : Decidable (PutIn history x) :=
  decidable_of_iff _ (contains_after_iff history x)

/-- A record is an address record for an address that was put in. -/
def OfWildcard (history : List Operation) (r : Record) : Prop :=
  match r.data with
  | .a x => PutIn history (.v4 x)
  | .aaaa x => PutIn history (.v6 x)
  | _ => False

instance (history : List Operation) (r : Record) : Decidable (OfWildcard history r) := by
  unfold OfWildcard
  split <;> infer_instance

private theorem ofWildcard_iff {history : List Operation} {r : Record} :
    OfWildcard history r ↔ ∃ x, PutIn history x ∧ r.data = x.data := by
  unfold OfWildcard
  split
  · next y hdata => exact ⟨fun h => ⟨.v4 y, h, hdata⟩, fun ⟨x, h, hx⟩ => by
      rw [hdata] at hx
      cases x <;> cases hx
      exact h⟩
  · next y hdata => exact ⟨fun h => ⟨.v6 y, h, hdata⟩, fun ⟨x, h, hx⟩ => by
      rw [hdata] at hx
      cases x <;> cases hx
      exact h⟩
  · next hv4 hv6 =>
    refine iff_of_false id ?_
    rintro ⟨x, -, hx⟩
    cases x with
    | v4 y => exact hv4 y hx
    | v6 y => exact hv6 y hx

/-- After any history a set contains exactly the addresses that were put in since the last
replacement, its size is their number, and filtering keeps, in their order, the records that are not
address records for one of them. Filtering a second time keeps all that is left, and a list may be
filtered part by part. Putting in one address changes nothing for any other. -/
theorem after_exact (history : List Operation) :
    (∀ x, (after history).contains x = true ↔ PutIn history x) ∧
    (∃ held : List Address, held.Nodup ∧ (∀ x, x ∈ held ↔ PutIn history x) ∧
      (after history).size = held.length) ∧
    (∀ records, (after history).filter records =
      records.filter fun r => ¬OfWildcard history r) ∧
    (∀ records, (after history).filter ((after history).filter records) =
      (after history).filter records) ∧
    (∀ records others, (after history).filter (records ++ others) =
      (after history).filter records ++ (after history).filter others) ∧
    ∀ x y, (after (history ++ [.insert x])).contains y =
      ((after history).contains y || decide (y = x)) := by
  obtain ⟨held, hholds, hmem⟩ := exists_holds_after history
  refine ⟨contains_after_iff history, ⟨held, hholds.nodup, hmem, hholds.size_eq⟩, ?_,
    filter_filter _, filter_append _, ?_⟩
  · intro records
    rw [filter_eq]
    refine List.filter_congr fun r _ => ?_
    have hkeeps : (after history).keeps r = true ↔ ¬OfWildcard history r := by
      rw [hholds.keeps_iff, ofWildcard_iff]
      simp [hmem]
    rw [Bool.eq_iff_iff, hkeeps, decide_eq_true_iff]
  · intro x y
    rw [after, List.foldl_append]
    change ((after history).insert x).contains y = _
    rw [contains_insert, decide_eq_decide.mpr Address.text_inj]

/-- The address 192.0.2.1 was put in. The address ::ffff:192.0.2.1 is another one, and so is
::1:0:0:0 beside ::1:0:0. -/
theorem after_exact_mapped :
    let v4 : Address := .v4 ⟨192, 0, 2, 1⟩
    let mapped : Ipv6 := ⟨#v[0, 0, 0, 0, 0, 0xFFFF, 0xC000, 0x0201]⟩
    let short : Ipv6 := ⟨#v[0, 0, 0, 0, 0, 1, 0, 0]⟩
    let long : Ipv6 := ⟨#v[0, 0, 0, 0, 1, 0, 0, 0]⟩
    let history : List Operation := [.insert (.v6 mapped),
      .replace [⟨"*.a.", 60, .a ⟨192, 0, 2, 1⟩⟩], .insert (.v6 short), .insert v4]
    let records : List Record := [⟨"x.a.", 60, .aaaa mapped⟩, ⟨"x.a.", 60, .a ⟨192, 0, 2, 1⟩⟩,
      ⟨"x.a.", 60, .aaaa long⟩, ⟨"x.a.", 60, .txt ["192.0.2.1"]⟩, ⟨"x.a.", 60, .aaaa short⟩]
    (after history).size = 2 ∧ ¬PutIn history (.v6 mapped) ∧ ¬PutIn history (.v6 long) ∧
    (after history).filter records = [⟨"x.a.", 60, .aaaa mapped⟩, ⟨"x.a.", 60, .aaaa long⟩,
      ⟨"x.a.", 60, .txt ["192.0.2.1"]⟩] := by
  intro v4 mapped short long history records
  obtain ⟨hcontains, -, hfilter, -⟩ := after_exact history
  refine ⟨by decide +kernel, ?_, ?_, ?_⟩
  · rw [← hcontains]
    decide +kernel
  · rw [← hcontains]
    decide +kernel
  · rw [hfilter]
    decide +kernel

end WildcardSet

end DnsHealth
