import DnsHealth.Record.Data

/-!
# Wildcard addresses

The set of addresses that a domain gives to names that do not exist. An address is kept and looked
for by its text. Filtering by the set keeps the order of the records and drops exactly the address
records whose address is found in the set.
-/

namespace DnsHealth

/-- The addresses of a wildcard by their texts, each once. -/
structure WildcardSet where
  /-- The texts of the addresses, in the order in which they came. -/
  texts : List String
  deriving DecidableEq, Repr

namespace WildcardSet

/-- The set without addresses. -/
def empty : WildcardSet := ⟨[]⟩

/-- The addresses of the address records in a list. -/
def ofRecords (records : List Record) : WildcardSet :=
  ⟨((records.filterMap Record.address?).map Address.text).eraseDups⟩

/-- The set with an address put in. -/
def insert (w : WildcardSet) (address : Address) : WildcardSet :=
  if address.text ∈ w.texts then w else ⟨w.texts ++ [address.text]⟩

/-- Tells whether an address is in the set. -/
def contains (w : WildcardSet) (address : Address) : Bool := decide (address.text ∈ w.texts)

/-- The number of addresses. -/
def size (w : WildcardSet) : Nat := w.texts.length

/-- The set has no address. -/
def isEmpty (w : WildcardSet) : Bool := w.texts.isEmpty

/-- Tells whether a record is none of the wildcard's own. -/
def keeps (w : WildcardSet) (r : Record) : Bool :=
  match r.address? with
  | some address => !w.contains address
  | none => true

/-- The records that are none of the wildcard's own, in their order. -/
def filter (w : WildcardSet) (records : List Record) : List Record :=
  if w.isEmpty then records else records.filter w.keeps

/-- The empty set keeps every record. -/
theorem keeps_of_isEmpty {w : WildcardSet} (h : w.isEmpty = true) (r : Record) :
    w.keeps r = true := by
  unfold keeps contains
  rw [List.isEmpty_iff.mp h]
  split <;> simp

/-- With no address to look for all records are kept without a look at them, as a look at each would
keep them. -/
theorem filter_eq (w : WildcardSet) (records : List Record) :
    w.filter records = records.filter w.keeps := by
  unfold filter
  split
  · next h => exact (List.filter_eq_self.mpr fun r _ => keeps_of_isEmpty h r).symm
  · rfl

theorem mem_filter_iff {w : WildcardSet} {r : Record} {records : List Record} :
    r ∈ w.filter records ↔ r ∈ records ∧ w.keeps r = true := by
  rw [filter_eq, List.mem_filter]

/-- Filtering a second time drops nothing more. -/
theorem filter_filter (w : WildcardSet) (records : List Record) :
    w.filter (w.filter records) = w.filter records := by
  simp [filter_eq]

/-- Filtering goes through concatenation. -/
theorem filter_append (w : WildcardSet) (xs ys : List Record) :
    w.filter (xs ++ ys) = w.filter xs ++ w.filter ys := by
  simp [filter_eq]

/-- An address is in the set after an insertion if its text was there or is that of the inserted
address. -/
theorem contains_insert (w : WildcardSet) (x y : Address) :
    (w.insert x).contains y = (w.contains y || decide (y.text = x.text)) := by
  by_cases h : x.text ∈ w.texts
  · by_cases hy : y.text = x.text <;> simp_all [insert, contains]
  · simp [insert, contains, h]

end WildcardSet

end DnsHealth
