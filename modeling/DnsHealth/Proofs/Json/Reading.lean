import DnsHealth.Json.Decode

/-!
# Values read back from JSON

A number that fits its counter, a list and an optional value are read back from the JSON that they
were written as, and a field of a structure is read from the member under its name. So a structure
reads back if its fields do.
-/

namespace DnsHealth.Json

@[simp] theorem str?_str (s : String) : str? (.str s) = some s := rfl

@[simp] theorem bool?_bool (b : Bool) : bool? (.bool b) = some b := rfl

section Numbers

private theorem natBelow?_nat {limit n : Nat} (h : n < limit) :
    natBelow? limit (nat n) = some n := if_pos h

@[simp] theorem uint8?_nat (n : UInt8) : uint8? (nat n.toNat) = some n := by
  rw [uint8?, natBelow?_nat n.toNat_lt, Option.map_some, UInt8.ofNat_toNat]

@[simp] theorem uint16?_nat (n : UInt16) : uint16? (nat n.toNat) = some n := by
  rw [uint16?, natBelow?_nat n.toNat_lt, Option.map_some, UInt16.ofNat_toNat]

@[simp] theorem uint32?_nat (n : UInt32) : uint32? (nat n.toNat) = some n := by
  rw [uint32?, natBelow?_nat n.toNat_lt, Option.map_some, UInt32.ofNat_toNat]

/-- A number that fits into sixty-four bits reads back. -/
theorem uint64?_nat {n : Nat} (h : n < 18446744073709551616) : uint64? (nat n) = some n :=
  natBelow?_nat h

/-- A number that fits into sixty-four bits with a sign reads back. -/
theorem int64?_int {n : Int} (h : -9223372036854775808 ≤ n ∧ n < 9223372036854775808) :
    int64? (int n) = some n := if_pos h

end Numbers

section Parts

variable {α β : Type} {encode : α → Json} {decode : Json → Option β} {f : α → β}

/-- A list reads back if its members do. -/
theorem list?_list {xs : List α} (h : ∀ x ∈ xs, decode (encode x) = some (f x)) :
    list? decode (list encode xs) = some (xs.map f) := by
  change (xs.map encode).mapM decode = some (xs.map f)
  induction xs with
  | nil => rfl
  | cons x xs ih =>
    obtain ⟨hx, hxs⟩ := List.forall_mem_cons.mp h
    rw [List.map_cons, List.mapM_cons, hx, ih hxs]
    rfl

/-- A list of values that read back as they were reads back as it was. -/
theorem list?_list_self {decode : Json → Option α} (h : ∀ x, decode (encode x) = some x)
    (xs : List α) : list? decode (list encode xs) = some xs := by
  rw [list?_list (f := id) fun x _ => h x, List.map_id]

@[simp] theorem bytes?_bytes (bs : List UInt8) : bytes? (bytes bs) = some bs :=
  list?_list_self uint8?_nat bs

/-- An optional value reads back if it does where it is there, and is not null there. -/
theorem nullable_option {x? : Option α} (hne : ∀ x, encode x ≠ null)
    (h : ∀ x ∈ x?, decode (encode x) = some (f x)) :
    nullable decode (option encode x?) = some (x?.map f) := by
  cases x? with
  | none => rfl
  | some x =>
    have hread := h x rfl
    cases hvalue : encode x with
    | null => exact absurd hvalue (hne x)
    | _ =>
      rw [hvalue] at hread
      simp [option, hvalue, nullable, hread]

/-- An optional value that reads back as it was where it is there. -/
theorem nullable_option_self {decode : Json → Option α} {x? : Option α}
    (hne : ∀ x, encode x ≠ null) (h : ∀ x ∈ x?, decode (encode x) = some x) :
    nullable decode (option encode x?) = some x? := by
  rw [nullable_option (f := id) hne h, Option.map_id]
  rfl

end Parts

section Structures

variable {α : Type} {name other : String}

@[simp] theorem members?_obj (names : List String) (members : List (String × Json)) :
    members? names (obj members) = some (names.map fun name => (name, members.lookup name)) := rfl

@[simp] theorem fields?_obj (names : List String) (members : List (String × Json)) :
    fields? names (obj members) = some (names.map fun name => (name, members.lookup name)) := rfl

/-- A member behind others is found as if they were not there. -/
@[simp] theorem lookup_cons_of_ne (h : name ≠ other) (value : Json)
    (members : List (String × Json)) :
    ((other, value) :: members).lookup name = members.lookup name := by
  have hbeq : (name == other) = false := beq_false_of_ne h
  simp only [List.lookup_cons, hbeq]

/-- A field in front is read from what was found under its name. -/
@[simp] theorem required_cons_self (name : String) (value : Json) (fields : Fields)
    (decode : Json → Option α) :
    Fields.required ((name, some value) :: fields) name decode = decode value := by
  simp [Fields.required]

/-- A field behind others is read as if they were not there. -/
@[simp] theorem required_cons_of_ne {found : Option Json} (h : name ≠ other) (fields : Fields)
    (decode : Json → Option α) :
    Fields.required ((other, found) :: fields) name decode = fields.required name decode := by
  have hbeq : (name == other) = false := beq_false_of_ne h
  simp only [Fields.required, List.lookup_cons, hbeq]

@[simp] theorem optional_cons_self (name : String) (value : Json) (fields : Fields)
    (decode : Json → Option α) :
    Fields.optional ((name, some value) :: fields) name decode = nullable decode value := by
  cases value <;> simp [Fields.optional, nullable]

@[simp] theorem optional_cons_of_ne {found : Option Json} (h : name ≠ other) (fields : Fields)
    (decode : Json → Option α) :
    Fields.optional ((other, found) :: fields) name decode = fields.optional name decode := by
  have hbeq : (name == other) = false := beq_false_of_ne h
  simp only [Fields.optional, List.lookup_cons, hbeq]

end Structures

end DnsHealth.Json
