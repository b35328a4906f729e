import DnsHealth.Json.Basic

/-!
# Reading values out of JSON

A structure is read from an object, in which members may stand in any order and unknown ones are
passed over, or from an array with exactly its fields in their order. A missing member counts as
null only where the field is optional. Numbers must be whole and in range. A tag is a string, or the
only key of an object under which nothing stands.
-/

namespace DnsHealth.Json

/-- The members of a structure, each as found or missing, under the names of its fields. -/
abbrev Fields := List (String × Option Json)

/-- The fields with the given names of a structure that has to be an object. -/
def members? (names : List String) : Json → Option Fields
  | obj members => some (names.map fun name => (name, members.lookup name))
  | _ => none

/-- The fields of a structure with the given names. -/
def fields? (names : List String) : Json → Option Fields
  | arr elements =>
    if elements.length = names.length then some (names.zip (elements.map some)) else none
  | value => members? names value

/-- A field that has to be there. -/
def Fields.required (fields : Fields) (name : String) (decode : Json → Option α) : Option α :=
  match fields.lookup name with
  | some (some value) => decode value
  | _ => none

/-- A field that may be missing or null. -/
def Fields.optional (fields : Fields) (name : String) (decode : Json → Option α) :
    Option (Option α) :=
  match fields.lookup name with
  | some (some null) | some none => some none
  | some (some value) => (decode value).map some
  | none => none

/-- A value that may be null. -/
def nullable (decode : Json → Option α) : Json → Option (Option α)
  | null => some none
  | value => (decode value).map some

/-- A string. -/
def str? : Json → Option String
  | str s => some s
  | _ => none

/-- A truth value. -/
def bool? : Json → Option Bool
  | bool b => some b
  | _ => none

/-- A whole number from zero up to a limit. -/
def natBelow? (limit : Nat) : Json → Option Nat
  | int (.ofNat n) => if n < limit then some n else none
  | _ => none

/-- A byte. -/
def uint8? (j : Json) : Option UInt8 := (natBelow? 256 j).map UInt8.ofNat

/-- An unsigned number of sixteen bits. -/
def uint16? (j : Json) : Option UInt16 := (natBelow? 65536 j).map UInt16.ofNat

/-- An unsigned number of thirty-two bits. -/
def uint32? (j : Json) : Option UInt32 := (natBelow? 4294967296 j).map UInt32.ofNat

/-- An unsigned number of sixty-four bits. -/
def uint64? (j : Json) : Option Nat := natBelow? 18446744073709551616 j

/-- A signed number of sixty-four bits. -/
def int64? : Json → Option Int
  | int n => if -9223372036854775808 ≤ n ∧ n < 9223372036854775808 then some n else none
  | _ => none

/-- A list of values. -/
def list? (decode : Json → Option α) : Json → Option (List α)
  | arr elements => elements.mapM decode
  | _ => none

/-- A list of bytes. -/
def bytes? (j : Json) : Option (List UInt8) := list? uint8? j

/-- Tells whether a value is null. -/
def isNull : Json → Bool
  | null => true
  | _ => false

/-- Tells whether a value is null or an object without members. -/
def isVoid : Json → Bool
  | null | obj [] => true
  | _ => false

/-- Tells whether a value is an object. -/
def isObject : Json → Bool
  | obj _ => true
  | _ => false

/-- A tag, given as a string or as the only key of an object whose value passes a test. -/
def tag? (nothing : Json → Bool) : Json → Option String
  | str s => some s
  | obj [(s, value)] => if nothing value then some s else none
  | _ => none

/-- A tag with the content that goes with it, from an object with the two members or from an array
of both. -/
def tagged? (tag content : String) : Json → Option (String × Option Json)
  | obj members => do
    let name ← members.lookup tag >>= tag? isNull
    return (name, members.lookup content)
  | arr [name, value] => do return (← tag? isNull name, some value)
  | _ => none

end DnsHealth.Json
