import DnsHealth.Bytes
import DnsHealth.Text.Utf8

/-!
# Options and service parameters

The well-formedness of the extensible parts of records that carry numbered values: the options of an
OPT record and the parameters of a service binding.
-/

namespace DnsHealth.Message

/-- Tells whether a byte string is a client's network: the family, two lengths of network parts, and
the bytes of the address that the first of them needs, no more than an address of the family has. -/
def isClientSubnet : List UInt8 → Bool
  | f :: g :: source :: _ :: address =>
    let needed := (source.toNat + 7) / 8
    match (Bytes.to16 f g).toNat with
    | 1 => decide (needed ≤ Nat.min 4 address.length)
    | 2 => decide (needed ≤ Nat.min 16 address.length)
    | _ => false
  | _ => false

/-- Tells whether a byte string is a list of options, the last of which may break off. No option is
longer than the whole list. -/
def isOptionList (total : Nat) : List UInt8 → Bool
  | [] => true
  | [_] => false
  | [_, _] => true
  | [_, _, _] => false
  | c :: d :: l :: m :: rest =>
    let length := (Bytes.to16 l m).toNat
    if total < length then false
    else if rest.length < length then true
    else
      (Bytes.to16 c d != 8 || isClientSubnet (rest.take length)) &&
        isOptionList total (rest.drop length)
termination_by bytes => bytes.length
decreasing_by
  simp only [List.length_drop, List.length_cons]
  omega

/-- Splits a byte string into strings behind their length bytes. -/
def characterStrings? : List UInt8 → Option (List (List UInt8))
  | [] => some []
  | n :: bytes =>
    let s := bytes.take n.toNat
    if s.length < n.toNat then none
    else (characterStrings? (bytes.drop n.toNat)).map (s :: ·)
termination_by bytes => bytes.length
decreasing_by
  simp only [List.length_drop, List.length_cons]
  omega

/-- Tells whether a byte string begins with a list behind its number of bytes. -/
def holdsSizedList : List UInt8 → Bool
  | l :: m :: rest => decide ((Bytes.to16 l m).toNat ≤ rest.length)
  | _ => false

/-- Tells whether a byte string is the value of a service parameter. -/
def isServiceValue (key : UInt16) (value : List UInt8) : Bool :=
  match key.toNat with
  | 0 => value ≠ [] && value.length % 2 == 0
  | 1 => value ≠ [] && match characterStrings? value with
    | some names => names.all fun name => (Text.Utf8.decode? name).isSome
    | none => false
  | 2 => value.isEmpty
  | 3 => decide (2 ≤ value.length)
  | 4 => value.length % 4 == 0
  | 5 => holdsSizedList value
  | 6 => value.length % 16 == 0
  | _ => true

/-- Tells whether a byte string is a list of service parameters, with strictly increasing keys. -/
def isServiceParameters (last : Option UInt16) : List UInt8 → Bool
  | [] => true
  | k :: j :: l :: m :: rest =>
    let key := Bytes.to16 k j
    let value := rest.take (Bytes.to16 l m).toNat
    value.length == (Bytes.to16 l m).toNat && last.all (· < key) && isServiceValue key value &&
      isServiceParameters (some key) (rest.drop (Bytes.to16 l m).toNat)
  | _ => false
termination_by bytes => bytes.length
decreasing_by
  simp only [List.length_drop, List.length_cons]
  omega

end DnsHealth.Message
