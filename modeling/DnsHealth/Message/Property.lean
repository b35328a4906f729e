import DnsHealth.Name.Labels
import DnsHealth.Text.Url.Locator

/-!
# Certification authority properties

The data of CAA records in normal form. Only the highest flag counts. The properties that name an
authority give its host and parameters, the one that names a place for reports gives a locator, and
both are written anew from their parts; the values of other properties stay as they are.
-/

namespace DnsHealth.Message

/-- Tells whether a byte is an ASCII letter or digit. -/
def isAlphanumeric (b : UInt8) : Bool := b < 128 && (Char.ofNat b.toNat).isAlphanum

/-- Tells whether a byte as a character is neither a control character nor a blank. -/
def isVisible (b : UInt8) : Bool := (0x20 < b && b < 0x7f) || 0xa0 < b

/-- What comes next in the parameters of an authority. -/
inductive ParameterState where
  /-- A key, or what stands between parameters. -/
  | between
  /-- More of a key, of which one character was read or more. -/
  | key (single : Bool) (key : List UInt8)
  /-- More of the value of a key. -/
  | value (key value : List UInt8)
  deriving DecidableEq, Repr

/-- Takes in one byte of the parameters, with those that are complete, the last one first. -/
def ParameterState.step (state : ParameterState × List (List UInt8 × List UInt8)) (b : UInt8) :
    Option (ParameterState × List (List UInt8 × List UInt8)) :=
  match state with
  | (between, done) =>
    if b = 59 ∨ b = 32 ∨ b = 9 then some (between, done)
    else if isAlphanumeric b then some (.key true [b], done)
    else none
  | (.key single name, done) =>
    if b = 61 then some (.value name [], done)
    else if isAlphanumeric b || (!single && b == 45) then
      some (.key false (name ++ [b]), done)
    else none
  | (.value name text, done) =>
    if b = 59 then some (between, (name, text) :: done)
    else if isVisible b then some (.value name (text ++ [b]), done)
    else none

/-- Reads the parameters of an authority. -/
def parameters? (bytes : List UInt8) : Option (List (List UInt8 × List UInt8)) :=
  match bytes.foldlM ParameterState.step (.between, []) with
  | some (.between, done) => some done.reverse
  | some (.value name text, done) => some ((name, text) :: done).reverse
  | _ => none

/-- Bytes taken as characters, and these as UTF-8. -/
def latinToUtf8 (bytes : List UInt8) : List UInt8 :=
  Text.Utf8.encode (bytes.map fun b => Char.ofNat b.toNat)

/-- The normal form of the name of an authority with its parameters. -/
def issuer? (value : List UInt8) : Option (List UInt8) := do
  let host := value.takeWhile (· ≠ 59)
  let name ←
    if host = [] then pure []
    else do
      let name ← LabelName.ofChars? LabelName.hostLabel? (← Text.Utf8.decode? host)
      pure (Text.Utf8.encode name.shownChars)
  let parameters ← parameters? ((value.dropWhile (· ≠ 59)).drop 1)
  if host = [] ∧ parameters = [] then return [59]
  else
    return name ++ parameters.flatMap fun (key, text) =>
      [59, 32] ++ latinToUtf8 key ++ [61] ++ latinToUtf8 text

/-- The normal form of the locator of a place for reports. -/
def reportPlace? (value : List UInt8) : Option (List UInt8) := do
  return Text.Utf8.encode (← Text.Url.normalized? (← Text.Utf8.decode? value))

/-- The normal form of a tag and its value. -/
def property? (tag value : List UInt8) : Option (List UInt8 × List UInt8) :=
  let name := String.ofList (tag.map fun b => (Char.ofNat b.toNat).toLower)
  match name with
  | "issue" | "issuewild" => (issuer? value).map (Text.Utf8.encode name.toList, ·)
  | "iodef" => (reportPlace? value).map (Text.Utf8.encode name.toList, ·)
  | _ => some (tag, value)

/-- The normal form of the data of a CAA record, whose tag has one to fifteen letters or digits. -/
def caa? : List UInt8 → Option (List UInt8)
  | flags :: length :: rest => do
    let tag := rest.take length.toNat
    if tag.length < length.toNat || tag = [] || 15 < tag.length ||
        tag.any (!isAlphanumeric ·) then none
    else
      let (tag, value) ← property? tag (rest.drop length.toNat)
      some ((if 128 ≤ flags then 128 else 0) :: UInt8.ofNat tag.length :: (tag ++ value))
  | _ => none

end DnsHealth.Message
