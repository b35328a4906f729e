import DnsHealth.Settings.Basic
import DnsHealth.Toml.Document

/-!
# Settings in a TOML document

The fields of a record are found in a table by their names, in an array by their places, and nowhere
in a date. What is missing keeps its default, and what has no field is passed over, though numbers
beyond every machine number are refused there too, except behind the last field in an array.
-/

namespace DnsHealth

namespace Toml

/-- Fields of a record that were found, under their names. -/
abbrev Fields := List (String × Toml)

/-- The fields of a record with the given names. -/
def fields? (names : List String) : Toml → Option Fields
  | table _ entries =>
    if (entries.filter fun e => !names.contains e.1).all (·.2.inRange) then some entries else none
  | array elements => some (names.zip elements)
  | tables elements => some (names.zip (elements.map (table .header)))
  | moment => some []
  | _ => none

/-- A field, or its default when it is missing. -/
def Fields.get (fields : Fields) (name : String) (fallback : α) (decode : Toml → Option α) :
    Option α :=
  match fields.lookup name with
  | some value => decode value
  | none => some fallback

/-- A string. -/
def string? : Toml → Option String
  | string s => some s
  | _ => none

/-- A truth value. -/
def boolean? : Toml → Option Bool
  | boolean b => some b
  | _ => none

/-- A whole number from zero up to a limit. -/
def natBelow? (limit : Nat) : Toml → Option Nat
  | integer (some (.ofNat n)) => if n < limit then some n else none
  | _ => none

end Toml

open Toml (fields? string? boolean? natBelow?)

/-- The resolver settings that a value gives. -/
def ResolverSettings.ofToml? (t : Toml) : Option ResolverSettings := do
  let fields ← fields? ["address", "port", "timeout_ms"] t
  let standard : ResolverSettings := {}
  return {
    address := ← fields.get "address" standard.address string?
    port := ← fields.get "port" standard.port fun v => (natBelow? 65536 v).map .ofNat
    timeoutMillis := ← fields.get "timeout_ms" standard.timeoutMillis fun v =>
      (natBelow? 18446744073709551616 v).map .ofNat }

/-- The scan settings that a value gives. -/
def ScanSettings.ofToml? (t : Toml) : Option ScanSettings := do
  let fields ← fields? ["qps", "result_buffer"] t
  let standard : ScanSettings := {}
  return {
    qps := ← fields.get "qps" standard.qps fun v => (natBelow? 4294967296 v).map .ofNat
    resultBuffer := ← fields.get "result_buffer" standard.resultBuffer fun v =>
      (natBelow? 18446744073709551616 v).map .ofNat }

/-- The log settings that a value gives. -/
def LoggingSettings.ofToml? (t : Toml) : Option LoggingSettings := do
  let fields ← fields? ["level"] t
  return { level := ← fields.get "level" ({} : LoggingSettings).level string? }

/-- The output settings that a value gives. -/
def OutputSettings.ofToml? (t : Toml) : Option OutputSettings := do
  let fields ← fields? ["json"] t
  return { json := ← fields.get "json" ({} : OutputSettings).json boolean? }

namespace Settings

/-- The settings that a table gives. -/
def ofToml? (t : Toml) : Option Settings := do
  let fields ← fields? ["resolver", "scan", "logging", "output"] t
  return {
    resolver := ← fields.get "resolver" {} ResolverSettings.ofToml?
    scan := ← fields.get "scan" {} ScanSettings.ofToml?
    logging := ← fields.get "logging" {} LoggingSettings.ofToml?
    output := ← fields.get "output" {} OutputSettings.ofToml? }

/-- The settings that a document gives. -/
def ofDocument (document : String) : Except SettingsFailure Settings :=
  match Toml.parse? document >>= ofToml? with
  | some settings => .ok settings
  | none => .error .malformed

end Settings

end DnsHealth
