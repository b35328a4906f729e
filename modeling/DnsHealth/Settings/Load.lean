import DnsHealth.Settings.Document
import DnsHealth.Text.Utf8

/-!
# Loading settings

Settings come from a file, and single ones are replaced by choices made for one run. The file is the
one that was asked for, or else the usual one if there is one; without a file the defaults hold.
-/

namespace DnsHealth

/-- What can be read. -/
structure Files (m : Type → Type) where
  /-- Tells whether something lies under a path. -/
  contains : String → m Bool
  /-- The bytes of a file, or the reason why they cannot be read. -/
  read : String → m (Except String (List UInt8))

/-- Choices for one run. -/
structure SettingsOverrides where
  /-- The text of the resolver's address. -/
  resolver : Option String := none
  /-- The port. -/
  port : Option UInt16 := none
  /-- How long an answer may take, in milliseconds. -/
  timeoutMillis : Option UInt64 := none
  /-- The queries per second and server. -/
  qps : Option UInt32 := none
  /-- The level of the log. -/
  logLevel : Option String := none
  /-- The log has everything for the search of faults, whatever its level is otherwise. -/
  debug : Bool := false
  /-- The output is JSON, whatever it is otherwise. -/
  json : Bool := false
  deriving DecidableEq, Repr

/-- Replaces the settings that were chosen otherwise. -/
def SettingsOverrides.apply (o : SettingsOverrides) (s : Settings) : Settings :=
  { resolver :=
      { address := o.resolver.getD s.resolver.address
        port := o.port.getD s.resolver.port
        timeoutMillis := o.timeoutMillis.getD s.resolver.timeoutMillis }
    scan := { s.scan with qps := o.qps.getD s.scan.qps }
    logging := { level := if o.debug then "debug" else o.logLevel.getD s.logging.level }
    output := { json := s.output.json || o.json } }

namespace Settings

/-- The file that is looked for when none is asked for. -/
def usualFile : String := "zonewarden.toml"

/-- The settings that the bytes of a file give. -/
def ofFile (path : String) : Except String (List UInt8) → Except SettingsFailure Settings
  | .error reason => .error (.unreadable path reason)
  | .ok bytes =>
    match Text.Utf8.decode? bytes with
    | none => .error (.unreadable path "stream did not contain valid UTF-8")
    | some text => ofDocument (String.ofList text)

/-- Loads the settings of a run. -/
def load [Monad m] (files : Files m) (path : Option String) (overrides : SettingsOverrides) :
    m (Except SettingsFailure Settings) := do
  let settings ← match path with
    | some path => do pure (ofFile path (← files.read path))
    | none => do
      if ← files.contains usualFile then pure (ofFile usualFile (← files.read usualFile))
      else pure (.ok {})
  return settings.map overrides.apply

/-- Loads the settings of a run, which have to be usable. -/
def loadValidated [Monad m] (files : Files m) (path : Option String)
    (overrides : SettingsOverrides) : m (Except SettingsFailure Settings) := do
  return (← load files path overrides) >>= validated

end Settings

end DnsHealth
