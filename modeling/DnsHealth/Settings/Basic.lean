import DnsHealth.Address.Text
import DnsHealth.Json.Basic
import DnsHealth.Time.Duration

/-!
# Settings

Which resolver is asked and how, at what rate a scan runs, how much is logged, and in which form the
diagnosis is printed. Every setting has a default. Settings are valid when the resolver has an
address and no number among them is zero, and of several problems the first in that order counts.
-/

namespace DnsHealth

open Text (Decimal.ofNat)

/-- The recursive resolver and how it is asked. -/
structure ResolverSettings where
  /-- The text of its address. -/
  address : String := "8.8.8.8"
  /-- The port that every query goes to. -/
  port : UInt16 := 53
  /-- How long an answer may take, in milliseconds. -/
  timeoutMillis : UInt64 := 5000
  deriving DecidableEq, Repr

/-- How a scan runs. -/
structure ScanSettings where
  /-- The queries per second and server. -/
  qps : UInt32 := 10
  /-- The number of responses that wait to be collected. -/
  resultBuffer : UInt64 := 100
  deriving DecidableEq, Repr

/-- What is logged. -/
structure LoggingSettings where
  /-- The least grave level that is logged. -/
  level : String := "warn"
  deriving DecidableEq, Repr

/-- The form of the diagnosis. -/
structure OutputSettings where
  /-- The diagnosis is printed as JSON instead of text. -/
  json : Bool := false
  deriving DecidableEq, Repr

/-- All settings. -/
structure Settings where
  /-- The resolver. -/
  resolver : ResolverSettings := {}
  /-- The scan. -/
  scan : ScanSettings := {}
  /-- The log. -/
  logging : LoggingSettings := {}
  /-- The output. -/
  output : OutputSettings := {}
  deriving DecidableEq, Repr

/-- What can be wrong with settings. -/
inductive SettingsProblem where
  /-- The resolver's address is no address. -/
  | address (text : String)
  | port
  | timeout
  | qps
  | resultBuffer
  deriving DecidableEq, Repr

namespace SettingsProblem

/-- The wording of a problem. -/
def message : SettingsProblem → String
  | address text => "Resolver address '" ++ text ++ "' is not an IP address"
  | port => "Resolver port cannot be 0"
  | timeout => "Query timeout cannot be 0"
  | qps => "Scan QPS budget cannot be 0"
  | resultBuffer => "Scan result buffer cannot be 0"

end SettingsProblem

/-- Why there are no settings. -/
inductive SettingsFailure where
  /-- A file cannot be read. -/
  | unreadable (path reason : String)
  /-- A file is no document with settings. -/
  | malformed
  /-- The settings cannot be used. -/
  | invalid (problem : SettingsProblem)
  deriving DecidableEq, Repr

namespace SettingsFailure

/-- The wording of a failure. -/
def message : SettingsFailure → String
  | unreadable path reason => "Failed to read config file " ++ path ++ ": " ++ reason
  | malformed => "Failed to parse config"
  | invalid problem => "Configuration validation error: " ++ problem.message

end SettingsFailure

namespace ResolverSettings

/-- The address of the resolver, if its text is one. -/
def address? (r : ResolverSettings) : Option Address := Address.ofText? r.address

/-- The address of the resolver together with the port. -/
def endpoint? (r : ResolverSettings) : Option String := r.address?.map (·.withPort r.port)

/-- How long an answer may take. -/
def timeout (r : ResolverSettings) : Duration := .ofMillis r.timeoutMillis.toNat

/-- The address that a client asks first. -/
def toAddress (r : ResolverSettings) : Except SettingsFailure Address :=
  match r.address? with
  | some address => .ok address
  | none => .error (.invalid (.address r.address))

/-- The resolver settings in JSON. -/
def toJson (r : ResolverSettings) : Json :=
  .obj [("address", .str r.address), ("port", .nat r.port.toNat),
    ("timeout_ms", .nat r.timeoutMillis.toNat)]

end ResolverSettings

namespace Settings

/-- The first problem with the settings, if there is one. -/
def problem? (s : Settings) : Option SettingsProblem :=
  if s.resolver.address?.isNone then some (.address s.resolver.address)
  else if s.resolver.port = 0 then some .port
  else if s.resolver.timeoutMillis = 0 then some .timeout
  else if s.scan.qps = 0 then some .qps
  else if s.scan.resultBuffer = 0 then some .resultBuffer
  else none

/-- The settings, if they can be used. -/
def validated (s : Settings) : Except SettingsFailure Settings :=
  match s.problem? with
  | some problem => .error (.invalid problem)
  | none => .ok s

/-- The settings in JSON. -/
def toJson (s : Settings) : Json :=
  .obj [("resolver", s.resolver.toJson),
    ("scan", .obj [("qps", .nat s.scan.qps.toNat),
      ("result_buffer", .nat s.scan.resultBuffer.toNat)]),
    ("logging", .obj [("level", .str s.logging.level)]),
    ("output", .obj [("json", .bool s.output.json)])]

end Settings

end DnsHealth
