import DnsHealth.Settings.Load

/-!
# The command line

The domain to diagnose, options with values that override settings, and switches. A value stands
behind its option, separated by a blank or an equals sign, and short options may be joined. No
option is given twice, and behind two hyphens everything is taken for the domain.
-/

namespace DnsHealth

open Text (Decimal.ofNat Decimal.value?)

/-- What a run is to do. -/
structure Invocation where
  /-- The domain to diagnose. -/
  domain : String
  /-- The file with the settings. -/
  settingsFile : Option String
  /-- The settings that hold for this run only. -/
  overrides : SettingsOverrides
  /-- A scan is wanted. -/
  scan : Bool
  deriving DecidableEq, Repr

/-- An option. -/
inductive CommandOption where
  | config
  | resolver
  | port
  | timeoutMillis
  | qps
  | logLevel
  | scan
  | json
  | debug
  | help
  | version
  deriving DecidableEq, Repr

/-- What is wrong with a command line. -/
inductive UsageProblem where
  /-- An argument has no meaning. -/
  | unexpected (argument : String)
  /-- An option has no value. -/
  | missingValue (option : CommandOption)
  /-- A switch has a value. -/
  | superfluousValue (value : String) (option : CommandOption)
  /-- A value does not fit its option. -/
  | invalidValue (value : String) (option : CommandOption) (reason : String)
  /-- An option is given twice. -/
  | repeated (option : CommandOption)
  /-- There is no domain. -/
  | missingDomain
  deriving DecidableEq, Repr

/-- What a command line asks for. -/
inductive Command where
  | diagnose (invocation : Invocation)
  | help
  | version
  deriving DecidableEq, Repr

namespace CommandOption

/-- All options, in the order in which they are explained. -/
def all : List CommandOption :=
  [config, resolver, port, timeoutMillis, qps, scan, json, debug, logLevel, help, version]

/-- The long name of an option. -/
def name : CommandOption → String
  | config => "config"
  | resolver => "resolver"
  | port => "port"
  | timeoutMillis => "timeout-ms"
  | qps => "qps"
  | logLevel => "log-level"
  | scan => "scan"
  | json => "json"
  | debug => "debug"
  | help => "help"
  | version => "version"

/-- The short name of an option. -/
def letter? : CommandOption → Option Char
  | config => some 'c'
  | resolver => some 'r'
  | scan => some 's'
  | help => some 'h'
  | version => some 'V'
  | _ => none

/-- What the value of an option is called; a switch has none. -/
def valueName? : CommandOption → Option String
  | config => some "FILE"
  | resolver => some "RESOLVER"
  | port => some "PORT"
  | timeoutMillis => some "TIMEOUT_MS"
  | qps => some "QPS"
  | logLevel => some "LOG_LEVEL"
  | _ => none

/-- What an option is good for. -/
def explanation : CommandOption → String
  | config => "Configuration file path"
  | resolver => "Recursive resolver used for nameserver discovery"
  | port => "DNS port used for every query"
  | timeoutMillis => "Per-query timeout in milliseconds"
  | qps => "Queries per second per nameserver during a scan"
  | scan => "Enumerate records (zone transfer, then dictionary sweep)"
  | json => "Print one JSON report instead of text"
  | debug => "Shorthand for --log-level debug"
  | logLevel => "Log level (trace, debug, info, warn, error)"
  | help => "Print help"
  | version => "Print version"

/-- The long name as it is written, with the name of the value. -/
def usage (option : CommandOption) : String :=
  "--" ++ option.name ++ match option.valueName? with
    | some value => " <" ++ value ++ ">"
    | none => ""

/-- The option with a long name. -/
def ofName? (name : String) : Option CommandOption := all.find? (·.name = name)

/-- The option with a short name. -/
def ofLetter? (letter : Char) : Option CommandOption := all.find? (·.letter? = some letter)

end CommandOption

namespace UsageProblem

/-- The wording of a problem. -/
def message : UsageProblem → String
  | unexpected argument => "unexpected argument '" ++ argument ++ "' found"
  | missingValue option =>
    "a value is required for '" ++ option.usage ++ "' but none was supplied"
  | superfluousValue value option =>
    "unexpected value '" ++ value ++ "' for '" ++ option.usage ++ "' found; no more were expected"
  | invalidValue value option reason =>
    "invalid value '" ++ value ++ "' for '" ++ option.usage ++ "': " ++ reason
  | repeated option => "the argument '" ++ option.usage ++ "' cannot be used multiple times"
  | missingDomain => "the following required arguments were not provided:\n  <DOMAIN>"

end UsageProblem

namespace CommandLine

/-- What has been read of a command line. -/
structure Draft where
  /-- The options that were given, with their values; the value of a switch is empty. -/
  options : List (CommandOption × String)
  /-- The domain. -/
  domain : Option String
  deriving Repr

/-- Nothing yet. -/
def Draft.empty : Draft := ⟨[], none⟩

/-- Adds an option. -/
def Draft.addOption (draft : Draft) (option : CommandOption) (value : String) :
    Except UsageProblem Draft :=
  if (draft.options.lookup option).isSome then .error (.repeated option)
  else .ok { draft with options := draft.options ++ [(option, value)] }

/-- Adds an argument that is no option. -/
def Draft.addArgument (draft : Draft) (argument : String) : Except UsageProblem Draft :=
  match draft.domain with
  | none => .ok { draft with domain := some argument }
  | some _ => .error (.unexpected argument)

/-- An option with its value, or one that waits for the next argument as its value. -/
inductive Reading where
  | complete (draft : Draft)
  | waiting (draft : Draft) (option : CommandOption)

/-- Reads a long option, with its value behind an equals sign if there is one. -/
def readLong (draft : Draft) (argument : String) : Except UsageProblem Reading := do
  let text := argument.toList.drop 2
  let name := String.ofList (text.takeWhile (· ≠ '='))
  match CommandOption.ofName? name, text.dropWhile (· ≠ '=') with
  | none, _ => throw (.unexpected ("--" ++ name))
  | some option, [] =>
    if option.valueName?.isSome then return .waiting draft option
    else return .complete (← draft.addOption option "")
  | some option, _ :: value =>
    if option.valueName?.isSome then
      return .complete (← draft.addOption option (String.ofList value))
    else throw (.superfluousValue (String.ofList value) option)

/-- Reads joined short options, the last of which may have its value behind it. -/
def readShort (draft : Draft) : List Char → Except UsageProblem Reading
  | [] => return .complete draft
  | letter :: rest =>
    match CommandOption.ofLetter? letter with
    | none => throw (.unexpected ("-" ++ letter.toString))
    | some option =>
      if option.valueName?.isSome then
        match rest with
        | [] => return .waiting draft option
        | '=' :: value => return .complete (← draft.addOption option (String.ofList value))
        | value => return .complete (← draft.addOption option (String.ofList value))
      else do readShort (← draft.addOption option "") rest

/-- Reads arguments, the first of which is the value of an option if one is waiting. -/
def readArguments (draft : Draft) (waiting : Option CommandOption) :
    List String → Except UsageProblem Draft
  | [] =>
    match waiting with
    | some option => throw (.missingValue option)
    | none => return draft
  | argument :: rest =>
    match waiting, argument.toList with
    | some option, text =>
      if text.head? = some '-' && text ≠ ['-'] then throw (.missingValue option)
      else do readArguments (← draft.addOption option argument) none rest
    | none, ['-', '-'] => rest.foldlM Draft.addArgument draft
    | none, '-' :: '-' :: _ => do
      match ← readLong draft argument with
      | .complete draft => readArguments draft none rest
      | .waiting draft option => readArguments draft (some option) rest
    | none, '-' :: letter :: letters => do
      match ← readShort draft (letter :: letters) with
      | .complete draft => readArguments draft none rest
      | .waiting draft option => readArguments draft (some option) rest
    | none, _ => do readArguments (← draft.addArgument argument) none rest

/-- The number that an option gives, from zero up to a limit. -/
def Draft.number (draft : Draft) (option : CommandOption) (limit : Nat) :
    Except UsageProblem (Option Nat) :=
  match draft.options.lookup option with
  | none => .ok none
  | some value =>
    let digits := match value.toList with
      | '+' :: digits => digits
      | digits => digits
    if value.isEmpty then
      .error (.invalidValue value option "cannot parse integer from empty string")
    else if digits.isEmpty then
      .error (.invalidValue value option "invalid digit found in string")
    else match Decimal.value? 0 digits with
      | none => .error (.invalidValue value option "invalid digit found in string")
      | some n =>
        if n < limit then .ok (some n)
        else .error (.invalidValue value option
          (value ++ " is not in 0..=" ++ Decimal.ofNat (limit - 1)))

/-- A switch was given. -/
def Draft.has (draft : Draft) (option : CommandOption) : Bool :=
  (draft.options.lookup option).isSome

/-- What a command line that has been read asks for. -/
def Draft.invocation (draft : Draft) : Except UsageProblem Invocation := do
  let port ← draft.number .port 65536
  let timeoutMillis ← draft.number .timeoutMillis 18446744073709551616
  let qps ← draft.number .qps 4294967296
  match draft.domain with
  | none => throw .missingDomain
  | some domain =>
    return {
      domain
      settingsFile := draft.options.lookup .config
      overrides := {
        resolver := draft.options.lookup .resolver
        port := port.map .ofNat
        timeoutMillis := timeoutMillis.map .ofNat
        qps := qps.map .ofNat
        logLevel := draft.options.lookup .logLevel
        debug := draft.has .debug
        json := draft.has .json }
      scan := draft.has .scan }

/-- Reads the arguments of a run. -/
def parse (arguments : List String) : Except UsageProblem Command := do
  let draft ← readArguments .empty none arguments
  if draft.has .help then return .help
  else if draft.has .version then return .version
  else return .diagnose (← draft.invocation)

/-- How the program is called. -/
def usage : String := "Usage: dns-health [OPTIONS] <DOMAIN>"

/-- One option in the help. -/
def helpLine (option : CommandOption) : String :=
  let short := match option.letter? with
    | some letter => "-" ++ letter.toString ++ ", "
    | none => "    "
  let names := "  " ++ short ++ option.usage
  names ++ String.ofList (List.replicate (34 - names.length) ' ') ++ option.explanation ++ "\n"

/-- The help. -/
def helpText : String :=
  "DNS health diagnostics: nameservers, DNSSEC chain, record scan\n\n" ++ usage ++
    "\n\nArguments:\n  <DOMAIN>  Domain to diagnose\n\nOptions:\n" ++
    String.join (CommandOption.all.map helpLine)

/-- What is said about a command line with a problem. -/
def problemText (problem : UsageProblem) : String :=
  "error: " ++ problem.message ++ "\n\n" ++ usage ++ "\n\nFor more information, try '--help'."

end CommandLine

end DnsHealth
