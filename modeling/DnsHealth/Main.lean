import DnsHealth.Client.Network
import DnsHealth.Client.Sockets
import DnsHealth.CommandLine
import DnsHealth.Diagnosis.Run
import DnsHealth.Diagnosis.Text
import DnsHealth.Signature.Verifier
import Std.Time.DateTime.Timestamp

/-!
# The program

Reads the command line and the settings, diagnoses the domain over the network, and prints the
diagnosis. Problems with the command line end with code two, other failures with code one.
-/

namespace DnsHealth

/-- The files of the working directory. -/
def workingFiles : Files IO where
  contains path := do
    try
      let _ ← IO.FS.readBinFile path
      return true
    catch error => return match error with
      | .noFileOrDirectory .. => false
      | _ => true
  read path := do
    try return .ok (← IO.FS.readBinFile path).toList
    catch error => return .error <| match error with
      | .noFileOrDirectory .. => "No such file or directory (os error 2)"
      | .inappropriateType .. => "Is a directory (os error 21)"
      | .permissionDenied .. => "Permission denied (os error 13)"
      | other => other.toString

/-- Tells about a failure. -/
def fail (message : String) : IO UInt32 := do
  IO.eprintln ("Error: " ++ message)
  return 1

/-- The current time, in seconds since the start of 1970. -/
def unixNow : IO Int := return (← Std.Time.Timestamp.now).val.second.val

/-- Diagnoses a domain and prints the diagnosis. -/
def runDiagnosis (invocation : Invocation) (settings : Settings) (address : Address) :
    IO UInt32 := do
  let link := Sockets.link settings.resolver.port settings.resolver.timeout
  let resolver : Resolver IO := ⟨link.client settings.resolver.port, address⟩
  let diagnosed := resolver.diagnoseBy unixNow .standard settings.scan.qps.toNat invocation.scan
    invocation.domain
  let (result, _) ← diagnosed.run.run .empty
  match result with
  | .error failure => fail failure.message
  | .ok diagnosis =>
    if settings.output.json then IO.println diagnosis.jsonText else IO.print diagnosis.text
    return 0

/-- Does what a command asks for. -/
def Command.run : Command → IO UInt32
  | .help => do IO.print CommandLine.helpText; return 0
  | .version => do IO.println "dns-health 0.1.0"; return 0
  | .diagnose invocation => do
    match ← Settings.loadValidated workingFiles invocation.settingsFile invocation.overrides with
    | .error failure => fail failure.message
    | .ok settings =>
      match settings.resolver.toAddress with
      | .error failure => fail failure.message
      | .ok address => runDiagnosis invocation settings address

end DnsHealth

/-- Runs the program. -/
def main (arguments : List String) : IO UInt32 := do
  match DnsHealth.CommandLine.parse arguments with
  | .error problem =>
    IO.eprintln (DnsHealth.CommandLine.problemText problem)
    return 2
  | .ok command => command.run
