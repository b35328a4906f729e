import DnsHealth.Failure
import DnsHealth.Json.Decode

/-!
# Verdicts on chains

The outcome of the walk from a domain to the root as a report shows it. A chain is valid exactly
when the walk says so, and the zone in which it broke is the one that the failure names.
-/

namespace DnsHealth

/-- The outcome of a chain as a report shows it. -/
structure ChainVerdict where
  /-- Every zone of the chain validates. -/
  valid : Bool
  /-- The zone in which the chain broke. -/
  failedZone : Option String
  /-- Why the chain broke. -/
  error : Option String
  deriving DecidableEq, Repr

namespace ChainVerdict

/-- The verdict on the result of a walk. -/
def ofResult : Except Failure Bool → ChainVerdict
  | .ok valid => ⟨valid, none, none⟩
  | .error f => ⟨false, f.zone?, some f.message⟩

/-- A verdict as JSON. -/
def toJson (v : ChainVerdict) : Json :=
  .obj [("valid", .bool v.valid), ("failed_zone", .option .str v.failedZone),
    ("error", .option .str v.error)]

/-- Reads a verdict from JSON. -/
def ofJson? (j : Json) : Option ChainVerdict := do
  let fs ← j.fields? ["valid", "failed_zone", "error"]
  return {
    valid := ← fs.required "valid" Json.bool?
    failedZone := ← fs.optional "failed_zone" Json.str?
    error := ← fs.optional "error" Json.str? }

/-- A chain is valid exactly when the walk ended with a positive answer. -/
theorem valid_ofResult_iff (result : Except Failure Bool) :
    (ofResult result).valid = true ↔ result = .ok true := by
  cases result <;> simp [ofResult]

end ChainVerdict

end DnsHealth
