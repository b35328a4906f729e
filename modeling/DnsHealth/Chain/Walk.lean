import DnsHealth.Chain.Zone

/-!
# Chains of trust

The walk from a domain up to the root. A chain validates if every zone on the way does; otherwise
the failure of the first zone that does not ends the walk.
-/

namespace DnsHealth.Resolver

/-- Validates one zone at the time that a clock shows. -/
def validateZoneBy [Monad m] (r : Resolver m) (clock : m Int) (v : Verifier) (zone : String) :
    Lookup m ZoneValidation := do
  let now ← Lookup.lift (Except.ok <$> clock)
  r.validateZone v now zone

/-- Validates every zone from a domain up to the root, each at the time that a clock shows then. A
chain that breaks is a failure, so the answer is never negative. -/
def validateChainBy [Monad m] (r : Resolver m) (clock : m Int) (v : Verifier) (domain : String) :
    Lookup m Bool := do
  (Name.zonesToRoot domain).forM fun zone => do let _ ← r.validateZoneBy clock v zone
  return true

/-- Validates every zone from a domain up to the root at one time. -/
def validateChain [Monad m] (r : Resolver m) (v : Verifier) (now : Int) (domain : String) :
    Lookup m Bool :=
  r.validateChainBy (pure now) v domain

end DnsHealth.Resolver
