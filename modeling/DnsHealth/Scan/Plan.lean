import DnsHealth.Time.Duration

/-!
# The pace of a scan

A scan gives every server the same budget of queries per second, so more servers make it faster.
The budget and the number of workers count as at least one, and a worker's interval is never zero.
-/

namespace DnsHealth

open Number (Binary64)

/-- The quantities that decide the pace of a scan. -/
structure ScanPlan where
  /-- The number of probes. -/
  entries : Nat
  /-- The number of servers that are asked side by side. -/
  workers : Nat
  /-- The budget of queries per second and server. -/
  qps : Nat
  deriving DecidableEq, Repr

namespace ScanPlan

/-- The number of workers, at least one. -/
def workerCount (p : ScanPlan) : Binary64 := .ofNat (Nat.max p.workers 1)

/-- The queries per second of all workers together. -/
def aggregateQps (p : ScanPlan) : Binary64 := (Binary64.ofNat (Nat.max p.qps 1)).mul p.workerCount

/-- The time between two queries of one worker. -/
def workerInterval (p : ScanPlan) : Duration :=
  (Duration.ofSeconds (p.workerCount.div p.aggregateQps)).max ⟨1⟩

/-- The time that the whole scan will take. -/
def estimate (p : ScanPlan) : Duration :=
  Duration.ofSeconds ((Binary64.ofNat p.entries).div p.aggregateQps)

/-- A worker never runs without a pause. -/
theorem workerInterval_pos (p : ScanPlan) : 0 < p.workerInterval.nanoseconds :=
  Nat.lt_of_lt_of_le Nat.one_pos (Nat.le_max_right _ _)

end ScanPlan

end DnsHealth
