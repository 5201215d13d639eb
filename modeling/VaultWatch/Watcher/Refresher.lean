/-!
# The refresher

Beside its stages a watcher has a loop that refreshes the endpoint pool from time to time, and more
often while no endpoint is healthy.
-/

namespace VaultWatch

/-- What a refresh loop is doing. -/
inductive Refresher.Stage where
  | starting
  /-- It waits until the next refresh. -/
  | pausing (wake : Nat)
  /-- It connects and probes the endpoints. -/
  | probing
  | stopped
  deriving DecidableEq, Repr

/-- A refresh loop: the time between two refreshes, the shorter time while no endpoint is healthy,
and what the loop is doing. -/
structure Refresher where
  every : Nat
  unhealthyEvery : Nat
  stage : Refresher.Stage
  deriving DecidableEq, Repr

namespace Refresher

/-- A loop that has not run yet. -/
def start (every unhealthyEvery : Nat) : Refresher := ⟨every, unhealthyEvery, .starting⟩

/-- Waits for the next refresh of a pool with so many healthy endpoints. -/
def pause (r : Refresher) (now healthy : Nat) : Refresher :=
  { r with stage := .pausing (now + if healthy = 0 then r.unhealthyEvery else r.every) }

/-- Begins to connect and probe. -/
def probe (r : Refresher) : Refresher := { r with stage := .probing }

/-- Stops for good. -/
def stop (r : Refresher) : Refresher := { r with stage := .stopped }

end Refresher

end VaultWatch
