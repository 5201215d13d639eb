import VaultWatch.Watcher.State

/-!
# Refreshing

The moves of a watcher's refresh loops. How long a loop waits is decided right after each of its
refreshes, by whether an endpoint is healthy. A watcher has one loop; more may be added, and each
keeps its own time.
-/

namespace VaultWatch

/-- A move of a refresh loop. -/
inductive RefreshMove where
  | begin
  /-- The wait before the next refresh is over. -/
  | probe
  /-- All targets are connected and probed, or could not be connected. -/
  | refreshed (probes : List (String × Option Bool))
  | cancel
  deriving DecidableEq, Repr

/-- What the outcome of a refresh changes in the counters. -/
def Counters.countRefresh (counters : Counters) (chain : String)
    (outcome : Except CallError Nat) : Counters :=
  match outcome with
  | .ok healthy => counters.sawHealthy chain healthy
  | .error _ => counters

namespace Watcher

/-- A watcher with one more refresh loop, which has not run yet. -/
def addRefresher (w : Watcher) (every unhealthyEvery : Nat) : Watcher :=
  { w with refreshers := w.refreshers ++ [.start every unhealthyEvery] }

/-- Puts a refresh loop in place of the one at an index. -/
def setRefresher (w : Watcher) (index : Nat) (refresher : Refresher) : Watcher :=
  { w with refreshers := w.refreshers.set index refresher }

/-- The pool of a watcher after a refresh, whoever asked for it. -/
def refresh (w : Watcher) (hub : Hub) (probes : List (String × Option Bool)) :
    Except CallError Nat × Watcher × Hub :=
  let (outcome, pool) := w.pool.refreshed probes
  (outcome, { w with pool }, hub.count (·.countRefresh w.chain outcome))

/-- A move of the refresh loop at an index, if it can be made. -/
def refresh? (w : Watcher) (hub : Hub) (index : Nat) (move : RefreshMove) :
    Option (Watcher × Hub) :=
  match w.refreshers[index]? with
  | none => none
  | some r =>
    match move, r.stage with
    | .begin, .starting => some (w.setRefresher index (r.pause hub.now w.pool.numHealthy), hub)
    | .probe, .pausing wake =>
      if wake ≤ hub.now then some (w.setRefresher index r.probe, hub) else none
    | .refreshed probes, .probing =>
      let (_, w, hub) := w.refresh hub probes
      some (w.setRefresher index (r.pause hub.now w.pool.numHealthy), hub)
    | .cancel, .pausing _ =>
      if w.cancelled then some (w.setRefresher index r.stop, hub) else none
    | _, _ => none

end Watcher

end VaultWatch
