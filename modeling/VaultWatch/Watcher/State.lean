import VaultWatch.Config.Settings
import VaultWatch.Fee
import VaultWatch.Hub
import VaultWatch.Pool
import VaultWatch.Watcher.Fetcher
import VaultWatch.Watcher.Refresher
import VaultWatch.Watcher.Reporter
import VaultWatch.Watcher.Selector

/-!
# Watchers

A watcher observes one chain. Blocks go from the fetcher through the selector and the resolver to
the reporter, over channels that hold a bounded number of items:

`fetcher → blocks → selector → jobs → resolver → batches → reporter`

A stage that stops takes its receiving end with it, so that the stage before it stops as well. A
stage stops at the end of the watcher or when the stage behind it is gone, and when it fails: the
reporter without a period for its sweeps, and the fetcher and the resolver when they are about to
ask and the time that a call may take is out of range.
-/

namespace VaultWatch

/-- What is told about a chain's watcher. -/
structure WatcherSummary where
  chain : String
  cursor : UInt64
  pollInterval : Nat
  healthyEndpoints : Nat
  endpoints : Nat
  tracked : Nat
  vault : Option String
  deriving DecidableEq, Repr

/-- The watcher of one chain. -/
structure Watcher where
  settings : ChainPlan
  codec : Codec
  pool : Pool
  refreshers : List Refresher
  fetcher : Fetcher
  blocks : Channel Block
  selector : Selector
  jobs : Channel PendingBlock
  resolver : Resolver
  batches : Channel ResolvedBlock
  reporter : Reporter
  watchlist : Watchlist
  fees : Fees
  cancelled : Bool

namespace ChainPlan

/-- The cadence before the first poll. -/
def cadence (s : ChainPlan) : Cadence :=
  .start s.initialPollInterval s.minPollInterval s.tuning

/-- The rule for the time that a call may take. -/
def deadline (s : ChainPlan) : Deadline := ⟨s.rpcTimeoutFactor, s.minRpcTimeout⟩

/-- The fee estimates before the first block. -/
def fees (s : ChainPlan) : Fees :=
  match s.feeMode with
  | .legacy => .legacy (.empty s.gasPriceRefresh s.maxGasPrice)
  | .feeMarket => .feeMarket (.empty s.feeWindow s.defaultBaseFee s.defaultTip)

/-- What is looked for before the first transaction is tracked. -/
def watchlist (s : ChainPlan) (vault : Option String) : Watchlist :=
  ⟨vault, .empty s.trackedCapacity s.caseInsensitiveAddresses⟩

end ChainPlan

namespace Watcher

/-- A watcher whose stages have not run yet. Between fetcher and selector there is room for one
block. -/
def start (settings : ChainPlan) (codec : Codec) (pool : Pool) (vault : Option String) :
    Watcher where
  settings := settings
  codec := codec
  pool := pool
  refreshers := [.start settings.endpointRefresh settings.unhealthyRefresh]
  fetcher := (Fetcher.start settings.cadence).within settings.deadline
  blocks := .empty 1
  selector := .waiting
  jobs := .empty settings.channelCapacity
  resolver := .waiting
  batches := .empty settings.channelCapacity
  reporter := .start
  watchlist := settings.watchlist vault
  fees := settings.fees
  cancelled := false

/-- The name of the watched chain. -/
def chain (w : Watcher) : String := w.settings.chain

/-- The time that a call made now may take, in milliseconds; none if it is out of range. -/
def callLimit? (w : Watcher) : Option Nat :=
  w.settings.deadline.millis? w.fetcher.cadence.interval

/-- The summary of the watched chain. -/
def summary (w : Watcher) : WatcherSummary where
  chain := w.chain
  cursor := w.fetcher.cursor
  pollInterval := w.fetcher.cadence.interval
  healthyEndpoints := w.pool.numHealthy
  endpoints := w.pool.endpoints.length
  tracked := w.watchlist.tracked.size
  vault := w.watchlist.vault

/-! ### Ends of stages -/

/-- The fetcher stops. -/
def stopFetcher (w : Watcher) : Watcher := { w with fetcher := w.fetcher.stop }

/-- The selector stops. -/
def stopSelector (w : Watcher) : Watcher :=
  { w with selector := .stopped, blocks := w.blocks.close }

/-- The resolver stops. -/
def stopResolver (w : Watcher) : Watcher :=
  { w with resolver := .stopped, jobs := w.jobs.close }

/-- The resolver turns to what comes next. It goes down instead of asking if the time that the call
may take is out of range; what it has resolved of its job is lost. -/
def turnResolver (w : Watcher) (next : Resolver) : Watcher :=
  match next.query?, w.callLimit? with
  | some _, none => w.stopResolver
  | _, _ => { w with resolver := next }

theorem turnResolver_of_callLimit? (w : Watcher) (next : Resolver) (h : w.callLimit? ≠ none) :
    w.turnResolver next = { w with resolver := next } := by
  unfold turnResolver
  split
  · rename_i hnone
    exact absurd hnone h
  · rfl

/-- Going down changes nothing about the settings and the time for calls. -/
@[simp]
theorem turnResolver_settings (w : Watcher) (next : Resolver) :
    (w.turnResolver next).settings = w.settings := by
  unfold turnResolver
  split <;> rfl

@[simp]
theorem turnResolver_callLimit? (w : Watcher) (next : Resolver) :
    (w.turnResolver next).callLimit? = w.callLimit? := by
  unfold turnResolver
  split <;> rfl

/-- A resolver turns to what comes next, or it is about to ask when there is no time for a call, and
goes down. -/
theorem turnResolver_cases (w : Watcher) (next : Resolver) :
    w.turnResolver next = { w with resolver := next } ∨
      (next.query?.isSome ∧ w.callLimit? = none ∧ w.turnResolver next = w.stopResolver) := by
  unfold turnResolver
  split
  · rename_i hquery hlimit
    exact .inr ⟨by rw [hquery]; rfl, hlimit, rfl⟩
  · exact .inl rfl

/-- The reporter stops. -/
def stopReporter (w : Watcher) : Watcher :=
  { w with reporter := w.reporter.stop, batches := w.batches.close }

end Watcher

end VaultWatch
