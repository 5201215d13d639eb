import VaultWatch.Watcher.State

/-!
# Fetching

The moves of a watcher's fetcher. Waiting for an answer cannot be cut short; every other wait ends
when the watcher is cancelled.
-/

namespace VaultWatch

/-- A move of the fetcher. -/
inductive FetchMove where
  /-- The query for the chain's head is answered. -/
  | heardHead (answer : Except CallError UInt64)
  /-- The rest before the next query for the head is over. -/
  | askHead
  /-- The poll of a block is answered. -/
  | heardBlock (answer : Except CallError Block)
  /-- The selector's channel takes the block. -/
  | deliver
  /-- The selector is gone. -/
  | abandon
  /-- The pause before the next poll is over. -/
  | askBlock
  | cancel

namespace Watcher

/-- What a poll's answer changes in the counters. -/
def countPoll (w : Watcher) (after : Cadence) (answer : Except CallError Block)
    (counters : Counters) : Counters :=
  match answer with
  | .ok _ => (counters.sawBlock w.chain w.fetcher.cursor).polls w.chain after.interval
  | .error _ => counters.polls w.chain after.interval

/-- The fetcher can stop at once. -/
def fetcherWaits (w : Watcher) : Bool :=
  match w.fetcher.stage with
  | .restingHead _ | .delivering _ | .pausing _ => true
  | .askingHead | .askingBlock | .stopped => false

/-- A move of the fetcher, if it can be made. -/
def fetch? (w : Watcher) (hub : Hub) : FetchMove → Option (Watcher × Hub)
  | .heardHead answer =>
    match w.fetcher.stage with
    | .askingHead =>
      let retryAt := hub.now + w.settings.heightRetryDelay
      let fetcher := w.fetcher.heardHead retryAt answer
      some ({ w with fetcher := fetcher.within w.settings.deadline }, hub)
    | _ => none
  | .askHead =>
    match w.fetcher.stage with
    | .restingHead wake =>
      let fetcher := w.fetcher.resumed .askingHead
      if wake ≤ hub.now then
        some ({ w with fetcher := fetcher.within w.settings.deadline }, hub)
      else none
    | _ => none
  | .heardBlock answer =>
    match w.fetcher.stage with
    | .askingBlock =>
      let fetcher := w.fetcher.heardBlock hub.now answer
      some ({ w with fetcher }, hub.count (w.countPoll fetcher.cadence answer))
    | _ => none
  | .deliver =>
    match w.fetcher.stage with
    | .delivering block =>
      (w.blocks.send? block).map fun blocks =>
        ({ w with blocks, fetcher := w.fetcher.delivered hub.now }, hub)
    | _ => none
  | .abandon =>
    match w.fetcher.stage with
    | .delivering _ => if w.blocks.isOpen then none else some (w.stopFetcher, hub)
    | _ => none
  | .askBlock =>
    match w.fetcher.stage with
    | .pausing wake =>
      let fetcher := w.fetcher.resumed .askingBlock
      if wake ≤ hub.now then
        some ({ w with fetcher := fetcher.within w.settings.deadline }, hub)
      else none
    | _ => none
  | .cancel => if w.cancelled && w.fetcherWaits then some (w.stopFetcher, hub) else none

end Watcher

end VaultWatch
