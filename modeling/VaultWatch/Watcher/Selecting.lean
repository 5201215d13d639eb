import VaultWatch.Watcher.State

/-!
# Selecting

The moves of a watcher's selector. Candidates are selected when the block is taken, with the vault
and the tracked transactions of that moment.
-/

namespace VaultWatch

/-- A move of the selector. -/
inductive SelectMove where
  /-- Takes a block and looks through it. -/
  | take
  /-- The fetcher is gone and no block is left. -/
  | finish
  /-- The resolver's queue takes the job. -/
  | queue
  /-- The resolver is gone. -/
  | abandon
  | cancel
  deriving DecidableEq, Repr

namespace Watcher

/-- The watcher after its selector has looked through a block. -/
def select (w : Watcher) (block : Block) : Watcher :=
  { w with
    fees := w.fees.observe block
    selector := .found block (w.watchlist.candidates block) }

/-- A move of the selector, if it can be made. -/
def select? (w : Watcher) (hub : Hub) : SelectMove → Option (Watcher × Hub)
  | .take =>
    match w.selector, w.blocks.receive? with
    | .waiting, some (block, blocks) => some (({ w with blocks }).select block, hub)
    | _, _ => none
  | .finish =>
    match w.selector, w.fetcher.stage with
    | .waiting, .stopped =>
      if w.blocks.items.isEmpty then some (w.stopSelector, hub) else none
    | _, _ => none
  | .queue =>
    match w.selector with
    | .queueing job =>
      (w.jobs.send? job).map fun jobs => ({ w with jobs, selector := .waiting }, hub)
    | _ => none
  | .abandon =>
    match w.selector with
    | .queueing _ => if w.jobs.isOpen then none else some (w.stopSelector, hub)
    | _ => none
  | .cancel =>
    match w.selector with
    | .stopped => none
    | _ => if w.cancelled then some (w.stopSelector, hub) else none

end Watcher

end VaultWatch
