import VaultWatch.Watcher.State

/-!
# Resolving

The moves of a watcher's resolver. A job that is cut short, by the end of the watcher or because no
time can be given for a call, emits nothing.
-/

namespace VaultWatch

/-- A move of the resolver. -/
inductive ResolveMove where
  /-- Takes a job. -/
  | take
  /-- The query for a receipt is answered. -/
  | heard (answer : Except CallError Receipt)
  /-- The wait before the next attempt is over. -/
  | again
  /-- The reporter's channel takes the batch. -/
  | emit
  /-- The reporter is gone. -/
  | abandon
  | cancel

namespace Watcher

/-- What the fate of a candidate changes in the counters. -/
def countFate (w : Watcher) (fate : Option ReceiptFate) (counters : Counters) : Counters :=
  match fate with
  | some fate => counters.countReceipt w.chain fate
  | none => counters

/-- A move of the resolver, if it can be made. -/
def resolve? (w : Watcher) (hub : Hub) : ResolveMove → Option (Watcher × Hub)
  | .take =>
    match w.resolver, w.jobs.receive? with
    | .waiting, some (job, jobs) => some ({ w with jobs }.turnResolver (.begin job), hub)
    | _, _ => none
  | .heard answer =>
    match w.resolver with
    | .asking job =>
      let retryAt := hub.now + w.settings.receiptRetryDelay
      let (resolver, fate) := job.heard w.settings.maxReceiptRetry retryAt answer
      some (w.turnResolver resolver, hub.count (w.countFate fate))
    | _ => none
  | .again =>
    match w.resolver with
    | .pausing job wake =>
      if wake ≤ hub.now then some (w.turnResolver (.asking job), hub) else none
    | _ => none
  | .emit =>
    match w.resolver with
    | .emitting batch =>
      (w.batches.send? batch).map fun batches => ({ w with batches, resolver := .waiting }, hub)
    | _ => none
  | .abandon =>
    match w.resolver with
    | .emitting _ => if w.batches.isOpen then none else some (w.stopResolver, hub)
    | _ => none
  | .cancel =>
    match w.resolver with
    | .waiting | .pausing .. | .emitting _ =>
      if w.cancelled then some (w.stopResolver, hub) else none
    | .asking _ | .stopped => none

end Watcher

end VaultWatch
