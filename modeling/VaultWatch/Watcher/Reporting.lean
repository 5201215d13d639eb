import VaultWatch.Watcher.State

/-!
# Reporting

The moves of a watcher's reporter. An update or a matched block that the outbound stream cannot take
any more is lost, and the reporter goes on. Without a pause between sweeps the reporter cannot run.
-/

namespace VaultWatch

/-- A move of the reporter. -/
inductive ReportMove where
  | begin
  /-- Takes a batch. -/
  | take
  /-- The resolver is gone and no batch is left. -/
  | finish
  /-- Judges the first result of the batch. -/
  | judge
  /-- All results are judged: saves the deposits. -/
  | conclude
  /-- Looks for transactions that have been awaited too long. -/
  | sweep
  /-- Gives up the first of those found. -/
  | giveUp
  /-- All of those found are given up. -/
  | endSweep
  /-- The outbound stream takes the update. -/
  | sendUpdate
  /-- Nobody wants the update any more. -/
  | loseUpdate
  /-- The outbound stream takes the matched block. -/
  | announce
  /-- Nobody wants the matched block any more. -/
  | loseBlock
  | cancel
  deriving DecidableEq, Repr

namespace Watcher

/-- The update that a verdict asks for. -/
def updateFor (w : Watcher) (height : UInt64) (tx : BlockTx) : Verdict → Option TrackNotice
  | .outcome result => some ⟨w.chain, tx.hash, height, tx.raw, result⟩
  | _ => none

/-- The deposit that a verdict has found. -/
def depositOf : Verdict → Option Deposit
  | .deposit tx => some tx
  | _ => none

/-- The update for a transaction that has been awaited too long. -/
def timeoutUpdate (w : Watcher) (hash : String) : TrackNotice :=
  ⟨w.chain, hash, 0, [], .timeout⟩

/-- What an update changes in the counters. -/
def countOutgoing (w : Watcher) (update : Option TrackNotice) (counters : Counters) : Counters :=
  match update with
  | some update => counters.countUpdate w.chain update.result
  | none => counters

/-- Judges a result of a batch. -/
def judge (w : Watcher) (hub : Hub) (batch : PartBatch) (result : ResolvedTx)
    (rest : List ResolvedTx) : Watcher × Hub :=
  let (verdict, watchlist) := w.watchlist.judge result
  let update := w.updateFor batch.height result.tx verdict
  ({ w with watchlist, reporter := w.reporter.judged batch rest update (depositOf verdict) },
    hub.count (w.countOutgoing update))

/-- Goes on when a batch has been judged: its deposits, if there are any, are saved and will be
announced. -/
def conclude (w : Watcher) (hub : Hub) (batch : PartBatch) : Watcher × Hub :=
  if batch.deposits.isEmpty then ({ w with reporter.stage := .waiting }, hub)
  else
    let block := batch.matchedBlock w.chain
    ({ w with reporter.stage := .announcing block },
      (hub.saveObserved block).count (·.countMatched w.chain block.txs.length))

/-- Looks for transactions that have been awaited too long, and sets the time of the next look. -/
def sweep (w : Watcher) (hub : Hub) : Watcher :=
  let (overdue, watchlist) := w.watchlist.expire hub.now w.settings.trackTimeout
  let nextSweep := Reporter.sweepAfter w.reporter.nextSweep hub.now w.settings.sweepInterval
  { w with watchlist, reporter := { w.reporter with stage := .sweeping overdue, nextSweep } }

/-- Gives up a transaction that has been awaited too long. -/
def giveUp (w : Watcher) (hub : Hub) (hash : String) (rest : List String) : Watcher × Hub :=
  let update := some (w.timeoutUpdate hash)
  ({ w with reporter := { w.reporter with stage := .sweeping rest, outgoing := update } },
    hub.count (w.countOutgoing update))

/-- A move of the reporter, if it can be made. -/
def report? (w : Watcher) (hub : Hub) : ReportMove → Option (Watcher × Hub)
  | .begin =>
    match w.reporter.stage with
    | .starting =>
      if w.settings.sweepInterval = 0 then some (w.stopReporter, hub)
      else
        -- The first sweep comes at once.
        some ({ w with reporter := { w.reporter with stage := .waiting, nextSweep := hub.now } },
          hub)
    | _ => none
  | .take =>
    match w.reporter.stage, w.reporter.outgoing, w.batches.receive? with
    | .waiting, none, some (batch, batches) =>
      some ({ w with batches, reporter.stage := .judging (.start batch) }, hub)
    | _, _, _ => none
  | .finish =>
    match w.reporter.stage, w.reporter.outgoing, w.resolver with
    | .waiting, none, .stopped =>
      if w.batches.items.isEmpty then some (w.stopReporter, hub) else none
    | _, _, _ => none
  | .judge =>
    match w.reporter.stage, w.reporter.outgoing with
    | .judging batch, none =>
      match batch.rest with
      | result :: rest => some (w.judge hub batch result rest)
      | [] => none
    | _, _ => none
  | .conclude =>
    match w.reporter.stage, w.reporter.outgoing with
    | .judging batch, none =>
      if batch.rest.isEmpty then some (w.conclude hub batch) else none
    | _, _ => none
  | .sweep =>
    match w.reporter.stage, w.reporter.outgoing with
    | .waiting, none => if w.reporter.nextSweep ≤ hub.now then some (w.sweep hub, hub) else none
    | _, _ => none
  | .giveUp =>
    match w.reporter.stage, w.reporter.outgoing with
    | .sweeping (hash :: rest), none => some (w.giveUp hub hash rest)
    | _, _ => none
  | .endSweep =>
    match w.reporter.stage, w.reporter.outgoing with
    | .sweeping [], none => some ({ w with reporter.stage := .waiting }, hub)
    | _, _ => none
  | .sendUpdate =>
    match w.reporter.outgoing with
    | some update => (hub.updates.send? update).map fun updates =>
      ({ w with reporter.outgoing := none }, { hub with updates })
    | none => none
  | .loseUpdate =>
    match w.reporter.outgoing with
    | some _ =>
      -- The wait is already counted as ended, and stays so.
      if w.cancelled || !hub.updates.isOpen then some ({ w with reporter.outgoing := none }, hub)
      else none
    | none => none
  | .announce =>
    match w.reporter.stage with
    | .announcing block => (hub.matched.send? block).map fun matched =>
      ({ w with reporter.stage := .waiting }, { hub with matched })
    | _ => none
  | .loseBlock =>
    match w.reporter.stage with
    | .announcing _ =>
      if w.cancelled || !hub.matched.isOpen then
        some ({ w with reporter.stage := .waiting }, hub)
      else none
    | _ => none
  | .cancel =>
    match w.reporter.stage, w.reporter.outgoing with
    | .waiting, none => if w.cancelled then some (w.stopReporter, hub) else none
    | _, _ => none

end Watcher

end VaultWatch
