import VaultWatch.Watchlist

/-!
# The reporter

The last stage of a watcher judges the results of a batch one by one. The end of a wait is reported
at once; the deposits of a batch are saved and announced together when all of it has been judged.
Between batches it looks regularly for transactions that have been awaited too long.
-/

namespace VaultWatch

/-- A batch under way: the results not judged yet, and the deposits found so far, in order. -/
structure PartBatch where
  height : UInt64
  blockHash : String
  rest : List ResolvedTx
  deposits : List Deposit
  deriving DecidableEq, Repr

/-- A batch of which nothing has been judged. -/
def PartBatch.start (batch : ResolvedBlock) : PartBatch :=
  ⟨batch.height, batch.blockHash, batch.results, []⟩

/-- The deposits of a judged batch as they are announced. -/
def PartBatch.matchedBlock (batch : PartBatch) (chain : String) : DepositBlock :=
  ⟨chain, batch.height, batch.blockHash, batch.deposits⟩

/-- What the reporter is doing. -/
inductive Reporter.Stage where
  | starting
  /-- It waits for a batch, or for the time of the next sweep. -/
  | waiting
  | judging (batch : PartBatch)
  /-- It waits until the outbound stream takes a block. -/
  | announcing (block : DepositBlock)
  /-- It reports the transactions that have been awaited too long. -/
  | sweeping (overdue : List String)
  | stopped
  deriving DecidableEq, Repr

/-- The last stage: what it is doing, the update that waits for the outbound stream if there is one,
and the time of the next sweep. -/
structure Reporter where
  stage : Reporter.Stage
  outgoing : Option TrackNotice
  nextSweep : Nat
  deriving DecidableEq, Repr

namespace Reporter

/-- A reporter that has not run yet. -/
def start : Reporter := ⟨.starting, none, 0⟩

/-- How late a sweep may be and still keep to its schedule, in milliseconds. -/
def sweepSlack : Nat := 5

/-- The time of the sweep after one that was due. The schedule is kept as long as sweeps come in
time; one that comes too late starts a new one. -/
def sweepAfter (due now period : Nat) : Nat :=
  if due + sweepSlack < now then now + period else due + period

/-- Takes in the verdict on the first result of a batch. -/
def judged (r : Reporter) (batch : PartBatch) (rest : List ResolvedTx)
    (update : Option TrackNotice) (deposit : Option Deposit) : Reporter :=
  { r with
    stage := .judging { batch with rest, deposits := batch.deposits ++ deposit.toList }
    outgoing := update }

/-- Stops for good. -/
def stop (r : Reporter) : Reporter := { r with stage := .stopped, outgoing := none }

end Reporter

end VaultWatch
