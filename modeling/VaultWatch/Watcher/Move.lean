import VaultWatch.Watcher.Fetching
import VaultWatch.Watcher.Refreshing
import VaultWatch.Watcher.Reporting
import VaultWatch.Watcher.Resolving
import VaultWatch.Watcher.Selecting

/-!
# Moves

A watcher runs as five tasks: its four stages and its refresh loop. A run is a sequence of moves of
these tasks in any order. Some moves bring an answer from outside; each task makes the others by
itself as soon as it can.
-/

namespace VaultWatch

/-- A task of a watcher. -/
inductive Task where
  /-- The refresh loop at an index. -/
  | refresh (index : Nat)
  | fetch
  | resolve
  | select
  | report
  deriving DecidableEq, Repr

/-- The tasks of a watcher, in the order in which they are started. -/
def Task.all : List Task := [.refresh 0, .fetch, .resolve, .select, .report]

/-- A move of one of a watcher's tasks. -/
inductive Move where
  | refresh (index : Nat) (move : RefreshMove)
  | fetch (move : FetchMove)
  | resolve (move : ResolveMove)
  | select (move : SelectMove)
  | report (move : ReportMove)

/-- The moves that a task makes by itself; of several that it could make, the one it prefers comes
first. -/
def Task.moves : Task → List Move
  | .refresh i => [.refresh i .begin, .refresh i .cancel, .refresh i .probe]
  | .fetch => [.fetch .cancel, .fetch .askHead, .fetch .deliver, .fetch .abandon, .fetch .askBlock]
  | .resolve => [.resolve .cancel, .resolve .take, .resolve .again, .resolve .emit,
      .resolve .abandon]
  | .select => [.select .cancel, .select .take, .select .finish, .select .queue, .select .abandon]
  | .report => [.report .begin, .report .cancel, .report .loseUpdate, .report .sendUpdate,
      .report .loseBlock, .report .announce, .report .judge, .report .conclude, .report .giveUp,
      .report .endSweep, .report .take, .report .finish, .report .sweep]

/-- The move that an answer is for a task. -/
def Task.hears (task : Task) (query : Query) (answer : query.Answer) : Option Move :=
  match task, query, answer with
  | .fetch, .height, answer => some (.fetch (.heardHead answer))
  | .fetch, .block _, answer => some (.fetch (.heardBlock answer))
  | .resolve, .receipt _, answer => some (.resolve (.heard answer))
  | _, _, _ => none

namespace Watcher

/-- A move, if it can be made. -/
def move? (w : Watcher) (hub : Hub) : Move → Option (Watcher × Hub)
  | .refresh index move => w.refresh? hub index move
  | .fetch move => w.fetch? hub move
  | .resolve move => w.resolve? hub move
  | .select move => w.select? hub move
  | .report move => w.report? hub move

/-- The next move that a task makes by itself. -/
def advance? (w : Watcher) (hub : Hub) (task : Task) : Option (Watcher × Hub) :=
  task.moves.findSome? (w.move? hub)

/-- The query whose answer a task waits for. -/
def query? (w : Watcher) : Task → Option Query
  | .fetch => w.fetcher.query?
  | .resolve => w.resolver.query?
  | _ => none

/-- A task waits for its targets to be probed. -/
def probes (w : Watcher) : Task → Bool
  | .refresh index => w.refreshers[index]?.any (·.stage == .probing)
  | _ => false

/-- A task has ended. -/
def hasEnded (w : Watcher) : Task → Bool
  | .refresh index => w.refreshers[index]?.all (·.stage == .stopped)
  | .fetch => w.fetcher.stage == .stopped
  | .resolve => w.resolver == .stopped
  | .select => w.selector == .stopped
  | .report => w.reporter.stage == .stopped

/-- The time at which a task that waits goes on by itself. -/
def wakeTime? (w : Watcher) : Task → Option Nat
  | .refresh index =>
    match w.refreshers[index]?.map Refresher.stage with
    | some (.pausing wake) => some wake
    | _ => none
  | .fetch =>
    match w.fetcher.stage with
    | .restingHead wake | .pausing wake => some wake
    | _ => none
  | .resolve =>
    match w.resolver with
    | .pausing _ wake => some wake
    | _ => none
  | .select => none
  | .report =>
    match w.reporter.stage, w.reporter.outgoing with
    | .waiting, none => some w.reporter.nextSweep
    | _, _ => none

end Watcher

end VaultWatch
