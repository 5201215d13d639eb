import VaultWatch.Manager
import VaultWatch.Rehearsal.Travel

/-!
# The bench

A rehearsal runs the tasks of a manager's watchers against scripted nodes on a virtual clock. The
clock stands still while any task can go on, and then jumps to the next moment at which one can.

Tasks run one at a time, each until it has to wait. Those that can go on stand in a queue; a task
joins it when what it waits for has come, and of several that join at the same moment the one that
has waited longest comes first.
-/

namespace VaultWatch.Rehearsal

/-- What a task waits for outside of its watcher. -/
inductive Errand where
  | call (query : Query) (sent : Call query)
  | probes (sent : Probes)

/-- The times at which something comes back to a task. -/
def Errand.arrivals : Errand → List Nat
  | .call _ sent => [sent.flight.arrival]
  | .probes sent => sent.arrivals

/-- A task on the bench. -/
structure Seat where
  chain : String
  task : Task
  errand : Option Errand
  /-- A task that has waited longer has a smaller stamp. -/
  stamp : Nat

/-- Answers of discovery in order; the last one repeats. -/
abbrev Discovery := List (Except CallError (List String))

/-- The state of a rehearsal. -/
structure Bench where
  nodes : Nodes
  manager : Manager
  discovery : List (String × Discovery)
  /-- The limit for probes, where it is not the one of a chain's settings. -/
  probeLimit : Option Nat
  seats : List Seat
  ready : List (String × Task)
  nextStamp : Nat

namespace Bench

/-- A bench without tasks. -/
def start (nodes : Nodes) (manager : Manager) (probeLimit : Option Nat) : Bench :=
  ⟨nodes, manager, [], probeLimit, [], [], 0⟩

/-- The time. -/
def now (b : Bench) : Nat := b.manager.hub.now

/-- Moves the clock to a time. -/
def moveClock (b : Bench) (time : Nat) : Bench :=
  { b with manager := { b.manager with hub := { b.manager.hub with now := time } } }

/-! ### Seats -/

/-- Puts tasks of a chain on the bench; they will run in the given order. -/
def spawn (b : Bench) (chain : String) (tasks : List Task) : Bench :=
  let seats := tasks.map fun task => Seat.mk chain task none b.nextStamp
  { b with
    seats := b.seats ++ seats
    ready := b.ready ++ tasks.map fun task => (chain, task)
    nextStamp := b.nextStamp + 1 }

/-- The seat of a task. -/
def seat? (b : Bench) (chain : String) (task : Task) : Option Seat :=
  b.seats.find? fun s => s.chain == chain && s.task == task

/-- A task is on the bench. -/
def isRunning (b : Bench) (chain : String) (task : Task) : Bool := (b.seat? chain task).isSome

/-- Puts a task on the bench unless it is there, or has been there and has ended. -/
def spawnOnce (b : Bench) (chain : String) (task : Task) : Bench :=
  if b.isRunning chain task || (b.manager.find? chain).all (·.hasEnded task) then b
  else b.spawn chain [task]

/-- Changes the seat of a task. -/
def changeSeat (b : Bench) (chain : String) (task : Task) (f : Seat → Seat) : Bench :=
  { b with
    seats := b.seats.map fun s => if s.chain == chain && s.task == task then f s else s }

/-- Sets what a task waits for. -/
def setErrand (b : Bench) (chain : String) (task : Task) (errand : Option Errand) : Bench :=
  b.changeSeat chain task fun s => { s with errand }

/-! ### Running a task -/

/-- The answer of discovery for a chain; a failure finds nothing. -/
def discover (b : Bench) (chain : String) : List String × Bench :=
  match b.discovery.lookup chain with
  | some (answer :: rest) =>
    let left := if rest.isEmpty then [answer] else rest
    (answer.toOption.getD [],
      { b with discovery := b.discovery.map fun e => if e.1 = chain then (chain, left) else e })
  | _ => ([], b)

/-- The limit for the probes of a watcher's pool. -/
def probeLimitOf (b : Bench) (settings : ChainPlan) : Nat :=
  b.probeLimit.getD settings.minRpcTimeout

/-- Begins to connect and probe the targets of a pool. -/
def probe (b : Bench) (pool : Pool) (limit : Nat) : Probes × Bench :=
  let (found, b) := b.discover pool.chain
  let (probes, nodes) := Probes.start b.now limit (pool.targets found) b.nodes
  (probes, { b with nodes })

/-- Makes a move of a watcher, which is known to be possible. -/
def make (b : Bench) (chain : String) (move : Move) : Bench :=
  { b with manager := (b.manager.move? chain move).getD b.manager }

/-- Gives a task the answer that it waits for, or lets it wait for it. -/
def receive (b : Bench) (chain : String) (task : Task) (query : Query) :
    Progress query → Bench
  | .waiting call => b.setErrand chain task (some (.call query call))
  | .ended answer =>
    let b := b.setErrand chain task none
    match task.hears query answer with
    | some move => b.make chain move
    | none => b

/-- Gives a refresh loop the outcome of its probes, or lets it wait for it. -/
def receiveProbes (b : Bench) (chain : String) (task : Task) (probes : Probes) : Bench :=
  match probes.outcomes?, task with
  | some outcomes, .refresh index =>
    (b.setErrand chain task none).make chain (.refresh index (.refreshed outcomes))
  | _, _ => b.setErrand chain task (some (.probes probes))

/-- Takes in what comes back to a task now; none if nothing does. -/
def land? (b : Bench) (chain : String) (task : Task) (errand : Errand) : Option Bench :=
  if errand.arrivals.any (· ≤ b.now) then
    match errand with
    | .call query sent =>
      let (progress, nodes) := sent.landed b.now b.nodes
      some (receive { b with nodes } chain task query progress)
    | .probes sent =>
      let (probes, nodes) := sent.landed b.now b.nodes
      some (receiveProbes { b with nodes } chain task probes)
  else none

/-- What a task asks for, with the limit for each endpoint; none if it asks for nothing. -/
def asks? (w : Watcher) (task : Task) : Option (Query × Nat) := do
  let query ← w.query? task
  let limit ← w.callLimit?
  return (query, limit)

/-- Sends out what a task asks for; none if it asks for nothing. -/
def inquire? (b : Bench) (w : Watcher) (chain : String) (task : Task) : Option Bench :=
  match asks? w task with
  | some (query, limit) =>
    let (progress, nodes) := b.nodes.call b.now limit w.pool query
    some (receive { b with nodes } chain task query progress)
  | none =>
    if w.probes task then
      let (probes, b) := b.probe w.pool (b.probeLimitOf w.settings)
      some (b.receiveProbes chain task probes)
    else none

/-- One step of a task; none if it has to wait. -/
def step? (b : Bench) (chain : String) (task : Task) : Option Bench := do
  let seat ← b.seat? chain task
  let w ← b.manager.find? chain
  match seat.errand with
  | some errand => b.land? chain task errand
  | none =>
    match w.advance? b.manager.hub task with
    | some (w, hub) => some { b with manager := { b.manager.put chain w with hub } }
    | none => b.inquire? w chain task

/-- Runs a task until it has to wait; tells whether it made a step. -/
def runTask (chain : String) (task : Task) : (fuel : Nat) → Bool → Bench → Bool × Bench
  | 0, moved, b => (moved, b)
  | fuel + 1, moved, b =>
    match b.step? chain task with
    | some b => runTask chain task fuel true b
    | none => (moved, b)

/-- More steps than any rehearsal takes. -/
def patience : Nat := 1000000000000000

/-- A task has ended. -/
def hasEnded (b : Bench) (seat : Seat) : Bool :=
  match b.manager.find? seat.chain with
  | some w => w.hasEnded seat.task
  | none => true

/-- Runs a task until it has to wait. One that has ended leaves the bench; one that made a step
waits anew. -/
def runSeat (b : Bench) (chain : String) (task : Task) : Bench :=
  let (moved, b) := runTask chain task patience false b
  let b := { b with seats := b.seats.filter fun s => !b.hasEnded s }
  if moved then
    { b.changeSeat chain task fun s => { s with stamp := b.nextStamp } with
      nextStamp := b.nextStamp + 1 }
  else b

/-! ### The queue -/

/-- A task could make a step. -/
def canStep (b : Bench) (s : Seat) : Bool :=
  match s.errand with
  | some errand => errand.arrivals.any (· ≤ b.now)
  | none =>
    match b.manager.find? s.chain with
    | some w =>
      (w.advance? b.manager.hub s.task).isSome || (asks? w s.task).isSome
        || w.probes s.task
    | none => false

/-- Puts the tasks that can go on into the queue. -/
def wake (b : Bench) : Bench :=
  let joining := b.seats.filter fun s => !b.ready.contains (s.chain, s.task) && b.canStep s
  -- Tasks that were started together share a stamp, and keep their order.
  let ordered := joining.mergeSort fun s t => s.stamp ≤ t.stamp
  { b with ready := b.ready ++ ordered.map fun s => (s.chain, s.task) }

/-- Runs tasks until all of them have to wait. -/
def settleFrom : (fuel : Nat) → Bench → Bench
  | 0, b => b
  | fuel + 1, b =>
    match b.ready with
    | [] => b
    | (chain, task) :: ready => settleFrom fuel ({ b with ready }.runSeat chain task).wake

/-- Runs tasks until all of them have to wait. -/
def settle (b : Bench) : Bench := settleFrom patience b.wake

/-! ### The clock -/

/-- The times at which tasks can go on. -/
def wakeTimes (b : Bench) : List Nat :=
  b.seats.flatMap fun s =>
    match s.errand with
    | some errand => errand.arrivals
    | none => ((b.manager.find? s.chain).bind (·.wakeTime? s.task)).toList

/-- Lets tasks run until something has happened, but no longer than until a deadline. At the
deadline itself no task has run yet. Without a deadline the wait is given up when no task can ever
go on. -/
def waitFrom (happened : Bench → Bool) (deadline : Option Nat) : (fuel : Nat) → Bench → Bench
  | 0, b => b
  | fuel + 1, b =>
    let b := b.settle
    if happened b then b
    else
      match b.wakeTimes.min?, deadline with
      | some wake, some limit =>
        -- At the deadline itself the one who waits goes first.
        if wake < limit then waitFrom happened deadline fuel (b.moveClock wake)
        else b.moveClock limit
      | some wake, none => waitFrom happened deadline fuel (b.moveClock wake)
      | none, some limit => b.moveClock limit
      | none, none => b

/-- Lets tasks run until something has happened, but no longer than until a deadline. Nothing runs
if the deadline is now. -/
def wait (b : Bench) (happened : Bench → Bool) (deadline : Option Nat) : Bench :=
  if deadline.any (· ≤ b.now) then b else waitFrom happened deadline patience b

end Bench

end VaultWatch.Rehearsal
