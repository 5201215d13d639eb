import VaultWatch.Rehearsal.Bench

/-!
# Sessions

What a rehearsal does from outside: it adds chains, makes calls, waits, and looks at what comes out
of the watchers. While it waits, for time to pass, for an answer or for an item, the tasks on the
bench run; otherwise they do not.
-/

namespace VaultWatch.Rehearsal

/-- What waiting for an item has come to. -/
inductive Received (α : Type) where
  | item (value : α)
  /-- No item came in time. -/
  | nothing
  /-- No item will ever come. -/
  | closed

/-- What waiting for room has come to. -/
inductive Enqueued where
  | taken
  | refused
  | full
  deriving DecidableEq, Repr

namespace Bench

/-- Lets so much time pass. -/
def sleep (b : Bench) (time : Nat) : Bench :=
  b.wait (fun _ => false) (some (b.now + time))

/-- Lets time pass until a later moment. -/
def sleepUntil (b : Bench) (time : Nat) : Bench :=
  b.wait (fun _ => false) (some time)

/-! ### Calls -/

/-- Waits for the answer to a call. `fuel` is at least the number of endpoints that can be asked. -/
def awaitAnswer {query : Query} : (fuel : Nat) → Progress query → Bench → query.Answer × Bench
  | _, .ended answer, b => (answer, b)
  | 0, .waiting call, b => (.error call.walk.exhausted, b)
  | fuel + 1, .waiting call, b =>
    let b := b.sleepUntil call.flight.arrival
    let (progress, nodes) := call.landed b.now b.nodes
    awaitAnswer fuel progress { b with nodes }

/-- Asks a pool, with a limit for each endpoint. -/
def ask (b : Bench) (pool : Pool) (limit : Nat) (query : Query) : query.Answer × Bench :=
  let (progress, nodes) := b.nodes.call b.now limit pool query
  awaitAnswer (pool.endpoints.length + 1) progress { b with nodes }

/-- Asks the pool of a chain, with the limit that the chain has at the moment. A call without a
limit would never be answered; no rehearsal makes one. -/
def askChain (b : Bench) (chain : String) (query : Query) : query.Answer × Bench :=
  match (b.manager.find? chain).bind fun w => w.callLimit?.map (w.pool, ·) with
  | some (pool, limit) => b.ask pool limit query
  | none => (.error (.noHealthyEndpoint chain), b)

/-- Works through an inquiry on a chain. -/
def inquire {α : Type} (chain : String) : Inquiry α → Bench → α × Bench
  | .done result, b => (result, b)
  | .ask query next, b =>
    let (answer, b) := b.askChain chain query
    inquire chain (next answer) b

/-! ### Pools -/

/-- Waits until all targets of a refresh are probed. `fuel` is at least their number. -/
def awaitProbes : (fuel : Nat) → Probes → Bench → List (String × Option Bool) × Bench
  | 0, _, b => ([], b)
  | fuel + 1, probes, b =>
    match probes.outcomes?, probes.arrivals.min? with
    | some outcomes, _ => (outcomes, b)
    | none, some arrival =>
      let b := b.sleepUntil arrival
      let (probes, nodes) := probes.landed b.now b.nodes
      awaitProbes fuel probes { b with nodes }
    | none, none => ([], b)

/-- Connects and probes the targets of a pool. -/
def probeAll (b : Bench) (pool : Pool) (limit : Nat) : List (String × Option Bool) × Bench :=
  let (probes, b) := b.probe pool limit
  awaitProbes (probes.length + 1) probes b

/-- Refreshes the pool of a chain from outside. -/
def refreshNow (b : Bench) (chain : String) : Except CallError Nat × Bench :=
  match b.manager.find? chain with
  | none => (.error (.noHealthyEndpoint chain), b)
  | some w =>
    let (probes, b) := b.probeAll w.pool (b.probeLimitOf w.settings)
    match b.manager.find? chain with
    | none => (.error (.noHealthyEndpoint chain), b)
    | some w =>
      let (outcome, w, hub) := w.refresh b.manager.hub probes
      (outcome, { b with manager := { b.manager.put chain w with hub } })

/-! ### Chains -/

/-- Adds a chain without starting its tasks. -/
def connect (b : Bench) (settings : ChainPlan) (codec : Codec) (discovery : Discovery) :
    Except ServiceError Unit × Bench :=
  let chain := settings.chain
  if (b.manager.find? chain).isSome then (.error (Manager.alreadyRunning chain), b)
  else
    let discoveries := (b.discovery.filter fun e => e.1 != chain) ++ [(chain, discovery)]
    let (probes, b) :=
      { b with discovery := discoveries }.probeAll (Manager.newPool settings)
        (b.probeLimitOf settings)
    let (outcome, manager) := b.manager.startChain settings codec probes
    (outcome, { b with manager })

/-- Adds a chain and starts its tasks. -/
def startChain (b : Bench) (settings : ChainPlan) (codec : Codec) (discovery : Discovery) :
    Except ServiceError Unit × Bench :=
  match b.connect settings codec discovery with
  | (.ok (), b) => (.ok (), b.spawn settings.chain Task.all)
  | (.error e, b) => (.error e, b)

/-- Changes the watcher of a chain. -/
def changeWatcher (b : Bench) (chain : String) (f : Watcher → Watcher) : Bench :=
  match b.manager.find? chain with
  | some w => { b with manager := b.manager.put chain (f w) }
  | none => b

/-- Starts one more loop that refreshes the pool of a chain, in a watcher that is not told to stop
any more. -/
def addRefresher (b : Bench) (chain : String) (every unhealthyEvery : Nat) : Bench :=
  match b.manager.find? chain with
  | none => b
  | some w =>
    let w := { w.addRefresher every unhealthyEvery with cancelled := false }
    { b with manager := b.manager.put chain w }.spawn chain [.refresh (w.refreshers.length - 1)]

/-- Tells all tasks to stop. -/
def cancel (b : Bench) : Bench := { b with manager := b.manager.cancel }

/-- Tells all tasks to stop and waits until they have. -/
def stop (b : Bench) : Bench := b.cancel.wait (·.seats.isEmpty) none

/-- Dispatches a request. -/
def dispatch (b : Bench) (request : Submission) : SubmissionReport × Bench :=
  let (result, b) := inquire request.chain (b.manager.dispatch request) b
  (result, { b with manager := b.manager.dispatched request.chain result })

/-- Asks for the next nonce of an address. -/
def nonce (b : Bench) (chain address : String) : Except ServiceError UInt64 × Bench :=
  inquire chain (b.manager.nonce chain address) b

/-- Asks for a fee estimate. -/
def fee (b : Bench) (chain : String) : Except ServiceError FeeQuote × Bench :=
  let (finish, b) := inquire chain (b.manager.fee chain) b
  let (outcome, manager) := finish b.manager
  (outcome, { b with manager })

/-! ### Channels -/

/-- Waits no longer than so long for an item from a channel of a chain's watcher. -/
def receiveWithin {α : Type} (b : Bench) (chain : String) (within : Nat)
    (channel : Watcher → Channel α) (replace : Watcher → Channel α → Watcher)
    (senderGone : Watcher → Bool) : Received α × Bench :=
  let settled (b : Bench) : Bool :=
    match b.manager.find? chain with
    | some w => !(channel w).items.isEmpty || !(channel w).isOpen || senderGone w
    | none => true
  let b := if settled b then b else b.wait settled (some (b.now + within))
  match b.manager.find? chain with
  | none => (.closed, b)
  | some w =>
    match (channel w).receive? with
    | some (item, rest) =>
      (.item item, { b with manager := b.manager.put chain (replace w rest) })
    | none => if settled b then (.closed, b) else (.nothing, b)

/-- Waits for a block from a chain's fetcher. -/
def receiveBlock (b : Bench) (chain : String) (within : Nat) : Received Block × Bench :=
  b.receiveWithin chain within (·.blocks) (fun w blocks => { w with blocks })
    (·.fetcher.stage == .stopped)

/-- Waits for a batch from a chain's resolver. -/
def receiveBatch (b : Bench) (chain : String) (within : Nat) : Received ResolvedBlock × Bench :=
  b.receiveWithin chain within (·.batches) (fun w batches => { w with batches }) fun _ => false

/-- Waits no longer than so long for room for a job in the queue of a chain's resolver. -/
def enqueueWithin (b : Bench) (chain : String) (job : PendingBlock) (within : Nat) :
    Enqueued × Bench :=
  let settled (b : Bench) : Bool :=
    match b.manager.find? chain with
    | some w => w.jobs.hasRoom || !w.jobs.isOpen
    | none => true
  let b := if settled b then b else b.wait settled (some (b.now + within))
  match b.manager.find? chain with
  | none => (.refused, b)
  | some w =>
    match w.jobs.send? job with
    | some jobs => (.taken, { b with manager := b.manager.put chain { w with jobs } })
    | none => (if w.jobs.isOpen then .full else .refused, b)

end Bench

end VaultWatch.Rehearsal
