import VaultWatch.Watcher.Calls
import VaultWatch.Watcher.Move
import VaultWatch.Watcher.Refreshing

/-!
# The manager

The manager runs one watcher per chain, under the chain's name. All watchers share a hub. Every call
names a chain, and concerns that chain's watcher alone.
-/

namespace VaultWatch

/-- The running watchers, in the order in which they were added, and their hub. -/
structure Manager where
  watchers : List (String × Watcher)
  hub : Hub
  /-- The receiving ends of the two outbound streams have been handed out. -/
  handedOut : Bool
  /-- All watchers have been told to stop, and so is each that is added. -/
  cancelled : Bool

namespace Manager

/-- A manager without chains, whose two outbound streams have the given capacity. -/
def start (capacity : Nat) : Manager := ⟨[], .start capacity, false, false⟩

/-- The watcher of a chain. -/
def find? (m : Manager) (chain : String) : Option Watcher := m.watchers.lookup chain

/-- The watcher of a chain, or the error that there is none. -/
def watcher (m : Manager) (chain : String) : Except ServiceError Watcher :=
  match m.find? chain with
  | some w => .ok w
  | none => .error (.chainNotFound chain)

/-- Puts a watcher in place of the one that is there under a name. -/
def put (m : Manager) (chain : String) (w : Watcher) : Manager :=
  { m with watchers := m.watchers.map fun e => if e.1 = chain then (chain, w) else e }

/-! ### Starting and stopping -/

/-- The error of a chain that cannot be added because its name is taken. -/
def alreadyRunning (chain : String) : ServiceError :=
  .startup chain (.config "chain already running")

/-- The pool of a chain that is to be added. -/
def newPool (settings : ChainPlan) : Pool := .unconnected settings.chain settings.rpcUrls

/-- Adds a chain whose endpoints have been probed. Its vault is the one that was set last. When
nothing could be connected, or the store does not answer, the chain is not added. -/
def startChain (m : Manager) (settings : ChainPlan) (codec : Codec)
    (probes : List (String × Option Bool)) : Except ServiceError Unit × Manager :=
  let chain := settings.chain
  if (m.find? chain).isSome then (.error (alreadyRunning chain), m)
  else
    match (newPool settings).refreshed probes with
    | (.error e, _) => (.error (.startup chain (.call e)), m)
    | (.ok healthy, pool) =>
      let hub := m.hub.count (·.countRefresh chain (.ok healthy))
      match hub.readVaults chain with
      | .error e => (.error (.startup chain e), { m with hub })
      | .ok vaults =>
        -- After the manager was stopped a watcher is still added, but its tasks end at once.
        let w := { Watcher.start settings codec pool vaults.head? with cancelled := m.cancelled }
        (.ok (), { m with hub, watchers := m.watchers ++ [(chain, w)] })

/-- Tells all watchers to stop. -/
def cancel (m : Manager) : Manager :=
  { m with watchers := m.watchers.map fun e => (e.1, e.2.cancel), cancelled := true }

/-! ### Outbound streams -/

/-- Hands out the outbound streams; this can be done once. -/
def takeStreams (m : Manager) : Bool × Manager :=
  (!m.handedOut, { m with handedOut := true })

/-- The receiving ends of the outbound streams go away. -/
def closeOutbound (m : Manager) : Manager :=
  { m with hub := { m.hub with matched := m.hub.matched.close, updates := m.hub.updates.close } }

/-- Takes all that waits in the outbound streams. -/
def drain (m : Manager) : (List DepositBlock × List TrackNotice) × Manager :=
  let (blocks, matched) := m.hub.matched.drain
  let (sent, updates) := m.hub.updates.drain
  ((blocks, sent), { m with hub := { m.hub with matched, updates } })

/-! ### Calls -/

/-- Makes a move of one watcher. -/
def move? (m : Manager) (chain : String) (move : Move) : Option Manager := do
  let w ← m.find? chain
  let (w, hub) ← w.move? m.hub move
  return { m.put chain w with hub }

/-- Tracks a transaction of a chain. -/
def track (m : Manager) (chain hash : String) : Except ServiceError Manager := do
  let w ← m.watcher chain
  return m.put chain (w.track m.hub.now hash)

/-- Sets the vault of a chain. -/
def moveVault (m : Manager) (chain address token : String) :
    Except ServiceError Unit × Manager :=
  match m.watcher chain with
  | .error e => (.error e, m)
  | .ok w =>
    let (outcome, w, hub) := w.moveVault m.hub address token
    (outcome, { m.put chain w with hub })

/-- Dispatches a request on its chain. -/
def dispatch (m : Manager) (request : Submission) : Inquiry SubmissionReport :=
  match m.find? request.chain with
  | some w => w.dispatch request
  | none => .done (.failed none .chainNotFound)

/-- Counts a dispatch that was completed. -/
def dispatched (m : Manager) (chain : String) (result : SubmissionReport) : Manager :=
  { m with hub := m.hub.count (·.countDispatch chain result) }

/-- Asks for the next nonce of an address on a chain. -/
def nonce (m : Manager) (chain address : String) : Inquiry (Except ServiceError UInt64) :=
  match m.watcher chain with
  | .error e => .done (.error e)
  | .ok w => return (← w.nonce address).mapError .call

/-- Takes in the gas price that a chain's nodes suggest, with the one that was kept before they were
asked. -/
def heardGasPrice (m : Manager) (chain : String) (before : Option Nat)
    (answer : Except CallError Nat) : Except ServiceError FeeQuote × Manager :=
  match m.watcher chain with
  | .error e => (.error e, m)
  | .ok w =>
    let (outcome, w) := w.heardGasPrice before m.hub.now answer
    (outcome.mapError .call, m.put chain w)

/-- Asks for a fee estimate of a chain. What the answer changes is changed when it is there. -/
def fee (m : Manager) (chain : String) :
    Inquiry (Manager → Except ServiceError FeeQuote × Manager) :=
  match m.watcher chain with
  | .error e => .done fun later => (.error e, later)
  | .ok w =>
    match w.knownFee? m.hub.now with
    | some estimate => .done fun later => (.ok estimate, later)
    | none => do
      let answer ← w.gasPrice
      return fun later => later.heardGasPrice chain w.fees.kept? answer

/-! ### Reports -/

/-- Items in the order of their chains' names. -/
def byName {α : Type} (name : α → String) (items : List α) : List α :=
  items.mergeSort fun a b => name a ≤ name b

/-- The names of all chains, in order. -/
def chains (m : Manager) : List String := byName id (m.watchers.map (·.1))

/-- Whether each chain has a healthy endpoint, in the order of their names. -/
def health (m : Manager) : List (String × Bool) :=
  byName (·.1) (m.watchers.map fun e => (e.1, e.2.isHealthy))

/-- The summary of each chain, in the order of their names. -/
def summaries (m : Manager) : List WatcherSummary :=
  byName (·.chain) (m.watchers.map fun e => e.2.summary)

end Manager

end VaultWatch
