import VaultWatch.Dispatch
import VaultWatch.Watcher.State

/-!
# Calls on a watcher

What can be asked of a watcher while it runs, and after it was stopped: to track a transaction, to
switch the vault, to dispatch, and to tell a nonce or a fee. Calls that query the chain's nodes are
inquiries; what they change in the watcher and the counters is applied when their answers are there.
-/

namespace VaultWatch

/-- The fee estimate that needs no query. -/
def Fees.known? (fees : Fees) (now : Nat) : Option FeeQuote :=
  match fees with
  | .legacy price => (price.fresh? now).map .legacy
  | .feeMarket window => some window.estimate

/-- The gas price that stands in when the nodes do not tell one. -/
def Fees.kept? : Fees → Option Nat
  | .legacy price => price.kept?
  | .feeMarket _ => none

/-- Takes in the gas price that the nodes suggest, with the one that was kept before they were
asked. -/
def Fees.answered (fees : Fees) (before : Option Nat) (now : Nat)
    (answer : Except CallError Nat) : Except CallError FeeQuote × Fees :=
  match fees with
  | .legacy price =>
    let (outcome, price) := price.answered before now answer
    (outcome.map .legacy, .legacy price)
  | .feeMarket window => (.ok window.estimate, .feeMarket window)

namespace Watcher

/-- Waits for a transaction from now on. -/
def track (w : Watcher) (now : Nat) (hash : String) : Watcher :=
  { w with watchlist := w.watchlist.track now hash }

/-- Switches over to another vault, whose address has been stored. -/
def switchVault (w : Watcher) (address : String) : Watcher :=
  { w with watchlist := w.watchlist.moveVault address }

/-- Stores the address of another vault and then switches over to it. -/
def moveVault (w : Watcher) (hub : Hub) (address token : String) :
    Except ServiceError Unit × Watcher × Hub :=
  match hub.writeVault w.chain address token with
  | .ok hub => (.ok (), w.switchVault address, hub)
  | .error e => (.error e, w, hub)

/-- Dispatches a request. -/
def dispatch (w : Watcher) (request : Submission) : Inquiry SubmissionReport :=
  Dispatch.dispatch w.codec w.settings.checkBalance request

/-- Asks for the next nonce of an address. -/
def nonce (_ : Watcher) (address : String) : Inquiry (Except CallError UInt64) :=
  .query (.nonce address)

/-- Asks the nodes for a gas price. -/
def gasPrice (_ : Watcher) : Inquiry (Except CallError Nat) := .query .gasPrice

/-- The fee estimate that needs no query. -/
def knownFee? (w : Watcher) (now : Nat) : Option FeeQuote := w.fees.known? now

/-- Takes in the gas price that the nodes suggest, with the one that was kept before they were
asked. -/
def heardGasPrice (w : Watcher) (before : Option Nat) (now : Nat)
    (answer : Except CallError Nat) : Except CallError FeeQuote × Watcher :=
  let (outcome, fees) := w.fees.answered before now answer
  (outcome, { w with fees })

/-- Some endpoint of the chain is healthy. -/
def isHealthy (w : Watcher) : Bool := w.pool.isHealthy

/-- Tells all tasks to stop. -/
def cancel (w : Watcher) : Watcher := { w with cancelled := true }

end Watcher

end VaultWatch
