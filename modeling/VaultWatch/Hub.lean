import VaultWatch.Channel
import VaultWatch.Counters
import VaultWatch.Store

/-!
# The hub

What all watchers share: the clock, the store, the counters, and the two outbound streams. The store
may refuse to serve some kinds of access.
-/

namespace VaultWatch

/-! ### Access to the store -/

/-- A kind of access to the store. -/
inductive Access where
  | saveObserved
  | readVaults
  | writeVault
  | checkHealth
  deriving DecidableEq, Repr

/-- The failure of an access that the store refuses. -/
def ServiceError.storeDown : ServiceError := .internal "store down"

/-! ### The hub -/

/-- What all watchers share. The time is in milliseconds. -/
structure Hub where
  now : Nat
  store : Store
  /-- The kinds of access that the store refuses. -/
  refused : List Access
  counters : Counters
  matched : Channel DepositBlock
  updates : Channel TrackNotice
  deriving DecidableEq, Repr

namespace Hub

/-- A hub at time zero whose two streams have the given capacity. -/
def start (capacity : Nat) : Hub :=
  ⟨0, .empty, [], .zero, .empty capacity, .empty capacity⟩

/-- Counts something. -/
def count (hub : Hub) (f : Counters → Counters) : Hub :=
  { hub with counters := f hub.counters }

/-- The store serves a kind of access. -/
def serves (hub : Hub) (access : Access) : Bool := !hub.refused.contains access

/-- The store is well. -/
def checkHealth (hub : Hub) : Except ServiceError Unit :=
  if hub.serves .checkHealth then .ok () else .error .storeDown

/-- The vault addresses of a chain, the one set last in front. -/
def readVaults (hub : Hub) (chain : String) : Except ServiceError (List String) :=
  if hub.serves .readVaults then .ok (hub.store.vaultAddresses chain) else .error .storeDown

/-- Writes a vault address with its token. -/
def writeVault (hub : Hub) (chain address token : String) : Except ServiceError Hub :=
  if hub.serves .writeVault then
    .ok { hub with store := hub.store.putVault chain address token }
  else .error .storeDown

/-- Saves the transactions of a matched block; nothing is saved while the store refuses. -/
def saveObserved (hub : Hub) (block : DepositBlock) : Hub :=
  if hub.serves .saveObserved then
    { hub with store := hub.store.save block.chain block.blockHeight block.txs }
  else hub

end Hub

end VaultWatch
