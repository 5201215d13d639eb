import VaultWatch.Record
import VaultWatch.Tracked

/-!
# The watchlist

What a watcher looks for: transactions sent to the vault address, and the transactions that it
tracks. A block is looked through twice, once for candidates whose receipts are worth asking for,
and once when the receipts are there. In between both the vault and the tracked transactions may
change.
-/

namespace VaultWatch

/-- The vault address, if one is set, and the tracked transactions. Addresses are compared the way
the tracked hashes are. -/
structure Watchlist where
  vault : Option String
  tracked : Tracked
  deriving DecidableEq, Repr

/-- What a result means to a watcher. -/
inductive Verdict where
  /-- The transaction was awaited, and this is how its wait ends. -/
  | outcome (result : Ending)
  /-- The transaction has been reported before. -/
  | reported
  /-- The transaction was sent to the vault. -/
  | deposit (tx : Deposit)
  /-- The transaction is of no interest any more. -/
  | unrelated
  deriving DecidableEq, Repr

namespace Watchlist

/-- Two addresses are the same. -/
def addressesAgree (w : Watchlist) (a b : String) : Bool :=
  if w.tracked.foldCase then Ascii.sameFold a b else a == b

/-- An address is the vault. -/
def vaultIs (w : Watchlist) (address : String) : Bool :=
  match w.vault with
  | some vault => w.addressesAgree vault address
  | none => false

/-- A recipient is there and is the vault. -/
def paysVault (w : Watchlist) (recipient : Option String) : Bool :=
  recipient.any w.vaultIs

/-- The receipt of a transaction is worth asking for. -/
def wants (w : Watchlist) (tx : BlockTx) : Bool :=
  !w.tracked.wasConfirmed tx.hash && (w.tracked.contains tx.hash || w.paysVault tx.recipient)

/-- The candidates of a block in block order. -/
def candidates (w : Watchlist) (block : Block) : List BlockTx :=
  block.txs.filter w.wants

/-- The ending that a receipt stands for. -/
def ending (receipt : Receipt) : Ending :=
  if receipt.success then .confirmed else .failed

/-- A transaction to the vault as it is reported. -/
def observed (tx : BlockTx) (recipient : String) (receipt : Receipt) : Deposit :=
  ⟨tx.hash, tx.raw, tx.sender, recipient, receipt.success⟩

/-- Judges a result: a transaction that was awaited is confirmed, one that has been reported is
passed over, and one that was sent to the vault is a deposit. -/
def judge (w : Watchlist) (result : ResolvedTx) : Verdict × Watchlist :=
  let (awaited, tracked) := w.tracked.confirm result.tx.hash
  let w := { w with tracked }
  -- An earlier result of the same batch may have confirmed the transaction.
  if awaited then (.outcome (ending result.receipt), w)
  else if tracked.wasConfirmed result.tx.hash then (.reported, w)
  else
    match result.tx.recipient with
    | some recipient =>
      if w.vaultIs recipient then (.deposit (observed result.tx recipient result.receipt), w)
      else (.unrelated, w)
    | none => (.unrelated, w)

/-- Waits for a transaction from now on. -/
def track (w : Watchlist) (now : Nat) (hash : String) : Watchlist :=
  { w with tracked := w.tracked.track now hash }

/-- Switches over to another vault. -/
def moveVault (w : Watchlist) (address : String) : Watchlist :=
  { w with vault := some address }

/-- Gives up the transactions that have been awaited for at least so long. -/
def expire (w : Watchlist) (now maxAge : Nat) : List String × Watchlist :=
  let (overdue, tracked) := w.tracked.expire now maxAge
  (overdue, { w with tracked })

end Watchlist

end VaultWatch
