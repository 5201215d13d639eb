import VaultWatch.Error
import VaultWatch.Text.Hex

/-!
# Records

What flows through the engine: transactions, blocks and receipts as nodes report them, the two
streams that go out (`DepositBlock`, `TrackNotice`), fee estimates, and dispatch requests with their
results. Heights and nonces are 64-bit words; amounts are natural numbers of the chain's smallest
unit, which the adapters keep below `2 ^ 128`.
-/

namespace VaultWatch

/-! ### Amounts -/

/-- The largest amount that records hold. -/
def maxAmount : Nat := (1 <<< 128) - 1

/-- An amount cut down to the largest that records hold. -/
def saturate (amount : Nat) : Nat := min amount maxAmount

/-! ### What nodes report -/

/-- The fee fields of a transaction. -/
inductive FeeTerms where
  | legacy (gasPrice : Nat)
  | feeMarket (maxFee tip : Nat)
  deriving DecidableEq, Repr

/-- A transaction as found in a block; a contract creation has no recipient. -/
structure BlockTx where
  hash : String
  raw : Bytes
  sender : String
  recipient : Option String
  fee : FeeTerms
  deriving DecidableEq, Repr

/-- A polled block. -/
structure Block where
  height : UInt64
  hash : String
  baseFee : Option Nat
  txs : List BlockTx
  deriving DecidableEq, Repr

/-- The execution outcome of a transaction. -/
structure Receipt where
  txHash : String
  blockHeight : Option UInt64
  success : Bool
  deriving DecidableEq, Repr

/-- A candidate transaction with its receipt. -/
structure ResolvedTx where
  tx : BlockTx
  receipt : Receipt
  deriving DecidableEq, Repr

/-- All resolved receipts of one block. -/
structure ResolvedBlock where
  height : UInt64
  blockHash : String
  results : List ResolvedTx
  deriving DecidableEq, Repr

/-! ### What the engine reports -/

/-- A transaction sent to the vault. -/
structure Deposit where
  hash : String
  raw : Bytes
  sender : String
  recipient : String
  success : Bool
  deriving DecidableEq, Repr

/-- The vault transactions of one block. -/
structure DepositBlock where
  chain : String
  blockHeight : UInt64
  blockHash : String
  txs : List Deposit
  deriving DecidableEq, Repr

/-- How the wait for a tracked transaction ended. -/
inductive Ending where
  | confirmed
  | failed
  | timeout
  deriving DecidableEq, Repr

/-- The name of an ending in records and counters. -/
def Ending.name : Ending → String
  | .confirmed => "confirmed"
  | .failed => "failed"
  | .timeout => "timeout"

/-- The end of the wait for a tracked transaction; its height is zero when it timed out. -/
structure TrackNotice where
  chain : String
  txHash : String
  blockHeight : UInt64
  raw : Bytes
  result : Ending
  deriving DecidableEq, Repr

/-- A fee estimate. -/
inductive FeeQuote where
  | legacy (gasPrice : Nat)
  | feeMarket (baseFee tip : Nat)
  deriving DecidableEq, Repr

/-! ### Dispatches -/

/-- A signed transaction handed over for submission. -/
structure Submission where
  chain : String
  rawTx : Bytes
  senderPubKey : Option String
  deriving DecidableEq, Repr

/-- What became of a dispatch request. -/
structure SubmissionReport where
  success : Bool
  txHash : Option String
  deployedAddress : Option String
  error : Option DispatchFault
  deriving DecidableEq, Repr

/-- A dispatch that a node took. -/
def SubmissionReport.sent (txHash : String) (deployedAddress : Option String) : SubmissionReport :=
  ⟨true, some txHash, deployedAddress, none⟩

/-- A dispatch that failed; the hash is known once the payload has been read. -/
def SubmissionReport.failed (txHash : Option String) (fault : DispatchFault) : SubmissionReport :=
  ⟨false, txHash, none, some fault⟩

/-- A signed transaction as its payload tells. -/
structure DecodedTx where
  hash : String
  sender : String
  recipient : Option String
  nonce : UInt64
  value : Nat
  /-- An upper bound of the fee that the sender may pay. -/
  maxFeeCost : Nat
  /-- The address of the contract that the transaction creates. -/
  deployedAddress : Option String
  deriving DecidableEq, Repr

/-- The reading of signed payloads and public keys that a kind of chain has. -/
structure Codec where
  readSigned : Bytes → Except PayloadError DecodedTx
  addressOfPubKey : String → Except PayloadError String

end VaultWatch
