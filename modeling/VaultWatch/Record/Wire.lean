import VaultWatch.Json.Reader
import VaultWatch.Json.Writer
import VaultWatch.Record

/-!
# Records as JSON

How records cross the boundary to the coordinator. `toJson` gives a record's fields in their fixed
order; `ofJson?` reads them back in any order, or as an array in order. Byte strings are byte fields
of `VaultWatch.Hex`. Fees and fee estimates are only written: their amounts are wider than what a
tagged record can be read with, so that a transaction as found in a block has no reader.
-/

namespace VaultWatch

/-- A byte string as JSON. -/
def bytesJson (bytes : Bytes) : Json := .string (Hex.field bytes)

/-- The byte string of a JSON string. -/
def bytesOfJson? (value : Json) : Option Bytes :=
  value.text?.bind Hex.ofField?

/-- A height as JSON. -/
def heightJson (height : UInt64) : Json := .ofNat height.toNat

/-! ### Fees -/

/-- The fields of a transaction's fee. -/
def FeeTerms.toJson : FeeTerms → Json
  | .legacy gasPrice => .record [("type", .string "legacy"), ("gas_price", .ofNat gasPrice)]
  | .feeMarket maxFee tip => .record
      [("type", .string "fee_market"), ("max_fee", .ofNat maxFee), ("tip", .ofNat tip)]

/-- The fields of a fee estimate. -/
def FeeQuote.toJson : FeeQuote → Json
  | .legacy gasPrice => .record [("mode", .string "legacy"), ("gas_price", .ofNat gasPrice)]
  | .feeMarket baseFee tip => .record
      [("mode", .string "fee_market"), ("base_fee", .ofNat baseFee), ("tip", .ofNat tip)]

/-! ### Transactions -/

/-- The fields of a transaction as found in a block. -/
def BlockTx.toJson (tx : BlockTx) : Json := .record
  [("hash", .string tx.hash), ("raw", bytesJson tx.raw), ("from", .string tx.sender),
   ("to", .ofText? tx.recipient), ("fee", tx.fee.toJson)]

/-- The names of an observed transaction's fields. -/
def Deposit.fieldNames : List String := ["hash", "raw", "from", "to", "success"]

/-- The fields of an observed transaction. -/
def Deposit.toJson (tx : Deposit) : Json := .record
  [("hash", .string tx.hash), ("raw", bytesJson tx.raw), ("from", .string tx.sender),
   ("to", .string tx.recipient), ("success", .bool tx.success)]

/-- Reads an observed transaction. -/
def Deposit.ofJson? (value : Json) : Option Deposit := do
  let field ← value.fields? fieldNames
  let hash ← Json.required Json.text? (field "hash")
  let raw ← Json.required bytesOfJson? (field "raw")
  let sender ← Json.required Json.text? (field "from")
  let recipient ← Json.required Json.text? (field "to")
  let success ← Json.required Json.bool? (field "success")
  return { hash, raw, sender, recipient, success }

/-! ### Outbound streams -/

/-- The names of a matched block's fields. -/
def DepositBlock.fieldNames : List String := ["chain", "block_height", "block_hash", "txs"]

/-- The fields of a matched block. -/
def DepositBlock.toJson (block : DepositBlock) : Json := .record
  [("chain", .string block.chain), ("block_height", heightJson block.blockHeight),
   ("block_hash", .string block.blockHash), ("txs", .array (block.txs.map Deposit.toJson))]

/-- Reads a matched block. -/
def DepositBlock.ofJson? (value : Json) : Option DepositBlock := do
  let field ← value.fields? fieldNames
  let chain ← Json.required Json.text? (field "chain")
  let blockHeight ← Json.required Json.u64? (field "block_height")
  let blockHash ← Json.required Json.text? (field "block_hash")
  let items ← Json.required Json.items? (field "txs")
  let txs ← items.mapM Deposit.ofJson?
  return { chain, blockHeight, blockHash, txs }

/-- The ending of that name. -/
def Ending.ofName? (name : String) : Option Ending :=
  [Ending.confirmed, .failed, .timeout].find? (·.name == name)

/-- An ending as its name. -/
def Ending.toJson (result : Ending) : Json := .string result.name

/-- Reads an ending. -/
def Ending.ofJson? (value : Json) : Option Ending :=
  value.variantName?.bind ofName?

/-- The names of a track update's fields. -/
def TrackNotice.fieldNames : List String := ["chain", "tx_hash", "block_height", "raw", "result"]

/-- The fields of a track update. -/
def TrackNotice.toJson (update : TrackNotice) : Json := .record
  [("chain", .string update.chain), ("tx_hash", .string update.txHash),
   ("block_height", heightJson update.blockHeight), ("raw", bytesJson update.raw),
   ("result", update.result.toJson)]

/-- Reads a track update. -/
def TrackNotice.ofJson? (value : Json) : Option TrackNotice := do
  let field ← value.fields? fieldNames
  let chain ← Json.required Json.text? (field "chain")
  let txHash ← Json.required Json.text? (field "tx_hash")
  let blockHeight ← Json.required Json.u64? (field "block_height")
  let raw ← Json.required bytesOfJson? (field "raw")
  let result ← Json.required Ending.ofJson? (field "result")
  return { chain, txHash, blockHeight, raw, result }

/-! ### Dispatches -/

/-- The category of that name. -/
def DispatchFault.ofName? (name : String) : Option DispatchFault :=
  DispatchFault.all.find? (·.name == name)

/-- A category as its name. -/
def DispatchFault.toJson (fault : DispatchFault) : Json := .string fault.name

/-- Reads a category. -/
def DispatchFault.ofJson? (value : Json) : Option DispatchFault :=
  value.variantName?.bind ofName?

/-- The names of a dispatch request's fields. -/
def Submission.fieldNames : List String := ["chain", "raw_tx", "sender_pub_key"]

/-- The fields of a dispatch request. -/
def Submission.toJson (request : Submission) : Json := .record
  [("chain", .string request.chain), ("raw_tx", bytesJson request.rawTx),
   ("sender_pub_key", .ofText? request.senderPubKey)]

/-- Reads a dispatch request; the key may be left out. -/
def Submission.ofJson? (value : Json) : Option Submission := do
  let field ← value.fields? fieldNames
  let chain ← Json.required Json.text? (field "chain")
  let rawTx ← Json.required bytesOfJson? (field "raw_tx")
  let senderPubKey ← Json.optional Json.text? (field "sender_pub_key")
  return { chain, rawTx, senderPubKey }

/-- The names of a dispatch result's fields. -/
def SubmissionReport.fieldNames : List String := ["success", "tx_hash", "deployed_address", "error"]

/-- The fields of a dispatch result. -/
def SubmissionReport.toJson (result : SubmissionReport) : Json := .record
  [("success", .bool result.success), ("tx_hash", .ofText? result.txHash),
   ("deployed_address", .ofText? result.deployedAddress),
   ("error", match result.error with
      | some fault => fault.toJson
      | none => .null)]

/-- Reads a dispatch result; all but the first field may be left out. -/
def SubmissionReport.ofJson? (value : Json) : Option SubmissionReport := do
  let field ← value.fields? fieldNames
  let success ← Json.required Json.bool? (field "success")
  let txHash ← Json.optional Json.text? (field "tx_hash")
  let deployedAddress ← Json.optional Json.text? (field "deployed_address")
  let error ← Json.optional DispatchFault.ofJson? (field "error")
  return { success, txHash, deployedAddress, error }

/-! ### Texts -/

/-- Reads a record's text. -/
def readRecord {α : Type} (ofJson? : Json → Option α) (text : String) : Option α :=
  (Json.parse? text).bind ofJson?

end VaultWatch
