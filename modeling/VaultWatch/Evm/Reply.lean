import VaultWatch.Evm.Form
import VaultWatch.Evm.SignedPayload
import VaultWatch.Json.Reader
import VaultWatch.Query

/-!
# Replies of EVM nodes

How the replies of EVM nodes are read. A reply is an envelope with a result or an error. A result
must have the form that its method asks for; null means that there is nothing to tell. Amounts wider
than records hold are cut down, and transactions are given with the bytes that would be submitted
for them.
-/

namespace VaultWatch.Evm

/-! ### Envelopes -/

/-- What an envelope holds. -/
inductive Envelope where
  | result (value : Json)
  /-- The node refuses the request, in its own words. -/
  | refusal (message : String)

/-- The members that an envelope may have. -/
def envelopeMembers : List String := ["jsonrpc", "id", "result", "error", "method", "params"]

/-- A number with a sign that fits into 64 bits. -/
def isInt64 : Json → Bool
  | .number n =>
    n.tail.isEmpty && n.whole ≤ if n.negative then 0x8000000000000000 else 0x7FFFFFFFFFFFFFFF
  | _ => false

/-- The words of an envelope's error, which has a code too. -/
def errorMessage? (error : Json) : Option String := do
  let field ← error.fields? ["code", "message", "data"]
  let code ← field "code"
  if isInt64 code then (field "message").bind Json.text? else none

/-- Reads an envelope. It states its version and its number, and holds either a result or an error;
other members are not allowed, and none may come twice. -/
def envelope? (body : Json) : Option Envelope :=
  match body with
  | .object members =>
    let known := members.all fun m => m.1.any envelopeMembers.contains
    let once := envelopeMembers.all fun name => (Json.membersNamed name members).length ≤ 1
    let member (name : String) : Option Json := (Json.membersNamed name members).head?
    let version := (member "jsonrpc").bind Json.text? == some "2.0"
    let number := ((member "id").bind Json.u64?).isSome
    if known && once && version && number then
      match member "result", member "error" with
      | some value, none => some (.result value)
      | none, some error => (errorMessage? error).map .refusal
      | _, _ => none
    else none
  | _ => none

/-! ### Forms of results -/

/-- A number of 64 bits. -/
def word : Form := .quantity 8

/-- A number of 256 bits. -/
def wide : Form := .quantity 32

/-- A hash. -/
def hash : Form := .fixed 32

/-- An address. -/
def address : Form := .fixed 20

/-- The form of an access list's entry. -/
def accessForm : Form :=
  .record [("address", .required, address), ("storageKeys", .required, .listOf hash)]

/-- The form of a transaction. -/
def transactionForm : Form := .record
  [("hash", .required, hash), ("nonce", .required, wide), ("blockHash", .optional, hash),
   ("blockNumber", .optional, word), ("transactionIndex", .optional, word),
   ("from", .defaulted, address), ("to", .optional, address), ("value", .required, wide),
   ("gasPrice", .optional, wide), ("gas", .required, wide), ("input", .required, .data),
   ("v", .required, word), ("r", .required, wide), ("s", .required, wide),
   ("type", .optional, word), ("accessList", .optional, .listOf accessForm),
   ("maxPriorityFeePerGas", .optional, wide), ("maxFeePerGas", .optional, wide),
   ("chainId", .optional, wide)]

/-- The form of a withdrawal from the consensus layer. -/
def withdrawalForm : Form := .record
  [("index", .required, word), ("validatorIndex", .required, word), ("address", .required, address),
   ("amount", .required, wide)]

/-- The form of a block. -/
def blockForm : Form := .record
  [("hash", .optional, hash), ("parentHash", .defaulted, hash), ("sha3Uncles", .defaulted, hash),
   ("miner", .optional, address), ("stateRoot", .defaulted, hash),
   ("transactionsRoot", .defaulted, hash), ("receiptsRoot", .defaulted, hash),
   ("number", .optional, word), ("gasUsed", .defaulted, wide), ("gasLimit", .defaulted, wide),
   ("extraData", .defaulted, .data), ("logsBloom", .optional, .fixed 256),
   ("timestamp", .defaulted, wide), ("difficulty", .defaulted, wide),
   ("totalDifficulty", .optional, wide), ("sealFields", .optional, .listOf .data),
   ("uncles", .defaulted, .listOf hash), ("transactions", .defaulted, .listOf transactionForm),
   ("size", .optional, wide), ("mixHash", .optional, hash), ("nonce", .optional, .fixed 8),
   ("baseFeePerGas", .optional, wide), ("blobGasUsed", .optional, wide),
   ("excessBlobGas", .optional, wide), ("withdrawalsRoot", .optional, hash),
   ("withdrawals", .optional, .listOf withdrawalForm), ("parentBeaconBlockRoot", .optional, hash)]

/-- The form of an entry in a receipt's log. -/
def logForm : Form := .record
  [("address", .required, address), ("topics", .required, .listOf hash),
   ("data", .required, .data), ("blockHash", .optional, hash), ("blockNumber", .optional, word),
   ("transactionHash", .optional, hash), ("transactionIndex", .optional, word),
   ("logIndex", .optional, wide), ("transactionLogIndex", .optional, wide),
   ("logType", .optional, .text), ("removed", .optional, .flag)]

/-- The form of a receipt. -/
def receiptForm : Form := .record
  [("transactionHash", .required, hash), ("transactionIndex", .required, word),
   ("blockHash", .optional, hash), ("blockNumber", .optional, word),
   ("from", .required, address), ("to", .optional, address),
   ("cumulativeGasUsed", .required, wide), ("gasUsed", .optional, wide),
   ("contractAddress", .optional, address), ("logs", .required, .listOf logForm),
   ("status", .optional, word), ("root", .optional, hash), ("logsBloom", .required, .fixed 256),
   ("type", .optional, word), ("effectiveGasPrice", .optional, wide)]

/-! ### Transactions -/

/-- A member that is a number, zero if there is none. -/
def natMember (name : String) (value : Json) : Nat :=
  ((member? name value).bind (quantity? 32)).getD 0

/-- A member that is a byte string, empty if there is none. -/
def dataMember (name : String) (value : Json) : Bytes :=
  ((member? name value).bind data?).getD []

/-- A member that is a byte string of exactly that length, empty if there is none. -/
def fixedMember (bytes : Nat) (name : String) (value : Json) : Bytes :=
  ((member? name value).bind (fixed? bytes)).getD []

/-- A number as an item, empty if there is none. -/
def natItem (name : String) (value : Json) : Rlp :=
  .ofNat (natMember name value)

/-- The access list of a transaction. -/
def accessesOf (tx : Json) : List Access :=
  let entries := ((member? "accessList" tx).bind Json.items?).getD []
  entries.map fun entry =>
    ⟨fixedMember 20 "address" entry,
      (((member? "storageKeys" entry).bind Json.items?).getD []).filterMap (fixed? 32)⟩

/-- The parity of a signature, which nodes may give together with the chain's number. -/
def parityOf (v chainId : Nat) : Nat :=
  if 1 < v then v - 2 * chainId - 35 else v

/-- The bytes that would be submitted for a transaction. -/
def payloadOf (tx : Json) : Bytes :=
  let shared : List Rlp :=
    [natItem "gas" tx, .leaf (fixedMember 20 "to" tx), natItem "value" tx,
     .leaf (dataMember "input" tx)]
  let point : List Rlp := [natItem "r" tx, natItem "s" tx]
  let parity : List Rlp := match (member? "chainId" tx).bind (quantity? 32) with
    | some chainId => [.ofNat (parityOf (natMember "v" tx) (chainId % UInt64.size))]
    | none => []
  let typed (bid : List Rlp) : Bytes := Rlp.encode (.list
    ([natItem "chainId" tx, natItem "nonce" tx] ++ bid ++ shared ++ [accessItem (accessesOf tx)]
      ++ parity ++ point))
  -- An unknown type is written like a legacy transaction.
  match natMember "type" tx with
  | 1 => 0x01 :: typed [natItem "gasPrice" tx]
  | 2 => 0x02 :: typed [natItem "maxPriorityFeePerGas" tx, natItem "maxFeePerGas" tx]
  | _ => Rlp.encode (.list
      ([natItem "nonce" tx, natItem "gasPrice" tx] ++ shared ++ [natItem "v" tx] ++ point))

/-- The fee fields of a transaction. -/
def feeOf (tx : Json) : FeeTerms :=
  if natMember "type" tx = 2 then
    .feeMarket (saturate (natMember "maxFeePerGas" tx))
      (saturate (natMember "maxPriorityFeePerGas" tx))
  else .legacy (saturate (natMember "gasPrice" tx))

/-- An address or hash as it is shown. -/
def shown (bytes : Bytes) : String := Hex.field bytes

/-- A transaction of the right form. -/
def rawTxOf (tx : Json) : BlockTx where
  hash := shown (fixedMember 32 "hash" tx)
  raw := payloadOf tx
  sender := shown (((member? "from" tx).bind (fixed? 20)).getD (List.replicate 20 0))
  recipient := ((member? "to" tx).bind (fixed? 20)).map shown
  fee := feeOf tx

/-! ### Results -/

/-- A block of the right form as the block of a height; one without a hash cannot be used. -/
def blockOf (height : UInt64) (value : Json) : Except CallError Block :=
  match (member? "hash" value).bind (fixed? 32) with
  | none => .error (.decode (.block ("block " ++ toString height.toNat ++ " has no hash")))
  | some hash => .ok {
      height
      hash := shown hash
      baseFee := ((member? "baseFeePerGas" value).bind (quantity? 32)).map saturate
      txs := (((member? "transactions" value).bind Json.items?).getD []).map rawTxOf }

/-- A receipt of the right form; one without a block is not there yet. -/
def receiptOf (value : Json) : Except CallError Receipt :=
  match (member? "blockNumber" value).bind (quantity? 8) with
  | none => .error .notFound
  | some height => .ok {
      txHash := shown (dataMember "transactionHash" value)
      blockHeight := some (UInt64.ofNat height)
      success := (member? "status" value).bind (quantity? 8) == some 1 }

/-- A result that is null or has a form. -/
def nullable (form : Form) (value : Json) : Option (Option Json) :=
  match value with
  | .null => some none
  | value => if form.accepts value then some (some value) else none

/-- What a result tells about a query; none if it does not have the right form. -/
def resultOf? (query : Query) (value : Json) : Option query.Answer :=
  match query with
  | .height => (quantity? 8 value).map fun height => .ok (UInt64.ofNat height)
  | .gasPrice => (quantity? 32 value).map fun price => .ok (saturate price)
  | .nonce _ => (quantity? 32 value).map fun nonce => .ok (UInt64.ofNat nonce)
  | .balance _ => (quantity? 32 value).map fun balance => .ok (saturate balance)
  | .submit _ => (fixed? 32 value).map fun hash => .ok (shown hash)
  | .find _ => (nullable transactionForm value).map fun tx => .ok tx.isSome
  | .block wanted => (nullable blockForm value).map fun
      | some found => blockOf wanted found
      | none => .error .notFound
  | .receipt _ => (nullable receiptForm value).map fun
      | some found => receiptOf found
      | none => .error .notFound

/-- What the body of a reply tells about a query. A refusal is an answer of the node; a body that
cannot be read is as good as none. -/
def answerOf (endpoint : String) (query : Query) (body : String) : query.Answer :=
  match (Json.parse? body).bind envelope? with
  | some (.refusal message) => .error (.rejected message)
  | some (.result value) =>
    (resultOf? query value).getD (.error (.rpc endpoint "the result cannot be read"))
  | none => .error (.rpc endpoint "the reply cannot be read")

end VaultWatch.Evm
