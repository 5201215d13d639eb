import VaultWatch.Query

/-!
# Scripted nodes

A node for rehearsals answers from a script: a height, blocks, receipts, prices and balances that
are set from outside, failures that are used up one by one, and single answers that are put in line
for the next calls. It keeps a log of the calls made to it.
-/

namespace VaultWatch

/-! ### Names of queries -/

/-- The name under which a query is logged. -/
def Query.method : Query → String
  | .height => "height"
  | .block _ => "block"
  | .receipt _ => "receipt"
  | .gasPrice => "gas_price"
  | .submit _ => "submit"
  | .find _ => "find"
  | .nonce _ => "nonce"
  | .balance _ => "balance"

/-- The argument with which a query is logged. -/
def Query.argument? : Query → Option String
  | .height | .gasPrice => none
  | .block wanted => some (toString wanted.toNat)
  | .receipt hash => some hash
  | .submit payload => some (Hex.encode payload)
  | .find hash => some hash
  | .nonce address => some address
  | .balance address => some address

namespace Rehearsal

/-! ### Answers in line -/

/-- An answer that a node gives whatever its script says. -/
inductive Canned where
  | failure (error : CallError)
  | height (value : UInt64)
  | gasPrice (value : Nat)
  | block (value : Block)
  | hash (value : String)
  deriving DecidableEq, Repr

/-- The answer that a canned answer is to a query. -/
def Canned.answer? (canned : Canned) (query : Query) : Option query.Answer :=
  match canned, query with
  | .failure error, _ => some (.error error)
  | .height value, .height => some (.ok value)
  | .gasPrice value, .gasPrice => some (.ok value)
  | .block value, .block _ => some (.ok value)
  | .hash value, .submit _ => some (.ok value)
  | _, _ => none

/-- What is in line for the next call of a method: a delay, and an answer unless the script is to
give it. -/
structure Pushed where
  method : String
  delay : Nat
  answer : Option Canned
  deriving DecidableEq, Repr

/-! ### Nodes -/

/-- A call as it is logged. -/
structure LogEntry where
  time : Nat
  method : String
  argument : Option String
  deriving DecidableEq, Repr

/-- A scripted node. What is set later for the same key stands in front, and so does the latest of
the logged calls. -/
structure Node where
  healthy : Bool
  height : UInt64
  blocks : List (UInt64 × Block)
  blockFailures : Nat
  receipts : List (String × Bool)
  receiptFailures : List (String × Nat)
  receiptCalls : List String
  gasPrice : Nat
  gasPriceCalls : Nat
  submitError : Option CallError
  submitted : List Bytes
  known : List String
  nonces : List (String × UInt64)
  balances : List (String × Nat)
  latency : Nat
  pushed : List Pushed
  calls : List LogEntry
  deriving DecidableEq, Repr

namespace Node

/-- A healthy node at a height, with nothing else in its script. -/
def start (height : UInt64) : Node where
  healthy := true
  height := height
  blocks := []
  blockFailures := 0
  receipts := []
  receiptFailures := []
  receiptCalls := []
  gasPrice := 1000
  gasPriceCalls := 0
  submitError := none
  submitted := []
  known := []
  nonces := []
  balances := []
  latency := 0
  pushed := []
  calls := []

/-! ### Script -/

/-- Adds a block; each of its transactions that has no outcome yet will succeed. -/
def putBlock (n : Node) (block : Block) : Node :=
  let known (receipts : List (String × Bool)) (tx : BlockTx) :=
    if (receipts.lookup tx.hash).isSome then receipts else (tx.hash, true) :: receipts
  { n with
    blocks := (block.height, block) :: n.blocks
    receipts := block.txs.foldl known n.receipts }

/-- The log of the calls made to the node, oldest first. -/
def log (n : Node) : List LogEntry := n.calls.reverse

/-- The node with an empty log. -/
def clearLog (n : Node) : Node := { n with calls := [] }

/-- How often the receipt of a transaction has been asked for. -/
def receiptCallsOf (n : Node) (hash : String) : Nat := n.receiptCalls.count hash

/-! ### Answers -/

/-- The failure of every call to a node that is not healthy. -/
def refused : CallError := .rpc "fake" "connection refused"

/-- The failure of a call for a block while such failures are scripted. -/
def unavailable : CallError := .rpc "fake" "503 service unavailable"

/-- The block of a height that has none in the script. -/
def emptyBlock (height : UInt64) : Block :=
  ⟨height, "0xblock" ++ toString height.toNat, none, []⟩

/-- The answer to a call for a block. -/
def answerBlock (n : Node) (height : UInt64) : Except CallError Block × Node :=
  if 0 < n.blockFailures then
    (.error unavailable, { n with blockFailures := n.blockFailures - 1 })
  else if n.height < height then (.error .notFound, n)
  else (.ok ((n.blocks.lookup height).getD (emptyBlock height)), n)

/-- The answer to a call for a receipt. -/
def answerReceipt (n : Node) (hash : String) : Except CallError Receipt × Node :=
  let n := { n with receiptCalls := hash :: n.receiptCalls }
  let failures := (n.receiptFailures.lookup hash).getD 0
  if 0 < failures then
    (.error .notFound, { n with receiptFailures := (hash, failures - 1) :: n.receiptFailures })
  else
    match n.receipts.lookup hash with
    | some success => (.ok ⟨hash, some n.height, success⟩, n)
    | none => (.error .notFound, n)

/-- The answer to a submission. -/
def answerSubmit (n : Node) (payload : Bytes) : Except CallError String × Node :=
  match n.submitError with
  | some error => (.error error, { n with submitError := none })
  | none =>
    -- The node's hash is the payload itself, whatever the codec says.
    let hash := Hex.field payload
    (.ok hash, { n with submitted := n.submitted ++ [payload], known := hash :: n.known })

/-- The answer that the script gives to a query. -/
def answer (n : Node) (query : Query) : query.Answer × Node :=
  match query with
  | .gasPrice =>
    let n := { n with gasPriceCalls := n.gasPriceCalls + 1 }
    (if n.healthy then .ok n.gasPrice else .error refused, n)
  | .height => (if n.healthy then .ok n.height else .error refused, n)
  | .block height => if n.healthy then n.answerBlock height else (.error refused, n)
  | .receipt hash => if n.healthy then n.answerReceipt hash else (.error refused, n)
  | .submit payload => if n.healthy then n.answerSubmit payload else (.error refused, n)
  | .find hash => (if n.healthy then .ok (n.known.contains hash) else .error refused, n)
  | .nonce address =>
    (if n.healthy then .ok ((n.nonces.lookup address).getD 0) else .error refused, n)
  | .balance address =>
    (if n.healthy then .ok ((n.balances.lookup address).getD 0) else .error refused, n)

/-- Takes what is in line for a method. -/
def takePushed (method : String) : List Pushed → Option Pushed × List Pushed
  | [] => (none, [])
  | p :: rest =>
    if p.method = method then (some p, rest)
    else
      let (found, rest) := takePushed method rest
      (found, p :: rest)

/-- A call reaches the node: it is logged, and takes what is in line for its method. The result is
the time that the answer takes and the answer in line, if there is one. -/
def called (n : Node) (now : Nat) (query : Query) : (Nat × Option Canned) × Node :=
  let (item, pushed) := takePushed query.method n.pushed
  let calls := ⟨now, query.method, query.argument?⟩ :: n.calls
  ((n.latency + (item.map (·.delay)).getD 0, item.bind (·.answer)), { n with pushed, calls })

/-- The node answers a call, with the answer in line or from its script. -/
def answered (n : Node) (query : Query) (canned : Option Canned) : query.Answer × Node :=
  match canned.bind (·.answer? query) with
  | some answer => (answer, n)
  | none => n.answer query

end Node

end Rehearsal

end VaultWatch
