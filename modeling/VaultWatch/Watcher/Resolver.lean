import VaultWatch.Counters
import VaultWatch.Query

/-!
# The resolver

The third stage of a watcher asks for the receipts of a block's candidates, one after the other and
job by job. Each candidate gets a bounded number of attempts; one whose receipt cannot be read, or
does not come in time, is dropped. What was resolved of a job is emitted as one batch.
-/

namespace VaultWatch

/-- The candidates of a block that wait for their receipts. -/
structure PendingBlock where
  height : UInt64
  blockHash : String
  candidates : List BlockTx
  deriving DecidableEq, Repr

/-- A job under way: what has been resolved so far, in order, the candidate at hand with the number
of its failed attempts, and the candidates behind it. -/
structure Resolution where
  height : UInt64
  blockHash : String
  resolved : List ResolvedTx
  current : BlockTx
  attempt : Nat
  rest : List BlockTx
  deriving DecidableEq, Repr

/-- The third stage. -/
inductive Resolver where
  /-- It waits for a job. -/
  | waiting
  /-- It asks for the receipt of the candidate at hand. -/
  | asking (job : Resolution)
  /-- It waits until it asks again. -/
  | pausing (job : Resolution) (wake : Nat)
  /-- It waits until the next stage takes a batch. -/
  | emitting (batch : ResolvedBlock)
  | stopped
  deriving DecidableEq, Repr

namespace Resolver

/-- Turns to the first of some candidates, or emits what there is. -/
def turnTo (height : UInt64) (blockHash : String) (resolved : List ResolvedTx) :
    List BlockTx → Resolver
  | tx :: rest => .asking ⟨height, blockHash, resolved, tx, 0, rest⟩
  | [] => .emitting ⟨height, blockHash, resolved⟩

/-- Begins a job. -/
def begin (job : PendingBlock) : Resolver :=
  turnTo job.height job.blockHash [] job.candidates

/-- The query whose answer the resolver waits for. -/
def query? : Resolver → Option Query
  | .asking job => some (.receipt job.current.hash)
  | _ => none

end Resolver

namespace Resolution

/-- The candidate at hand is resolved. -/
def keep (job : Resolution) (receipt : Receipt) : Resolver :=
  .turnTo job.height job.blockHash (job.resolved ++ [⟨job.current, receipt⟩]) job.rest

/-- The candidate at hand is dropped. -/
def drop (job : Resolution) : Resolver :=
  .turnTo job.height job.blockHash job.resolved job.rest

/-- Takes in the answer to an attempt, with the fate of the candidate if that decides it. A receipt
that cannot be read is not asked for again; after any other failure there is another attempt as long
as fewer than the permitted number have been repeated. -/
def heard (job : Resolution) (maxRetry retryAt : Nat) (answer : Except CallError Receipt) :
    Resolver × Option ReceiptFate :=
  match answer with
  | .ok receipt => (job.keep receipt, some .resolved)
  | .error (.decode _) => (job.drop, some .dropped)
  | .error _ =>
    if maxRetry ≤ job.attempt then (job.drop, some .dropped)
    else (.pausing { job with attempt := job.attempt + 1 } retryAt, none)

end Resolution

end VaultWatch
