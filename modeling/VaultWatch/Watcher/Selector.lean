import VaultWatch.Watcher.Resolver

/-!
# The selector

The second stage of a watcher looks through each block for candidates and queues the block's
candidates for the resolver. A block without candidates goes no further.
-/

namespace VaultWatch

/-- The second stage. -/
inductive Selector where
  /-- It waits for a block. -/
  | waiting
  /-- It waits until the queue takes a job. -/
  | queueing (job : PendingBlock)
  | stopped
  deriving DecidableEq, Repr

/-- Goes on with the candidates found in a block. -/
def Selector.found (block : Block) (candidates : List BlockTx) : Selector :=
  if candidates.isEmpty then .waiting else .queueing ⟨block.height, block.hash, candidates⟩

end VaultWatch
