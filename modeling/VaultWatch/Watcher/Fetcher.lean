import VaultWatch.Cadence
import VaultWatch.Query

/-!
# The fetcher

The first stage of a watcher polls the chain block by block. It asks for the chain's head until it
is told, and from then on for one height after the other. The cursor moves on only when a block has
been delivered, so that no height is left out and none is delivered twice.

Every query needs a time that it may take. A fetcher that is about to ask goes down if that time is
out of range.
-/

namespace VaultWatch

/-- What the fetcher is doing. -/
inductive Fetcher.Stage where
  /-- It asks for the height of the chain's head. -/
  | askingHead
  /-- It waits until it asks for the head again. -/
  | restingHead (wake : Nat)
  /-- It asks for the block at the cursor. -/
  | askingBlock
  /-- It waits until the next stage takes a block. -/
  | delivering (block : Block)
  /-- It waits until it asks for a block again. -/
  | pausing (wake : Nat)
  | stopped
  deriving DecidableEq, Repr

/-- The first stage: the next height to poll, which is zero until the head is known, whether the
poll before the current one came too early, and the cadence. -/
structure Fetcher where
  stage : Fetcher.Stage
  cursor : UInt64
  late : Bool
  cadence : Cadence
  deriving DecidableEq, Repr

namespace Fetcher

/-- A fetcher that has not asked anything yet. -/
def start (cadence : Cadence) : Fetcher := ⟨.askingHead, 0, false, cadence⟩

/-- The query whose answer the fetcher waits for. -/
def query? (f : Fetcher) : Option Query :=
  match f.stage with
  | .askingHead => some .height
  | .askingBlock => some (.block f.cursor)
  | _ => none

/-- Takes in the height of the head, or rests before asking again. -/
def heardHead (f : Fetcher) (retryAt : Nat) : Except CallError UInt64 → Fetcher
  | .ok height => { f with stage := .askingBlock, cursor := height }
  | .error _ => { f with stage := .restingHead retryAt }

/-- Takes in the answer to a poll. A block sets the cadence as one that was found; everything else
is a miss, and the height will be asked for again. -/
def heardBlock (f : Fetcher) (now : Nat) : Except CallError Block → Fetcher
  | .ok block =>
    { f with stage := .delivering block, late := false, cadence := f.cadence.found f.late }
  | .error _ =>
    let cadence := f.cadence.miss
    { f with stage := .pausing (now + cadence.interval), late := true, cadence }

/-- The block at the cursor has been delivered. -/
def delivered (f : Fetcher) (now : Nat) : Fetcher :=
  { f with stage := .pausing (now + f.cadence.interval), cursor := f.cursor + 1 }

/-- Asks again after a rest. -/
def resumed (f : Fetcher) (stage : Stage) : Fetcher := { f with stage }

/-- Stops for good. -/
def stop (f : Fetcher) : Fetcher := { f with stage := .stopped }

/-- Goes down instead of asking if the time that the call may take is out of range. -/
def within (f : Fetcher) (deadline : Deadline) : Fetcher :=
  match f.query?, deadline.millis? f.cadence.interval with
  | some _, none => f.stop
  | _, _ => f

theorem within_eq_self {f : Fetcher} {deadline : Deadline}
    (h : deadline.millis? f.cadence.interval ≠ none) : f.within deadline = f := by
  unfold within
  split
  · rename_i hnone
    exact absurd hnone h
  · rfl

/-- Going down changes nothing about the cadence. -/
@[simp]
theorem within_cadence (f : Fetcher) (deadline : Deadline) :
    (f.within deadline).cadence = f.cadence := by
  unfold within
  split <;> rfl

/-- A fetcher asks as it would, or no time can be given for its call and it goes down. -/
theorem within_cases (f : Fetcher) (deadline : Deadline) : f.within deadline = f ∨
    (deadline.millis? f.cadence.interval = none ∧ f.within deadline = f.stop) := by
  by_cases h : deadline.millis? f.cadence.interval = none
  · unfold within
    split
    · exact .inr ⟨h, rfl⟩
    · exact .inl rfl
  · exact .inl (within_eq_self h)

end Fetcher

end VaultWatch
