/-!
# The polling cadence

The pause between two polls of a chain tunes itself: a block that was there shortens it, a poll that
found none lengthens it. Steps are whole per-mille parts of a whole number of milliseconds, so that
every pause is exact. The time that a call may take follows the pause.

Pauses are 64-bit words: a step that passes `2 ^ 64` keeps its low 64 bits.
-/

namespace VaultWatch

/-- The steps of the cadence, in per-mille parts. -/
structure Tuning where
  /-- From how many hits in a row on the larger drop applies. -/
  streakLen : Nat := 3
  streakDrop : Nat := 400
  hitDrop : Nat := 50
  lateRaise : Nat := 25
  missRaise : Nat := 100
  /-- A block found right after a miss lengthens the pause a little instead of shortening it. -/
  slowDownAfterMiss : Bool := false
  deriving DecidableEq, Repr

/-- The current pause in milliseconds, its floor, and the number of hits in a row. -/
structure Cadence where
  tuning : Tuning
  floor : Nat
  interval : Nat
  hits : Nat
  deriving DecidableEq, Repr

namespace Cadence

/-- So many per-mille parts of a pause, rounded down and cut to 64 bits. -/
def scale (interval permille : Nat) : Nat :=
  interval * permille / 1000 % UInt64.size

/-- The cadence before the first poll. The pause is never below the floor. -/
def start (initial floor : Nat) (tuning : Tuning) : Cadence :=
  ⟨tuning, floor, max initial floor, 0⟩

/-- The pause scaled and raised to the floor. -/
def scaled (c : Cadence) (permille : Nat) : Cadence :=
  { c with interval := max (scale c.interval permille) c.floor }

/-- The block was there at once. Hits are counted up to the largest 32-bit number. -/
def hit (c : Cadence) : Cadence :=
  let hits := min (c.hits + 1) (UInt32.size - 1)
  let drop := if c.tuning.streakLen ≤ hits then c.tuning.streakDrop else c.tuning.hitDrop
  { c.scaled (1000 - drop) with hits }

/-- The block was there only after waiting. -/
def late (c : Cadence) : Cadence :=
  { c.scaled ((1000 + c.tuning.lateRaise) % UInt64.size) with hits := 0 }

/-- The poll found no block. -/
def miss (c : Cadence) : Cadence :=
  { c.scaled ((1000 + c.tuning.missRaise) % UInt64.size) with hits := 0 }

/-- A block was found, right after a miss or not. -/
def found (c : Cadence) (afterMiss : Bool) : Cadence :=
  if afterMiss && c.tuning.slowDownAfterMiss then c.late else c.hit

end Cadence

/-! ### The time that a call may take -/

/-- The time that a call may take is a multiple of the pause, and at least a minimum. -/
structure Deadline where
  factor : Nat
  minimum : Nat
  deriving DecidableEq, Repr

namespace Deadline

/-- The multiple of the pause in milliseconds; none if it is `2 ^ 64` seconds or more. -/
def multiple? (d : Deadline) (interval : Nat) : Option Nat :=
  let product := interval * max d.factor 1
  if product / 1000 < UInt64.size then some product else none

/-- The time that a call may take, in milliseconds; none if the multiple is out of range. -/
def millis? (d : Deadline) (interval : Nat) : Option Nat :=
  (d.multiple? interval).map (max · d.minimum)

end Deadline

end VaultWatch
