import VaultWatch.Record

/-!
# Fee estimates

A chain with a fee market is served from a window over the base fees and tips of the blocks that
were polled. A chain without one is served the gas price that its nodes suggest, which is kept for a
while and may be capped.
-/

namespace VaultWatch

/-! ### Samples -/

/-- The last few amounts seen, in a ring of places. A place not in use yet holds zero. -/
structure Samples where
  places : List Nat
  /-- The place of the next amount. -/
  next : Nat
  /-- The number of places in use. -/
  filled : Nat
  next_lt : next < places.length
  deriving DecidableEq, Repr

namespace Samples

/-- No amounts yet. A capacity of zero acts as one. -/
def empty (capacity : Nat) : Samples where
  places := .replicate (max capacity 1) 0
  next := 0
  filled := 0
  next_lt := by
    rw [List.length_replicate]
    exact Nat.lt_of_lt_of_le Nat.zero_lt_one (Nat.le_max_right capacity 1)

/-- Takes in an amount, which replaces the oldest one when all places are in use. -/
def push (s : Samples) (amount : Nat) : Samples where
  places := s.places.set s.next amount
  next := (s.next + 1) % s.places.length
  filled := min (s.filled + 1) s.places.length
  next_lt := by
    rw [List.length_set]
    exact Nat.mod_lt _ (Nat.zero_lt_of_lt s.next_lt)

/-- The sum over all places, which stops at the largest amount. -/
def total (s : Samples) : Nat :=
  s.places.foldl (fun acc amount => saturate (acc + amount)) 0

/-- The mean of the amounts, rounded down; none without amounts. -/
def mean? (s : Samples) : Option Nat :=
  if s.filled = 0 then none else some (s.total / s.filled)

end Samples

/-! ### Fee markets -/

/-- The window over recent base fees and tips, with what to say before any were seen. -/
structure FeeSamples where
  baseFees : Samples
  tips : Samples
  defaultBaseFee : Nat
  defaultTip : Nat
  deriving DecidableEq, Repr

namespace FeeSamples

/-- A window of the given size without samples. -/
def empty (size defaultBaseFee defaultTip : Nat) : FeeSamples :=
  ⟨.empty size, .empty size, defaultBaseFee, defaultTip⟩

/-- The tip of a transaction on a fee market. -/
def tip? (tx : BlockTx) : Option Nat :=
  match tx.fee with
  | .feeMarket _ tip => some tip
  | .legacy _ => none

/-- Takes in a block: its base fee if it has one, and the tips of its transactions in order. -/
def observe (w : FeeSamples) (block : Block) : FeeSamples :=
  { w with
    baseFees := match block.baseFee with
      | some fee => w.baseFees.push fee
      | none => w.baseFees
    tips := (block.txs.filterMap tip?).foldl Samples.push w.tips }

/-- The mean of the recent base fees. -/
def baseFee (w : FeeSamples) : Nat := w.baseFees.mean?.getD w.defaultBaseFee

/-- The mean of the recent tips. -/
def tip (w : FeeSamples) : Nat := w.tips.mean?.getD w.defaultTip

/-- The estimate of the window. -/
def estimate (w : FeeSamples) : FeeQuote := .feeMarket w.baseFee w.tip

end FeeSamples

/-! ### Gas prices -/

/-- The gas price last suggested, the time of the suggestion, how long it stays fresh, and the
cap. -/
structure CachedPrice where
  refresh : Nat
  cap : Option Nat
  cached : Option (Nat × Nat)
  deriving DecidableEq, Repr

namespace CachedPrice

/-- No suggestion yet. -/
def empty (refresh : Nat) (cap : Option Nat) : CachedPrice := ⟨refresh, cap, none⟩

/-- The kept price, while it is younger than the refresh time. -/
def fresh? (g : CachedPrice) (now : Nat) : Option Nat :=
  match g.cached with
  | some (price, since) => if now - since < g.refresh then some price else none
  | none => none

/-- A price lowered to the cap. -/
def capped (g : CachedPrice) (price : Nat) : Nat :=
  match g.cap with
  | some cap => min price cap
  | none => price

/-- The kept price, however old. -/
def kept? (g : CachedPrice) : Option Nat := g.cached.map Prod.fst

/-- Takes in the nodes' answer to a query, with the price that was kept before it. A price that is
told is kept from now on. After a failure the price from before the query is served again, however
old, and nothing changes. -/
def answered (g : CachedPrice) (before : Option Nat) (now : Nat) (answer : Except CallError Nat) :
    Except CallError Nat × CachedPrice :=
  match answer, before with
  | .ok price, _ => (.ok (g.capped price), { g with cached := some (g.capped price, now) })
  | .error _, some price => (.ok price, g)
  | .error e, none => (.error e, g)

end CachedPrice

/-! ### By kind of chain -/

/-- The fee estimates of a chain. -/
inductive Fees where
  | legacy (price : CachedPrice)
  | feeMarket (window : FeeSamples)
  deriving DecidableEq, Repr

/-- Takes in a polled block; only a fee market has use for it. -/
def Fees.observe (fees : Fees) (block : Block) : Fees :=
  match fees with
  | .legacy price => .legacy price
  | .feeMarket window => .feeMarket (window.observe block)

end VaultWatch
