import VaultWatch.Record

/-!
# Counters

What the engine counts about itself, by chain: how far and how often it polls, how many endpoints
are healthy, and what became of receipts, matched transactions, tracked transactions and dispatches.
-/

namespace VaultWatch

/-- Numbers under keys; a key has no number before its first use. -/
abbrev Series (κ : Type) := List (κ × Nat)

namespace Series

variable {κ : Type} [DecidableEq κ]

/-- The number under a key, zero if it has none. -/
def count (s : Series κ) (key : κ) : Nat := (s.lookup key).getD 0

/-- Changes the number under a key, which is zero at first. -/
def update (f : Nat → Nat) (key : κ) : Series κ → Series κ
  | [] => [(key, f 0)]
  | (k, n) :: rest => if k = key then (k, f n) :: rest else (k, n) :: update f key rest

/-- Adds to the number under a key. -/
def add (s : Series κ) (key : κ) (amount : Nat) : Series κ := s.update (· + amount) key

/-- Sets the number under a key. -/
def set (s : Series κ) (key : κ) (value : Nat) : Series κ := s.update (fun _ => value) key

theorem count_cons (k : κ) (n : Nat) (rest : Series κ) (key : κ) :
    count ((k, n) :: rest) key = if k = key then n else count rest key := by
  by_cases h : k = key
  · simp [count, h]
  · have h' : (key == k) = false := by simpa using fun e => h e.symm
    simp [count, List.lookup_cons, h, h']

theorem count_update_self (f : Nat → Nat) (key : κ) (s : Series κ) :
    (s.update f key).count key = f (s.count key) := by
  induction s with
  | nil => simp [update, count]
  | cons e rest ih =>
    obtain ⟨k, n⟩ := e
    by_cases h : k = key <;> simp [update, h, count_cons, ih]

theorem count_update_of_ne (f : Nat → Nat) {key other : κ} (hne : other ≠ key) (s : Series κ) :
    (s.update f key).count other = s.count other := by
  induction s with
  | nil => exact (count_cons key (f 0) [] other).trans (if_neg hne.symm)
  | cons e rest ih =>
    obtain ⟨k, n⟩ := e
    by_cases h : k = key
    · subst h
      simp [update, count_cons, hne.symm]
    · simp only [update, if_neg h, count_cons, ih]

/-- Adding under a key changes the number under this key only. -/
theorem count_add (s : Series κ) (key other : κ) (amount : Nat) :
    (s.add key amount).count other = s.count other + if other = key then amount else 0 := by
  by_cases h : other = key
  · rw [h, add, count_update_self, if_pos rfl]
  · rw [add, count_update_of_ne _ h, if_neg h, Nat.add_zero]

end Series

/-- What became of a candidate's receipt. -/
inductive ReceiptFate where
  | resolved
  | dropped
  deriving DecidableEq, Repr

/-- The name of a receipt's fate. -/
def ReceiptFate.name : ReceiptFate → String
  | .resolved => "resolved"
  | .dropped => "dropped"

/-- The counters of all chains. Poll intervals are in milliseconds. -/
structure Counters where
  blockHeight : Series String
  pollInterval : Series String
  healthyEndpoints : Series String
  receipts : Series (String × ReceiptFate)
  matched : Series String
  trackUpdates : Series (String × Ending)
  /-- By chain and fault; a dispatch without a fault went through. -/
  dispatches : Series (String × Option DispatchFault)
  deriving DecidableEq, Repr

namespace Counters

/-- Counters before anything was counted. -/
def zero : Counters := ⟨[], [], [], [], [], [], []⟩

/-- A block of that height was polled. -/
def sawBlock (c : Counters) (chain : String) (height : UInt64) : Counters :=
  { c with blockHeight := c.blockHeight.set chain height.toNat }

/-- The chain is polled that often. -/
def polls (c : Counters) (chain : String) (interval : Nat) : Counters :=
  { c with pollInterval := c.pollInterval.set chain interval }

/-- So many endpoints were healthy at the last refresh. -/
def sawHealthy (c : Counters) (chain : String) (healthy : Nat) : Counters :=
  { c with healthyEndpoints := c.healthyEndpoints.set chain healthy }

/-- A candidate's receipt was resolved or dropped. -/
def countReceipt (c : Counters) (chain : String) (fate : ReceiptFate) : Counters :=
  { c with receipts := c.receipts.add (chain, fate) 1 }

/-- So many transactions to the vault were matched. -/
def countMatched (c : Counters) (chain : String) (count : Nat) : Counters :=
  { c with matched := c.matched.add chain count }

/-- The wait for a tracked transaction ended. -/
def countUpdate (c : Counters) (chain : String) (result : Ending) : Counters :=
  { c with trackUpdates := c.trackUpdates.add (chain, result) 1 }

/-- A dispatch was completed. -/
def countDispatch (c : Counters) (chain : String) (result : SubmissionReport) : Counters :=
  { c with dispatches := c.dispatches.add (chain, result.error) 1 }

end Counters

end VaultWatch
