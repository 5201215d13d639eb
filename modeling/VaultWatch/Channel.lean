/-!
# Channels

A channel hands items from one stage to the next in order. It holds a bounded number of items; a
sender waits while it is full. When the receiving end goes away the waiting items go with it, and
from then on every sender is told so.
-/

namespace VaultWatch

/-- A bounded queue between two stages, oldest item first. -/
structure Channel (α : Type) where
  capacity : Nat
  items : List α
  /-- The receiving end is still there. -/
  isOpen : Bool
  deriving DecidableEq, Repr

namespace Channel

variable {α : Type}

/-- An empty channel. A capacity of zero acts as one. -/
def empty (capacity : Nat) : Channel α := ⟨max capacity 1, [], true⟩

/-- There is room for one more item. -/
def hasRoom (c : Channel α) : Bool := c.items.length < c.capacity

/-- Puts an item at the end; none while the channel is full or closed. -/
def send? (c : Channel α) (item : α) : Option (Channel α) :=
  if c.isOpen && c.hasRoom then some { c with items := c.items ++ [item] } else none

/-- Takes the oldest item; none if there is none. -/
def receive? (c : Channel α) : Option (α × Channel α) :=
  match c.items with
  | item :: rest => some (item, { c with items := rest })
  | [] => none

/-- Takes all items, oldest first. -/
def drain (c : Channel α) : List α × Channel α :=
  (c.items, { c with items := [] })

/-- The receiving end goes away. -/
def close (c : Channel α) : Channel α :=
  { c with items := [], isOpen := false }

/-- A send that goes through adds its item at the end and nothing else. -/
theorem items_of_send? {c c' : Channel α} {item : α} (h : c.send? item = some c') :
    c'.items = c.items ++ [item] ∧ c'.capacity = c.capacity ∧ c'.isOpen = c.isOpen := by
  unfold send? at h
  split at h
  · cases h; exact ⟨rfl, rfl, rfl⟩
  · cases h

/-- What is received stood in front. -/
theorem items_of_receive? {c c' : Channel α} {item : α} (h : c.receive? = some (item, c')) :
    c.items = item :: c'.items ∧ c'.capacity = c.capacity ∧ c'.isOpen = c.isOpen := by
  obtain ⟨capacity, items, isOpen⟩ := c
  cases items with
  | nil => simp [receive?] at h
  | cons a rest => simp only [receive?, Option.some.injEq, Prod.mk.injEq] at h
                   obtain ⟨rfl, rfl⟩ := h; exact ⟨rfl, rfl, rfl⟩

end Channel

end VaultWatch
