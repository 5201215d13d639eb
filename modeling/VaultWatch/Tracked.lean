import VaultWatch.Text.Ascii

/-!
# Tracked transactions

A bounded memory of the transactions that the engine waits for. An entry is awaited from the moment
it was last tracked, or confirmed once it has been seen on chain; confirmed entries stay, so that a
second sighting is not reported again. When the memory is full the entry that was touched longest
ago falls out. Tracking touches an entry, and so does `confirm` whenever it finds one; the queries
do not.
-/

namespace VaultWatch

/-- What is known of a tracked transaction. -/
inductive Wait where
  /-- It has been awaited since this time. -/
  | awaited (since : Nat)
  /-- It has been reported. -/
  | confirmed
  deriving DecidableEq, Repr

/-- The tracked transactions, the one touched last in front. -/
structure Tracked where
  capacity : Nat
  foldCase : Bool
  entries : List (String × Wait)
  deriving DecidableEq, Repr

namespace Tracked

/-- An empty memory. A capacity of zero acts as one. -/
def empty (capacity : Nat) (foldCase : Bool) : Tracked :=
  ⟨max capacity 1, foldCase, []⟩

/-- The form in which a hash is kept. -/
def key (t : Tracked) (hash : String) : String :=
  if t.foldCase then Ascii.fold hash else hash

/-- The entries without the one under a key. -/
def without (key : String) (entries : List (String × Wait)) : List (String × Wait) :=
  entries.filter fun e => e.1 != key

/-- Waits for a transaction from now on. A new entry pushes the one touched longest ago out of a
full memory; one that is there already starts over. -/
def track (t : Tracked) (now : Nat) (hash : String) : Tracked :=
  let key := t.key hash
  { t with entries := ((key, .awaited now) :: without key t.entries).take t.capacity }

/-- What is known of a transaction. -/
def find? (t : Tracked) (hash : String) : Option Wait :=
  t.entries.lookup (t.key hash)

/-- The transaction is awaited. -/
def contains (t : Tracked) (hash : String) : Bool :=
  match t.find? hash with
  | some (.awaited _) => true
  | _ => false

/-- The transaction has been confirmed. -/
def wasConfirmed (t : Tracked) (hash : String) : Bool :=
  t.find? hash == some .confirmed

/-- Confirms a transaction that has been seen; true if it was awaited until now. -/
def confirm (t : Tracked) (hash : String) : Bool × Tracked :=
  let key := t.key hash
  match t.find? hash with
  | some wait =>
    (wait != .confirmed, { t with entries := (key, .confirmed) :: without key t.entries })
  | none => (false, t)

/-- An entry has been awaited for at least so long. -/
def overdue (now maxAge : Nat) : String × Wait → Bool
  | (_, .awaited since) => decide (maxAge ≤ now - since)
  | (_, .confirmed) => false

/-- Gives up the transactions that have been awaited for at least so long; the one touched last
comes first. -/
def expire (t : Tracked) (now maxAge : Nat) : List String × Tracked :=
  ((t.entries.filter (overdue now maxAge)).map (·.1),
    { t with entries := t.entries.filter fun e => !overdue now maxAge e })

/-- The number of awaited transactions. -/
def size (t : Tracked) : Nat :=
  t.entries.countP fun e => e.2 != .confirmed

end Tracked

end VaultWatch
