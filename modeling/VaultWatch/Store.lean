import VaultWatch.Record

/-!
# The store

What outlives a watcher: the observed transactions and the vault addresses of each chain. This store
keeps both in memory. Saving a transaction again moves it to the end, and so does setting a vault
address again.
-/

namespace VaultWatch

/-! ### Shelves -/

/-- Lists under names; a name that is not there has the empty list. -/
abbrev Shelf (α : Type) := List (String × List α)

namespace Shelf

/-- The list under a name. -/
def get {α : Type} (shelf : Shelf α) (name : String) : List α :=
  (shelf.lookup name).getD []

/-- Puts a list under a name. -/
def set {α : Type} (name : String) (items : List α) : Shelf α → Shelf α
  | [] => [(name, items)]
  | (n, old) :: rest => if n = name then (n, items) :: rest else (n, old) :: set name items rest

@[simp] theorem get_nil {α : Type} (name : String) : get ([] : Shelf α) name = [] := rfl

theorem get_cons {α : Type} (n : String) (items : List α) (rest : Shelf α) (name : String) :
    get ((n, items) :: rest) name = if n = name then items else get rest name := by
  by_cases h : n = name
  · simp [get, h]
  · have h' : (name == n) = false := by simpa using fun e => h e.symm
    simp [get, List.lookup_cons, h, h']

@[simp] theorem get_set_self {α : Type} (shelf : Shelf α) (name : String) (items : List α) :
    (set name items shelf).get name = items := by
  induction shelf with
  | nil => simp [set, get_cons]
  | cons e rest ih =>
    obtain ⟨n, old⟩ := e
    by_cases h : n = name <;> simp [set, h, get_cons, ih]

theorem get_set_of_ne {α : Type} (shelf : Shelf α) {name other : String} (items : List α)
    (hne : other ≠ name) : (set name items shelf).get other = shelf.get other := by
  induction shelf with
  | nil => simp [set, get_cons, hne.symm]
  | cons e rest ih =>
    obtain ⟨n, old⟩ := e
    by_cases h : n = name
    · subst h; simp [set, get_cons, hne.symm]
    · simp only [set, if_neg h, get_cons, ih]

end Shelf

/-! ### The store -/

/-- A transaction with the height of the block it was observed in. -/
abbrev Observation := UInt64 × Deposit

/-- The observed transactions of each chain, oldest first, and its vault addresses with their
tokens, the one set last at the end. -/
structure Store where
  transactions : Shelf Observation
  vaults : Shelf (String × String)
  deriving DecidableEq, Repr

namespace Store

/-- A store without entries. -/
def empty : Store := ⟨[], []⟩

/-- The observed transactions of a chain in store order. -/
def observed (s : Store) (chain : String) : List Observation :=
  Shelf.get s.transactions chain

/-- Adds one transaction at the end, in place of an older one of the same hash. -/
def saveOne (height : UInt64) (kept : List Observation) (tx : Deposit) : List Observation :=
  (kept.filter fun o => o.2.hash != tx.hash) ++ [(height, tx)]

/-- Saves the transactions of one block. -/
def save (s : Store) (chain : String) (height : UInt64) (txs : List Deposit) : Store :=
  let saved := txs.foldl (saveOne height) (s.observed chain)
  { s with transactions := Shelf.set chain saved s.transactions }

/-- The vault addresses of a chain, the one set last in front. -/
def vaultAddresses (s : Store) (chain : String) : List String :=
  (Shelf.get s.vaults chain).reverse.map (·.1)

/-- Sets a vault address with its token. -/
def putVault (s : Store) (chain address token : String) : Store :=
  let others := (Shelf.get s.vaults chain).filter fun v => v.1 != address
  { s with vaults := Shelf.set chain (others ++ [(address, token)]) s.vaults }

end Store

end VaultWatch
