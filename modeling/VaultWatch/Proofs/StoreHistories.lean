import VaultWatch.Proofs.Store

/-!
# Histories of the store

What the store tells after any writes, said of the writes alone. A store serves many chains, and
their writes come in any order; reading leaves the store as it is, so that its history is the list
of its writes. What one write does to what is told of a chain is the same whatever else the store
holds (`Store.observed_write`, `Store.vaultAddresses_write`), and nothing if the write is for
another chain.

The main statement is `Store.told_by_history`: the observed transactions of a chain are the latest
of those saved for it, and its vault addresses are those set for it, each once and the one set last
in front.
-/

namespace VaultWatch.Store

/-! ### Writes -/

/-- A write to the store. -/
inductive Write where
  | save (chain : String) (height : UInt64) (txs : List Deposit)
  | putVault (chain address token : String)
  deriving DecidableEq, Repr

namespace Write

/-- The chain that a write is for. -/
def chain : Write → String
  | save chain _ _ => chain
  | putVault chain _ _ => chain

/-- The transactions that a write saves for a chain, with their height. -/
def observations (chain : String) : Write → List Observation
  | save name height txs => if name = chain then txs.map (height, ·) else []
  | putVault .. => []

/-- The vault address that a write sets for a chain. -/
def address? (chain : String) : Write → Option String
  | save .. => none
  | putVault name address _ => if name = chain then some address else none

end Write

/-- Carries out a write. -/
def write (s : Store) : Write → Store
  | .save chain height txs => s.save chain height txs
  | .putVault chain address token => s.putVault chain address token

/-- Carries out writes one after another. -/
def run (s : Store) (writes : List Write) : Store := writes.foldl write s

/-- The transactions that have been saved for a chain, with their heights, in order. -/
def saved (chain : String) (writes : List Write) : List Observation :=
  writes.flatMap (·.observations chain)

/-- The vault addresses that have been set for a chain, in order. -/
def addressesSet (chain : String) (writes : List Write) : List String :=
  writes.filterMap (·.address? chain)

variable {s : Store} {w : Write} {writes : List Write} {chain : String}

/-! ### What a write does -/

/-- An observation at the end, in place of an older one of the same hash. -/
def addLast (kept : List Observation) (o : Observation) : List Observation :=
  kept.filter (·.2.hash != o.2.hash) ++ [o]

/-- An address in front, in place of an older occurrence. -/
def putFirst (listed : List String) (address : String) : List String :=
  address :: listed.filter (· != address)

theorem observed_write (s : Store) (w : Write) (chain : String) :
    (s.write w).observed chain = (w.observations chain).foldl addLast (s.observed chain) := by
  cases w with
  | save name height txs =>
    rw [write, Write.observations]
    split
    · next h =>
      rw [h, observed_save, List.foldl_map]
      rfl
    · next h => exact (apart_save s name height txs).observed chain fun heq => h heq.symm
  | putVault => rfl

theorem vaultAddresses_putVault (s : Store) (chain address token : String) :
    (s.putVault chain address token).vaultAddresses chain =
      putFirst (s.vaultAddresses chain) address := by
  rw [vaultAddresses, putVault, Shelf.get_set_self, List.reverse_append, List.map_append,
    ← List.filter_reverse]
  refine congrArg (address :: ·) ?_
  rw [vaultAddresses, List.filter_map]
  rfl

theorem vaultAddresses_write (s : Store) (w : Write) (chain : String) :
    (s.write w).vaultAddresses chain =
      (w.address? chain).toList.foldl putFirst (s.vaultAddresses chain) := by
  cases w with
  | save => rfl
  | putVault name address token =>
    rw [write, Write.address?]
    split
    · next h =>
      rw [h, vaultAddresses_putVault]
      rfl
    · next h =>
      have hapart := (apart_putVault s name address token).vaults chain fun heq => h heq.symm
      rw [vaultAddresses, hapart]
      rfl

/-! ### What is told after writes -/

theorem observed_run (s : Store) (writes : List Write) (chain : String) :
    (s.run writes).observed chain = (saved chain writes).foldl addLast (s.observed chain) := by
  induction writes generalizing s with
  | nil => rfl
  | cons w writes ih =>
    rw [saved, List.flatMap_cons, List.foldl_append, ← observed_write]
    exact ih (s.write w)

theorem vaultAddresses_run (s : Store) (writes : List Write) (chain : String) :
    (s.run writes).vaultAddresses chain =
      (addressesSet chain writes).foldl putFirst (s.vaultAddresses chain) := by
  induction writes generalizing s with
  | nil => rfl
  | cons w writes ih =>
    have hrest := ih (s.write w)
    rw [vaultAddresses_write] at hrest
    rw [addressesSet, List.filterMap_cons]
    cases haddress : w.address? chain <;> rw [haddress] at hrest <;> exact hrest

/-- Adding observations one by one keeps the latest of each hash. -/
theorem foldl_addLast (kept observations : List Observation) :
    observations.foldl addLast (latest kept) = latest (kept ++ observations) := by
  induction observations generalizing kept with
  | nil => rw [List.append_nil, List.foldl_nil]
  | cons o observations ih =>
    -- What is kept is again the latest of something, so that the next one can be added.
    rw [List.foldl_cons, addLast, ← latest_append_singleton, ih, List.append_assoc]
    rfl

/-! ### Latest first -/

/-- How often another address has been set since this one was set last. -/
def age (set : List String) (address : String) : Nat := set.reverse.idxOf address

/-- The addresses that have been set are listed, each once and the younger ones in front. -/
structure LatestFirst (set listed : List String) : Prop where
  mem_iff : ∀ address, address ∈ listed ↔ address ∈ set
  nodup : listed.Nodup
  younger : listed.Pairwise fun a b => age set a < age set b

theorem age_concat_self (set : List String) (address : String) :
    age (set ++ [address]) address = 0 := by
  simp [age]

/-- All other addresses grow older. -/
theorem age_concat_of_ne (set : List String) {address other : String} (hne : other ≠ address) :
    age (set ++ [address]) other = age set other + 1 := by
  have hother : (address == other) = false := by simpa using hne.symm
  simp [age, List.idxOf_cons, hother]

theorem LatestFirst.nil : LatestFirst [] [] := ⟨fun _ => Iff.rfl, .nil, .nil⟩

/-- An address that is set goes to the front. -/
theorem LatestFirst.putFirst {set listed : List String} (h : LatestFirst set listed)
    (address : String) : LatestFirst (set ++ [address]) (putFirst listed address) := by
  have hothers {other : String} (hmem : other ∈ listed.filter (· != address)) :
      other ≠ address := by
    simpa using (List.mem_filter.mp hmem).2
  refine ⟨fun other => ?_, ?_, ?_⟩
  · by_cases hsame : other = address
    · simp [Store.putFirst, hsame]
    · simp [Store.putFirst, hsame, h.mem_iff other]
  · exact List.nodup_cons.mpr ⟨fun hmem => hothers hmem rfl, h.nodup.filter _⟩
  · -- The address in front is as young as can be, and the others grow older together.
    refine List.pairwise_cons.mpr ⟨fun other hmem => ?_, ?_⟩
    · rw [age_concat_self, age_concat_of_ne set (hothers hmem)]
      exact Nat.succ_pos _
    · refine (h.younger.filter _).imp_of_mem fun ha hb hyounger => ?_
      rw [age_concat_of_ne set (hothers ha), age_concat_of_ne set (hothers hb)]
      exact Nat.succ_lt_succ hyounger

theorem LatestFirst.foldl {set listed : List String} (h : LatestFirst set listed)
    (addresses : List String) :
    LatestFirst (set ++ addresses) (addresses.foldl Store.putFirst listed) := by
  induction addresses generalizing set listed with
  | nil => rwa [List.append_nil]
  | cons address addresses ih =>
    rw [List.append_cons]
    exact ih (h.putFirst address)

/-! ### Histories -/

theorem Write.observations_of_ne (h : w.chain ≠ chain) : w.observations chain = [] := by
  cases w with
  | save => exact if_neg h
  | putVault => rfl

theorem Write.address?_of_ne (h : w.chain ≠ chain) : w.address? chain = none := by
  cases w with
  | save => rfl
  | putVault => exact if_neg h

/-- Writes for other chains save nothing for this one. -/
theorem saved_filter (chain : String) (writes : List Write) :
    saved chain (writes.filter (·.chain = chain)) = saved chain writes := by
  induction writes with
  | nil => rfl
  | cons w writes ih =>
    simp only [saved, List.filter_cons, List.flatMap_cons] at ih ⊢
    by_cases h : w.chain = chain
    · rw [if_pos (decide_eq_true h), List.flatMap_cons, ih]
    · rw [if_neg (by simpa using h), ih, Write.observations_of_ne h, List.nil_append]

/-- Writes for other chains set no address for this one. -/
theorem addressesSet_filter (chain : String) (writes : List Write) :
    addressesSet chain (writes.filter (·.chain = chain)) = addressesSet chain writes := by
  induction writes with
  | nil => rfl
  | cons w writes ih =>
    simp only [addressesSet, List.filter_cons, List.filterMap_cons] at ih ⊢
    by_cases h : w.chain = chain
    · rw [if_pos (decide_eq_true h), List.filterMap_cons, ih]
    · rw [if_neg (by simpa using h), ih, Write.address?_of_ne h]

/-- **The store told by its history.** An empty store takes writes for any chains in any order.
After this it tells of each chain the transactions that have been saved for it with their heights,
of each hash the last one where it stands, and the vault addresses that have been set for it, each
once and the one set last in front. It would tell the same if nothing had been written for other
chains. -/
theorem told_by_history (writes : List Write) (chain : String) :
    (empty.run writes).observed chain = latest (saved chain writes) ∧
      LatestFirst (addressesSet chain writes) ((empty.run writes).vaultAddresses chain) ∧
      (empty.run (writes.filter (·.chain = chain))).observed chain =
        (empty.run writes).observed chain ∧
      (empty.run (writes.filter (·.chain = chain))).vaultAddresses chain =
        (empty.run writes).vaultAddresses chain := by
  refine ⟨?_, ?_, ?_, ?_⟩
  · rw [observed_run]
    exact foldl_addLast [] _
  · rw [vaultAddresses_run]
    exact LatestFirst.nil.foldl _
  · rw [observed_run, observed_run, saved_filter]
  · rw [vaultAddresses_run, vaultAddresses_run, addressesSet_filter]

end VaultWatch.Store
