import VaultWatch.Hub

/-!
# Laws of the store

What the store holds for one chain is changed by nothing that is written for another, and the vault
addresses and the observed transactions of a chain are kept apart. The observed transactions of a
chain are those that have been saved for it, in order, but of each hash only the one saved last
(`Store.observed_save_latest`).
-/

namespace VaultWatch

namespace Store

/-! ### The latest of each hash -/

/-- Those observations whose hash is not observed again later. -/
def latest : List Observation → List Observation
  | [] => []
  | o :: later => if later.any (·.2.hash == o.2.hash) then latest later else o :: latest later

/-- A new observation takes the place of one of the same hash, but stands at the end. -/
theorem latest_append_singleton (observations : List Observation) (o : Observation) :
    latest (observations ++ [o]) =
      (latest observations).filter (·.2.hash != o.2.hash) ++ [o] := by
  induction observations with
  | nil => rfl
  | cons first later ih =>
    simp only [List.cons_append, latest, List.any_append, List.any_cons, List.any_nil,
      Bool.or_false]
    by_cases hlater : later.any (·.2.hash == first.2.hash) = true
    · rw [hlater, Bool.true_or, if_pos rfl, if_pos rfl, ih]
    · rw [Bool.not_eq_true] at hlater
      by_cases hsame : o.2.hash = first.2.hash
      · simp [hlater, hsame, ih]
      · have hother : first.2.hash ≠ o.2.hash := fun h => hsame h.symm
        simp [hlater, hsame, hother, ih]

/-- Saving transactions one by one keeps the latest of each hash. -/
theorem foldl_saveOne_latest (observations : List Observation) (height : UInt64)
    (txs : List Deposit) :
    txs.foldl (saveOne height) (latest observations) =
      latest (observations ++ txs.map (height, ·)) := by
  induction txs generalizing observations with
  | nil => rw [List.map_nil, List.append_nil, List.foldl_nil]
  | cons tx txs ih =>
    have hsaved : saveOne height (latest observations) tx =
        latest (observations ++ [(height, tx)]) :=
      (latest_append_singleton observations (height, tx)).symm
    rw [List.foldl_cons, hsaved, ih, List.append_assoc, List.map_cons, List.singleton_append]

/-! ### Saving and setting -/

variable (s : Store) (chain address token : String) (height : UInt64) (txs : List Deposit)

theorem observed_save :
    (s.save chain height txs).observed chain = txs.foldl (saveOne height) (s.observed chain) :=
  Shelf.get_set_self _ _ _

theorem observed_save_latest {observations : List Observation}
    (h : s.observed chain = latest observations) :
    (s.save chain height txs).observed chain = latest (observations ++ txs.map (height, ·)) := by
  rw [observed_save, h, foldl_saveOne_latest]

/-! ### Chains apart -/

/-- Nothing is changed but what the store holds for one chain. -/
structure Apart (chain : String) (s s' : Store) : Prop where
  observed : ∀ other, other ≠ chain → s'.observed other = s.observed other
  vaults : ∀ other, other ≠ chain → Shelf.get s'.vaults other = Shelf.get s.vaults other

theorem Apart.refl : Apart chain s s := ⟨fun _ _ => rfl, fun _ _ => rfl⟩

theorem apart_save : Apart chain s (s.save chain height txs) :=
  ⟨fun _ hne => Shelf.get_set_of_ne _ _ hne, fun _ _ => rfl⟩

theorem apart_putVault : Apart chain s (s.putVault chain address token) :=
  ⟨fun _ _ => rfl, fun _ hne => Shelf.get_set_of_ne _ _ hne⟩

end Store

end VaultWatch
