import VaultWatch.Proofs.Tracked.Basic
import VaultWatch.Watchlist

/-!
# Laws of the watchlist

What a judgement says and what it changes. The verdict on a result is decided by what is known of
its hash: an awaited transaction has come to its end, one that has been reported is passed over, and
only of a transaction that is not known at all does the recipient matter.
-/

namespace VaultWatch

namespace Watchlist

variable (w : Watchlist) (result : ResolvedTx)

/-! ### Addresses -/

@[simp]
theorem addressesAgree_self (address : String) : w.addressesAgree address address = true := by
  unfold addressesAgree
  split
  · simp [Ascii.sameFold]
  · simp

/-- Watchlists with the same vault find the same recipients to be the vault. -/
theorem paysVault_eq {w w' : Watchlist} (hvault : w'.vault = w.vault)
    (hcase : w'.tracked.foldCase = w.tracked.foldCase) : w'.paysVault = w.paysVault := by
  have hsame : w'.vaultIs = w.vaultIs := by
    funext address
    unfold vaultIs addressesAgree
    rw [hvault, hcase]
  funext recipient
  rw [paysVault, paysVault, hsame]

/-- A candidate that is not awaited was sent to the vault. -/
theorem paysVault_of_mem_candidates {block : Block} {tx : BlockTx} (h : tx ∈ w.candidates block)
    (hwait : w.tracked.contains tx.hash = false) : w.paysVault tx.recipient = true := by
  have hwants := (List.mem_filter.mp h).2
  rw [wants, hwait, Bool.false_or, Bool.and_eq_true] at hwants
  exact hwants.2

/-! ### Verdicts -/

/-- A judgement confirms the hash, and changes nothing else. -/
theorem judge_snd :
    (w.judge result).2 = { w with tracked := (w.tracked.confirm result.tx.hash).2 } := by
  unfold judge
  dsimp only
  split
  · rfl
  · split
    · rfl
    · split
      · split <;> rfl
      · rfl

@[simp]
theorem judge_tracked : (w.judge result).2.tracked = (w.tracked.confirm result.tx.hash).2 := by
  rw [judge_snd]

/-- Switching over to the vault that is set changes nothing. -/
theorem moveVault_self {vault : String} (hvault : w.vault = some vault) :
    w.moveVault vault = w := by
  obtain ⟨vault', tracked⟩ := w
  obtain rfl : vault' = some vault := hvault
  rfl

/-- The verdict on an awaited transaction is the end of its wait. -/
theorem judge_of_awaited {since : Nat}
    (h : w.tracked.find? result.tx.hash = some (.awaited since)) :
    (w.judge result).1 = .outcome (ending result.receipt) := by
  have hyes : (w.tracked.confirm result.tx.hash).1 = true := by
    rw [Tracked.confirm_of_find?_eq_some _ _ h]
    rfl
  simp only [judge, hyes, if_true]

/-- A confirmed transaction is passed over. -/
theorem judge_of_confirmed (h : w.tracked.find? result.tx.hash = some .confirmed) :
    (w.judge result).1 = .reported := by
  have hno : (w.tracked.confirm result.tx.hash).1 = false := by
    rw [Tracked.confirm_of_find?_eq_some _ _ h]
    rfl
  have hstill : (w.tracked.confirm result.tx.hash).2.wasConfirmed result.tx.hash = true := by
    rw [Tracked.wasConfirmed, Tracked.find?_confirm_self _ _ h]
    rfl
  simp only [judge, hno, hstill, if_true, Bool.false_eq_true, if_false]

/-- Of an unknown transaction the recipient decides. -/
theorem judge_of_unknown (h : w.tracked.find? result.tx.hash = none) :
    (w.judge result).1 =
      match result.tx.recipient with
      | some recipient =>
        if w.vaultIs recipient then .deposit (observed result.tx recipient result.receipt)
        else .unrelated
      | none => .unrelated := by
  have hnever : w.tracked.wasConfirmed result.tx.hash = false := by
    rw [Tracked.wasConfirmed, h]
    rfl
  simp only [judge, Tracked.confirm_of_find?_eq_none _ _ h, hnever, Bool.false_eq_true, if_false]
  cases result.tx.recipient with
  | none => rfl
  | some recipient =>
    dsimp only
    split <;> rfl

/-- An unknown transaction that was sent to the vault is a deposit. -/
theorem judge_of_paysVault (h : w.tracked.find? result.tx.hash = none)
    (hpays : w.paysVault result.tx.recipient = true) :
    ∃ recipient, result.tx.recipient = some recipient ∧
      (w.judge result).1 = .deposit (observed result.tx recipient result.receipt) := by
  obtain ⟨recipient, hto, hvault⟩ := (Option.any_eq_true _ _).mp hpays
  refine ⟨recipient, hto, ?_⟩
  rw [judge_of_unknown w result h]
  simp only [hto, hvault, if_true]

/-- Only a transaction that is neither awaited nor confirmed is a deposit, and only one that was
sent to the vault. -/
theorem find?_of_judge_eq_deposit {tx : Deposit} (h : (w.judge result).1 = .deposit tx) :
    w.tracked.find? result.tx.hash = none ∧ ∃ recipient, result.tx.recipient = some recipient ∧
      w.vaultIs recipient = true ∧ tx = observed result.tx recipient result.receipt := by
  cases hfind : w.tracked.find? result.tx.hash with
  | some wait =>
    cases wait with
    | awaited since => simp [judge_of_awaited w result hfind] at h
    | confirmed => simp [judge_of_confirmed w result hfind] at h
  | none =>
    rw [judge_of_unknown w result hfind] at h
    cases hto : result.tx.recipient with
    | none => simp [hto] at h
    | some recipient =>
      simp only [hto] at h
      split at h
      · rename_i hvault
        exact ⟨rfl, recipient, rfl, hvault, (Verdict.deposit.inj h).symm⟩
      · cases h

/-- The end of a wait is told exactly when the transaction is awaited. -/
theorem judge_eq_outcome_iff {outcome : Ending} :
    (w.judge result).1 = .outcome outcome ↔
      (w.tracked.confirm result.tx.hash).1 = true ∧ outcome = ending result.receipt := by
  rw [Tracked.confirm_fst, Tracked.contains]
  cases hfind : w.tracked.find? result.tx.hash with
  | some wait =>
    cases wait with
    | awaited since => simp [judge_of_awaited w result hfind, eq_comm]
    | confirmed => simp [judge_of_confirmed w result hfind]
  | none =>
    rw [judge_of_unknown w result hfind]
    split
    · split <;> simp
    · simp

/-! ### Watchlists without tracked transactions -/

/-- The transactions of a block that pay the vault, in order. -/
def payments (block : Block) : List BlockTx := block.txs.filter fun tx => w.paysVault tx.recipient

/-- Nothing is tracked. -/
def IsPlain : Prop := w.tracked.entries = []

variable {w} (hplain : w.IsPlain)

include hplain

theorem IsPlain.find?_eq_none (hash : String) : w.tracked.find? hash = none := by
  rw [Tracked.find?, show w.tracked.entries = [] from hplain]
  rfl

theorem IsPlain.candidates_eq (block : Block) : w.candidates block = w.payments block := by
  refine List.filter_congr fun tx _ => ?_
  have hnone := hplain.find?_eq_none tx.hash
  simp only [wants, Tracked.wasConfirmed, Tracked.contains, hnone]
  rfl

/-- A judgement leaves a watchlist without tracked transactions as it is. -/
theorem IsPlain.judge_snd (result : ResolvedTx) : (w.judge result).2 = w := by
  rw [w.judge_snd, Tracked.confirm_of_find?_eq_none _ _ (hplain.find?_eq_none _)]

/-- A sweep finds nothing to give up. -/
theorem IsPlain.expire_snd (now maxAge : Nat) : (w.expire now maxAge).2 = w := by
  obtain ⟨vault, capacity, foldCase, entries⟩ := w
  obtain rfl : entries = [] := hplain
  rfl

end Watchlist

end VaultWatch
