import Mathlib.Algebra.Order.Ring.Nat
import VaultWatch.Evm.Reply
import VaultWatch.Proofs.Dispatch

/-!
# Exact funds

What a balance check comes to when all amounts have been cut down. The fields of an EVM transaction
and the balances that nodes tell are numbers of 256 bits; the product of gas and price stops at the
largest of these, and the value, the fee, the balance and the sum of value and fee stop at the
largest amount that records hold. Together this is one cut of the exact sum
(`Evm.TxFields.Tells.needed_eq`), and a cut on both sides of a comparison is as good as one on its
left (`saturate_le_saturate_iff`).

The main statement is `Dispatch.funds_exact`: nobody who has what a transaction may cost is refused,
and below `2 ^ 128` nobody else passes.
-/

namespace VaultWatch

theorem saturate_le (amount : Nat) : saturate amount ≤ amount := Nat.min_le_left _ _

theorem saturate_of_lt {amount : Nat} (h : amount < 2 ^ 128) : saturate amount = amount :=
  Nat.min_eq_left (Nat.le_sub_one_of_lt h)

/-- A cut on both sides of a comparison is as good as one on its left. -/
theorem saturate_le_saturate_iff {a b : Nat} : saturate a ≤ saturate b ↔ saturate a ≤ b := by
  simp only [saturate]
  omega

namespace Evm

/-! ### What a transaction may cost -/

/-- What a transaction may cost its sender, computed exactly: its value, and all its gas at the
highest price. -/
def TxFields.cost (fields : TxFields) : Nat := fields.value + fields.gas * fields.bid.maxPrice

/-- A transaction has the amounts of these fields, cut down to what records hold. -/
structure TxFields.Tells (fields : TxFields) (tx : DecodedTx) : Prop where
  value : tx.value = saturate fields.value
  maxFeeCost : tx.maxFeeCost = fields.maxFeeCost

/-- A payload that is read has the amounts of its fields. -/
theorem exists_tells_of_readSigned {payload : Bytes} {tx : DecodedTx}
    (h : readSigned payload = .ok tx) :
    ∃ fields sig, signedFields? payload = some (fields, sig) ∧ fields.Tells tx := by
  unfold readSigned at h
  split at h
  · cases h
  · split at h
    · cases h
    · next fields sig hfields =>
      split at h
      · cases h
      · cases h
        exact ⟨fields, sig, hfields, rfl, rfl⟩

/-- **One cut is enough**: what the balance check asks for is the exact cost, cut down once. -/
theorem TxFields.Tells.needed_eq {fields : TxFields} {tx : DecodedTx} (h : fields.Tells tx) :
    Dispatch.needed tx = saturate fields.cost := by
  -- The product is cut at the wider limit first, which the cut at the narrower one hides.
  have hwide : maxAmount ≤ (1 <<< 256) - 1 := by decide
  rw [Dispatch.needed, h.value, h.maxFeeCost, TxFields.maxFeeCost, TxFields.cost]
  simp only [saturate]
  omega

/-! ### What nodes tell -/

/-- The body of a reply has a result, which is a number of at most 256 bits. -/
def TellsNumber (body : String) (number : Nat) : Prop :=
  ∃ value, (Json.parse? body).bind envelope? = some (.result value) ∧
    quantity? 32 value = some number

/-- A balance that is told is a number cut down to what records hold. -/
theorem answerOf_balance_eq_ok_iff {endpoint address body : String} {balance : Nat} :
    answerOf endpoint (.balance address) body = .ok balance ↔
      ∃ number, TellsNumber body number ∧ balance = saturate number := by
  unfold answerOf TellsNumber
  cases hbody : (Json.parse? body).bind envelope? with
  | none => simp
  | some envelope =>
    cases envelope with
    | refusal message => simp
    | result value =>
      cases hnumber : quantity? 32 value with
      | none => simp [resultOf?, hnumber]
      | some number => simp [resultOf?, hnumber, eq_comm]

end Evm

/-! ### Dispatches with a balance check -/

namespace Dispatch

variable {codec : Codec} {request : Submission} {tx : DecodedTx} {asked : List Exchange}
  {report : SubmissionReport} {balance : Nat}

/-- With the check on, the sender's balance is asked for first. -/
theorem mem_balances_exchanges {σ : Type} (answer : (q : Query) → σ → q.Answer × σ) (s : σ)
    (hread : codec.readSigned request.rawTx = .ok tx) (hkey : KeyMatches codec request tx) :
    (tx.sender, (answer (.balance tx.sender) s).1) ∈
      balances ((dispatch codec true request).exchanges answer s) := by
  have hchecked : checked codec request = .ok tx := by
    rw [checked, hread]
    exact if_pos (keyMatches_iff.mp hkey)
  rw [dispatch, hchecked]
  exact List.mem_cons_self

theorem Checks.needed_le {checks rest : List Exchange} (h : Checks true tx checks)
    (hbalance : (tx.sender, .ok balance) ∈ balances (checks ++ rest)) (hrest : balances rest = []) :
    needed tx ≤ balance := by
  rw [balances, List.filterMap_append, ← balances, ← balances, hrest, List.append_nil] at hbalance
  cases h with
  | off hcheck => cases hcheck
  | failed => cases List.mem_singleton.mp hbalance
  | enough _ henough =>
    cases List.mem_singleton.mp hbalance
    exact henough

/-- Where a balance is told, it decides: the payload is handed over if the balance is enough, and is
refused if it is not. -/
theorem Course.handed_over_or_refused (h : Course codec true request asked report)
    (hread : codec.readSigned request.rawTx = .ok tx) (hkey : KeyMatches codec request tx)
    (hbalance : (tx.sender, .ok balance) ∈ balances asked) :
    (needed tx ≤ balance ∧ (submissions asked).map (·.1) = [request.rawTx]) ∨
      (¬ needed tx ≤ balance ∧ submissions asked = [] ∧
        report = ⟨false, some tx.hash, none, some .insufficientBalance⟩) := by
  cases h with
  | unreadable hread' => cases hread'.symm.trans hread
  | foreign hread' hkey' =>
    cases hread'.symm.trans hread
    exact absurd hkey hkey'
  | short hread' _ _ hshort =>
    cases hread'.symm.trans hread
    cases List.mem_singleton.mp hbalance
    exact .inr ⟨Nat.not_le.mpr hshort, rfl, rfl⟩
  | sent hread' _ hchecks | known hread' _ hchecks | refused hread' _ hchecks =>
    cases hread'.symm.trans hread
    refine .inl ⟨hchecks.needed_le hbalance rfl, ?_⟩
    rw [hchecks.submissions_append]
    rfl

/-- What comes of a dispatch with the check on, when a transaction costs so much and its sender has
that balance. -/
structure Exact (request : Submission) (tx : DecodedTx) (cost balance : Nat)
    (asked : List Exchange) (report : SubmissionReport) : Prop where
  /-- Nobody who has the cost is refused. -/
  handed_over : cost ≤ balance → (submissions asked).map (·.1) = [request.rawTx]
  /-- Below `2 ^ 128` nobody else passes. -/
  handed_over_iff : cost < 2 ^ 128 →
    ((submissions asked).map (·.1) = [request.rawTx] ↔ cost ≤ balance)
  /-- Who does not pass is refused for this reason, and nothing is handed over. -/
  refused : (submissions asked).map (·.1) ≠ [request.rawTx] →
    submissions asked = [] ∧ report = ⟨false, some tx.hash, none, some .insufficientBalance⟩

/-- **The balance check is exact.** The payloads that are read have the amounts of their fields, cut
down; a balance that is told is a number cut down; and whatever these amounts and this number are, a
sender who has the exact cost passes the check, and below `2 ^ 128` nobody else does. -/
theorem funds_exact :
    (∀ payload tx, Evm.readSigned payload = .ok tx →
      ∃ fields sig, Evm.signedFields? payload = some (fields, sig) ∧ fields.Tells tx) ∧
    (∀ endpoint address body balance,
      Evm.answerOf endpoint (.balance address) body = .ok balance →
        ∃ number, Evm.TellsNumber body number ∧ balance = saturate number) ∧
    ∀ {σ : Type} (codec : Codec) (request : Submission) (tx : DecodedTx) (fields : Evm.TxFields)
      (answer : (q : Query) → σ → q.Answer × σ) (s : σ) (number : Nat),
      codec.readSigned request.rawTx = .ok tx → KeyMatches codec request tx → fields.Tells tx →
      (answer (.balance tx.sender) s).1 = .ok (saturate number) →
      Exact request tx fields.cost number ((dispatch codec true request).exchanges answer s)
        ((dispatch codec true request).run answer s).2.1 := by
  refine ⟨fun _ _ h => Evm.exists_tells_of_readSigned h,
    fun _ _ _ _ h => Evm.answerOf_balance_eq_ok_iff.mp h, ?_⟩
  intro σ codec request tx fields answer s number hread hkey htells htold
  have hbalance := mem_balances_exchanges answer s hread hkey
  rw [htold] at hbalance
  have hdecided := (course_run codec true request answer s).handed_over_or_refused hread hkey
    hbalance
  -- The cut of the balance goes away, and the cut of the cost can only let more senders pass.
  rw [htells.needed_eq, saturate_le_saturate_iff] at hdecided
  obtain ⟨hle, hhanded⟩ | ⟨hnot, hnone, hreport⟩ := hdecided
  · refine ⟨fun _ => hhanded, fun hlt => iff_of_true hhanded ?_, fun hheld => absurd hhanded hheld⟩
    rwa [saturate_of_lt hlt] at hle
  · have hheld {payload : Bytes} :
        (submissions ((dispatch codec true request).exchanges answer s)).map (·.1) ≠ [payload] := by
      rw [hnone]
      exact (List.cons_ne_nil _ _).symm
    refine ⟨fun hle => absurd (Nat.le_trans (saturate_le fields.cost) hle) hnot,
      fun hlt => iff_of_false hheld ?_, fun _ => ⟨hnone, hreport⟩⟩
    rwa [saturate_of_lt hlt] at hnot

/-- The payment as an EVM transaction would put it: five units of gas at one each. -/
def paymentFields : Evm.TxFields := ⟨none, 3, .legacy 1, 5, none, 10, [], []⟩

theorem tells_paymentFields : paymentFields.Tells paymentTx := ⟨rfl, rfl⟩

/-- Fifteen are enough for the payment, and fourteen are not. -/
theorem payment_needs_fifteen :
    (submissions ((dispatch Piped.codec true payment).exchanges (knowing 15).call ())).map (·.1) =
        [payment.rawTx] ∧
      submissions ((dispatch Piped.codec true payment).exchanges (knowing 14).call ()) = [] := by
  have hexact (number : Nat) (htold : saturate number = number) :=
    funds_exact.2.2 Piped.codec payment paymentTx paymentFields (knowing number).call () number
      readSigned_payment (.inl rfl) tells_paymentFields (congrArg _ htold.symm)
  have hcost : paymentFields.cost = 15 := rfl
  refine ⟨(hexact 15 rfl).handed_over hcost.le, ((hexact 14 rfl).refused ?_).1⟩
  rw [Ne, (hexact 14 rfl).handed_over_iff (by rw [hcost]; decide), hcost]
  decide

end Dispatch

end VaultWatch
