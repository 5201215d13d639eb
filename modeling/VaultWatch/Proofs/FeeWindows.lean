import Mathlib.Algebra.Order.BigOperators.Group.List
import Mathlib.Algebra.Order.Ring.Nat
import Mathlib.Data.List.DropRight
import Mathlib.Data.List.Rotate
import VaultWatch.Fee

/-!
# Fee windows

What a window over base fees and tips says after any blocks. Each kind of amount is kept in a ring
of places, and the next amount goes to the place behind the last one, round and round. Read from
there on (`Samples.inOrder`), the ring shows first the places not in use, which hold zero, and then
the latest amounts, oldest first; a push drops the first of these and adds one at the end
(`Samples.inOrder_push`). So a ring of `n` places shows at all times the last `n` entries of `n`
zeros followed by everything seen (`Samples.holds_run`), wherever it has wrapped, and the zeros add
nothing to the sum.

The main statement is `FeeSamples.estimates_run`: both estimates are means of the latest amounts.
-/

namespace VaultWatch

/-! ### Sums that stop at the largest amount -/

/-- A sum that stops at the largest amount after each step has stopped there at the end, and nowhere
else. -/
theorem foldl_saturate {amounts : List Nat} {start : Nat} (hstart : start ≤ maxAmount) :
    amounts.foldl (fun acc amount => saturate (acc + amount)) start =
      saturate (start + amounts.sum) := by
  induction amounts generalizing start with
  | nil => exact (Nat.min_eq_left hstart).symm
  | cons amount amounts ih =>
    have hstep : saturate (start + amount) ≤ maxAmount := Nat.min_le_right _ _
    rw [List.foldl_cons, ih hstep, List.sum_cons]
    simp only [saturate]
    omega

namespace Samples

variable {s : Samples} {n : Nat} {seen : List Nat}

/-! ### Rings -/

@[simp] theorem places_push (s : Samples) (amount : Nat) :
    (s.push amount).places = s.places.set s.next amount := rfl

@[simp] theorem next_push (s : Samples) (amount : Nat) :
    (s.push amount).next = (s.next + 1) % s.places.length := rfl

@[simp] theorem filled_push (s : Samples) (amount : Nat) :
    (s.push amount).filled = min (s.filled + 1) s.places.length := rfl

/-- The places in a row, from the next one to be used on. -/
def inOrder (s : Samples) : List Nat := s.places.rotate s.next

/-- **A push** drops the first place of the row and adds the amount at its end. -/
theorem inOrder_push (s : Samples) (amount : Nat) :
    (s.push amount).inOrder = s.inOrder.tail ++ [amount] := by
  have hnext := s.next_lt
  have hplaces : s.places.set s.next amount =
      (s.places.take s.next ++ [amount]) ++ s.places.drop (s.next + 1) := by
    rw [List.set_eq_take_append_cons_drop, if_pos hnext, List.append_assoc]
    rfl
  have hset : (s.places.set s.next amount).length = s.places.length := List.length_set
  have hlength : (s.places.take s.next ++ [amount]).length = s.next + 1 := by
    rw [List.length_append, List.length_take_of_le (Nat.le_of_lt hnext), List.length_singleton]
  calc (s.push amount).inOrder
      = (s.places.set s.next amount).rotate (s.next + 1) := by
        rw [inOrder, next_push, ← hset, places_push, List.rotate_mod]
    _ = s.places.drop (s.next + 1) ++ (s.places.take s.next ++ [amount]) := by
        rw [hplaces, ← hlength, List.rotate_append_length_eq]
    _ = s.inOrder.tail ++ [amount] := by
        rw [inOrder, List.rotate_eq_drop_append_take (Nat.le_of_lt hnext),
          List.tail_append_of_ne_nil (by simpa using hnext), List.tail_drop, List.append_assoc]

/-- The sum of all places is that of the row. -/
theorem sum_inOrder (s : Samples) : s.inOrder.sum = s.places.sum :=
  (s.places.rotate_perm s.next).sum_eq

/-! ### What a ring holds -/

/-- A ring of so many places that has taken in some amounts: it shows the last entries of as many
zeros followed by the amounts. -/
structure Holds (s : Samples) (n : Nat) (seen : List Nat) : Prop where
  length : s.places.length = n
  filled : s.filled = min n seen.length
  inOrder : s.inOrder = (List.replicate n 0 ++ seen).drop seen.length

/-- A ring has a place at least. -/
theorem Holds.room (h : s.Holds n seen) : 0 < n := h.length ▸ Nat.zero_lt_of_lt s.next_lt

theorem holds_empty (capacity : Nat) : (empty capacity).Holds (max capacity 1) [] where
  length := List.length_replicate
  filled := (Nat.min_zero _).symm
  inOrder := by
    rw [List.append_nil, List.length_nil, List.drop_zero, inOrder]
    exact List.rotate_zero _

theorem Holds.push (h : s.Holds n seen) (amount : Nat) :
    (s.push amount).Holds n (seen ++ [amount]) where
  length := by rw [places_push, List.length_set, h.length]
  filled := by
    rw [filled_push, h.filled, h.length, List.length_append, List.length_singleton]
    omega
  inOrder := by
    have hroom : 0 < n := h.room
    have hfits : seen.length + 1 ≤ (List.replicate n 0 ++ seen).length := by
      rw [List.length_append, List.length_replicate]
      omega
    rw [inOrder_push, h.inOrder, List.tail_drop, ← List.append_assoc, List.length_append,
      List.length_singleton, List.drop_append_of_le_length hfits]

/-- **A ring** holds the latest amounts, after any pushes. -/
theorem holds_run (capacity : Nat) (seen : List Nat) :
    (seen.foldl push (empty capacity)).Holds (max capacity 1) seen := by
  induction seen using List.reverseRecOn with
  | nil => exact holds_empty capacity
  | append_singleton seen amount ih =>
    rw [List.foldl_append]
    exact ih.push amount

/-! ### Means -/

/-- The latest of the amounts seen, so many at most. -/
def latest (n : Nat) (seen : List Nat) : List Nat := seen.rtake (min n seen.length)

theorem length_latest (n : Nat) (seen : List Nat) :
    (latest n seen).length = min n seen.length := by
  rw [latest, List.rtake, List.length_drop]
  omega

theorem latest_eq_nil_iff (hroom : 0 < n) : latest n seen = [] ↔ seen = [] := by
  rw [← List.length_eq_zero_iff, length_latest, ← List.length_eq_zero_iff]
  omega

/-- The places not in use add nothing to the sum. -/
theorem Holds.total_eq (h : s.Holds n seen) : s.total = saturate (latest n seen).sum := by
  have hlast : seen.length - n = seen.length - min n seen.length := by omega
  have hrow : s.inOrder = List.replicate (n - seen.length) 0 ++ latest n seen := by
    rw [h.inOrder, List.drop_append, List.drop_replicate, List.length_replicate, latest, List.rtake,
      hlast]
  have hunused : (List.replicate (n - seen.length) 0).sum = 0 :=
    List.sum_eq_zero fun _ => List.eq_of_mem_replicate
  rw [total, foldl_saturate (Nat.zero_le _), Nat.zero_add, ← sum_inOrder, hrow, List.sum_append,
    hunused, Nat.zero_add]

/-- A ring has a mean as soon as it has taken in an amount. -/
theorem Holds.mean?_eq (h : s.Holds n seen) :
    s.mean? = if seen = [] then none else
      some (saturate (latest n seen).sum / min n seen.length) := by
  have hnone : min n seen.length = 0 ↔ seen = [] := by
    rw [← latest_eq_nil_iff h.room, ← List.length_eq_zero_iff, length_latest]
  rw [mean?, h.total_eq, h.filled]
  simp only [hnone]

example : ([1, 2, 3, 90].foldl push (empty 3)).mean? = some 31 := by decide

/-! ### Estimates -/

/-- A mean that is rounded down lies between the least amount and the largest. -/
theorem exists_min_le_mean_le_max {amounts : List Nat} (hne : amounts ≠ []) :
    ∃ low high, amounts.min? = some low ∧ amounts.max? = some high ∧
      low ≤ amounts.sum / amounts.length ∧ amounts.sum / amounts.length ≤ high := by
  have hpos : 0 < amounts.length := List.length_pos_iff.mpr hne
  obtain ⟨low, hlow⟩ := Option.isSome_iff_exists.mp (List.isSome_min?_of_ne_nil hne)
  obtain ⟨high, hhigh⟩ := Option.isSome_iff_exists.mp (List.isSome_max?_of_ne_nil hne)
  have hleast : ∀ amount ∈ amounts, low ≤ amount := (List.min?_eq_some_iff.mp hlow).2
  have hmost : ∀ amount ∈ amounts, amount ≤ high := (List.max?_eq_some_iff.mp hhigh).2
  refine ⟨low, high, hlow, hhigh, ?_, ?_⟩
  · have hsum : amounts.length * low ≤ amounts.sum := amounts.card_nsmul_le_sum low hleast
    rw [Nat.le_div_iff_mul_le hpos, Nat.mul_comm]
    exact hsum
  · have hsum : amounts.sum ≤ amounts.length * high := amounts.sum_le_card_nsmul high hmost
    exact Nat.div_le_of_le_mul hsum

/-- An estimate from the amounts seen so far, of which the latest count: the mean of these with the
sum cut to 128 bits, or what it falls back on when nothing was seen. -/
structure IsEstimate (n fallback : Nat) (seen : List Nat) (estimate : Nat) : Prop where
  of_nil : seen = [] → estimate = fallback
  of_ne_nil : seen ≠ [] →
    estimate = min (latest n seen).sum (2 ^ 128 - 1) / min n seen.length
  /-- As long as the sum fits in 128 bits, this is the exact mean of the latest amounts, rounded
  down, and lies between the least of them and the largest. -/
  of_sum_lt : seen ≠ [] → (latest n seen).sum < 2 ^ 128 →
    estimate = (latest n seen).sum / (latest n seen).length ∧
      ∃ low high, (latest n seen).min? = some low ∧ (latest n seen).max? = some high ∧
        low ≤ estimate ∧ estimate ≤ high

/-- The mean over a ring is an estimate from the amounts that it has taken in. -/
theorem Holds.isEstimate (h : s.Holds n seen) (fallback : Nat) :
    IsEstimate n fallback seen (s.mean?.getD fallback) := by
  have hsome : seen ≠ [] → s.mean?.getD fallback =
      min (latest n seen).sum (2 ^ 128 - 1) / min n seen.length := by
    intro hseen
    rw [h.mean?_eq, if_neg hseen]
    rfl
  refine ⟨fun hseen => ?_, hsome, fun hseen hfits => ?_⟩
  · rw [h.mean?_eq, if_pos hseen, Option.getD_none]
  · have hmean : s.mean?.getD fallback = (latest n seen).sum / (latest n seen).length := by
      rw [hsome hseen, length_latest, Nat.min_eq_left (Nat.le_sub_one_of_lt hfits)]
    refine ⟨hmean, ?_⟩
    rw [hmean]
    exact exists_min_le_mean_le_max (mt (latest_eq_nil_iff h.room).mp hseen)

end Samples

namespace FeeSamples

open Samples

/-- A window takes in the base fees of the blocks that have one, in their order. -/
theorem baseFees_foldl_observe (w : FeeSamples) (blocks : List Block) :
    (blocks.foldl observe w).baseFees =
      (blocks.filterMap (·.baseFee)).foldl push w.baseFees := by
  induction blocks generalizing w with
  | nil => rfl
  | cons block blocks ih =>
    rw [List.foldl_cons, ih]
    cases hfee : block.baseFee with
    | none => rw [List.filterMap_cons_none hfee, observe, hfee]
    | some fee => rw [List.filterMap_cons_some hfee, observe, hfee, List.foldl_cons]

/-- A window takes in the tips of all transactions on a fee market, block after block. -/
theorem tips_foldl_observe (w : FeeSamples) (blocks : List Block) :
    (blocks.foldl observe w).tips =
      (blocks.flatMap fun block => block.txs.filterMap tip?).foldl push w.tips := by
  induction blocks generalizing w with
  | nil => rfl
  | cons block blocks ih => rw [List.foldl_cons, ih, List.flatMap_cons, List.foldl_append, observe]

/-- What a window falls back on stays as it is. -/
theorem defaults_foldl_observe (w : FeeSamples) (blocks : List Block) :
    (blocks.foldl observe w).defaultBaseFee = w.defaultBaseFee ∧
      (blocks.foldl observe w).defaultTip = w.defaultTip := by
  induction blocks generalizing w with
  | nil => exact ⟨rfl, rfl⟩
  | cons block blocks ih => exact ih (w.observe block)

/-- **Sliding means**: after any blocks the base fee is estimated from the base fees of these
blocks, and the tip from the tips of their transactions on a fee market, in the order of blocks and
transactions; the last ones count, as many as the window has places, and it has one at least. -/
theorem estimates_run (size defaultBaseFee defaultTip : Nat) (blocks : List Block) :
    let w := blocks.foldl observe (.empty size defaultBaseFee defaultTip)
    IsEstimate (max size 1) defaultBaseFee (blocks.filterMap (·.baseFee)) w.baseFee ∧
      IsEstimate (max size 1) defaultTip
        (blocks.flatMap fun block => block.txs.filterMap tip?) w.tip := by
  intro w
  obtain ⟨hbaseFee, htip⟩ :=
    defaults_foldl_observe (.empty size defaultBaseFee defaultTip) blocks
  have hbaseFees : w.baseFees.Holds (max size 1) (blocks.filterMap (·.baseFee)) := by
    rw [baseFees_foldl_observe]
    exact holds_run size _
  have htips : w.tips.Holds (max size 1)
      (blocks.flatMap fun block => block.txs.filterMap tip?) := by
    rw [tips_foldl_observe]
    exact holds_run size _
  constructor
  · rw [baseFee, hbaseFee]
    exact hbaseFees.isEstimate defaultBaseFee
  · rw [tip, htip]
    exact htips.isEstimate defaultTip

end FeeSamples

end VaultWatch
