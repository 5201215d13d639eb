import Mathlib.Algebra.Order.Ring.Nat

/-!
# Portions

A run answers questions one by one and hands the answers on together: the fates of candidates go out
as batches, the verdicts on results as matched blocks. `portions` deals out a list of answers to the
askers, to each as many as it asked for, in order.
-/

namespace VaultWatch

variable {α β : Type}

/-- Deals out some items: to each taker as many as its size, from the front. -/
def portions (size : α → Nat) : List α → List β → List (α × List β)
  | [], _ => []
  | taker :: takers, items =>
    (taker, items.take (size taker)) :: portions size takers (items.drop (size taker))

variable (size : α → Nat)

@[simp] theorem portions_nil (items : List β) : portions size [] items = [] := rfl

@[simp]
theorem portions_cons (taker : α) (takers : List α) (items : List β) :
    portions size (taker :: takers) items =
      (taker, items.take (size taker)) :: portions size takers (items.drop (size taker)) := rfl

theorem length_portions (takers : List α) (items : List β) :
    (portions size takers items).length = takers.length := by
  induction takers generalizing items with
  | nil => rfl
  | cons taker takers ih => rw [portions_cons, List.length_cons, List.length_cons, ih]

/-- What the taker at a place gets. -/
theorem getElem?_portions (takers : List α) (items : List β) (i : Nat) :
    (portions size takers items)[i]? = takers[i]?.map fun taker =>
      (taker, (items.drop ((takers.take i).map size).sum).take (size taker)) := by
  induction takers generalizing items i with
  | nil => rfl
  | cons taker takers ih =>
    cases i with
    | zero => rfl
    | succ i =>
      rw [portions_cons, List.getElem?_cons_succ, ih, List.getElem?_cons_succ, List.take_succ_cons,
        List.map_cons, List.sum_cons, List.drop_drop]

end VaultWatch
