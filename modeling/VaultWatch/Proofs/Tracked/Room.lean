import Mathlib.Data.List.Induction
import Mathlib.Data.List.Infix
import VaultWatch.Proofs.Tracked.Clocked

/-!
# Room for waits

How long an awaited transaction is kept. A wait should end with an outcome: a confirmation says yes
to it, or a sweep gives it up. But confirmed transactions stay in the memory, touched again by each
later sighting, and take up room beside those that are awaited. `stays_awaited_iff` counts them in:
a wait lasts until its outcome exactly as long as fewer others have been touched after it, and not
given up since, than there is room for. Counting only what is awaited is not enough
(`lost_behind_confirmed`).
-/

namespace VaultWatch.Tracked

open Recency

namespace Clocked

/-- A transaction that has just been tracked is awaited. -/
theorem contains_track (capacity : Nat) (foldCase : Bool) (before : List Op) (hash : String) :
    ((start capacity foldCase).run (before ++ [.track hash])).tracked.contains hash = true := by
  rw [run_append]
  refine (contains_iff _ _).mpr ⟨_, find?_track_of_key_eq _ ?_ rfl⟩
  rw [capacity_run]
  exact Nat.lt_of_lt_of_le Nat.zero_lt_one (Nat.le_max_right _ _)

section Waits

variable {s : Clocked} {past : List Mark} {hash : String} {after : List Op}
  (hrecent : Recent s.tracked.capacity past s.tracked.keys)

include hrecent

/-- An awaited transaction has fewer rivals than there is room for. -/
theorem rivals_lt_of_contains {p : List Op} (hwait : (s.run p).tracked.contains hash = true) :
    (rivals (s.tracked.key hash) (s.history p ++ past)).length < s.tracked.capacity := by
  obtain ⟨since, hfind⟩ := (contains_iff _ _).mp hwait
  have hmem := key_mem_keys hfind
  rw [key_run] at hmem
  exact (recent_of_run s past hrecent p).rivals_lt hmem

/-- A wait that no operation ends goes on as long as there is room. -/
theorem contains_of_rivals_lt (hwait : s.tracked.contains hash = true)
    (hopen : s.tracked.key hash ∉ s.endings after)
    (hroom : ∀ p, p <+: after →
      (rivals (s.tracked.key hash) (s.history p ++ past)).length < s.tracked.capacity) :
    ∀ p, p <+: after → (s.run p).tracked.contains hash = true := by
  intro p
  induction p using List.reverseRecOn with
  | nil => exact fun _ => hwait
  | append_singleton p op ih =>
    intro hp
    have hpast := recent_of_run s past hrecent p
    have hnext := hroom _ hp
    obtain ⟨later, rfl⟩ := hp
    have hbefore := ih ⟨op :: later, by rw [List.append_assoc]; rfl⟩
    rw [endings_append, List.mem_append, not_or, endings_append, List.mem_append, not_or] at hopen
    have hnow : s.tracked.key hash ∉ (s.run p).ended op :=
      fun h => hopen.1.2 (List.mem_append_left _ h)
    rw [history_append, List.append_assoc] at hnext
    rw [run_append]
    rw [← capacity_run s p] at hpast hnext
    rw [← key_run s p] at hnow hnext
    exact contains_step hpast hbefore hnow hnext

end Waits

/-- **Room**: once a transaction has been tracked, and as long as its wait has no outcome, it stays
awaited exactly while fewer others have been touched after it, and not given up since, than there is
room for. So no wait is lost while the transactions that are awaited or confirmed, which is to say
tracked and not given up since, are never more than there is room for. -/
theorem stays_awaited_iff (capacity : Nat) (foldCase : Bool) (before after : List Op)
    (hash : String) :
    let s := (start capacity foldCase).run (before ++ [.track hash])
    s.tracked.key hash ∉ s.endings after →
      ((∀ p, p <+: after → (s.run p).tracked.contains hash = true) ↔
        ∀ p, p <+: after →
          (rivals (s.tracked.key hash) (s.history p)).length < max capacity 1) ∧
      ((∀ p, p <+: before ++ .track hash :: after →
          (held ((start capacity foldCase).history p)).length ≤ max capacity 1) →
        ∀ p, p <+: after → (s.run p).tracked.contains hash = true) := by
  intro s hopen
  have hrecent := recent_run capacity foldCase (before ++ [.track hash])
  have hcapacity : s.tracked.capacity = max capacity 1 := capacity_run _ _
  rw [← hcapacity] at hrecent ⊢
  have hkey : s.tracked.key = ((start capacity foldCase).run before).tracked.key :=
    (key_run _ _).trans (key_run _ _).symm
  -- the touch by which the wait began hides whatever came before it
  have hpast : ∀ marks, marks ++ (start capacity foldCase).history (before ++ [.track hash]) =
      marks ++ .touched (s.tracked.key hash) :: (start capacity foldCase).history before := by
    intro marks
    rw [history_append, hkey]
    rfl
  have hrivals : ∀ p, rivals (s.tracked.key hash)
      (s.history p ++ (start capacity foldCase).history (before ++ [.track hash])) =
        rivals (s.tracked.key hash) (s.history p) := by
    intro p
    rw [hpast, rivals_append_touched]
  have hkept := contains_of_rivals_lt hrecent (contains_track capacity foldCase before hash) hopen
  refine ⟨⟨?_, ?_⟩, ?_⟩
  · intro hwait p hp
    rw [← hrivals p]
    exact rivals_lt_of_contains hrecent (hwait p hp)
  · intro hroom
    exact hkept fun p hp => by rw [hrivals p]; exact hroom p hp
  · intro hheld
    refine hkept fun p hp => ?_
    have hlive : IsLive (s.tracked.key hash) (s.history p ++
        .touched (s.tracked.key hash) :: (start capacity foldCase).history before) := by
      refine isLive_append_touched _ fun hgone => hopen ?_
      obtain ⟨later, rfl⟩ := hp
      rw [endings_append]
      exact List.mem_append_left _ (mem_endings_of_givenUp hgone)
    have hprefix : before ++ .track hash :: p <+: before ++ .track hash :: after :=
      (List.prefix_append_right_inj before).mpr (List.cons_prefix_cons.mpr ⟨rfl, hp⟩)
    have hbound := hheld _ hprefix
    rw [← List.singleton_append, ← List.append_assoc, history_append, hpast] at hbound
    rw [hpast]
    exact Nat.lt_of_lt_of_le (rivals_lt_held hlive) (hcapacity ▸ hbound)

/-- A wait beside a confirmed transaction, in a memory with room for both, outlasts a sweep that
comes too early for it. -/
theorem awaited_beside_confirmed :
    let s := (start 2 false).run ([.track "0x02"] ++ [.track "0x01"])
    let after := [.confirm "0x02", .advance 59, .confirm "0x02", .expire 60]
    s.tracked.key "0x01" ∉ s.endings after ∧
      ∀ p, p <+: after → (s.run p).tracked.contains "0x01" = true := by
  intro s after
  have hopen : s.tracked.key "0x01" ∉ s.endings after := by decide
  have hroom : ∀ p, p <+: after → (rivals (s.tracked.key "0x01") (s.history p)).length < 2 := by
    intro p hp
    rw [← List.mem_inits] at hp
    revert p
    decide
  exact ⟨hopen, (stays_awaited_iff 2 false [.track "0x02"] after "0x01" hopen).1.mpr hroom⟩

/-! ### Counting only what is awaited -/

/-- The keys that an operation begins to wait for. -/
def begun (s : Clocked) : Op → List String
  | .track hash => [s.tracked.key hash]
  | _ => []

/-- The keys that wait for their outcome after some operations, when those given did before: what
was tracked and neither confirmed nor given up since. -/
def waiting (s : Clocked) (keys : List String) : List Op → List String
  | [] => keys
  | op :: ops => (s.step op).waiting
      (s.begun op ++ keys.filter (! (s.begun op ++ s.ended op).contains ·)) ops

/-- **A wait is lost behind a confirmed transaction.** In a memory with room for two, never more
than two transactions wait for their outcome; all the same one of them is forgotten without any,
because another that is already confirmed was touched after it. -/
theorem lost_behind_confirmed :
    let s := start 2 false
    let ops := [.track "0x01", .track "0x02", .confirm "0x02", .track "0x03"]
    (∀ p, p <+: ops → (s.waiting [] p).length ≤ max 2 1) ∧
      "0x01" ∈ s.waiting [] ops ∧ "0x01" ∉ s.endings ops ∧
      (s.run ops).tracked.contains "0x01" = false := by
  refine ⟨fun p hp => ?_, by decide, by decide, by decide⟩
  rw [← List.mem_inits] at hp
  revert p
  decide

end Clocked

end VaultWatch.Tracked
