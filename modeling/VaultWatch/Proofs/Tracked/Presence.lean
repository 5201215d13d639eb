import VaultWatch.Proofs.Tracked.Clocked

/-!
# Presence of tracked transactions

Which keys are there after any operations, told by the touches: tracking touches a key, and so does
a confirmation that finds one. A key that was tracked and not given up by a sweep since is there as
long as fewer others were touched after its last touch than there is room for. Without sweeps it is
there exactly that long. A sweep makes room for more, so that a key can outlast more touches than
that.

The main statement is `Clocked.present_run`.
-/

namespace VaultWatch.Tracked

open Recency

/-- A sweep, which gives up keys. -/
def Op.isSweep : Op → Bool
  | .expire _ => true
  | .track _ | .contains _ | .wasConfirmed _ | .confirm _ | .advance _ => false

namespace Clocked

/-- Only sweeps give up keys. -/
theorem givenUp_not_mem_marks {s : Clocked} {op : Op} (hkeeps : op.isSweep = false) (key : String) :
    Mark.givenUp key ∉ s.marks op := by
  cases op with
  | expire maxAge => cases hkeeps
  | track hash => simp [marks]
  | confirm hash =>
    rw [marks]
    split <;> simp
  | contains hash | wasConfirmed hash | advance millis => exact List.not_mem_nil

theorem givenUp_not_mem_history {s : Clocked} {ops : List Op}
    (hkeep : ∀ op ∈ ops, op.isSweep = false) (key : String) :
    Mark.givenUp key ∉ s.history ops := by
  induction ops generalizing s with
  | nil => exact List.not_mem_nil
  | cons op ops ih =>
    have hnow := givenUp_not_mem_marks (s := s) (hkeep op List.mem_cons_self) key
    have hlater := ih (s := s.step op) fun later h => hkeep later (List.mem_cons_of_mem op h)
    exact fun h => (List.mem_append.mp h).elim hlater hnow

/-- A history that goes back beyond the tracking of a key has a touch of it there. -/
theorem history_track (s : Clocked) (before after : List Op) (hash : String) :
    s.history (before ++ .track hash :: after) =
      (s.run (before ++ [.track hash])).history after ++
        .touched (s.tracked.key hash) :: s.history before := by
  have hsplit : before ++ .track hash :: after = (before ++ [.track hash]) ++ after := by
    rw [List.append_assoc]
    rfl
  rw [hsplit, history_append, history_append s before, ← key_run s before]
  rfl

/-- **Presence**: after any operations no key is there twice, and no more are there than there is
room for. A key that was tracked is still there, if no sweep has given it up since and fewer other
keys were touched after its last touch than there is room for. If there were no sweeps at all,
nothing else is there: a key is gone once it is followed by touches of as many others as there is
room for. -/
theorem present_run (capacity : Nat) (foldCase : Bool) (ops : List Op) :
    let s := (start capacity foldCase).run ops
    let past := (start capacity foldCase).history ops
    s.tracked.keys.Nodup ∧ s.tracked.entries.length ≤ max capacity 1 ∧
      (∀ before hash after, ops = before ++ .track hash :: after →
        .givenUp (s.tracked.key hash) ∉
          ((start capacity foldCase).run (before ++ [.track hash])).history after →
        (newer (s.tracked.key hash) past).dedup.length < max capacity 1 →
          s.tracked.key hash ∈ s.tracked.keys) ∧
      ((∀ op ∈ ops, op.isSweep = false) → ∀ key, key ∈ s.tracked.keys ↔
        .touched key ∈ past ∧ (newer key past).dedup.length < max capacity 1) := by
  intro s past
  have hrecent : Recent (max capacity 1) past s.tracked.keys := recent_run capacity foldCase ops
  have hroom : 0 < max capacity 1 := Nat.lt_of_lt_of_le Nat.zero_lt_one (Nat.le_max_right _ _)
  refine ⟨hrecent.nodup, ?_, ?_, fun hkeep key => ?_⟩
  · have hlength : s.tracked.keys.length = s.tracked.entries.length := List.length_map _
    rw [← hlength]
    exact hrecent.length_le
  · intro before hash after hops hkept hfew
    have hkey : s.tracked.key = (start capacity foldCase).tracked.key := key_run _ _
    have hlive : IsLive (s.tracked.key hash) past := by
      change IsLive _ ((start capacity foldCase).history ops)
      rw [hkey] at hkept ⊢
      rw [hops, history_track]
      exact isLive_append_touched _ hkept
    exact (hrecent.mem_or_le_newer hlive hroom).resolve_right (Nat.not_le_of_lt hfew)
  · exact hrecent.mem_iff (givenUp_not_mem_history hkeep) hroom

/-- A sweep between them makes room for a third key beside the first. -/
example : ((start 2 false).run [.track "0x01", .confirm "0x01", .track "0x02", .advance 60,
    .expire 60, .track "0x03"]).tracked.keys = ["0x03", "0x01"] := by decide

end Clocked

end VaultWatch.Tracked
