import Mathlib.Algebra.Order.Group.Nat
import VaultWatch.Cadence

/-!
# Cadences

The pauses that a cadence comes to, and the time that calls may take with them. `Beat` lists what a
cadence can be told, and `Cadence.after` is a cadence after some beats. Every beat scales the pause
by some factor and then raises it to the floor (`Cadence.exists_beat_eq`), which keeps it a 64-bit
word; hence no multiple up to the thousandfold is ever out of range
(`Deadline.isSome_multiple?_of_le`). That bound is not far from the best one: a cadence that is told
of one miss after the other takes every multiple by as much as its own raise out of range
(`Deadline.exists_misses_multiple?_eq_none`).
-/

namespace VaultWatch

/-- What a cadence can be told. -/
inductive Beat where
  | hit
  | late
  | miss
  | found (afterMiss : Bool)
  deriving DecidableEq, Repr

namespace Cadence

/-- A cadence after a beat. -/
def beat (c : Cadence) : Beat → Cadence
  | .hit => c.hit
  | .late => c.late
  | .miss => c.miss
  | .found afterMiss => c.found afterMiss

/-- A cadence after some beats. -/
def after (c : Cadence) (beats : List Beat) : Cadence := beats.foldl beat c

theorem after_append (c : Cadence) (beats more : List Beat) :
    c.after (beats ++ more) = (c.after beats).after more :=
  List.foldl_append

variable {c : Cadence}

/-! ### One beat -/

/-- **What a beat does**: it scales the pause, raises it to the floor, and counts hits. -/
theorem exists_beat_eq (c : Cadence) (b : Beat) :
    ∃ permille hits, c.beat b = { c.scaled permille with hits } := by
  cases b with
  | hit => exact ⟨_, _, rfl⟩
  | late => exact ⟨_, _, rfl⟩
  | miss => exact ⟨_, _, rfl⟩
  | found afterMiss =>
    unfold beat found
    dsimp only
    split
    · exact ⟨_, _, rfl⟩
    · exact ⟨_, _, rfl⟩

/-- The floor and the pause are 64-bit words. -/
structure InWords (c : Cadence) : Prop where
  floor : c.floor < UInt64.size
  interval : c.interval < UInt64.size

theorem inWords_start {initial floor : Nat} (hinitial : initial < UInt64.size)
    (hfloor : floor < UInt64.size) (tuning : Tuning) :
    (start initial floor tuning).InWords :=
  ⟨hfloor, max_lt hinitial hfloor⟩

theorem InWords.beat (h : c.InWords) (b : Beat) : (c.beat b).InWords := by
  obtain ⟨permille, hits, heq⟩ := c.exists_beat_eq b
  have hscaled : scale c.interval permille < UInt64.size := Nat.mod_lt _ (by decide)
  rw [heq]
  exact ⟨h.floor, max_lt hscaled h.floor⟩

/-! ### Many beats -/

/-- A pause stays a 64-bit word, whatever the cadence is told. -/
theorem InWords.after (h : c.InWords) (beats : List Beat) : (c.after beats).InWords := by
  induction beats generalizing c with
  | nil => exact h
  | cons b beats ih => exact ih (h.beat b)

/-- A cadence after so many misses. -/
def missed (c : Cadence) (n : Nat) : Cadence := c.after (List.replicate n .miss)

theorem missed_succ (c : Cadence) (n : Nat) : c.missed (n + 1) = (c.missed n).miss := by
  rw [missed, List.replicate_succ', after_append]
  rfl

@[simp]
theorem missed_tuning (c : Cadence) (n : Nat) : (c.missed n).tuning = c.tuning := by
  induction n with
  | zero => rfl
  | succ n ih => rw [missed_succ, ← ih]; rfl

/-- A miss lengthens a pause that is long enough for its raise, unless the longer one is no 64-bit
word. -/
theorem interval_lt_miss (hgrows : 1000 ≤ c.interval * c.tuning.missRaise)
    (hraise : 1000 + c.tuning.missRaise < UInt64.size)
    (hfits : c.interval * (1000 + c.tuning.missRaise) / 1000 < UInt64.size) :
    c.interval < c.miss.interval := by
  have hscaled : scale c.interval ((1000 + c.tuning.missRaise) % UInt64.size) =
      c.interval * (1000 + c.tuning.missRaise) / 1000 := by
    rw [scale, Nat.mod_eq_of_lt hraise, Nat.mod_eq_of_lt hfits]
  have hlonger : c.interval + 1 ≤ c.interval * (1000 + c.tuning.missRaise) / 1000 := by
    rw [Nat.le_div_iff_mul_le (by decide), Nat.mul_add]
    omega
  calc c.interval < c.interval * (1000 + c.tuning.missRaise) / 1000 := hlonger
    _ = scale c.interval ((1000 + c.tuning.missRaise) % UInt64.size) := hscaled.symm
    _ ≤ c.miss.interval := le_max_left _ _

end Cadence

/-! ### The time that a call may take -/

namespace Deadline

variable {d : Deadline} {c : Cadence}

theorem isSome_multiple?_iff {interval : Nat} :
    (d.multiple? interval).isSome ↔ interval * max d.factor 1 / 1000 < UInt64.size := by
  simp [multiple?]

theorem millis?_ne_none_iff {interval : Nat} :
    d.millis? interval ≠ none ↔ (d.multiple? interval).isSome := by
  rw [millis?, Ne, Option.map_eq_none_iff, Option.isSome_iff_ne_none]

/-- A multiple of a 64-bit word up to the thousandfold is in range. -/
theorem isSome_multiple?_of_le {interval : Nat} (hfactor : d.factor ≤ 1000)
    (hinterval : interval < UInt64.size) : (d.multiple? interval).isSome := by
  rw [isSome_multiple?_iff]
  have hmax : max d.factor 1 ≤ 1000 := max_le hfactor (by decide)
  calc interval * max d.factor 1 / 1000 ≤ interval * 1000 / 1000 :=
        Nat.div_le_div_right (Nat.mul_le_mul_left interval hmax)
    _ = interval := Nat.mul_div_cancel interval (by decide)
    _ < UInt64.size := hinterval

/-- **Too large a multiple**: while all multiples are in range each miss lengthens the pause, which
cannot go on forever. -/
theorem exists_misses_multiple?_eq_none (hwords : c.InWords)
    (hgrows : 1000 ≤ c.interval * c.tuning.missRaise)
    (hraise : 1000 + c.tuning.missRaise < UInt64.size)
    (hfactor : 1000 + c.tuning.missRaise ≤ d.factor) :
    ∃ n, d.multiple? (c.after (List.replicate n .miss)).interval = none := by
  by_contra hall
  have hnone := not_exists.mp hall
  have hfits (n : Nat) :
      (c.missed n).interval * (1000 + c.tuning.missRaise) / 1000 < UInt64.size := by
    have hrange := isSome_multiple?_iff.mp (Option.isSome_iff_ne_none.mpr (hnone n))
    have hmax : 1000 + c.tuning.missRaise ≤ max d.factor 1 := hfactor.trans (le_max_left _ _)
    exact (Nat.div_le_div_right (Nat.mul_le_mul_left _ hmax)).trans_lt hrange
  have hlonger (n : Nat) : c.interval + n ≤ (c.missed n).interval := by
    induction n with
    | zero => exact Nat.le_refl _
    | succ n ih =>
      have hgrows' : 1000 ≤ (c.missed n).interval * (c.missed n).tuning.missRaise := by
        rw [c.missed_tuning]
        exact hgrows.trans (Nat.mul_le_mul_right _ ((Nat.le_add_right _ n).trans ih))
      have hnext := (c.missed n).interval_lt_miss hgrows' (by rw [c.missed_tuning]; exact hraise)
        (by rw [c.missed_tuning]; exact hfits n)
      rw [Cadence.missed_succ]
      omega
  have hword := (hwords.after (List.replicate UInt64.size .miss)).interval
  have hlast := hlonger UInt64.size
  rw [Cadence.missed] at hlast
  omega

end Deadline

end VaultWatch
