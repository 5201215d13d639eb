import VaultWatch.Proofs.Cadences

/-!
# Pauses

How hits shorten a pause and how raises lengthen it. Every beat leaves the pause at its floor or
above it (`Cadence.floor_le_after`). Hits whose drops are not zero take a pause down to the floor,
at least one millisecond each, and leave it there (`Cadence.settles_on_floor`).

There is no such law for raises. A raise is a whole number of milliseconds, rounded down, so that a
short pause is not raised at all, and a pause that is too long for 64 bits begins again from below.
`Cadence.Lengthens` says of which pauses a raise makes longer ones, and the main statement about
raises, `Cadence.lengthens_iff`, that it is right for every cadence that a start can come to.
-/

namespace VaultWatch

/-- The beat shortens the pause of a cadence with such a tuning. -/
def Beat.isHit (tuning : Tuning) : Beat → Bool
  | .hit => true
  | .found afterMiss => !(afterMiss && tuning.slowDownAfterMiss)
  | .late | .miss => false

namespace Cadence

variable {c : Cadence} {b : Beat} {beats : List Beat}

/-! ### What no beat changes -/

@[simp]
theorem beat_tuning (c : Cadence) (b : Beat) : (c.beat b).tuning = c.tuning := by
  obtain ⟨permille, hits, heq⟩ := c.exists_beat_eq b
  rw [heq]
  rfl

@[simp]
theorem beat_floor (c : Cadence) (b : Beat) : (c.beat b).floor = c.floor := by
  obtain ⟨permille, hits, heq⟩ := c.exists_beat_eq b
  rw [heq]
  rfl

@[simp]
theorem after_tuning (c : Cadence) (beats : List Beat) : (c.after beats).tuning = c.tuning := by
  induction beats generalizing c with
  | nil => rfl
  | cons b beats ih => exact (ih (c.beat b)).trans (c.beat_tuning b)

@[simp]
theorem after_floor (c : Cadence) (beats : List Beat) : (c.after beats).floor = c.floor := by
  induction beats generalizing c with
  | nil => rfl
  | cons b beats ih => exact (ih (c.beat b)).trans (c.beat_floor b)

/-! ### The floor -/

theorem floor_le_beat (c : Cadence) (b : Beat) : c.floor ≤ (c.beat b).interval := by
  obtain ⟨permille, hits, heq⟩ := c.exists_beat_eq b
  rw [heq]
  exact le_max_right _ _

/-- A pause stays at its floor or above it, whatever the cadence is told. -/
theorem floor_le_after (h : c.floor ≤ c.interval) (beats : List Beat) :
    c.floor ≤ (c.after beats).interval := by
  induction beats generalizing c with
  | nil => exact h
  | cons b beats ih =>
    have hnext : (c.beat b).floor ≤ (c.beat b).interval := by
      rw [c.beat_floor b]
      exact c.floor_le_beat b
    have hrest := ih hnext
    rwa [c.beat_floor b] at hrest

/-- So it is from the start on. -/
theorem floor_le_after_start (initial floor : Nat) (tuning : Tuning) (beats : List Beat) :
    floor ≤ ((start initial floor tuning).after beats).interval :=
  floor_le_after (c := start initial floor tuning) (le_max_right initial floor) beats

/-! ### Drops -/

theorem scale_le {interval permille : Nat} (h : permille ≤ 1000) :
    scale interval permille ≤ interval := by
  calc scale interval permille ≤ interval * permille / 1000 := Nat.mod_le _ _
    _ ≤ interval * 1000 / 1000 := Nat.div_le_div_right (Nat.mul_le_mul_left interval h)
    _ = interval := Nat.mul_div_cancel interval (by decide)

theorem scale_lt {interval permille : Nat} (hinterval : 0 < interval) (h : permille < 1000) :
    scale interval permille < interval := by
  have hpart : interval * permille / 1000 < interval := by
    rw [Nat.div_lt_iff_lt_mul (by decide)]
    exact Nat.mul_lt_mul_of_pos_left h hinterval
  exact (Nat.mod_le _ _).trans_lt hpart

/-- A hit takes one of the two drops off the pause. -/
theorem exists_hit_interval_eq (c : Cadence) :
    ∃ drop, (drop = c.tuning.streakDrop ∨ drop = c.tuning.hitDrop) ∧
      c.hit.interval = max (scale c.interval (1000 - drop)) c.floor := by
  refine ⟨_, ?_, rfl⟩
  split
  · exact .inl rfl
  · exact .inr rfl

theorem beat_of_isHit (h : b.isHit c.tuning = true) : c.beat b = c.hit := by
  cases b with
  | hit => rfl
  | late => cases h
  | miss => cases h
  | found afterMiss =>
    have hnot : (afterMiss && c.tuning.slowDownAfterMiss) = false := (Bool.not_eq_true' _).mp h
    exact if_neg (Bool.eq_false_iff.mp hnot)

/-- A hit shortens a pause that is above its floor. -/
theorem hit_interval_lt (hstreak : 1 ≤ c.tuning.streakDrop) (hhit : 1 ≤ c.tuning.hitDrop)
    (habove : c.floor < c.interval) : c.hit.interval < c.interval := by
  obtain ⟨drop, hdrop, heq⟩ := c.exists_hit_interval_eq
  have hpositive : 1 ≤ drop := by
    rcases hdrop with rfl | rfl
    · exact hstreak
    · exact hhit
  have hshorter : scale c.interval (1000 - drop) < c.interval :=
    scale_lt (by omega) (by omega)
  rw [heq]
  exact max_lt hshorter habove

/-- A hit leaves a pause at its floor. -/
theorem hit_interval_of_eq_floor (h : c.interval = c.floor) : c.hit.interval = c.floor := by
  obtain ⟨drop, -, heq⟩ := c.exists_hit_interval_eq
  have hscaled : scale c.interval (1000 - drop) ≤ c.floor := h ▸ scale_le (by omega)
  rw [heq]
  exact max_eq_right hscaled

/-- Each of some hits takes a millisecond or more, as long as there is one above the floor. -/
theorem interval_after_hits_le (hstreak : 1 ≤ c.tuning.streakDrop) (hhit : 1 ≤ c.tuning.hitDrop)
    (hfloor : c.floor ≤ c.interval) (hbeats : ∀ b ∈ beats, b.isHit c.tuning = true) :
    (c.after beats).interval ≤ max (c.interval - beats.length) c.floor := by
  induction beats generalizing c with
  | nil => exact le_max_left _ _
  | cons b beats ih =>
    have hbeat : c.beat b = c.hit := beat_of_isHit (hbeats b List.mem_cons_self)
    have htuning : c.hit.tuning = c.tuning := rfl
    have hnext : c.hit.interval ≤ max (c.interval - 1) c.floor := by
      rcases hfloor.lt_or_eq with habove | hat
      · have hshorter := hit_interval_lt hstreak hhit habove
        omega
      · rw [hit_interval_of_eq_floor hat.symm]
        exact le_max_right _ _
    have hrest := @ih c.hit hstreak hhit (c.floor_le_beat .hit) fun other hother =>
      hbeats other (List.mem_cons_of_mem b hother)
    have hsame : c.hit.floor = c.floor := rfl
    have hlonger : (c.after (b :: beats)) = c.hit.after beats := by
      rw [← hbeat]
      rfl
    rw [hlonger, List.length_cons]
    omega

/-- **Hits settle on the floor.** Whatever a cadence has been told since it began, its pause is not
below the floor. If neither drop is zero each hit shortens a pause that is above the floor, so that
as many hits in a row as there are milliseconds above it bring the pause to the floor itself, and
all further hits leave it there. -/
theorem settles_on_floor (initial floor : UInt64) (tuning : Tuning) (beats : List Beat) :
    let c := (start initial.toNat floor.toNat tuning).after beats
    floor.toNat ≤ c.interval ∧
      (1 ≤ tuning.streakDrop → 1 ≤ tuning.hitDrop →
        (floor.toNat < c.interval → c.hit.interval < c.interval) ∧
          ∀ hits : List Beat, (∀ b ∈ hits, b.isHit tuning = true) →
            c.interval - floor.toNat ≤ hits.length → (c.after hits).interval = floor.toNat) := by
  intro c
  have htuning : c.tuning = tuning := after_tuning _ _
  have hfloor : c.floor = floor.toNat := after_floor _ _
  have habove : c.floor ≤ c.interval := by
    rw [hfloor]
    exact floor_le_after_start _ _ _ _
  refine ⟨hfloor ▸ habove, fun hstreak hhit => ⟨fun hlonger => ?_, fun hits hhits henough => ?_⟩⟩
  · exact hit_interval_lt (htuning ▸ hstreak) (htuning ▸ hhit) (hfloor ▸ hlonger)
  · have hupper := interval_after_hits_le (htuning ▸ hstreak) (htuning ▸ hhit) habove
      (htuning ▸ hhits)
    have hlower := floor_le_after habove hits
    omega

/-- Three hits from two milliseconds above the floor, one of them a block found after a miss. -/
theorem floor_after_three_hits :
    (1 ≤ ({} : Tuning).streakDrop ∧ 1 ≤ ({} : Tuning).hitDrop) ∧
      ((start 502 500 {}).after [.hit, .found true, .hit]).interval = 500 :=
  ⟨by decide, ((settles_on_floor 502 500 {} []).2 (by decide) (by decide)).2
    [.hit, .found true, .hit] (by decide) (by decide)⟩

/-! ### Raises -/

/-- A pause after a raise. -/
def raised (c : Cadence) (raise : Nat) : Cadence :=
  { c.scaled ((1000 + raise) % UInt64.size) with hits := 0 }

/-- A raise makes a longer pause of this one: the factor is a 64-bit word, and what it adds, a whole
number of milliseconds cut to 64 bits, is not zero and has room above the pause. -/
def Lengthens (interval raise : Nat) : Prop :=
  1000 + raise < UInt64.size ∧ 0 < interval * raise / 1000 % UInt64.size ∧
    interval + interval * raise / 1000 % UInt64.size < UInt64.size

instance (interval raise : Nat) : Decidable (Lengthens interval raise) :=
  inferInstanceAs (Decidable (_ ∧ _ ∧ _))

theorem mul_add_div (interval raise : Nat) :
    interval * (1000 + raise) / 1000 = interval + interval * raise / 1000 := by
  rw [Nat.mul_add, Nat.mul_comm interval 1000, Nat.mul_add_div (by decide)]

/-- A raise that does not more than double a pause makes it longer exactly if it is worth a whole
millisecond and the longer pause is a 64-bit word. -/
theorem lengthens_iff_of_le {interval raise : Nat} (hinterval : interval < UInt64.size)
    (hraise : raise ≤ 1000) :
    Lengthens interval raise ↔
      1000 ≤ interval * raise ∧ interval * (1000 + raise) / 1000 < UInt64.size := by
  have hadded : interval * raise / 1000 ≤ interval := by
    calc interval * raise / 1000 ≤ interval * 1000 / 1000 :=
          Nat.div_le_div_right (Nat.mul_le_mul_left interval hraise)
      _ = interval := Nat.mul_div_cancel interval (by decide)
  have hword : interval * raise / 1000 % UInt64.size = interval * raise / 1000 :=
    Nat.mod_eq_of_lt (hadded.trans_lt hinterval)
  have hwhole : 0 < interval * raise / 1000 ↔ 1000 ≤ interval * raise := by omega
  have hfactor : 1000 + raise < UInt64.size := by
    have hsize : UInt64.size = 18446744073709551616 := rfl
    omega
  rw [Lengthens, hword, mul_add_div, hwhole]
  exact ⟨fun h => h.2, fun h => ⟨hfactor, h⟩⟩

theorem lt_scale_iff {interval raise : Nat} (hinterval : interval < UInt64.size)
    (hraise : raise < UInt64.size) :
    interval < scale interval ((1000 + raise) % UInt64.size) ↔ Lengthens interval raise := by
  have hsize : UInt64.size = 18446744073709551616 := rfl
  by_cases hfactor : 1000 + raise < UInt64.size
  · rw [scale, Nat.mod_eq_of_lt hfactor, mul_add_div, Lengthens]
    generalize interval * raise / 1000 = added
    rw [hsize] at hinterval hfactor ⊢
    omega
  · -- the factor has lost its highest bit, and is less than one
    have hless : (1000 + raise) % UInt64.size ≤ 1000 := by
      rw [hsize] at hfactor hraise ⊢
      omega
    have hshorter : scale interval ((1000 + raise) % UInt64.size) ≤ interval := scale_le hless
    exact iff_of_false (by omega) fun h => hfactor h.1

theorem interval_lt_raised_iff {raise : Nat} (hwords : c.InWords) (hfloor : c.floor ≤ c.interval)
    (hraise : raise < UInt64.size) :
    c.interval < (c.raised raise).interval ↔ Lengthens c.interval raise := by
  have hinterval : (c.raised raise).interval =
      max (scale c.interval ((1000 + raise) % UInt64.size)) c.floor := rfl
  rw [hinterval, lt_max_iff, ← lt_scale_iff hwords.interval hraise]
  exact or_iff_left (not_lt.mpr hfloor)

/-- A raise that is worth less than a millisecond leaves the pause as it is. -/
theorem raised_interval_eq {raise : Nat} (hwords : c.InWords) (hfloor : c.floor ≤ c.interval)
    (hshort : c.interval * raise < 1000) : (c.raised raise).interval = c.interval := by
  have hscaled : scale c.interval ((1000 + raise) % UInt64.size) = c.interval := by
    rcases Nat.eq_zero_or_pos c.interval with hnone | hpositive
    · rw [scale, hnone, Nat.zero_mul]
      rfl
    · -- the raise is small, and the factor has lost nothing
      have hsmall : raise < 1000 := (Nat.le_mul_of_pos_left raise hpositive).trans_lt hshort
      have hfactor : 1000 + raise < UInt64.size := by
        have hsize : UInt64.size = 18446744073709551616 := rfl
        omega
      rw [scale, Nat.mod_eq_of_lt hfactor, mul_add_div, Nat.div_eq_of_lt hshort, Nat.add_zero,
        Nat.mod_eq_of_lt hwords.interval]
  calc (c.raised raise).interval
      = max (scale c.interval ((1000 + raise) % UInt64.size)) c.floor := rfl
    _ = max c.interval c.floor := by rw [hscaled]
    _ = c.interval := max_eq_left hfloor

/-- Then no number of misses gets it going. -/
theorem missed_interval_eq (hwords : c.InWords) (hfloor : c.floor ≤ c.interval)
    (hshort : c.interval * c.tuning.missRaise < 1000) (n : Nat) :
    (c.missed n).interval = c.interval := by
  induction n with
  | zero => rfl
  | succ n ih =>
    have hstill : (c.missed n).InWords := hwords.after _
    have habove : (c.missed n).floor ≤ (c.missed n).interval := by
      rw [missed, after_floor]
      exact floor_le_after hfloor _
    have hsame : ((c.missed n).raised c.tuning.missRaise).interval = (c.missed n).interval :=
      raised_interval_eq hstill habove (by rwa [ih])
    have hmiss : (c.missed n).miss = (c.missed n).raised c.tuning.missRaise := by
      rw [← c.missed_tuning n]
      rfl
    rw [missed_succ, hmiss, hsame, ih]

/-- **When a raise lengthens the pause.** Whatever a cadence has been told since it began, a miss
makes its pause longer exactly if the raise for a miss is one that lengthens it, and a block found
late exactly if the raise for that is. A raise of up to a thousand is, exactly if it is worth a
whole millisecond and the longer pause fits in 64 bits. A pause that a miss does not raise by a
whole millisecond stays as it is, however many misses follow. -/
theorem lengthens_iff (initial floor : UInt64) (tuning : Tuning) (beats : List Beat)
    (hmiss : tuning.missRaise < UInt64.size) (hlate : tuning.lateRaise < UInt64.size) :
    let c := (start initial.toNat floor.toNat tuning).after beats
    (c.interval < c.miss.interval ↔ Lengthens c.interval tuning.missRaise) ∧
      (c.interval < c.late.interval ↔ Lengthens c.interval tuning.lateRaise) ∧
        (∀ raise ≤ 1000, Lengthens c.interval raise ↔
          1000 ≤ c.interval * raise ∧ c.interval * (1000 + raise) / 1000 < UInt64.size) ∧
          (c.interval * tuning.missRaise < 1000 → ∀ n, (c.missed n).interval = c.interval) := by
  intro c
  have htuning : c.tuning = tuning := after_tuning _ _
  have hwords : c.InWords :=
    (inWords_start initial.toNat_lt_size floor.toNat_lt_size tuning).after beats
  have hfloor : c.floor ≤ c.interval := by
    have hsame : c.floor = floor.toNat := after_floor _ _
    rw [hsame]
    exact floor_le_after_start _ _ _ _
  have hraised : c.miss = c.raised tuning.missRaise ∧ c.late = c.raised tuning.lateRaise := by
    rw [← htuning]
    exact ⟨rfl, rfl⟩
  refine ⟨?_, ?_, fun raise hraise => ?_, fun hshort => ?_⟩
  · rw [hraised.1]
    exact interval_lt_raised_iff hwords hfloor hmiss
  · rw [hraised.2]
    exact interval_lt_raised_iff hwords hfloor hlate
  · exact lengthens_iff_of_le hwords.interval hraise
  · exact missed_interval_eq hwords hfloor (htuning ▸ hshort)

/-- A miss after a hit, at pauses as they are in practice. -/
theorem longer_after_hit :
    (({} : Tuning).missRaise < UInt64.size ∧ ({} : Tuning).lateRaise < UInt64.size) ∧
      ((start 10000 500 {}).after [.hit]).interval <
        ((start 10000 500 {}).after [.hit]).miss.interval :=
  ⟨by decide, (lengthens_iff 10000 500 {} [.hit] (by decide) (by decide)).1.mpr (by decide)⟩

/-- Not every pause of a millisecond or more gets longer: one of nine milliseconds, raised by a
tenth, does not. -/
theorem nineMillis_not_longer :
    ¬ ∀ (initial floor : UInt64) (tuning : Tuning) (beats : List Beat),
      0 < tuning.missRaise ∧ tuning.missRaise < UInt64.size →
        0 < tuning.lateRaise ∧ tuning.lateRaise < UInt64.size →
          let c := (start initial.toNat floor.toNat tuning).after beats
          1 ≤ c.interval → c.interval < c.miss.interval ∧ c.interval < c.late.interval := by
  intro hall
  have hlonger := (hall 9 1 {} [] (by decide) (by decide) (by decide)).1
  exact absurd hlonger (by decide)

end Cadence

end VaultWatch
