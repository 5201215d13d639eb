import Mathlib.Data.List.Dedup
import Mathlib.Data.List.Perm.Subperm
import Mathlib.Data.List.TakeWhile

/-!
# Recency

A bounded list of keys that keeps the key touched last in front. Two things happen to it: a key is
touched, which moves it to the front and pushes the key at the back out of a list that is full, or a
key is given up. `Recent` relates such a list to the history of these marks.

The invariant is `Recent.front_eq_rivals`: in front of a key stand exactly the keys that were
touched after it and have not been given up since, its rivals. So a key is pushed out when its
rivals fill the list, and not before (`Recent.mem_touch_iff`); and a key that was touched and not
given up since is still there unless as many other keys as the list holds were touched after it
(`Recent.mem_or_le_newer`).
-/

namespace VaultWatch

/-- What happens to a list of keys. -/
inductive Mark where
  | touched (key : String)
  | givenUp (key : String)
  deriving DecidableEq

namespace Recency

/-! ### Histories, the newest mark first -/

/-- The keys touched after the last touch of a key, or all keys if that was never touched. -/
def newer (key : String) : List Mark → List String
  | [] => []
  | .touched other :: marks => if other = key then [] else other :: newer key marks
  | .givenUp _ :: marks => newer key marks

/-- The keys touched after the last touch of a key, or all keys if that was never touched, without
those given up since; each once, the one touched last in front. -/
def rivals (key : String) : List Mark → List String
  | [] => []
  | .touched other :: marks =>
    if other = key then [] else other :: (rivals key marks).filter (· != other)
  | .givenUp other :: marks => (rivals key marks).filter (· != other)

/-- The keys touched and not given up since; each once, the one touched last in front. -/
def held : List Mark → List String
  | [] => []
  | .touched key :: marks => key :: (held marks).filter (· != key)
  | .givenUp key :: marks => (held marks).filter (· != key)

/-- A key was touched and has not been given up since. -/
def IsLive (key : String) : List Mark → Prop
  | [] => False
  | .touched other :: marks => other = key ∨ IsLive key marks
  | .givenUp other :: marks => other ≠ key ∧ IsLive key marks

/-- Marks in front of a touch count as newer, and nothing behind it does. -/
theorem newer_append_touched (key : String) (marks older : List Mark) :
    newer key (marks ++ .touched key :: older) = newer key marks := by
  induction marks with
  | nil => simp only [List.nil_append, newer, if_true]
  | cons mark marks ih =>
    cases mark with
    | touched other => simp only [List.cons_append, newer, ih]
    | givenUp other => simpa only [List.cons_append, newer] using ih

/-- Rivals, too, are those since the last touch. -/
theorem rivals_append_touched (key : String) (marks older : List Mark) :
    rivals key (marks ++ .touched key :: older) = rivals key marks := by
  induction marks with
  | nil => simp only [List.nil_append, rivals, if_true]
  | cons mark marks ih => cases mark <;> simp only [List.cons_append, rivals, ih]

theorem rivals_subset_newer (key : String) (marks : List Mark) :
    rivals key marks ⊆ newer key marks := by
  induction marks with
  | nil => exact List.Subset.refl _
  | cons mark marks ih =>
    cases mark with
    | touched other =>
      rw [rivals, newer]
      split
      · exact List.nil_subset _
      · exact List.cons_subset_cons other (List.Subset.trans List.filter_sublist.subset ih)
    | givenUp other => exact List.Subset.trans List.filter_sublist.subset ih

theorem rivals_nodup (key : String) (marks : List Mark) : (rivals key marks).Nodup := by
  induction marks with
  | nil => exact List.nodup_nil
  | cons mark marks ih =>
    cases mark with
    | touched other =>
      rw [rivals]
      split
      · exact List.nodup_nil
      · exact List.nodup_cons.mpr ⟨by simp [List.mem_filter], ih.filter _⟩
    | givenUp other => exact ih.filter _

/-- As long as no key is given up, the rivals are all the keys touched later. -/
theorem newer_subset_rivals (key : String) {marks : List Mark}
    (hkept : ∀ other, Mark.givenUp other ∉ marks) : newer key marks ⊆ rivals key marks := by
  induction marks with
  | nil => exact List.Subset.refl _
  | cons mark marks ih =>
    have hrest := ih fun other h => hkept other (List.mem_cons_of_mem mark h)
    cases mark with
    | touched other =>
      rw [newer, rivals]
      split
      · exact List.nil_subset _
      · intro k hk
        by_cases hsame : k = other
        · exact hsame ▸ List.mem_cons_self
        · have hnewer := (List.mem_cons.mp hk).resolve_left hsame
          exact List.mem_cons_of_mem other
            (List.mem_filter.mpr ⟨hrest hnewer, bne_iff_ne.mpr hsame⟩)
    | givenUp other => exact absurd List.mem_cons_self (hkept other)

/-- So their number is that of the different keys touched later. -/
theorem length_rivals_eq (key : String) {marks : List Mark}
    (hkept : ∀ other, Mark.givenUp other ∉ marks) :
    (rivals key marks).length = (newer key marks).dedup.length := by
  refine List.Perm.length_eq ((List.perm_ext_iff_of_nodup (rivals_nodup key marks)
    (List.nodup_dedup _)).mpr fun k => ?_)
  rw [List.mem_dedup]
  exact ⟨fun h => rivals_subset_newer key marks h, fun h => newer_subset_rivals key hkept h⟩

/-- The rivals of a live key are held, and so is the key itself, which is none of them. -/
theorem rivals_lt_held {key : String} {marks : List Mark} (hlive : IsLive key marks) :
    (rivals key marks).length < (held marks).length := by
  have hself : key ∉ rivals key marks ∧ key ∈ held marks ∧ rivals key marks ⊆ held marks := by
    induction marks with
    | nil => cases hlive
    | cons mark marks ih =>
      cases mark with
      | touched other =>
        by_cases hkey : other = key
        · simp [rivals, held, hkey]
        · obtain ⟨hout, hin, hsub⟩ := ih (hlive.resolve_left hkey)
          rw [rivals, if_neg hkey, held]
          refine ⟨?_, ?_, List.cons_subset_cons other (List.filter_subset _ hsub)⟩
          · simp [Ne.symm hkey, hout]
          · exact List.mem_cons_of_mem _ (List.mem_filter.mpr
              ⟨hin, bne_iff_ne.mpr (Ne.symm hkey)⟩)
      | givenUp other =>
        obtain ⟨hout, hin, hsub⟩ := ih hlive.2
        refine ⟨fun h => hout (List.mem_filter.mp h).1, ?_, List.filter_subset _ hsub⟩
        exact List.mem_filter.mpr ⟨hin, bne_iff_ne.mpr (Ne.symm hlive.1)⟩
  obtain ⟨hout, hin, hsub⟩ := hself
  exact (List.subperm_of_subset (List.nodup_cons.mpr ⟨hout, rivals_nodup key marks⟩)
    (List.cons_subset.mpr ⟨hin, hsub⟩)).length_le

/-- A touched key is live as long as it is not given up. -/
theorem isLive_append_touched {key : String} {marks : List Mark} (older : List Mark)
    (hkept : Mark.givenUp key ∉ marks) : IsLive key (marks ++ .touched key :: older) := by
  induction marks with
  | nil => exact .inl rfl
  | cons mark marks ih =>
    have hrest := ih fun h => hkept (List.mem_cons_of_mem mark h)
    cases mark with
    | touched other => exact .inr hrest
    | givenUp other =>
      refine ⟨fun h => hkept ?_, hrest⟩
      rw [h]
      exact List.mem_cons_self

theorem touched_mem_of_isLive {key : String} {marks : List Mark} (hlive : IsLive key marks) :
    Mark.touched key ∈ marks := by
  induction marks with
  | nil => cases hlive
  | cons mark marks ih =>
    cases mark with
    | touched other =>
      rcases hlive with rfl | hrest
      · exact List.mem_cons_self
      · exact List.mem_cons_of_mem _ (ih hrest)
    | givenUp other => exact List.mem_cons_of_mem _ (ih hlive.2)

/-! ### Lists of keys, the one touched last in front -/

/-- The keys after a touch. -/
def touch (capacity : Nat) (key : String) (keys : List String) : List String :=
  (key :: keys.filter (· != key)).take capacity

/-- The keys that stand in front of a key. -/
def front (key : String) (keys : List String) : List String := keys.takeWhile (· != key)

/-- A key list and a history that leads to it from an empty list. -/
inductive Recent (capacity : Nat) : List Mark → List String → Prop where
  | empty : Recent capacity [] []
  | touch {marks : List Mark} {keys : List String} (key : String)
      (h : Recent capacity marks keys) :
      Recent capacity (.touched key :: marks) (touch capacity key keys)
  | giveUp {marks : List Mark} {keys : List String} (key : String)
      (h : Recent capacity marks keys) :
      Recent capacity (.givenUp key :: marks) (keys.filter (· != key))

variable {capacity : Nat} {marks : List Mark} {keys : List String} {key : String}

theorem front_cons_self (key : String) (keys : List String) : front key (key :: keys) = [] :=
  List.takeWhile_cons_of_neg (by simp)

theorem front_cons_of_ne {other : String} (hne : other ≠ key) (keys : List String) :
    front key (other :: keys) = other :: front key keys :=
  List.takeWhile_cons_of_pos (bne_iff_ne.mpr hne)

/-- What is taken out of a list is missing in front of a key that stays, and nothing else is. -/
theorem front_filter {other : String} (hne : key ≠ other) (keys : List String) :
    front key (keys.filter (· != other)) = (front key keys).filter (· != other) := by
  have hsame : (fun k => !(k != other) || (k != key)) = (· != key) := by
    funext k
    by_cases hk : k = key
    · simp [hk, hne]
    · simp [hk]
  rw [front, List.takeWhile_filter, hsame, front]

/-- A key is among the first so many of a list that has it when fewer stand in front of it. -/
theorem mem_take_iff {n : Nat} (hmem : key ∈ keys) :
    key ∈ keys.take n ↔ (front key keys).length < n := by
  induction keys generalizing n with
  | nil => cases hmem
  | cons k keys ih =>
    cases n with
    | zero => simp
    | succ n =>
      rw [List.take_succ_cons, List.mem_cons]
      by_cases hself : k = key
      · simp [hself, front_cons_self]
      · rw [or_iff_right (Ne.symm hself), front_cons_of_ne hself, List.length_cons,
          ih ((List.mem_cons.mp hmem).resolve_left (Ne.symm hself)), Nat.succ_lt_succ_iff]

theorem front_take {n : Nat} (hmem : key ∈ keys.take n) :
    front key (keys.take n) = front key keys := by
  rw [front, ← List.take_takeWhile]
  exact List.take_of_length_le (Nat.le_of_lt ((mem_take_iff (List.mem_of_mem_take hmem)).mp hmem))

/-- In a list without repetition every key stands in front of those that come after it. -/
theorem pairwise_front (hnodup : keys.Nodup) :
    keys.Pairwise fun k later => k ∈ front later keys := by
  induction keys with
  | nil => exact List.Pairwise.nil
  | cons k keys ih =>
    obtain ⟨hk, hrest⟩ := List.nodup_cons.mp hnodup
    have hfront : ∀ later ∈ keys, front later (k :: keys) = k :: front later keys := by
      intro later hlater
      have hne : k ≠ later := fun heq => hk (heq ▸ hlater)
      exact front_cons_of_ne hne keys
    refine List.pairwise_cons.mpr ⟨fun later hlater => ?_, ?_⟩
    · rw [hfront later hlater]
      exact List.mem_cons_self
    · refine (ih hrest).imp_of_mem fun _ hlater hin => ?_
      rw [hfront _ hlater]
      exact List.mem_cons_of_mem k hin

/-- A list without repetition is no longer than the number of keys in any list that has them all. -/
theorem length_le_dedup_of_subset {keys others : List String} (hnodup : keys.Nodup)
    (hsub : keys ⊆ others) : keys.length ≤ others.dedup.length :=
  (List.subperm_of_subset hnodup (List.Subset.trans hsub (List.subset_dedup others))).length_le

namespace Recent

theorem nodup (h : Recent capacity marks keys) : keys.Nodup := by
  induction h with
  | empty => exact List.nodup_nil
  | touch key _ ih =>
    refine List.Nodup.sublist (List.take_sublist _ _) (List.nodup_cons.mpr ⟨?_, ih.filter _⟩)
    simp [List.mem_filter]
  | giveUp key _ ih => exact ih.filter _

/-- Keys can be given up together. -/
theorem giveUpAll (h : Recent capacity marks keys) (gone : List String) :
    Recent capacity (gone.map .givenUp ++ marks) (keys.filter (! gone.contains ·)) := by
  induction gone with
  | nil =>
    rw [List.filter_eq_self.mpr fun k _ => by simp]
    exact h
  | cons key gone ih =>
    have hsplit : keys.filter (! (key :: gone).contains ·) =
        (keys.filter (! gone.contains ·)).filter (· != key) := by
      rw [List.filter_filter]
      refine List.filter_congr fun k _ => ?_
      rw [List.contains_cons, Bool.not_or]
      rfl
    rw [hsplit]
    exact .giveUp key ih

theorem length_le (h : Recent capacity marks keys) : keys.length ≤ capacity := by
  induction h with
  | empty => exact Nat.zero_le _
  | touch key _ _ => exact List.length_take_le _ _
  | giveUp key _ ih => exact Nat.le_trans (List.length_filter_le _ _) ih

/-- A key that stays through the touch of another had its place before. -/
theorem mem_of_mem_touch {other : String} (hne : other ≠ key)
    (hmem : key ∈ Recency.touch capacity other keys) : key ∈ keys := by
  rcases List.mem_cons.mp (List.mem_of_mem_take hmem) with heq | hkeys
  · exact absurd heq.symm hne
  · exact (List.mem_filter.mp hkeys).1

/-- **Order**: in front of a key stand its rivals, in the order of their touches. -/
theorem front_eq_rivals (h : Recent capacity marks keys) (hmem : key ∈ keys) :
    front key keys = rivals key marks := by
  induction h with
  | empty => cases hmem
  | @touch marks keys other _ ih =>
    rw [Recency.touch, front_take hmem, rivals]
    by_cases hself : other = key
    · rw [if_pos hself, hself, front_cons_self]
    · rw [if_neg hself, front_cons_of_ne hself, front_filter (Ne.symm hself),
        ih (mem_of_mem_touch hself hmem)]
  | @giveUp marks keys other _ ih =>
    obtain ⟨hold, hstays⟩ := List.mem_filter.mp hmem
    rw [rivals, front_filter (bne_iff_ne.mp hstays), ih hold]

/-- A key that is there has fewer rivals than the list has places. -/
theorem rivals_lt (h : Recent capacity marks keys) (hmem : key ∈ keys) :
    (rivals key marks).length < capacity := by
  rw [← h.front_eq_rivals hmem, ← mem_take_iff hmem, List.take_of_length_le h.length_le]
  exact hmem

/-- The keys stand in the order of their last touches. -/
theorem pairwise_newer (h : Recent capacity marks keys) :
    keys.Pairwise fun key later => key ∈ newer later marks := by
  refine (pairwise_front h.nodup).imp_of_mem fun {_ later} _ hlater hin => ?_
  rw [h.front_eq_rivals hlater] at hin
  exact rivals_subset_newer later marks hin

/-- What is there was touched and has not been given up since. -/
theorem isLive_of_mem (h : Recent capacity marks keys) (hmem : key ∈ keys) : IsLive key marks := by
  induction h with
  | empty => cases hmem
  | @touch marks keys other _ ih =>
    by_cases hself : other = key
    · exact .inl hself
    · exact .inr (ih (mem_of_mem_touch hself hmem))
  | @giveUp marks keys other _ ih =>
    obtain ⟨hold, hstays⟩ := List.mem_filter.mp hmem
    exact ⟨(bne_iff_ne.mp hstays).symm, ih hold⟩

/-- **Push**: the touch of another key pushes a key out when its rivals fill the list, and only
then. -/
theorem mem_touch_iff {other : String} (h : Recent capacity marks keys) (hmem : key ∈ keys)
    (hne : other ≠ key) : key ∈ Recency.touch capacity other keys ↔
      (rivals key (.touched other :: marks)).length < capacity := by
  have hstays : key ∈ other :: keys.filter (· != other) :=
    List.mem_cons_of_mem _ (List.mem_filter.mpr ⟨hmem, bne_iff_ne.mpr (Ne.symm hne)⟩)
  rw [Recency.touch, mem_take_iff hstays, front_cons_of_ne hne, front_filter (Ne.symm hne),
    h.front_eq_rivals hmem, rivals, if_neg hne]

/-- **Room**: a key that was touched and not given up since is still there, unless the keys touched
after it fill the list. -/
theorem mem_or_le_newer (h : Recent capacity marks keys) (hlive : IsLive key marks)
    (hpos : 0 < capacity) : key ∈ keys ∨ capacity ≤ (newer key marks).dedup.length := by
  induction h with
  | empty => cases hlive
  | @touch marks keys other h ih =>
    by_cases hself : other = key
    · left
      obtain ⟨n, rfl⟩ := Nat.exists_eq_succ_of_ne_zero (Nat.ne_of_gt hpos)
      rw [Recency.touch, List.take_succ_cons, hself]
      exact List.mem_cons_self
    · rcases ih (hlive.resolve_left hself) with hmem | hfull
      · rw [h.mem_touch_iff hmem hself]
        refine (Nat.lt_or_ge _ _).imp_right fun hpushed => Nat.le_trans hpushed ?_
        exact length_le_dedup_of_subset (rivals_nodup key _) (rivals_subset_newer key _)
      · right
        rw [newer, if_neg hself]
        refine Nat.le_trans hfull (length_le_dedup_of_subset (List.nodup_dedup _) ?_)
        exact List.Subset.trans (List.dedup_subset _) (List.subset_cons_self other _)
  | @giveUp marks keys other _ ih =>
    refine (ih hlive.2).imp (fun hmem => List.mem_filter.mpr ⟨hmem, ?_⟩) id
    exact bne_iff_ne.mpr (Ne.symm hlive.1)

/-- As long as no key is given up, a key is there exactly if it was touched and the keys touched
after it do not fill the list. -/
theorem mem_iff (h : Recent capacity marks keys) (hkept : ∀ other, Mark.givenUp other ∉ marks)
    (hpos : 0 < capacity) : key ∈ keys ↔
      .touched key ∈ marks ∧ (newer key marks).dedup.length < capacity := by
  constructor
  · intro hmem
    refine ⟨touched_mem_of_isLive (h.isLive_of_mem hmem), ?_⟩
    rw [← length_rivals_eq key hkept]
    exact h.rivals_lt hmem
  · rintro ⟨htouched, hfew⟩
    obtain ⟨later, earlier, rfl⟩ := List.append_of_mem htouched
    have hlive : IsLive key (later ++ .touched key :: earlier) :=
      isLive_append_touched earlier fun hgone => hkept key (List.mem_append_left _ hgone)
    exact (h.mem_or_le_newer hlive hpos).resolve_right (Nat.not_le_of_lt hfew)

end Recent

end Recency

end VaultWatch
