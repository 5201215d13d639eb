import VaultWatch.Tracked

/-!
# Laws of tracked transactions

The small laws of `Tracked`: keys, and what each operation does to the entries. The other facts
about tracked transactions are derived from these.
-/

namespace VaultWatch

/-! ### Letter case -/

/-- A character made small stays as it is: a small letter is no capital, and the rest is not
touched at all. -/
theorem Ascii.toLower_toLower (c : Char) : c.toLower.toLower = c.toLower := by
  by_cases h : c.val ≥ 'A'.val ∧ c.val ≤ 'Z'.val
  · have hlower : c.toLower.val = c.val + ('a'.val - 'A'.val) := congrArg Char.val (dif_pos h)
    have hsmall : ¬ (c.toLower.val ≥ 'A'.val ∧ c.toLower.val ≤ 'Z'.val) := by
      rw [hlower]
      grind [UInt32.toNat_add]
    exact dif_neg hsmall
  · have hsame : c.toLower = c := dif_neg h
    rw [hsame, hsame]

@[simp]
theorem Ascii.fold_fold (text : String) : Ascii.fold (Ascii.fold text) = Ascii.fold text := by
  simp only [Ascii.fold, String.toList_ofList, List.map_map]
  congr 1
  exact List.map_congr_left fun c _ => toLower_toLower c

namespace Tracked

variable (t : Tracked) (now maxAge : Nat) (hash key : String)

/-! ### Keys -/

/-- A key is its own key. -/
@[simp]
theorem key_key : t.key (t.key hash) = t.key hash := by
  unfold Tracked.key
  split <;> simp

/-- Memories that treat letter case alike keep hashes in the same form. -/
theorem key_eq_of_foldCase_eq {t t' : Tracked} (h : t'.foldCase = t.foldCase) : t'.key = t.key := by
  funext hash
  simp only [Tracked.key, h]

@[simp] theorem foldCase_track : (t.track now hash).foldCase = t.foldCase := rfl

@[simp] theorem foldCase_expire : (t.expire now maxAge).2.foldCase = t.foldCase := rfl

/-! ### Confirming -/

/-- Confirming a transaction that is not known changes nothing. -/
theorem confirm_of_find?_eq_none (h : t.find? hash = none) : t.confirm hash = (false, t) := by
  simp only [confirm, h]

/-- Confirming a known transaction moves it to the front, confirmed. -/
theorem confirm_of_find?_eq_some {wait : Wait} (h : t.find? hash = some wait) :
    t.confirm hash = (wait != .confirmed,
      { t with entries := (t.key hash, .confirmed) :: without (t.key hash) t.entries }) := by
  simp only [confirm, h]

@[simp]
theorem foldCase_confirm : (t.confirm hash).2.foldCase = t.foldCase := by
  unfold confirm
  split <;> rfl

@[simp]
theorem capacity_confirm : (t.confirm hash).2.capacity = t.capacity := by
  unfold confirm
  split <;> rfl

/-- `confirm` says yes exactly to what is awaited. -/
theorem confirm_fst : (t.confirm hash).1 = t.contains hash := by
  unfold confirm contains
  cases h : t.find? hash with
  | none => rfl
  | some wait => cases wait <;> rfl

/-- A transaction counts as awaited when an entry says since when. -/
theorem contains_iff : t.contains hash = true ↔ ∃ since, t.find? hash = some (.awaited since) := by
  unfold contains
  cases h : t.find? hash with
  | none => simp
  | some wait => cases wait <;> simp

/-! ### What is known after an operation -/

theorem lookup_without_of_ne {key other : String} (entries : List (String × Wait))
    (hne : other ≠ key) : (without key entries).lookup other = entries.lookup other := by
  induction entries with
  | nil => rfl
  | cons e rest ih =>
    obtain ⟨k, wait⟩ := e
    by_cases hk : k = key
    · subst hk
      rw [without, List.filter_cons_of_neg (by simp), List.lookup_cons,
        beq_eq_false_iff_ne.mpr hne]
      exact ih
    · rw [without, List.filter_cons_of_pos (by simpa using hk), List.lookup_cons, List.lookup_cons]
      cases other == k with
      | true => rfl
      | false => exact ih

/-- After its confirmation a known transaction counts as confirmed. -/
theorem find?_confirm_self {wait : Wait} (h : t.find? hash = some wait) :
    (t.confirm hash).2.find? hash = some .confirmed := by
  rw [confirm_of_find?_eq_some t hash h]
  exact List.lookup_cons_self

/-- A confirmation leaves alone what is known of other transactions. -/
theorem find?_confirm_of_ne {hash other : String} (hne : t.key other ≠ t.key hash) :
    (t.confirm hash).2.find? other = t.find? other := by
  cases h : t.find? hash with
  | none => rw [confirm_of_find?_eq_none t hash h]
  | some wait =>
    rw [confirm_of_find?_eq_some t hash h]
    change List.lookup (t.key other) ((t.key hash, _) :: _) = List.lookup (t.key other) t.entries
    rw [List.lookup_cons, beq_eq_false_iff_ne.mpr hne]
    exact lookup_without_of_ne _ hne

theorem mem_of_find?_eq_some {wait : Wait} (h : t.find? hash = some wait) :
    (t.key hash, wait) ∈ t.entries := by
  obtain ⟨before, after, heq, -⟩ := List.lookup_eq_some_iff.mp h
  rw [heq]
  exact List.mem_append_right _ List.mem_cons_self

/-- A transaction that has just been tracked is awaited from now on. -/
theorem find?_track_of_key_eq {t : Tracked} {hash other : String} (hpos : 0 < t.capacity)
    (hkey : t.key hash = t.key other) :
    (t.track now other).find? hash = some (.awaited now) := by
  obtain ⟨n, hcapacity⟩ := Nat.exists_eq_succ_of_ne_zero (Nat.ne_of_gt hpos)
  change List.lookup (t.key hash) (List.take t.capacity _) = _
  rw [hcapacity, List.take_succ_cons, hkey]
  exact List.lookup_cons_self

/-- A sweep leaves alone what is not overdue. -/
theorem find?_expire {t : Tracked} {hash : String} {wait : Wait} (h : t.find? hash = some wait)
    (hdue : overdue now maxAge (t.key hash, wait) = false) :
    (t.expire now maxAge).2.find? hash = some wait := by
  obtain ⟨before, after, hentries, hbefore⟩ := List.lookup_eq_some_iff.mp h
  refine List.lookup_eq_some_iff.mpr
    ⟨before.filter (!overdue now maxAge ·), after.filter (!overdue now maxAge ·), ?_, ?_⟩
  · change t.entries.filter (!overdue now maxAge ·) = _
    rw [hentries, List.filter_append, List.filter_cons_of_pos (by rw [hdue]; rfl)]
    rfl
  · exact fun e he => hbefore e (List.mem_filter.mp he).1

/-- A sweep gives up what is overdue. -/
theorem mem_expire {t : Tracked} {hash : String} {wait : Wait} (h : t.find? hash = some wait)
    (hdue : overdue now maxAge (t.key hash, wait) = true) :
    t.key hash ∈ (t.expire now maxAge).1 :=
  List.mem_map.mpr ⟨_, List.mem_filter.mpr ⟨mem_of_find?_eq_some t hash h, hdue⟩, rfl⟩

end Tracked

end VaultWatch
