import VaultWatch.Proofs.Recency
import VaultWatch.Proofs.Tracked.Basic

/-!
# Recency of tracked transactions

What each operation of `Tracked` does to the keys, in terms of touches and of keys given up:
tracking touches a key, confirming touches one that is there, and expiring gives keys up.
-/

namespace VaultWatch

namespace Tracked

open Recency

/-- The keys, the one touched last in front. -/
def keys (t : Tracked) : List String := t.entries.map (·.1)

variable (t : Tracked) (now maxAge : Nat) (hash : String)

theorem keys_without (key : String) (entries : List (String × Wait)) :
    (without key entries).map (·.1) = (entries.map (·.1)).filter (· != key) := by
  rw [List.filter_map]
  rfl

/-- A transaction is unknown when its key is not there. -/
theorem find?_eq_none_iff : t.find? hash = none ↔ t.key hash ∉ t.keys := by
  rw [find?, List.lookup_eq_none_iff, keys, List.mem_map]
  constructor
  · rintro h ⟨e, he, heq⟩
    simpa [heq] using h e he
  · intro h e he
    exact bne_iff_ne.mpr fun heq => h ⟨e, he, heq.symm⟩

/-- A known transaction has its key there. -/
theorem key_mem_keys {t : Tracked} {hash : String} {wait : Wait}
    (h : t.find? hash = some wait) : t.key hash ∈ t.keys :=
  List.mem_map_of_mem (mem_of_find?_eq_some t hash h)

/-- Tracking touches the key. -/
theorem keys_track : (t.track now hash).keys = touch t.capacity (t.key hash) t.keys := by
  simp only [keys, track, touch, List.map_take, List.map_cons, keys_without]

/-- What is still there after another transaction has been tracked is known as before. -/
theorem find?_track_of_mem_keys {t : Tracked} {hash other : String}
    (hne : t.key hash ≠ t.key other) (hmem : t.key hash ∈ (t.track now other).keys) :
    (t.track now other).find? hash = t.find? hash := by
  have hprefix : (t.track now other).entries <+:
      (t.key other, .awaited now) :: without (t.key other) t.entries := List.take_prefix _ _
  have hknown : (t.track now other).find? hash ≠ none :=
    mt ((t.track now other).find?_eq_none_iff hash).mp (not_not_intro hmem)
  obtain ⟨wait, hfind⟩ := Option.ne_none_iff_exists'.mp hknown
  have hwhole := hprefix.lookup_eq_some hfind
  rw [List.lookup_cons, key_eq_of_foldCase_eq (t.foldCase_track now other),
    beq_eq_false_iff_ne.mpr hne] at hwhole
  rw [hfind, find?, ← lookup_without_of_ne _ hne]
  exact hwhole.symm

/-- Confirming a known transaction touches its key. -/
theorem keys_confirm (hnodup : t.keys.Nodup) (hbound : t.keys.length ≤ t.capacity)
    (hmem : t.key hash ∈ t.keys) :
    (t.confirm hash).2.keys = touch t.capacity (t.key hash) t.keys := by
  have hsome : t.find? hash ≠ none := fun h => (t.find?_eq_none_iff hash).mp h hmem
  obtain ⟨wait, hfind⟩ := Option.ne_none_iff_exists'.mp hsome
  have hlength : (t.key hash :: t.keys.filter (· != t.key hash)).length ≤ t.capacity := by
    have hrest : t.keys.filter (· != t.key hash) = t.keys.erase (t.key hash) :=
      (hnodup.erase_eq_filter _).symm
    rw [List.length_cons, hrest, List.length_erase_add_one hmem]
    exact hbound
  rw [confirm_of_find?_eq_some t hash hfind, touch, List.take_of_length_le hlength]
  simp only [keys, List.map_cons, keys_without]

/-- Expiring takes the entries out whose keys it gives up, and no others. -/
theorem entries_expire (hnodup : t.keys.Nodup) : (t.expire now maxAge).2.entries =
    t.entries.filter fun e => !(t.expire now maxAge).1.contains e.1 := by
  refine List.filter_congr fun e he => ?_
  rw [Bool.not_inj_iff, Bool.eq_iff_iff, List.contains_iff_mem]
  constructor
  · intro hdue
    exact List.mem_map_of_mem (List.mem_filter.mpr ⟨he, hdue⟩)
  · intro hmem
    obtain ⟨e', hdue, hsame⟩ := List.mem_map.mp hmem
    obtain ⟨he', hdue⟩ := List.mem_filter.mp hdue
    rwa [List.inj_on_of_nodup_map hnodup he he' hsame.symm]

/-- Expiring takes the keys out that it gives up, and no others. -/
theorem keys_expire (hnodup : t.keys.Nodup) :
    (t.expire now maxAge).2.keys = t.keys.filter (! (t.expire now maxAge).1.contains ·) := by
  rw [keys, t.entries_expire now maxAge hnodup, keys, List.filter_map]
  rfl

/-- An entry is what is known of its key. -/
theorem find?_of_mem {t : Tracked} {wait : Wait} (hnodup : t.keys.Nodup)
    (hmem : (t.key hash, wait) ∈ t.entries) : t.find? hash = some wait := by
  have hknown : t.find? hash ≠ none := by
    rw [Ne, find?_eq_none_iff, not_not]
    exact List.mem_map_of_mem hmem
  obtain ⟨other, hfind⟩ := Option.ne_none_iff_exists'.mp hknown
  have hsame := List.inj_on_of_nodup_map hnodup hmem (mem_of_find?_eq_some t hash hfind) rfl
  rw [hfind, (Prod.mk.inj hsame).2]

end Tracked

end VaultWatch
