import Mathlib.Data.List.Induction
import VaultWatch.Proofs.Tracked.Clocked

/-!
# Sweeps over tracked transactions

What a sweep gives up, and what it leaves. An awaited entry holds the time at which its key was last
tracked (`Clocked.dated_run`); so a sweep, which looks at these times, gives up what was last
tracked long enough ago. It takes out the keys that it has listed one after another, and since no
key is there twice, that leaves all other entries as they are and in their order.

The main statement is `Clocked.swept_run`.
-/

namespace VaultWatch.Tracked

open Recency

/-! ### Taking keys out -/

/-- When keys are taken out one after another, the entries under other keys are left. -/
theorem foldl_without (gone : List String) (entries : List (String × Wait)) :
    gone.foldl (fun entries key => without key entries) entries =
      entries.filter fun e => !gone.contains e.1 := by
  induction gone generalizing entries with
  | nil => exact (List.filter_eq_self.mpr fun _ _ => rfl).symm
  | cons key gone ih =>
    rw [List.foldl_cons, ih, without, List.filter_filter]
    refine List.filter_congr fun e _ => ?_
    rw [List.contains_cons, Bool.not_or, Bool.and_comm]
    rfl

/-- A second sweep at the same time gives up nothing. -/
theorem expire_expire (t : Tracked) (now maxAge : Nat) :
    (t.expire now maxAge).2.expire now maxAge = ([], (t.expire now maxAge).2) := by
  have hnone : (t.expire now maxAge).2.entries.filter (overdue now maxAge) = [] := by
    refine List.filter_eq_nil_iff.mpr fun e he => ?_
    simpa using (List.mem_filter.mp he).2
  have hall : (t.expire now maxAge).2.entries.filter (!overdue now maxAge ·) =
      (t.expire now maxAge).2.entries :=
    List.filter_eq_self.mpr fun e he => (List.mem_filter.mp he).2
  rw [expire, hnone, hall]
  rfl

namespace Clocked

variable {s : Clocked} {op : Op} {log : List (String × Nat)} {past : List Mark}

/-! ### Times of tracking -/

/-- What an operation tracks, and when. -/
def tracking (s : Clocked) : Op → List (String × Nat)
  | .track hash => [(s.tracked.key hash, s.now)]
  | .contains _ | .wasConfirmed _ | .confirm _ | .expire _ | .advance _ => []

/-- What some operations track, and when; the newest first. -/
def trackings (s : Clocked) : List Op → List (String × Nat)
  | [] => []
  | op :: ops => (s.step op).trackings ops ++ s.tracking op

theorem trackings_concat (s : Clocked) (ops : List Op) (op : Op) :
    s.trackings (ops ++ [op]) = (s.run ops).tracking op ++ s.trackings ops := by
  induction ops generalizing s with
  | nil => exact (List.append_nil _).symm
  | cons first ops ih =>
    rw [List.cons_append, trackings, ih, trackings, List.append_assoc]
    rfl

/-- An entry after an operation was there before, unless the operation has tracked or confirmed
it. -/
theorem mem_entries_step {e : String × Wait} (h : e ∈ (s.step op).tracked.entries) :
    (e ∈ s.tracked.entries ∧ ∀ hash, op = .track hash → s.tracked.key hash ≠ e.1) ∨
      (∃ hash, op = .track hash ∧ e = (s.tracked.key hash, .awaited s.now)) ∨
      ∃ hash, op = .confirm hash ∧ e = (s.tracked.key hash, .confirmed) := by
  cases op with
  | track hash =>
    rcases List.mem_cons.mp (List.mem_of_mem_take h) with hnew | hold
    · exact .inr (.inl ⟨hash, rfl, hnew⟩)
    · obtain ⟨hmem, hother⟩ := List.mem_filter.mp hold
      refine .inl ⟨hmem, fun hash' heq => ?_⟩
      cases heq
      exact (bne_iff_ne.mp hother).symm
  | confirm hash =>
    cases hfind : s.tracked.find? hash with
    | none =>
      rw [step, confirm_of_find?_eq_none _ _ hfind] at h
      exact .inl ⟨h, fun _ heq => by cases heq⟩
    | some wait =>
      rw [step, confirm_of_find?_eq_some _ _ hfind] at h
      rcases List.mem_cons.mp h with hnew | hold
      · exact .inr (.inr ⟨hash, rfl, hnew⟩)
      · exact .inl ⟨(List.mem_filter.mp hold).1, fun _ heq => by cases heq⟩
  | expire maxAge => exact .inl ⟨(List.mem_filter.mp h).1, fun _ heq => by cases heq⟩
  | contains hash | wasConfirmed hash | advance millis => exact .inl ⟨h, fun _ heq => by cases heq⟩

/-- The keys are in the form in which they are kept, and an awaited entry holds the time at which
its key was last tracked. -/
structure Dated (s : Clocked) (log : List (String × Nat)) : Prop where
  key : ∀ e ∈ s.tracked.entries, s.tracked.key e.1 = e.1
  since : ∀ key since, (key, .awaited since) ∈ s.tracked.entries → log.lookup key = some since
  past : ∀ key since, (key, .awaited since) ∈ s.tracked.entries → since ≤ s.now

/-- Time does not go back. -/
theorem now_le_step (s : Clocked) (op : Op) : s.now ≤ (s.step op).now := by
  cases op with
  | advance millis => exact Nat.le_add_right s.now millis
  | _ => exact Nat.le_refl _

theorem Dated.step (h : s.Dated log) (op : Op) : (s.step op).Dated (s.tracking op ++ log) where
  key e he := by
    rw [key_eq_of_foldCase_eq (s.foldCase_step op)]
    rcases mem_entries_step he with ⟨hold, -⟩ | ⟨hash, -, rfl⟩ | ⟨hash, -, rfl⟩
    · exact h.key e hold
    · exact s.tracked.key_key hash
    · exact s.tracked.key_key hash
  since key since he := by
    rcases mem_entries_step he with ⟨hold, hother⟩ | ⟨hash, rfl, heq⟩ | ⟨hash, rfl, heq⟩
    · have hskip : (s.tracking op).lookup key = none := by
        cases op with
        | track hash =>
          rw [tracking, List.lookup_cons, beq_eq_false_iff_ne.mpr (hother hash rfl).symm]
          rfl
        | _ => rfl
      rw [List.lookup_append, hskip, Option.none_or]
      exact h.since key since hold
    · cases heq
      exact List.lookup_cons_self
    · cases heq
  past key since he := by
    rcases mem_entries_step he with ⟨hold, -⟩ | ⟨hash, rfl, heq⟩ | ⟨hash, -, heq⟩
    · exact Nat.le_trans (h.past key since hold) (s.now_le_step op)
    · cases heq
      exact Nat.le_refl _
    · cases heq

/-- **Times**: after any operations an awaited entry holds the time at which its key was last
tracked. -/
theorem dated_run (capacity : Nat) (foldCase : Bool) (ops : List Op) :
    ((start capacity foldCase).run ops).Dated ((start capacity foldCase).trackings ops) := by
  induction ops using List.reverseRecOn with
  | nil =>
    have hnone : (start capacity foldCase).tracked.entries = [] := rfl
    constructor <;> simp [hnone]
  | append_singleton ops op ih =>
    rw [run_append, trackings_concat]
    exact ih.step op

/-! ### One sweep -/

/-- What a sweep gives up was awaited, and was last tracked so long ago; and all of that is given
up. -/
theorem Dated.mem_expire_iff (h : s.Dated log) (hnodup : s.tracked.keys.Nodup) (maxAge : Nat)
    (key : String) : key ∈ (s.tracked.expire s.now maxAge).1 ↔
      s.tracked.key key = key ∧ s.tracked.contains key = true ∧
        ∃ since, log.lookup key = some since ∧ since + maxAge ≤ s.now := by
  constructor
  · intro hgone
    obtain ⟨⟨key, wait⟩, hfilter, rfl⟩ := List.mem_map.mp hgone
    obtain ⟨hmem, hdue⟩ := List.mem_filter.mp hfilter
    have hkey : s.tracked.key key = key := h.key (key, wait) hmem
    cases wait with
    | confirmed => cases hdue
    | awaited since =>
      have hfind : s.tracked.find? key = some (.awaited since) :=
        find?_of_mem key hnodup (by rwa [hkey])
      have hage : maxAge ≤ s.now - since := of_decide_eq_true hdue
      have hpast : since ≤ s.now := h.past key since hmem
      exact ⟨hkey, (s.tracked.contains_iff key).mpr ⟨since, hfind⟩, since, h.since key since hmem,
        by omega⟩
  · rintro ⟨hkey, hawaited, since, hlast, hage⟩
    obtain ⟨since', hfind⟩ := (s.tracked.contains_iff key).mp hawaited
    have hmem := mem_of_find?_eq_some _ _ hfind
    rw [hkey] at hmem
    obtain rfl : since' = since := Option.some.inj ((h.since key since' hmem).symm.trans hlast)
    have hdue : overdue s.now maxAge (s.tracked.key key, .awaited since') = true :=
      decide_eq_true (by omega)
    rw [← hkey]
    exact mem_expire s.now maxAge hfind hdue

/-- What is still awaited after a sweep was tracked since. -/
theorem Dated.young (h : s.Dated log) {maxAge : Nat} {hash : String}
    (hleft : (s.tracked.expire s.now maxAge).2.contains hash = true) :
    ∃ since, log.lookup (s.tracked.key hash) = some since ∧ s.now < since + maxAge := by
  obtain ⟨since, hfind⟩ := (contains_iff _ hash).mp hleft
  obtain ⟨hmem, hyoung⟩ := List.mem_filter.mp (mem_of_find?_eq_some _ _ hfind)
  have hpast : since ≤ s.now := h.past _ since hmem
  have hage : ¬ maxAge ≤ s.now - since := by simpa [overdue] using hyoung
  exact ⟨since, h.since _ since hmem, by omega⟩

/-- A sweep over tracked transactions, when these marks and these trackings have led to them. -/
structure Swept (s : Clocked) (past : List Mark) (log : List (String × Nat)) (maxAge : Nat) :
    Prop where
  /-- It gives up the keys that are awaited and were last tracked so long ago. -/
  mem_iff : ∀ key, key ∈ (s.tracked.expire s.now maxAge).1 ↔
    s.tracked.key key = key ∧ s.tracked.contains key = true ∧
      ∃ since, log.lookup key = some since ∧ since + maxAge ≤ s.now
  /-- Each of them is listed once, and before those that were touched earlier. -/
  nodup : (s.tracked.expire s.now maxAge).1.Nodup
  recent : (s.tracked.expire s.now maxAge).1.Pairwise fun key later => key ∈ newer later past
  /-- The entries under these keys are taken out; all others stay as they are and in their order. -/
  rest : (s.tracked.expire s.now maxAge).2 = { s.tracked with
    entries := s.tracked.entries.filter fun e => !(s.tracked.expire s.now maxAge).1.contains e.1 }
  /-- The same is left when the keys are taken out one after another. -/
  popped : (s.tracked.expire s.now maxAge).2.entries = (s.tracked.expire s.now maxAge).1.foldl
    (fun entries key => without key entries) s.tracked.entries
  /-- Whatever is awaited afterwards was tracked since. -/
  young : ∀ hash, (s.tracked.expire s.now maxAge).2.contains hash = true →
    ∃ since, log.lookup (s.tracked.key hash) = some since ∧ s.now < since + maxAge
  /-- Another sweep at once gives up nothing. -/
  again : (s.tracked.expire s.now maxAge).2.expire s.now maxAge =
    ([], (s.tracked.expire s.now maxAge).2)

/-- **Sweeps**: after any operations a sweep gives up exactly the transactions that are awaited and
were last tracked the given age ago or longer, each once and the one touched last in front; it
leaves all others as they are, so that none is left that is as old, and a second sweep finds
nothing. -/
theorem swept_run (capacity : Nat) (foldCase : Bool) (ops : List Op) (maxAge : Nat) :
    ((start capacity foldCase).run ops).Swept ((start capacity foldCase).history ops)
      ((start capacity foldCase).trackings ops) maxAge := by
  have hrecent := recent_run capacity foldCase ops
  have hdated := dated_run capacity foldCase ops
  generalize (start capacity foldCase).run ops = s at hrecent hdated
  have hentries := s.tracked.entries_expire s.now maxAge hrecent.nodup
  have hsublist : (s.tracked.expire s.now maxAge).1.Sublist s.tracked.keys :=
    List.filter_sublist.map _
  exact {
    mem_iff := hdated.mem_expire_iff hrecent.nodup maxAge
    nodup := hsublist.nodup hrecent.nodup
    recent := hrecent.pairwise_newer.sublist hsublist
    rest := by rw [← hentries]; rfl
    popped := by rw [hentries, foldl_without]
    young := fun hash hleft => hdated.young hleft
    again := expire_expire _ _ _ }

end Clocked

end VaultWatch.Tracked
