import VaultWatch.Proofs.Tracked.Recency

/-!
# Tracked transactions with a clock

Operations on tracked transactions in any order, with time passing between them. What they do to the
keys is told by marks: tracking touches a key, and so does a confirmation that finds one; a sweep
gives up the keys that it returns; queries and time leave no mark. `Clocked.history` collects the
marks of a run, newest first.

Main statements: the keys are at all times what the history of the run leaves
(`Clocked.recent_run`), and an operation that does not end a wait leaves it alone as long as the key
has fewer rivals than there is room for (`Clocked.contains_step`).
-/

namespace VaultWatch.Tracked

open Recency

/-- An operation on tracked transactions, or time that passes. -/
inductive Op where
  | track (hash : String)
  | contains (hash : String)
  | wasConfirmed (hash : String)
  | confirm (hash : String)
  | expire (maxAge : Nat)
  | advance (millis : Nat)
  deriving DecidableEq, Repr

/-- Tracked transactions with a clock. -/
structure Clocked where
  now : Nat
  tracked : Tracked
  deriving DecidableEq, Repr

namespace Clocked

/-- Nothing is tracked yet. -/
def start (capacity : Nat) (foldCase : Bool) : Clocked := ⟨0, .empty capacity foldCase⟩

/-- The tracked transactions after an operation. -/
def step (s : Clocked) : Op → Clocked
  | .track hash => { s with tracked := s.tracked.track s.now hash }
  | .contains _ | .wasConfirmed _ => s
  | .confirm hash => { s with tracked := (s.tracked.confirm hash).2 }
  | .expire maxAge => { s with tracked := (s.tracked.expire s.now maxAge).2 }
  | .advance millis => { s with now := s.now + millis }

/-- The tracked transactions after some operations. -/
def run (s : Clocked) (ops : List Op) : Clocked := ops.foldl step s

/-- The keys whose wait an operation ends: the one of a hash that it confirms, or those that it
gives up. -/
def ended (s : Clocked) : Op → List String
  | .confirm hash => if (s.tracked.confirm hash).1 then [s.tracked.key hash] else []
  | .expire maxAge => (s.tracked.expire s.now maxAge).1
  | _ => []

/-- What an operation does to the keys. -/
def marks (s : Clocked) : Op → List Mark
  | .track hash => [.touched (s.tracked.key hash)]
  | .confirm hash =>
    if (s.tracked.find? hash).isSome then [.touched (s.tracked.key hash)] else []
  | .expire maxAge => (s.tracked.expire s.now maxAge).1.map .givenUp
  | _ => []

/-- What some operations do to the keys, the newest mark first. -/
def history (s : Clocked) : List Op → List Mark
  | [] => []
  | op :: ops => (s.step op).history ops ++ s.marks op

/-- The keys whose wait some operations end, one after the other. -/
def endings (s : Clocked) : List Op → List String
  | [] => []
  | op :: ops => s.ended op ++ (s.step op).endings ops

variable {s : Clocked} {op : Op} {past : List Mark}

@[simp] theorem run_nil (s : Clocked) : s.run [] = s := rfl

@[simp] theorem run_cons (s : Clocked) (op : Op) (ops : List Op) :
    s.run (op :: ops) = (s.step op).run ops := rfl

theorem run_append (s : Clocked) (ops later : List Op) :
    s.run (ops ++ later) = (s.run ops).run later :=
  List.foldl_append

theorem history_append (s : Clocked) (ops later : List Op) :
    s.history (ops ++ later) = (s.run ops).history later ++ s.history ops := by
  induction ops generalizing s with
  | nil => rw [List.nil_append, history, List.append_nil, run_nil]
  | cons op ops ih => rw [List.cons_append, history, ih, run_cons, history, List.append_assoc]

theorem endings_append (s : Clocked) (ops later : List Op) :
    s.endings (ops ++ later) = s.endings ops ++ (s.run ops).endings later := by
  induction ops generalizing s with
  | nil => rfl
  | cons op ops ih => rw [List.cons_append, endings, ih, endings, run_cons, List.append_assoc]

/-! ### What an operation keeps -/

theorem foldCase_step (s : Clocked) (op : Op) :
    (s.step op).tracked.foldCase = s.tracked.foldCase := by
  cases op with
  | confirm hash => exact s.tracked.foldCase_confirm hash
  | _ => rfl

theorem key_run (s : Clocked) (ops : List Op) : (s.run ops).tracked.key = s.tracked.key := by
  induction ops generalizing s with
  | nil => rfl
  | cons op ops ih => exact (ih _).trans (key_eq_of_foldCase_eq (s.foldCase_step op))

theorem capacity_step (s : Clocked) (op : Op) :
    (s.step op).tracked.capacity = s.tracked.capacity := by
  cases op with
  | confirm hash => exact s.tracked.capacity_confirm hash
  | _ => rfl

theorem capacity_run (s : Clocked) (ops : List Op) :
    (s.run ops).tracked.capacity = s.tracked.capacity := by
  induction ops generalizing s with
  | nil => rfl
  | cons op ops ih => exact (ih _).trans (s.capacity_step op)

/-- A mark that gives a key up comes from an operation that ends the wait for it. -/
theorem mem_ended_of_givenUp {key : String} (h : .givenUp key ∈ s.marks op) :
    key ∈ s.ended op := by
  cases op with
  | expire maxAge =>
    obtain ⟨other, hmem, heq⟩ := List.mem_map.mp h
    rwa [← Mark.givenUp.inj heq]
  | confirm hash =>
    rw [marks] at h
    split at h <;> simp at h
  | track hash => simp [marks] at h
  | contains hash | wasConfirmed hash | advance millis => cases h

theorem mem_endings_of_givenUp {key : String} {ops : List Op}
    (h : .givenUp key ∈ s.history ops) : key ∈ s.endings ops := by
  induction ops generalizing s with
  | nil => cases h
  | cons op ops ih =>
    rcases List.mem_append.mp h with hlater | hnow
    · exact List.mem_append_right _ (ih hlater)
    · exact List.mem_append_left _ (mem_ended_of_givenUp hnow)

/-! ### The keys along a run -/

/-- Every operation changes the keys the way its marks tell. -/
theorem recent_step (h : Recent s.tracked.capacity past s.tracked.keys) (op : Op) :
    Recent s.tracked.capacity (s.marks op ++ past) (s.step op).tracked.keys := by
  cases op with
  | track hash =>
    have hkeys : (s.step (.track hash)).tracked.keys = _ := s.tracked.keys_track s.now hash
    rw [hkeys]
    exact .touch _ h
  | confirm hash =>
    cases hfind : s.tracked.find? hash with
    | none =>
      rw [marks, step, confirm_of_find?_eq_none _ _ hfind, hfind]
      exact h
    | some wait =>
      have hmem := key_mem_keys hfind
      rw [marks, hfind, step, keys_confirm _ _ h.nodup h.length_le hmem]
      exact .touch _ h
  | expire maxAge =>
    have hkeys : (s.step (.expire maxAge)).tracked.keys = _ :=
      s.tracked.keys_expire s.now maxAge h.nodup
    rw [hkeys]
    exact h.giveUpAll _
  | contains hash | wasConfirmed hash | advance millis => exact h

theorem recent_of_run (s : Clocked) (past : List Mark)
    (h : Recent s.tracked.capacity past s.tracked.keys) (ops : List Op) :
    Recent s.tracked.capacity (s.history ops ++ past) (s.run ops).tracked.keys := by
  induction ops generalizing s past with
  | nil => exact h
  | cons op ops ih =>
    rw [history, List.append_assoc, ← s.capacity_step op]
    refine ih _ _ ?_
    rw [s.capacity_step op]
    exact recent_step h op

/-- **Memory**: after any operations the keys are what the marks of these leave, with room for as
many as the capacity says, and for one at least. -/
theorem recent_run (capacity : Nat) (foldCase : Bool) (ops : List Op) :
    Recent (max capacity 1) ((start capacity foldCase).history ops)
      ((start capacity foldCase).run ops).tracked.keys := by
  have h := recent_of_run (start capacity foldCase) [] .empty ops
  rwa [List.append_nil] at h

/-! ### Waits along a run -/

/-- **Waits**: an operation that does not end a wait leaves it alone, as long as the key has fewer
rivals after it than there is room for. -/
theorem contains_step {hash : String} (hrecent : Recent s.tracked.capacity past s.tracked.keys)
    (hwait : s.tracked.contains hash = true) (hopen : s.tracked.key hash ∉ s.ended op)
    (hroom : (rivals (s.tracked.key hash) (s.marks op ++ past)).length < s.tracked.capacity) :
    (s.step op).tracked.contains hash = true := by
  obtain ⟨since, hfind⟩ := (s.tracked.contains_iff hash).mp hwait
  cases op with
  | track other =>
    by_cases hkey : s.tracked.key hash = s.tracked.key other
    · -- the wait starts over
      have hpos : 0 < s.tracked.capacity := Nat.lt_of_le_of_lt (Nat.zero_le _) hroom
      exact (contains_iff _ _).mpr ⟨s.now, find?_track_of_key_eq s.now hpos hkey⟩
    · have hmem : s.tracked.key hash ∈ (s.tracked.track s.now other).keys := by
        rw [keys_track]
        exact (hrecent.mem_touch_iff (key_mem_keys hfind) (Ne.symm hkey)).mpr hroom
      refine (contains_iff _ _).mpr ⟨since, ?_⟩
      rw [← hfind]
      exact find?_track_of_mem_keys s.now hkey hmem
  | confirm other =>
    have hne : s.tracked.key hash ≠ s.tracked.key other := by
      intro hkey
      have hyes : (s.tracked.confirm other).1 = true := by
        rw [confirm_fst, contains, find?, ← hkey]
        exact hwait
      refine hopen ?_
      rw [ended, if_pos hyes, hkey]
      exact List.mem_singleton_self _
    refine (contains_iff _ _).mpr ⟨since, ?_⟩
    rw [← hfind]
    exact s.tracked.find?_confirm_of_ne hne
  | expire maxAge =>
    refine (contains_iff _ _).mpr ⟨since, find?_expire s.now maxAge hfind ?_⟩
    by_contra hdue
    exact hopen (mem_expire s.now maxAge hfind (by simpa using hdue))
  | contains other | wasConfirmed other | advance millis => exact hwait

end Clocked

end VaultWatch.Tracked
