import VaultWatch.Proofs.Waits

/-!
# Endings

How waits end is told. What counts as confirmed has been the subject of an update that was not a
timeout (`exists_notice_of_confirmed`), and what is awaited stays so until there is an update for it
(`awaits_run`), unless it is pushed out of a full memory.
-/

namespace VaultWatch

/-! ### Room -/

namespace Tracked

variable (t : Tracked) (now maxAge : Nat) (hash : String)

/-- Tracking a transaction pushes another one out. -/
def evicts : Bool := decide (t.capacity < (without (t.key hash) t.entries).length + 1)

variable {t hash}

theorem length_lt_capacity (hroom : t.evicts hash = false) :
    (without (t.key hash) t.entries).length < t.capacity :=
  Nat.not_lt.mp (decide_eq_false_iff_not.mp hroom)

/-- With room enough everything that was there stays. -/
theorem entries_track (hroom : t.evicts hash = false) :
    (t.track now hash).entries = (t.key hash, .awaited now) :: without (t.key hash) t.entries :=
  List.take_of_length_le (length_lt_capacity hroom)

theorem find?_track_of_ne {other : String} (hroom : t.evicts hash = false)
    (hne : t.key other ≠ t.key hash) : (t.track now hash).find? other = t.find? other := by
  rw [find?, entries_track now hroom]
  change List.lookup (t.key other) (_ :: _) = List.lookup (t.key other) t.entries
  rw [List.lookup_cons, beq_eq_false_iff_ne.mpr hne]
  exact lookup_without_of_ne _ hne

end Tracked

/-- The fact tells that a transaction was pushed out of the memory. -/
def Fact.evicts : Fact → Bool
  | .tracked watchlist _ hash => watchlist.tracked.evicts hash
  | _ => false

/-! ### Confirmed transactions -/

/-- A new confirmed entry takes the place of an older one, or an update that is not a timeout tells
of it. -/
theorem Watcher.Turns.confirmed {w w' : Watcher} {hub : Hub} {facts : List Fact} {key : String}
    (h : w.Turns hub facts w') (hentry : (key, .confirmed) ∈ w'.watchlist.tracked.entries) :
    (key, .confirmed) ∈ w.watchlist.tracked.entries ∨
      ∃ notice ∈ facts.filterMap Fact.notice?,
        w.watchlist.tracked.key notice.txHash = key ∧ notice.result ≠ .timeout := by
  cases h with
  | track =>
    have hmem := List.mem_of_mem_take hentry
    rcases List.mem_cons.mp hmem with heq | hrest
    · cases heq
    · exact .inl (List.mem_filter.mp hrest).1
  | @judge batch result rest hstage =>
    rw [w.tracked_judge] at hentry
    cases hfind : w.watchlist.tracked.find? result.tx.hash with
    | none =>
      rw [Tracked.confirm_of_find?_eq_none _ _ hfind] at hentry
      exact .inl hentry
    | some wait =>
      rw [Tracked.confirm_of_find?_eq_some _ _ hfind] at hentry
      rcases List.mem_cons.mp hentry with heq | hrest
      · obtain rfl : key = w.watchlist.tracked.key result.tx.hash := congrArg Prod.fst heq
        cases wait with
        | confirmed => exact .inl (Tracked.mem_of_find?_eq_some _ _ hfind)
        | awaited since =>
          rw [w.watchlist.judge_of_awaited result hfind]
          refine .inr ⟨_, List.mem_cons_self, rfl, ?_⟩
          change Watchlist.ending result.receipt ≠ .timeout
          unfold Watchlist.ending
          split <;> nofun
      · exact .inl (List.mem_filter.mp hrest).1
  | sweep _ => exact .inl (List.mem_filter.mp hentry).1
  | giveUp _ => exact .inl hentry
  | nothing _ htracked _ => exact .inl (htracked ▸ hentry)

/-! ### Awaited transactions -/

namespace Watcher

/-- The end of the wait for a transaction is still to be told: the transaction is awaited, or a
sweep has taken it out and has not given it up yet. -/
def Awaits (w : Watcher) (hash : String) : Prop :=
  (∃ since, w.watchlist.tracked.find? hash = some (.awaited since)) ∨
    w.watchlist.tracked.key hash ∈ w.reporter.overdue

theorem Awaits.exists_since {w : Watcher} {hash : String} (h : w.Awaits hash)
    (hidle : w.reporter.overdue = []) :
    ∃ since, w.watchlist.tracked.find? hash = some (.awaited since) := by
  rw [Awaits, hidle, or_iff_left List.not_mem_nil] at h
  exact h

/-- With room enough a wait goes on until there is an update for it. -/
theorem Turns.awaits {w w' : Watcher} {hub : Hub} {facts : List Fact} {hash : String}
    (h : w.Turns hub facts w') (hroom : ∀ f ∈ facts, f.evicts = false) (hwait : w.Awaits hash) :
    w'.Awaits hash ∨ ∃ notice ∈ facts.filterMap Fact.notice?,
      w.watchlist.tracked.key notice.txHash = w.watchlist.tracked.key hash := by
  cases h with
  | @track other =>
    have hroom' : w.watchlist.tracked.evicts other = false := hroom _ List.mem_cons_self
    refine .inl ?_
    rcases hwait with ⟨since, hfind⟩ | hdue
    · by_cases hkey : w.watchlist.tracked.key hash = w.watchlist.tracked.key other
      · have hpos : 0 < w.watchlist.tracked.capacity :=
          Nat.zero_lt_of_lt (Tracked.length_lt_capacity hroom')
        exact .inl ⟨hub.now, Tracked.find?_track_of_key_eq hub.now hpos hkey⟩
      · refine .inl ⟨since, ?_⟩
        rw [← hfind]
        exact Tracked.find?_track_of_ne hub.now hroom' hkey
    · exact .inr hdue
  | @judge batch result rest hstage =>
    have hnone : w.reporter.overdue = [] := by simp only [Reporter.overdue, hstage]
    obtain ⟨since, hfind⟩ := hwait.exists_since hnone
    by_cases hkey : w.watchlist.tracked.key hash = w.watchlist.tracked.key result.tx.hash
    · -- the wait ends here
      have hresult : w.watchlist.tracked.find? result.tx.hash = some (.awaited since) := by
        rw [← hfind, Tracked.find?, Tracked.find?, hkey]
      rw [w.watchlist.judge_of_awaited result hresult]
      exact .inr ⟨_, List.mem_cons_self, hkey.symm⟩
    · refine .inl (.inl ⟨since, ?_⟩)
      rw [w.tracked_judge, w.watchlist.tracked.find?_confirm_of_ne hkey, hfind]
  | sweep hstage =>
    have hnone : w.reporter.overdue = [] := by simp only [Reporter.overdue, hstage]
    obtain ⟨since, hfind⟩ := hwait.exists_since hnone
    refine .inl ?_
    cases hdue : Tracked.overdue hub.now w.settings.trackTimeout
      (w.watchlist.tracked.key hash, .awaited since) with
    | true => exact .inr (Tracked.mem_expire _ _ hfind hdue)
    | false => exact .inl ⟨since, Tracked.find?_expire _ _ hfind hdue⟩
  | @giveUp given rest hstage =>
    rcases hwait with hfind | hdue
    · exact .inl (.inl hfind)
    · simp only [Reporter.overdue, hstage, List.mem_cons] at hdue
      rcases hdue with rfl | hrest
      · -- the update is for the key itself, which is its own key
        exact .inr ⟨_, List.mem_cons_self, w.watchlist.tracked.key_key hash⟩
      · exact .inl (.inr hrest)
  | nothing _ htracked hoverdue =>
    refine .inl ?_
    rw [Awaits, htracked, hoverdue]
    exact hwait

end Watcher

namespace World

/-- **What counts as confirmed has been told** in an update that was not a timeout. -/
theorem exists_notice_of_confirmed (settings : ChainPlan) (codec : Codec) (pool : Pool)
    (vault : Option String) (hub : Hub) (events : List Event) :
    let s := (World.start settings codec pool vault hub).run events
    ∀ key, (key, .confirmed) ∈ s.watcher.watchlist.tracked.entries → ∃ notice ∈ s.notices,
      s.watcher.watchlist.tracked.key notice.txHash = key ∧ notice.result ≠ .timeout := by
  refine run_invariant (P := fun t =>
    ∀ key, (key, .confirmed) ∈ t.watcher.watchlist.tracked.entries → ∃ notice ∈ t.notices,
      t.watcher.watchlist.tracked.key notice.txHash = key ∧ notice.result ≠ .timeout)
    (World.start settings codec pool vault hub) events (fun _ h => absurd h List.not_mem_nil) ?_
  intro t e facts w hub ht hoccurs key hentry
  rw [notices, List.filterMap_append, hoccurs.turns.key_eq]
  rcases hoccurs.turns.confirmed hentry with hold | ⟨notice, hnotice, htold⟩
  · obtain ⟨notice, hnotice, htold⟩ := ht key hold
    exact ⟨notice, List.mem_append_left _ hnotice, htold⟩
  · exact ⟨notice, List.mem_append_right _ hnotice, htold⟩

/-- **What is awaited stays so until its end is told**, in a run that pushes nothing out of the
memory. -/
theorem awaits_run (t : World) (events : List Event) {hash : String}
    (hwait : t.watcher.Awaits hash) (hroom : ∀ f ∈ (t.run events).facts, f.evicts = false) :
    ∃ later, (t.run events).facts = t.facts ++ later ∧
      ((t.run events).watcher.Awaits hash ∨ ∃ notice ∈ later.filterMap Fact.notice?,
        t.watcher.watchlist.tracked.key notice.txHash = t.watcher.watchlist.tracked.key hash) := by
  refine run_invariant (P := fun u =>
    u.watcher.watchlist.tracked.key = t.watcher.watchlist.tracked.key ∧
      ((∀ f ∈ u.facts, f.evicts = false) → ∃ later, u.facts = t.facts ++ later ∧
        (u.watcher.Awaits hash ∨ ∃ notice ∈ later.filterMap Fact.notice?,
          t.watcher.watchlist.tracked.key notice.txHash =
            t.watcher.watchlist.tracked.key hash)))
    t events ⟨rfl, fun _ => ⟨[], (List.append_nil _).symm, .inl hwait⟩⟩ ?_ |>.2 hroom
  rintro u e facts w hub ⟨hkey, hu⟩ hoccurs
  refine ⟨hoccurs.turns.key_eq.trans hkey, fun hroom => ?_⟩
  obtain ⟨later, hlater, hstill⟩ := hu fun f hf => hroom f (List.mem_append_left _ hf)
  refine ⟨later ++ facts, by rw [← List.append_assoc, ← hlater], ?_⟩
  rw [List.filterMap_append]
  rcases hstill with hstill | ⟨notice, hnotice, htold⟩
  · rcases hoccurs.turns.awaits (fun f hf => hroom f (List.mem_append_right _ hf)) hstill with
      hstill | ⟨notice, hnotice, htold⟩
    · exact .inl hstill
    · rw [hkey] at htold
      exact .inr ⟨notice, List.mem_append_right _ hnotice, htold⟩
  · exact .inr ⟨notice, List.mem_append_left _ hnotice, htold⟩

/-- A wait that is over has been told to be, in a run that pushes nothing out of the memory. -/
theorem exists_notice_of_unknown (t : World) (events : List Event) {hash : String}
    (hwait : t.watcher.watchlist.tracked.contains hash = true)
    (hunknown : (t.run events).watcher.watchlist.tracked.find? hash = none)
    (hidle : (t.run events).watcher.reporter.overdue = [])
    (hroom : ∀ f ∈ (t.run events).facts, f.evicts = false) :
    ∃ later, (t.run events).facts = t.facts ++ later ∧ ∃ notice ∈ later.filterMap Fact.notice?,
      t.watcher.watchlist.tracked.key notice.txHash =
        t.watcher.watchlist.tracked.key hash := by
  have hawaits : t.watcher.Awaits hash := .inl ((Tracked.contains_iff _ _).mp hwait)
  obtain ⟨later, hlater, hstill | htold⟩ := awaits_run t events hawaits hroom
  · obtain ⟨since, hfind⟩ := hstill.exists_since hidle
    rw [hunknown] at hfind
    cases hfind
  · exact ⟨later, hlater, htold⟩

end World

end VaultWatch
