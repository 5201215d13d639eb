import VaultWatch.Proofs.Step
import VaultWatch.Proofs.Watchlist

/-!
# Waits and their ends

Every wait begins with a call that tracks a transaction, and it ends at most once: an update is
produced when the transaction is judged while it is awaited, or when a sweep gives it up. The main
statement is `notices_le_tracks`: for no transaction have there ever been more updates than calls.

The invariant balances the books of one key. What has been spent (updates produced), what is about
to be spent (transactions a sweep has taken out and the reporter has not given up yet), and what may
still be spent (awaited entries) come to no more than the calls.
-/

namespace VaultWatch

/-! ### Awaited entries of a key -/

namespace Tracked

/-- The number of awaited entries under a key. -/
def waits (t : Tracked) (key : String) : Nat :=
  t.entries.countP fun e => t.key e.1 == key && e.2 != .confirmed

variable (t : Tracked) (now maxAge : Nat) (hash key : String)

/-- Tracking adds at most one awaited entry, and only under the key of the hash. -/
theorem waits_track_le :
    (t.track now hash).waits key ≤ t.waits key + if t.key hash == key then 1 else 0 := by
  have htake := (List.take_sublist t.capacity
    ((t.key hash, Wait.awaited now) :: without (t.key hash) t.entries)).countP_le
      (p := fun e => t.key e.1 == key && e.2 != .confirmed)
  have hrest := (List.filter_sublist (p := fun e => e.1 != t.key hash) (l := t.entries)).countP_le
    (p := fun e => t.key e.1 == key && e.2 != .confirmed)
  rw [List.countP_cons, key_key] at htake
  refine Nat.le_trans htake (Nat.add_le_add hrest ?_)
  cases t.key hash == key <;> simp

/-- A confirmation that says yes takes an awaited entry away; none adds one. -/
theorem waits_confirm_le :
    (t.confirm hash).2.waits key + (if (t.confirm hash).1 && t.key hash == key then 1 else 0) ≤
      t.waits key := by
  cases hfind : t.find? hash with
  | none =>
    rw [confirm_of_find?_eq_none t hash hfind]
    simp
  | some wait =>
    rw [confirm_of_find?_eq_some t hash hfind]
    -- the entry itself, and the entries beside it
    have hsplit := List.countP_eq_countP_filter_add t.entries
      (fun e => t.key e.1 == key && e.2 != .confirmed) (fun e => e.1 != t.key hash)
    have hself : (if wait != .confirmed && t.key hash == key then 1 else 0) ≤
        (t.entries.filter fun e => !(e.1 != t.key hash)).countP
          (fun e => t.key e.1 == key && e.2 != .confirmed) := by
      split
      · rename_i hyes
        simp only [Bool.and_eq_true] at hyes
        refine List.countP_pos_iff.mpr ⟨(t.key hash, wait), ?_, ?_⟩
        · exact List.mem_filter.mpr ⟨mem_of_find?_eq_some t hash hfind, by simp⟩
        · simp only [key_key, Bool.and_eq_true]
          exact ⟨hyes.2, hyes.1⟩
      · exact Nat.zero_le _
    have hfront : ((t.key hash, Wait.confirmed) :: without (t.key hash) t.entries).countP
        (fun e => t.key e.1 == key && e.2 != .confirmed) =
          (without (t.key hash) t.entries).countP
            (fun e => t.key e.1 == key && e.2 != .confirmed) :=
      List.countP_cons_of_neg (by simp)
    calc _ = (without (t.key hash) t.entries).countP
              (fun e => t.key e.1 == key && e.2 != .confirmed) +
            (if wait != .confirmed && t.key hash == key then 1 else 0) :=
          congrArg (· + _) hfront
      _ ≤ _ := Nat.add_le_add_left hself _
      _ = t.waits key := hsplit.symm

/-- A sweep takes out what it gives up. -/
theorem waits_expire :
    (t.expire now maxAge).2.waits key + (t.expire now maxAge).1.countP (t.key · == key) =
      t.waits key := by
  have hsplit := List.countP_eq_countP_filter_add t.entries
    (fun e => t.key e.1 == key && e.2 != .confirmed) (fun e => !overdue now maxAge e)
  have hgiven : (t.expire now maxAge).1.countP (t.key · == key) =
      (t.entries.filter fun e => !!overdue now maxAge e).countP
        (fun e => t.key e.1 == key && e.2 != .confirmed) := by
    simp only [expire, Bool.not_not, List.countP_map, List.countP_filter]
    refine List.countP_congr fun e _ => ?_
    obtain ⟨k, wait⟩ := e
    cases wait <;> simp [overdue]
  rw [hgiven]
  exact hsplit.symm

end Tracked

/-! ### What a step means for waits -/

/-- The fact says nothing about a wait. -/
def Fact.isQuiet : Fact → Bool
  | .judged .. | .noticed _ | .tracked .. | .swept .. => false
  | _ => true

theorem Fact.notice?_eq_none {f : Fact} (h : f.isQuiet = true) : f.notice? = none := by
  cases f <;> first | rfl | cases h

theorem Fact.trackedHash?_eq_none {f : Fact} (h : f.isQuiet = true) : f.trackedHash? = none := by
  cases f <;> first | rfl | cases h

/-- The transactions that a sweep has taken out and that are to be given up next. -/
def Reporter.overdue (r : Reporter) : List String :=
  match r.stage with
  | .sweeping overdue => overdue
  | _ => []

namespace Watcher

/-- A judgement confirms the hash of the result. -/
theorem tracked_judge (w : Watcher) (hub : Hub) (batch : PartBatch) (result : ResolvedTx)
    (rest : List ResolvedTx) : (w.judge hub batch result rest).1.watchlist.tracked =
      (w.watchlist.tracked.confirm result.tx.hash).2 :=
  w.watchlist.judge_tracked result

/-- What a step means for waits: one is begun, a result is judged, a sweep takes out what is
overdue, one of those taken out is given up, or nothing. -/
inductive Turns (w : Watcher) (hub : Hub) : List Fact → Watcher → Prop where
  | track {hash : String} :
      Turns w hub [.tracked w.watchlist hub.now hash] (w.track hub.now hash)
  | judge {batch : PartBatch} {result : ResolvedTx} {rest : List ResolvedTx}
      (hstage : w.reporter.stage = .judging batch) :
      Turns w hub
        (.judged w.watchlist batch.height batch.blockHash result ::
          ((w.updateFor batch.height result.tx (w.watchlist.judge result).1).map
            Fact.noticed).toList)
        (w.judge hub batch result rest).1
  | sweep (hstage : w.reporter.stage = .waiting) :
      Turns w hub [.swept w.watchlist hub.now w.settings.trackTimeout] (w.sweep hub)
  | giveUp {hash : String} {rest : List String}
      (hstage : w.reporter.stage = .sweeping (hash :: rest)) :
      Turns w hub [.noticed (w.timeoutUpdate hash)] (w.giveUp hub hash rest).1
  | nothing {facts : List Fact} {w' : Watcher} (hquiet : ∀ f ∈ facts, f.isQuiet = true)
      (htracked : w'.watchlist.tracked = w.watchlist.tracked)
      (hoverdue : w'.reporter.overdue = w.reporter.overdue) : Turns w hub facts w'

theorem Reports.turns {w w' : Watcher} {hub hub' : Hub} {facts : List Fact}
    (h : w.Reports hub facts w' hub') : w.Turns hub facts w' := by
  cases h with
  | judge hstage _ _ => exact .judge hstage
  | sweep hstage _ _ => exact .sweep hstage
  | giveUp hstage _ => exact .giveUp hstage
  | conclude hstage _ _ =>
    refine .nothing (by simp [Fact.isQuiet]) ?_ ?_
    · unfold Watcher.conclude
      split <;> rfl
    · unfold Watcher.conclude
      split <;> simp only [Reporter.overdue, hstage]
  | begin hstage _ => exact .nothing (by simp) rfl (by simp only [Reporter.overdue, hstage])
  | fail hstage _ =>
    exact .nothing (by simp) rfl (by simp only [Reporter.overdue, hstage]; rfl)
  | take hstage _ _ =>
    exact .nothing (by simp [Fact.isQuiet]) rfl (by simp only [Reporter.overdue, hstage])
  | endSweep hstage _ => exact .nothing (by simp) rfl (by simp only [Reporter.overdue, hstage])
  | sendUpdate _ _ => exact .nothing (by simp) rfl rfl
  | loseUpdate _ _ => exact .nothing (by simp) rfl rfl
  | announce hstage _ =>
    exact .nothing (by simp [Fact.isQuiet]) rfl (by simp only [Reporter.overdue, hstage])
  | loseBlock hstage _ => exact .nothing (by simp) rfl (by simp only [Reporter.overdue, hstage])
  | stop hstage _ => exact .nothing (by simp) rfl (by simp only [Reporter.overdue, hstage]; rfl)

/-- Every step is of one of these kinds. -/
theorem Occurs.turns {w w' : Watcher} {hub hub' : Hub} {event : Event} {facts : List Fact}
    (h : w.Occurs hub event facts w' hub') : w.Turns hub facts w' := by
  cases h with
  | report h => exact h.turns
  | track => exact .track
  | fetch h => cases h <;> exact .nothing (by simp [Fact.isQuiet]) rfl rfl
  | select h => cases h <;> exact .nothing (by simp [Fact.isQuiet]) rfl rfl
  | resolve h => cases h <;> exact .nothing (by simp [Fact.isQuiet]) rfl rfl
  | refresh | switchVault | heardGasPrice | elsewhere | cancel =>
    exact .nothing (by simp) rfl rfl

/-- No step changes how letter case counts. -/
theorem Turns.foldCase_eq {w w' : Watcher} {hub : Hub} {facts : List Fact}
    (h : w.Turns hub facts w') :
    w'.watchlist.tracked.foldCase = w.watchlist.tracked.foldCase := by
  cases h with
  | track => exact w.watchlist.tracked.foldCase_track hub.now _
  | judge _ => rw [tracked_judge, Tracked.foldCase_confirm]
  | sweep _ => exact w.watchlist.tracked.foldCase_expire hub.now w.settings.trackTimeout
  | giveUp _ => rfl
  | nothing _ htracked _ => rw [htracked]

/-- No step changes the form in which hashes are kept. -/
theorem Turns.key_eq {w w' : Watcher} {hub : Hub} {facts : List Fact} (h : w.Turns hub facts w') :
    w'.watchlist.tracked.key = w.watchlist.tracked.key :=
  Tracked.key_eq_of_foldCase_eq h.foldCase_eq

end Watcher

/-! ### The books of a key -/

/-- A judgement produces an update for a key exactly when it confirms an awaited transaction. -/
theorem Watcher.countP_updateFor (w : Watcher) (height : UInt64) (result : ResolvedTx)
    (key : String) :
    ((w.updateFor height result.tx (w.watchlist.judge result).1).toList.countP
      (w.watchlist.tracked.key ·.txHash == key)) =
        if (w.watchlist.tracked.confirm result.tx.hash).1 &&
          w.watchlist.tracked.key result.tx.hash == key then 1 else 0 := by
  cases hyes : (w.watchlist.tracked.confirm result.tx.hash).1 with
  | true =>
    rw [(w.watchlist.judge_eq_outcome_iff result).mpr ⟨hyes, rfl⟩]
    exact List.countP_singleton
  | false =>
    cases hverdict : (w.watchlist.judge result).1 with
    | outcome ending =>
      rw [((w.watchlist.judge_eq_outcome_iff result).mp hverdict).1] at hyes
      cases hyes
    | reported => rfl
    | deposit tx => rfl
    | unrelated => rfl

namespace World

section Runs

variable (settings : ChainPlan) (codec : Codec) (pool : Pool) (vault : Option String) (hub : Hub)
  (events : List Event)

/-- Letter case counts the same at all times. -/
theorem foldCase_run :
    ((World.start settings codec pool vault hub).run events).watcher.watchlist.tracked.foldCase =
      settings.caseInsensitiveAddresses :=
  run_invariant (P := fun t => t.watcher.watchlist.tracked.foldCase =
      settings.caseInsensitiveAddresses) _ events rfl
    fun _ _ _ _ _ ht hoccurs => hoccurs.turns.foldCase_eq.trans ht

/-- Letter case counts the same for all watchlists that the record tells of. -/
theorem foldCase_eq_of_mem_facts {f g : Fact} {watchlist other : Watchlist}
    (hf : f ∈ ((World.start settings codec pool vault hub).run events).facts)
    (hg : g ∈ ((World.start settings codec pool vault hub).run events).facts)
    (hwatchlist : f.watchlist? = some watchlist) (hother : g.watchlist? = some other) :
    other.tracked.foldCase = watchlist.tracked.foldCase := by
  have hsettings : ∀ {f : Fact} {watchlist : Watchlist},
      f ∈ ((World.start settings codec pool vault hub).run events).facts →
      f.watchlist? = some watchlist →
        watchlist.tracked.foldCase = settings.caseInsensitiveAddresses := by
    intro f watchlist hmem htold
    obtain ⟨past, rest, hfacts⟩ := List.append_of_mem hmem
    obtain ⟨before, e, later, -, -, hcurrent⟩ :=
      exists_moment_of_watchlist hfacts (Nat.zero_le _) htold
    rw [← hcurrent]
    exact foldCase_run settings codec pool vault hub before
  exact (hsettings hg hother).trans (hsettings hf hwatchlist).symm

end Runs

variable {keyOf : String → String} {key : String}

/-- The books of a key are in balance: what has been spent, what a sweep is about to spend and what
may still be spent come to no more than the calls. -/
def Balanced (keyOf : String → String) (key : String) (s : World) : Prop :=
  s.notices.countP (keyOf ·.txHash == key) + s.watcher.reporter.overdue.countP (keyOf · == key) +
    s.watcher.watchlist.tracked.waits key ≤ s.tracks.countP (keyOf · == key)

theorem balanced_of_turns {t : World} {facts : List Fact} {w : Watcher} {hub : Hub}
    (h : t.watcher.Turns t.hub facts w) (ht : t.Balanced t.watcher.watchlist.tracked.key key) :
    Balanced t.watcher.watchlist.tracked.key key ⟨w, hub, t.facts ++ facts⟩ := by
  simp only [Balanced, notices, tracks, List.filterMap_append, List.countP_append] at ht ⊢
  cases h with
  | @track hash =>
    -- one more call, and at most one more awaited entry
    have hwaits : (t.watcher.track t.hub.now hash).watchlist.tracked.waits key ≤ _ :=
      t.watcher.watchlist.tracked.waits_track_le t.hub.now hash key
    have hoverdue : (t.watcher.track t.hub.now hash).reporter.overdue =
        t.watcher.reporter.overdue := rfl
    simp only [Fact.notice?, Fact.trackedHash?, hoverdue, List.filterMap_cons, List.filterMap_nil,
      List.countP_nil, List.countP_singleton]
    omega
  | @judge batch result rest hstage =>
    -- an update takes the place of the awaited entry that it is for
    have hwaits := t.watcher.watchlist.tracked.waits_confirm_le result.tx.hash key
    have hoverdue : (t.watcher.judge t.hub batch result rest).1.reporter.overdue =
        t.watcher.reporter.overdue := by
      simp only [Reporter.overdue, hstage]
      rfl
    have hspent := t.watcher.countP_updateFor batch.height result key
    have hnotices : ∀ update : Option TrackNotice,
        ((update.map Fact.noticed).toList.filterMap Fact.notice?) = update.toList := by
      intro update
      cases update <;> rfl
    have htracks : ∀ update : Option TrackNotice,
        ((update.map Fact.noticed).toList.filterMap Fact.trackedHash?) = [] := by
      intro update
      cases update <;> rfl
    simp only [Fact.notice?, Fact.trackedHash?, List.filterMap_cons, hnotices, htracks, hspent,
      Watcher.tracked_judge, hoverdue, List.countP_nil]
    omega
  | sweep hstage =>
    -- what the sweep takes out moves from one side of the books to the other
    have hwaits : (t.watcher.sweep t.hub).watchlist.tracked.waits key +
        (t.watcher.sweep t.hub).reporter.overdue.countP
          (t.watcher.watchlist.tracked.key · == key) = _ :=
      t.watcher.watchlist.tracked.waits_expire t.hub.now t.watcher.settings.trackTimeout key
    simp only [Fact.notice?, Fact.trackedHash?, List.filterMap_cons, List.filterMap_nil,
      List.countP_nil]
    omega
  | @giveUp hash rest hstage =>
    -- what was about to be spent is spent
    have hoverdue : t.watcher.reporter.overdue = hash :: rest := by
      simp only [Reporter.overdue, hstage]
    have hrest : (t.watcher.giveUp t.hub hash rest).1.reporter.overdue = rest := rfl
    have htracked : (t.watcher.giveUp t.hub hash rest).1.watchlist.tracked =
        t.watcher.watchlist.tracked := rfl
    rw [hoverdue, List.countP_cons] at ht
    simp only [Fact.notice?, Fact.trackedHash?, hrest, htracked, List.filterMap_cons,
      List.filterMap_nil, List.countP_nil, List.countP_singleton, Watcher.timeoutUpdate]
    omega
  | nothing hquiet htracked hoverdue =>
    rw [List.filterMap_eq_nil_iff.mpr fun f hf => Fact.notice?_eq_none (hquiet f hf),
      List.filterMap_eq_nil_iff.mpr fun f hf => Fact.trackedHash?_eq_none (hquiet f hf)]
    simp only [htracked, hoverdue]
    exact ht

/-- **No wait ends twice**: at every moment of every run, for every transaction, the updates
produced for it are no more than the calls that tracked it. -/
theorem notices_le_tracks (settings : ChainPlan) (codec : Codec) (pool : Pool)
    (vault : Option String) (hub : Hub) (events : List Event) (hash : String) :
    let s := (World.start settings codec pool vault hub).run events
    let keyOf := s.watcher.watchlist.tracked.key
    s.notices.countP (keyOf ·.txHash == keyOf hash) ≤ s.tracks.countP (keyOf · == keyOf hash) := by
  intro s keyOf
  have hbalanced : s.Balanced keyOf (keyOf hash) := by
    refine (run_invariant (P := fun t => ∀ key, t.Balanced t.watcher.watchlist.tracked.key key)
      _ events ?_ ?_ : _) (keyOf hash)
    · intro key
      exact Nat.le_refl 0
    · intro t e facts w hub ht hoccurs key
      change Balanced w.watchlist.tracked.key key _
      rw [hoccurs.turns.key_eq]
      exact balanced_of_turns hoccurs.turns (ht key)
  unfold Balanced at hbalanced
  omega

end World

end VaultWatch
