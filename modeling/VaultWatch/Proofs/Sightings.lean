import VaultWatch.Proofs.Batches
import VaultWatch.Proofs.Tracked.Recency
import VaultWatch.Proofs.Waits

/-!
# Sightings of tracked transactions

A transaction that is tracked is never reported as new. A result becomes a deposit only while its
hash is neither awaited nor confirmed, and a hash that was tracked is one or the other until a sweep
gives it up or as many other hashes as there is room for have been touched after it.

The record tells the touches: a call that tracks a transaction touches its key, and so does a
judgement that finds it. `Fact.history` reads them off, newest first, and `World.Remembers` says
that the keys of a watcher are what this history leaves.
-/

namespace VaultWatch

open Recency

/-! ### Marks in the record -/

namespace Fact

/-- The keys that a fact tells to be given up. -/
def givenUp : Fact → List String
  | swept watchlist now maxAge => (watchlist.tracked.expire now maxAge).1
  | _ => []

/-- The key that a fact tells to be touched: one that is tracked, or found by a judgement. -/
def touched? : Fact → Option String
  | tracked watchlist _ hash => some (watchlist.tracked.key hash)
  | judged watchlist _ _ result =>
    (watchlist.tracked.find? result.tx.hash).map fun _ => watchlist.tracked.key result.tx.hash
  | _ => none

/-- What a fact tells of keys. -/
def marks (f : Fact) : List Mark := f.givenUp.map .givenUp ++ (f.touched?.map .touched).toList

/-- What some facts tell of keys, the newest first. -/
def history (facts : List Fact) : List Mark := facts.reverse.flatMap marks

theorem history_append (facts later : List Fact) :
    history (facts ++ later) = history later ++ history facts := by
  simp only [history, List.reverse_append, List.flatMap_append]

theorem history_singleton (f : Fact) : history [f] = f.marks :=
  List.flatMap_singleton _ _

/-- Marks of keys given up come from facts that tell of it. -/
theorem mem_givenUp_of_mem_history {facts : List Fact} {key : String}
    (h : .givenUp key ∈ history facts) : ∃ f ∈ facts, key ∈ f.givenUp := by
  obtain ⟨f, hf, hmark⟩ := List.mem_flatMap.mp h
  refine ⟨f, List.mem_reverse.mp hf, ?_⟩
  rcases List.mem_append.mp hmark with hgone | htouch
  · obtain ⟨other, hother, heq⟩ := List.mem_map.mp hgone
    rwa [← Mark.givenUp.inj heq]
  · cases h : f.touched? <;> simp [h] at htouch

theorem marks_eq_nil {f : Fact} (h : f.isQuiet = true) : f.marks = [] := by
  cases f <;> first | rfl | cases h

theorem history_eq_nil {facts : List Fact} (h : ∀ f ∈ facts, f.marks = []) :
    history facts = [] :=
  List.flatMap_eq_nil_iff.mpr fun f hf => h f (List.mem_reverse.mp hf)

end Fact

/-! ### The keys of a watcher -/

/-- Every step changes the keys the way its facts tell. -/
theorem Watcher.Turns.recent {w w' : Watcher} {hub : Hub} {facts : List Fact} {marks : List Mark}
    (h : w.Turns hub facts w')
    (hrecent : Recent w.watchlist.tracked.capacity marks w.watchlist.tracked.keys) :
    w'.watchlist.tracked.capacity = w.watchlist.tracked.capacity ∧
      Recent w.watchlist.tracked.capacity (Fact.history facts ++ marks)
        w'.watchlist.tracked.keys := by
  cases h with
  | @track hash =>
    refine ⟨rfl, ?_⟩
    have hkeys : (w.track hub.now hash).watchlist.tracked.keys = _ :=
      w.watchlist.tracked.keys_track hub.now hash
    rw [hkeys, Fact.history_singleton]
    exact .touch _ hrecent
  | @judge batch result rest hstage =>
    have hnotice : ∀ update : Option TrackNotice,
        Fact.history (update.map Fact.noticed).toList = [] := by
      intro update
      cases update <;> rfl
    rw [w.tracked_judge, ← List.singleton_append, Fact.history_append, hnotice, List.nil_append,
      Fact.history_singleton]
    refine ⟨w.watchlist.tracked.capacity_confirm _, ?_⟩
    cases hfind : w.watchlist.tracked.find? result.tx.hash with
    | none =>
      have hmarks : Fact.marks (.judged w.watchlist batch.height batch.blockHash result) = [] := by
        simp only [Fact.marks, Fact.givenUp, Fact.touched?, hfind]
        rfl
      rw [hmarks, Tracked.confirm_of_find?_eq_none _ _ hfind]
      exact hrecent
    | some wait =>
      have hmarks : Fact.marks (.judged w.watchlist batch.height batch.blockHash result) =
          [.touched (w.watchlist.tracked.key result.tx.hash)] := by
        simp only [Fact.marks, Fact.givenUp, Fact.touched?, hfind]
        rfl
      have hmem := Tracked.key_mem_keys hfind
      rw [hmarks, Tracked.keys_confirm _ _ hrecent.nodup hrecent.length_le hmem]
      exact .touch _ hrecent
  | sweep hstage =>
    refine ⟨rfl, ?_⟩
    have hkeys : (w.sweep hub).watchlist.tracked.keys = _ :=
      w.watchlist.tracked.keys_expire hub.now w.settings.trackTimeout hrecent.nodup
    have hmarks : Fact.marks (.swept w.watchlist hub.now w.settings.trackTimeout) =
        (w.watchlist.tracked.expire hub.now w.settings.trackTimeout).1.map .givenUp :=
      List.append_nil _
    rw [hkeys, Fact.history_singleton, hmarks]
    exact hrecent.giveUpAll _
  | giveUp hstage => exact ⟨rfl, hrecent⟩
  | nothing hquiet htracked hoverdue =>
    rw [htracked, Fact.history_eq_nil fun f hf => Fact.marks_eq_nil (hquiet f hf)]
    exact ⟨rfl, hrecent⟩

namespace World

section Runs

variable (settings : ChainPlan) (codec : Codec) (pool : Pool) (vault : Option String) (hub : Hub)
  (events : List Event)

/-- **Memory**: at every moment of every run the keys of the watcher are what the history of the
run leaves, with room for as many as the settings say, and for one at least. -/
theorem recent_run :
    let s := (World.start settings codec pool vault hub).run events
    Recent (max settings.trackedCapacity 1) (Fact.history s.facts)
      s.watcher.watchlist.tracked.keys := by
  have hrun : ((World.start settings codec pool vault hub).run
        events).watcher.watchlist.tracked.capacity = max settings.trackedCapacity 1 ∧
      Recent (max settings.trackedCapacity 1)
        (Fact.history ((World.start settings codec pool vault hub).run events).facts)
        ((World.start settings codec pool vault hub).run
          events).watcher.watchlist.tracked.keys := by
    refine run_invariant (P := fun t =>
      t.watcher.watchlist.tracked.capacity = max settings.trackedCapacity 1 ∧
        Recent (max settings.trackedCapacity 1) (Fact.history t.facts)
          t.watcher.watchlist.tracked.keys) _ events ⟨rfl, .empty⟩ ?_
    · rintro t e facts w hub ⟨hcapacity, hrecent⟩ hoccurs
      rw [← hcapacity] at hrecent
      obtain ⟨hsame, hkeys⟩ := hoccurs.turns.recent hrecent
      rw [Fact.history_append, ← hcapacity]
      exact ⟨hsame, hkeys⟩
  exact hrun.2

/-- **Deposits are judgements**: every deposit of a batch comes from a judgement on a result from
its block. -/
theorem exists_judged_of_mem_concluded {block : DepositBlock} {tx : Deposit}
    (hblock : block ∈ ((World.start settings codec pool vault hub).run events).concluded)
    (htx : tx ∈ block.txs) :
    ∃ watchlist result, .judged watchlist block.blockHeight block.blockHash result ∈
        ((World.start settings codec pool vault hub).run events).facts ∧
      (watchlist.judge result).1 = .deposit tx := by
  have haccounts := reporter_accounts_run settings codec pool vault hub events
  have hmem : block ∈ digest settings.chain _ _ :=
    haccounts.concluded_append ▸ List.mem_append_left _ hblock
  obtain ⟨j, hj, hheight, hhash, hverdict⟩ :=
    exists_judgement_of_mem_digest ⟨_, haccounts.judged⟩ hmem htx
  obtain ⟨f, hf, hfact⟩ := List.mem_filterMap.mp hj
  cases f with
  | judged watchlist height blockHash result =>
    cases hfact
    cases hheight
    cases hhash
    exact ⟨watchlist, result, hf, hverdict⟩
  | _ => cases hfact

/-- A transaction that was tracked is known at a later judgement, unless a sweep has given it up in
between or as many other transactions as there is room for have been touched after it. -/
theorem find?_ne_none_of_tracked {before between after : List Fact}
    {watchlist₀ watchlist : Watchlist} {now : Nat} {hash blockHash : String} {height : UInt64}
    {result : ResolvedTx}
    (hfacts : ((World.start settings codec pool vault hub).run events).facts =
      before ++ .tracked watchlist₀ now hash :: between ++
        .judged watchlist height blockHash result :: after)
    (hkept : ∀ f ∈ between, watchlist.tracked.key hash ∉ f.givenUp)
    (hroom : (newer (watchlist.tracked.key hash) (Fact.history between)).dedup.length <
      max settings.trackedCapacity 1) : watchlist.tracked.find? hash ≠ none := by
  obtain ⟨past, e, later, -, hpast, hcurrent⟩ :=
    exists_moment_of_watchlist hfacts (Nat.zero_le _) rfl
  have hkeys := recent_run settings codec pool vault hub past
  dsimp only at hkeys
  rw [hpast, hcurrent] at hkeys
  have hform₀ : watchlist₀.tracked.key = watchlist.tracked.key :=
    Tracked.key_eq_of_foldCase_eq (foldCase_eq_of_mem_facts settings codec pool vault hub events
      (f := .judged watchlist height blockHash result) (g := .tracked watchlist₀ now hash)
      (by rw [hfacts]; simp) (by rw [hfacts]; simp) rfl rfl)
  have hmarks : Fact.history (before ++ .tracked watchlist₀ now hash :: between) =
      Fact.history between ++ .touched (watchlist.tracked.key hash) :: Fact.history before := by
    rw [← List.singleton_append, ← List.append_assoc, Fact.history_append, Fact.history_append,
      Fact.history_singleton, ← hform₀]
    rfl
  rw [hmarks] at hkeys
  have hlive := isLive_append_touched (Fact.history before)
    (mt Fact.mem_givenUp_of_mem_history (by simpa using hkept))
  have hcapacity : 0 < max settings.trackedCapacity 1 :=
    Nat.lt_of_lt_of_le Nat.zero_lt_one (Nat.le_max_right _ _)
  intro hunknown
  rw [Tracked.find?_eq_none_iff] at hunknown
  rcases hkeys.mem_or_le_newer hlive hcapacity with hmem | hfull
  · exact hunknown hmem
  · rw [newer_append_touched] at hfull
    exact Nat.not_le.mpr hroom hfull

end Runs

/-- **A tracked transaction is never reported as new.** Every matched block holds only results that
were judged to be deposits. Such a result was neither awaited nor confirmed when it was judged; and
once a transaction has been tracked no result for it is judged so, as long as no sweep has given it
up and the other transactions that were touched after it, since it was touched last, are fewer than
there is room for. -/
theorem tracked_is_not_deposit (settings : ChainPlan) (codec : Codec) (pool : Pool)
    (vault : Option String) (hub : Hub) (events : List Event) :
    let s := (World.start settings codec pool vault hub).run events
    (∀ block ∈ s.concluded ++ s.sent, ∀ tx ∈ block.txs, ∃ watchlist result,
      .judged watchlist block.blockHeight block.blockHash result ∈ s.facts ∧
        (watchlist.judge result).1 = .deposit tx) ∧
    (∀ watchlist height blockHash result tx,
      .judged watchlist height blockHash result ∈ s.facts →
      (watchlist.judge result).1 = .deposit tx →
      watchlist.tracked.find? result.tx.hash = none) ∧
    ∀ before watchlist₀ now hash between watchlist height blockHash result after,
      s.facts = before ++ .tracked watchlist₀ now hash :: between ++
        .judged watchlist height blockHash result :: after →
      watchlist.tracked.key hash = watchlist.tracked.key result.tx.hash →
      (∀ f ∈ between, watchlist.tracked.key hash ∉ f.givenUp) →
      (newer (watchlist.tracked.key hash) (Fact.history between)).dedup.length <
        max settings.trackedCapacity 1 →
      ∀ tx, (watchlist.judge result).1 ≠ .deposit tx := by
  intro s
  refine ⟨?_, ?_, ?_⟩
  · intro block hblock tx htx
    have hconcluded : block ∈ s.concluded := by
      rcases List.mem_append.mp hblock with h | h
      · exact h
      · exact sent_subset_concluded settings codec pool vault hub events h
    exact exists_judged_of_mem_concluded settings codec pool vault hub events hconcluded htx
  · intro watchlist height blockHash result tx _ hdeposit
    exact (watchlist.find?_of_judge_eq_deposit result hdeposit).1
  · intro before watchlist₀ now hash between watchlist height blockHash result after hfacts hkey
      hkept hroom tx hdeposit
    have hunknown := (watchlist.find?_of_judge_eq_deposit result hdeposit).1
    rw [Tracked.find?, ← hkey] at hunknown
    exact find?_ne_none_of_tracked settings codec pool vault hub events hfacts hkept hroom hunknown

end World

end VaultWatch
