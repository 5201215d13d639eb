import VaultWatch.Proofs.Run

/-!
# Steps of a watcher

What each task of a watcher can do, said once. `Fetches`, `Selects`, `Resolves` and `Reports` list
the moves of the four stages, each with its guard, the facts it makes known, and the watcher and the
hub it leads to; `Occurs` puts them together with the refresh loops and the calls. The main
statement is `occurs_of_happen?`: whatever happens is on the list. Invariants are proved by cases on
these relations and never look into the moves themselves.
-/

namespace VaultWatch

namespace Watcher

/-! ### The stages -/

/-- What the fetcher can do. -/
inductive Fetches (w : Watcher) (hub : Hub) : List Fact → Watcher → Hub → Prop where
  | heardHead {height : UInt64} (hstage : w.fetcher.stage = .askingHead) :
      Fetches w hub [.head height]
        { w with fetcher := { w.fetcher with stage := .askingBlock, cursor := height } } hub
  /-- The head is known, but no time can be given for the poll. -/
  | failHead {height : UInt64} (hstage : w.fetcher.stage = .askingHead)
      (hlimit : w.callLimit? = none) :
      Fetches w hub [.head height]
        { w with fetcher := { w.fetcher with stage := .stopped, cursor := height } } hub
  | missedHead {retryAt : Nat} (hstage : w.fetcher.stage = .askingHead) :
      Fetches w hub [] { w with fetcher := { w.fetcher with stage := .restingHead retryAt } } hub
  | askHead {wake : Nat} (hstage : w.fetcher.stage = .restingHead wake) :
      Fetches w hub [] { w with fetcher := w.fetcher.resumed .askingHead } hub
  | heardBlock {answer : Except CallError Block} {counters : Counters → Counters}
      (hstage : w.fetcher.stage = .askingBlock) :
      Fetches w hub [] { w with fetcher := w.fetcher.heardBlock hub.now answer }
        (hub.count counters)
  | deliver {block : Block} {blocks : Channel Block}
      (hstage : w.fetcher.stage = .delivering block) (hsend : w.blocks.send? block = some blocks) :
      Fetches w hub [.delivered w.fetcher.cursor block]
        { w with blocks, fetcher := w.fetcher.delivered hub.now } hub
  | askBlock {wake : Nat} (hstage : w.fetcher.stage = .pausing wake) :
      Fetches w hub [] { w with fetcher := w.fetcher.resumed .askingBlock } hub
  | stop (hgone : w.blocks.isOpen = false ∨ w.cancelled = true ∨ w.callLimit? = none) :
      Fetches w hub [] w.stopFetcher hub

/-- What the selector can do. -/
inductive Selects (w : Watcher) : List Fact → Watcher → Prop where
  | take {block : Block} {blocks : Channel Block} (hwait : w.selector = .waiting)
      (hreceive : w.blocks.receive? = some (block, blocks)) :
      Selects w [.selected w.watchlist block] (({ w with blocks }).select block)
  | queue {job : PendingBlock} {jobs : Channel PendingBlock} (hqueue : w.selector = .queueing job)
      (hsend : w.jobs.send? job = some jobs) :
      Selects w [] { w with jobs, selector := .waiting }
  | stop (hgone : (w.selector = .waiting ∧ w.fetcher.stage = .stopped) ∨ w.jobs.isOpen = false ∨
        w.cancelled = true) :
      Selects w [] w.stopSelector

/-- What the resolver can do. -/
inductive Resolves (w : Watcher) (hub : Hub) : List Fact → Watcher → Hub → Prop where
  | take {job : PendingBlock} {jobs : Channel PendingBlock} (hwait : w.resolver = .waiting)
      (hreceive : w.jobs.receive? = some (job, jobs)) :
      Resolves w hub [] { w with jobs, resolver := .begin job } hub
  /-- A job is taken, but no time can be given for the query. -/
  | failTake {job : PendingBlock} {jobs : Channel PendingBlock} (hwait : w.resolver = .waiting)
      (hreceive : w.jobs.receive? = some (job, jobs)) (hlimit : w.callLimit? = none) :
      Resolves w hub [] { w with jobs }.stopResolver hub
  | heard {job : Resolution} {answer : Except CallError Receipt} {retryAt : Nat}
      {counters : Counters → Counters} (hask : w.resolver = .asking job) :
      Resolves w hub [.answered job.current answer]
        { w with resolver := (job.heard w.settings.maxReceiptRetry retryAt answer).1 }
        (hub.count counters)
  /-- The candidate at hand is settled, but no time can be given for the next query. -/
  | failHeard {job : Resolution} {answer : Except CallError Receipt}
      {counters : Counters → Counters} (hask : w.resolver = .asking job)
      (hlimit : w.callLimit? = none) :
      Resolves w hub [.answered job.current answer] w.stopResolver (hub.count counters)
  | again {job : Resolution} {wake : Nat} (hpause : w.resolver = .pausing job wake) :
      Resolves w hub [] { w with resolver := .asking job } hub
  | emit {batch : ResolvedBlock} {batches : Channel ResolvedBlock}
      (hemit : w.resolver = .emitting batch) (hsend : w.batches.send? batch = some batches) :
      Resolves w hub [] { w with batches, resolver := .waiting } hub
  | stop (hgone : w.batches.isOpen = false ∨ w.cancelled = true ∨ w.callLimit? = none) :
      Resolves w hub [] w.stopResolver hub

/-- What the reporter can do. -/
inductive Reports (w : Watcher) (hub : Hub) : List Fact → Watcher → Hub → Prop where
  | begin (hstage : w.reporter.stage = .starting) (hpause : w.settings.sweepInterval ≠ 0) :
      Reports w hub []
        { w with reporter := { w.reporter with stage := .waiting, nextSweep := hub.now } } hub
  | fail (hstage : w.reporter.stage = .starting) (hpause : w.settings.sweepInterval = 0) :
      Reports w hub [] w.stopReporter hub
  | take {batch : ResolvedBlock} {batches : Channel ResolvedBlock}
      (hstage : w.reporter.stage = .waiting) (hidle : w.reporter.outgoing = none)
      (hreceive : w.batches.receive? = some (batch, batches)) :
      Reports w hub [.taken batch] { w with batches, reporter.stage := .judging (.start batch) } hub
  | judge {batch : PartBatch} {result : ResolvedTx} {rest : List ResolvedTx}
      (hstage : w.reporter.stage = .judging batch) (hidle : w.reporter.outgoing = none)
      (hrest : batch.rest = result :: rest) :
      Reports w hub
        (.judged w.watchlist batch.height batch.blockHash result ::
          ((w.updateFor batch.height result.tx (w.watchlist.judge result).1).map
            Fact.noticed).toList)
        (w.judge hub batch result rest).1 (w.judge hub batch result rest).2
  | conclude {batch : PartBatch} (hstage : w.reporter.stage = .judging batch)
      (hidle : w.reporter.outgoing = none) (hrest : batch.rest = []) :
      Reports w hub [.concluded (batch.matchedBlock w.chain)] (w.conclude hub batch).1
        (w.conclude hub batch).2
  | sweep (hstage : w.reporter.stage = .waiting) (hidle : w.reporter.outgoing = none)
      (hdue : w.reporter.nextSweep ≤ hub.now) :
      Reports w hub [.swept w.watchlist hub.now w.settings.trackTimeout] (w.sweep hub) hub
  | giveUp {hash : String} {rest : List String}
      (hstage : w.reporter.stage = .sweeping (hash :: rest)) (hidle : w.reporter.outgoing = none) :
      Reports w hub [.noticed (w.timeoutUpdate hash)] (w.giveUp hub hash rest).1
        (w.giveUp hub hash rest).2
  | endSweep (hstage : w.reporter.stage = .sweeping []) (hidle : w.reporter.outgoing = none) :
      Reports w hub [] { w with reporter.stage := .waiting } hub
  | sendUpdate {update : TrackNotice} {updates : Channel TrackNotice}
      (hupdate : w.reporter.outgoing = some update)
      (hsend : hub.updates.send? update = some updates) :
      Reports w hub [] { w with reporter.outgoing := none } { hub with updates }
  | loseUpdate {update : TrackNotice} (hupdate : w.reporter.outgoing = some update)
      (hgone : w.cancelled = true ∨ hub.updates.isOpen = false) :
      Reports w hub [] { w with reporter.outgoing := none } hub
  | announce {block : DepositBlock} {matched : Channel DepositBlock}
      (hstage : w.reporter.stage = .announcing block)
      (hsend : hub.matched.send? block = some matched) :
      Reports w hub [.sent block] { w with reporter.stage := .waiting } { hub with matched }
  | loseBlock {block : DepositBlock} (hstage : w.reporter.stage = .announcing block)
      (hgone : w.cancelled = true ∨ hub.matched.isOpen = false) :
      Reports w hub [] { w with reporter.stage := .waiting } hub
  | stop (hstage : w.reporter.stage = .waiting)
      (hgone : w.resolver = .stopped ∨ w.cancelled = true) :
      Reports w hub [] w.stopReporter hub

/-! ### All events -/

/-- What can happen to a watcher and its hub. -/
inductive Occurs (w : Watcher) (hub : Hub) : Event → List Fact → Watcher → Hub → Prop where
  | fetch {m : FetchMove} {facts : List Fact} {w' : Watcher} {hub' : Hub}
      (h : w.Fetches hub facts w' hub') : Occurs w hub (.move (.fetch m)) facts w' hub'
  | select {m : SelectMove} {facts : List Fact} {w' : Watcher} (h : w.Selects facts w') :
      Occurs w hub (.move (.select m)) facts w' hub
  | resolve {m : ResolveMove} {facts : List Fact} {w' : Watcher} {hub' : Hub}
      (h : w.Resolves hub facts w' hub') : Occurs w hub (.move (.resolve m)) facts w' hub'
  | report {m : ReportMove} {facts : List Fact} {w' : Watcher} {hub' : Hub}
      (h : w.Reports hub facts w' hub') : Occurs w hub (.move (.report m)) facts w' hub'
  | refresh {i : Nat} {m : RefreshMove} {pool : Pool} {refreshers : List Refresher}
      {counters : Counters → Counters} :
      Occurs w hub (.move (.refresh i m)) [] { w with pool, refreshers } (hub.count counters)
  | track {hash : String} :
      Occurs w hub (.track hash) [.tracked w.watchlist hub.now hash] (w.track hub.now hash) hub
  | switchVault {address : String} :
      Occurs w hub (.switchVault address) [] (w.switchVault address) hub
  | heardGasPrice {before : Option Nat} {answer : Except CallError Nat} {fees : Fees} :
      Occurs w hub (.heardGasPrice before answer) [] { w with fees } hub
  | elsewhere {hub' : Hub} : Occurs w hub (.elsewhere hub') [] w hub'
  | cancel : Occurs w hub .cancel [] w.cancel hub

/-! ### Nothing else happens -/

theorem fetches_of_fetch? {w w' : Watcher} {hub hub' : Hub} {move : FetchMove}
    (h : w.fetch? hub move = some (w', hub')) : w.Fetches hub (w.fetchFacts move) w' hub' := by
  cases move with
  | heardHead answer =>
    simp only [fetch?] at h
    split at h
    · rename_i hstage
      cases h
      cases answer with
      | error e => exact .missedHead hstage
      | ok height =>
        -- the head is known; the poll behind it needs a time
        obtain heq | ⟨hlimit, heq⟩ :=
          (w.fetcher.heardHead (hub.now + w.settings.heightRetryDelay) (.ok height)).within_cases
            w.settings.deadline
        · rw [heq]
          exact .heardHead hstage
        · rw [heq]
          exact .failHead hstage hlimit
    · cases h
  | askHead =>
    simp only [fetch?] at h
    split at h
    · rename_i hstage
      split at h <;> cases h
      obtain heq | ⟨hlimit, heq⟩ :=
        (w.fetcher.resumed .askingHead).within_cases w.settings.deadline
      · rw [heq]
        exact .askHead hstage
      · rw [heq]
        exact .stop (.inr (.inr hlimit))
    · cases h
  | heardBlock answer =>
    simp only [fetch?] at h
    split at h
    · rename_i hstage
      cases h
      exact .heardBlock hstage
    · cases h
  | deliver =>
    simp only [fetch?] at h
    split at h
    · rename_i block hstage
      obtain ⟨blocks, hsend, heq⟩ := Option.map_eq_some_iff.mp h
      cases heq
      simp only [fetchFacts, hstage]
      exact .deliver hstage hsend
    · cases h
  | abandon =>
    simp only [fetch?] at h
    split at h
    · split at h <;> cases h
      rename_i hclosed
      exact .stop (.inl (by simpa using hclosed))
    · cases h
  | askBlock =>
    simp only [fetch?] at h
    split at h
    · rename_i hstage
      split at h <;> cases h
      obtain heq | ⟨hlimit, heq⟩ :=
        (w.fetcher.resumed .askingBlock).within_cases w.settings.deadline
      · rw [heq]
        exact .askBlock hstage
      · rw [heq]
        exact .stop (.inr (.inr hlimit))
    · cases h
  | cancel =>
    simp only [fetch?] at h
    split at h <;> cases h
    rename_i hcancel
    exact .stop (.inr (.inl (by simp only [Bool.and_eq_true] at hcancel; exact hcancel.1)))

theorem selects_of_select? {w w' : Watcher} {hub hub' : Hub} {move : SelectMove}
    (h : w.select? hub move = some (w', hub')) :
    w.Selects (w.selectFacts move) w' ∧ hub' = hub := by
  cases move with
  | take =>
    simp only [select?] at h
    split at h
    · rename_i block blocks hwait hreceive
      cases h
      refine ⟨?_, rfl⟩
      simp only [selectFacts, hreceive, Option.map_some, Option.toList_some]
      exact .take hwait hreceive
    · cases h
  | finish =>
    simp only [select?] at h
    split at h
    · rename_i hwait hstopped
      split at h <;> cases h
      exact ⟨.stop (.inl ⟨hwait, hstopped⟩), rfl⟩
    · cases h
  | queue =>
    simp only [select?] at h
    split at h
    · rename_i job hqueue
      obtain ⟨jobs, hsend, heq⟩ := Option.map_eq_some_iff.mp h
      cases heq
      exact ⟨.queue hqueue hsend, rfl⟩
    · cases h
  | abandon =>
    simp only [select?] at h
    split at h
    · split at h <;> cases h
      rename_i hclosed
      exact ⟨.stop (.inr (.inl (by simpa using hclosed))), rfl⟩
    · cases h
  | cancel =>
    simp only [select?] at h
    split at h
    · cases h
    · split at h <;> cases h
      rename_i hcancel
      exact ⟨.stop (.inr (.inr hcancel)), rfl⟩

theorem resolves_of_resolve? {w w' : Watcher} {hub hub' : Hub} {move : ResolveMove}
    (h : w.resolve? hub move = some (w', hub')) :
    w.Resolves hub (w.resolveFacts move) w' hub' := by
  cases move with
  | take =>
    simp only [resolve?] at h
    split at h
    · rename_i job jobs hwait hreceive
      cases h
      obtain heq | ⟨-, hlimit, heq⟩ := { w with jobs }.turnResolver_cases (.begin job)
      · rw [heq]
        exact .take hwait hreceive
      · rw [heq]
        exact .failTake hwait hreceive hlimit
    · cases h
  | heard answer =>
    simp only [resolve?] at h
    split at h
    · rename_i job hask
      cases h
      simp only [resolveFacts, hask]
      obtain heq | ⟨-, hlimit, heq⟩ := w.turnResolver_cases (job.heard w.settings.maxReceiptRetry
        (hub.now + w.settings.receiptRetryDelay) answer).1
      · rw [heq]
        exact .heard hask
      · rw [heq]
        exact .failHeard hask hlimit
    · cases h
  | again =>
    simp only [resolve?] at h
    split at h
    · rename_i job wake hpause
      split at h <;> cases h
      obtain heq | ⟨-, hlimit, heq⟩ := w.turnResolver_cases (.asking job)
      · rw [heq]
        exact .again hpause
      · rw [heq]
        exact .stop (.inr (.inr hlimit))
    · cases h
  | emit =>
    simp only [resolve?] at h
    split at h
    · rename_i batch hemit
      obtain ⟨batches, hsend, heq⟩ := Option.map_eq_some_iff.mp h
      cases heq
      exact .emit hemit hsend
    · cases h
  | abandon =>
    simp only [resolve?] at h
    split at h
    · split at h <;> cases h
      rename_i hclosed
      exact .stop (.inl (by simpa using hclosed))
    · cases h
  | cancel =>
    simp only [resolve?] at h
    have hcancel : w.cancelled = true := by
      split at h
      iterate 3 exact (Option.ite_none_right_eq_some.mp h).1
      iterate 2 cases h
    split at h
    iterate 3
      cases (Option.ite_none_right_eq_some.mp h).2
      exact .stop (.inr (.inl hcancel))
    iterate 2 cases h

theorem reports_of_report? {w w' : Watcher} {hub hub' : Hub} {move : ReportMove}
    (h : w.report? hub move = some (w', hub')) :
    w.Reports hub (w.reportFacts hub w' move) w' hub' := by
  cases move with
  | begin =>
    simp only [report?] at h
    split at h
    · rename_i hstage
      split at h <;> cases h
      · rename_i hpause
        exact .fail hstage hpause
      · rename_i hpause
        exact .begin hstage hpause
    · cases h
  | take =>
    simp only [report?] at h
    split at h
    · rename_i batch batches hstage hidle hreceive
      cases h
      simp only [reportFacts, hreceive, Option.map_some, Option.toList_some]
      exact .take hstage hidle hreceive
    · cases h
  | finish =>
    simp only [report?] at h
    split at h
    · rename_i hstage _ hstopped
      split at h <;> cases h
      exact .stop hstage (.inl hstopped)
    · cases h
  | judge =>
    simp only [report?] at h
    split at h
    · rename_i batch hstage hidle
      split at h
      · rename_i result rest hrest
        cases h
        simp only [reportFacts, hstage, hrest, List.head?_cons, Option.map_some,
          Option.toList_some]
        exact .judge hstage hidle hrest
      · cases h
    · cases h
  | conclude =>
    simp only [report?] at h
    split at h
    · rename_i batch hstage hidle
      obtain ⟨hrest, heq⟩ := Option.ite_none_right_eq_some.mp h
      obtain rfl : w' = (w.conclude hub batch).1 := congrArg Prod.fst (Option.some.inj heq).symm
      obtain rfl : hub' = (w.conclude hub batch).2 := congrArg Prod.snd (Option.some.inj heq).symm
      simp only [reportFacts, hstage]
      exact .conclude hstage hidle (List.isEmpty_iff.mp hrest)
    · cases h
  | sweep =>
    simp only [report?] at h
    split at h
    · rename_i hstage hidle
      obtain ⟨hdue, heq⟩ := Option.ite_none_right_eq_some.mp h
      cases heq
      exact .sweep hstage hidle hdue
    · cases h
  | giveUp =>
    simp only [report?] at h
    split at h
    · rename_i hash rest hstage hidle
      cases h
      exact .giveUp hstage hidle
    · cases h
  | endSweep =>
    simp only [report?] at h
    split at h
    · rename_i hstage hidle
      cases h
      exact .endSweep hstage hidle
    · cases h
  | sendUpdate =>
    simp only [report?] at h
    split at h
    · rename_i update hupdate
      obtain ⟨updates, hsend, heq⟩ := Option.map_eq_some_iff.mp h
      cases heq
      exact .sendUpdate hupdate hsend
    · cases h
  | loseUpdate =>
    simp only [report?] at h
    split at h
    · rename_i update hupdate
      obtain ⟨hgone, heq⟩ := Option.ite_none_right_eq_some.mp h
      cases heq
      exact .loseUpdate hupdate (by simpa using hgone)
    · cases h
  | announce =>
    simp only [report?] at h
    split at h
    · rename_i block hstage
      obtain ⟨matched, hsend, heq⟩ := Option.map_eq_some_iff.mp h
      cases heq
      simp only [reportFacts, hstage]
      exact .announce hstage hsend
    · cases h
  | loseBlock =>
    simp only [report?] at h
    split at h
    · rename_i block hstage
      obtain ⟨hgone, heq⟩ := Option.ite_none_right_eq_some.mp h
      cases heq
      exact .loseBlock hstage (by simpa using hgone)
    · cases h
  | cancel =>
    simp only [report?] at h
    split at h
    · rename_i hstage _
      obtain ⟨hcancel, heq⟩ := Option.ite_none_right_eq_some.mp h
      cases heq
      exact .stop hstage (.inr hcancel)
    · cases h

/-- A refresh loop changes the pool, the loops and the counters only. -/
theorem refresh?_frame {w w' : Watcher} {hub hub' : Hub} {index : Nat} {move : RefreshMove}
    (h : w.refresh? hub index move = some (w', hub')) :
    ∃ pool refreshers counters, w' = { w with pool, refreshers } ∧ hub' = hub.count counters := by
  simp only [refresh?] at h
  split at h
  · cases h
  · split at h
    · cases h
      exact ⟨w.pool, _, id, rfl, rfl⟩
    · cases (Option.ite_none_right_eq_some.mp h).2
      exact ⟨w.pool, _, id, rfl, rfl⟩
    · rename_i probes _
      cases h
      exact ⟨(w.pool.refreshed probes).2, _,
        fun c => c.countRefresh w.chain (w.pool.refreshed probes).1, rfl, rfl⟩
    · cases (Option.ite_none_right_eq_some.mp h).2
      exact ⟨w.pool, _, id, rfl, rfl⟩
    · cases h

/-- **Nothing else happens**: whatever happens to a watcher is on the list, with the facts that it
makes known. -/
theorem occurs_of_happen? {w w' : Watcher} {hub hub' : Hub} {event : Event}
    (h : w.happen? hub event = some (w', hub')) :
    w.Occurs hub event (w.facts hub w' event) w' hub' := by
  cases event with
  | move move =>
    cases move with
    | refresh index move =>
      obtain ⟨pool, refreshers, counters, rfl, rfl⟩ := refresh?_frame h
      exact .refresh
    | fetch move => exact .fetch (fetches_of_fetch? h)
    | resolve move => exact .resolve (resolves_of_resolve? h)
    | select move =>
      obtain ⟨hselects, rfl⟩ := selects_of_select? h
      exact .select hselects
    | report move => exact .report (reports_of_report? h)
  | track hash =>
    cases h
    exact .track
  | switchVault address =>
    cases h
    exact .switchVault
  | heardGasPrice before answer =>
    cases h
    exact .heardGasPrice
  | elsewhere hub' =>
    cases h
    exact .elsewhere
  | cancel =>
    cases h
    exact .cancel

/-- The settings of a watcher stay as they are. -/
theorem Occurs.settings_eq {w w' : Watcher} {hub hub' : Hub} {event : Event} {facts : List Fact}
    (h : w.Occurs hub event facts w' hub') : w'.settings = w.settings := by
  cases h with
  | fetch h => cases h <;> rfl
  | select h => cases h <;> rfl
  | resolve h => cases h <;> rfl
  | report h =>
    cases h with
    | conclude hstage _ _ =>
      unfold Watcher.conclude
      split <;> rfl
    | _ => rfl
  | _ => rfl

/-- Only the first of the facts of a step tells of a watchlist, and it is the current one. -/
theorem Occurs.watchlist?_eq {w w' : Watcher} {hub hub' : Hub} {event : Event} {facts : List Fact}
    (h : w.Occurs hub event facts w' hub') :
    (∀ f ∈ facts.head?, ∀ l ∈ f.watchlist?, l = w.watchlist) ∧
      ∀ f ∈ facts.tail, f.watchlist? = none := by
  cases h with
  | fetch h => cases h <;> simp [Fact.watchlist?]
  | select h => cases h <;> simp [Fact.watchlist?]
  | resolve h => cases h <;> simp [Fact.watchlist?]
  | report h => cases h <;> simp [Fact.watchlist?]
  | track => simp [Fact.watchlist?]
  | _ => simp

theorem Occurs.watchlist_of_fact {w w' : Watcher} {hub hub' : Hub} {event : Event}
    {before after : List Fact} {f : Fact} {watchlist : Watchlist}
    (h : w.Occurs hub event (before ++ f :: after) w' hub') (hf : f.watchlist? = some watchlist) :
    before = [] ∧ watchlist = w.watchlist := by
  obtain ⟨hhead, htail⟩ := h.watchlist?_eq
  cases before with
  | nil => exact ⟨rfl, hhead f rfl watchlist hf⟩
  | cons g before =>
    have hnone := htail f (List.mem_append_right before List.mem_cons_self)
    rw [hnone] at hf
    cases hf

end Watcher

namespace World

/-- **Induction along a run, by cases of what can happen**: the form in which invariants are
proved, here for runs of events of a kind. -/
theorem run_induction_occurs {P : World → Prop} {K : Event → Prop} (s : World)
    (events : List Event) (hevents : ∀ e ∈ events, K e) (hstart : P s)
    (hstep : ∀ (t : World) (e : Event) (facts : List Fact) (w : Watcher) (hub : Hub), K e → P t →
      t.watcher.Occurs t.hub e facts w hub → P ⟨w, hub, t.facts ++ facts⟩) :
    P (s.run events) := by
  refine run_induction hevents hstart fun t e he ht => ?_
  unfold step
  split
  · rename_i w hub h
    exact hstep t e _ w hub he ht (Watcher.occurs_of_happen? h)
  · exact ht

/-- What every step keeps holds after every run. -/
theorem run_invariant {P : World → Prop} (s : World) (events : List Event) (hstart : P s)
    (hstep : ∀ (t : World) (e : Event) (facts : List Fact) (w : Watcher) (hub : Hub), P t →
      t.watcher.Occurs t.hub e facts w hub → P ⟨w, hub, t.facts ++ facts⟩) :
    P (s.run events) :=
  run_induction_occurs (K := fun _ => True) s events (fun _ _ => trivial) hstart
    fun t e facts w hub _ => hstep t e facts w hub

/-- **The moment of a fact**: a fact from the middle of a run was made known by one of its events,
at a state that the run went through. -/
theorem exists_moment {s : World} {events : List Event} {past rest : List Fact} {f : Fact}
    (h : (s.run events).facts = past ++ f :: rest) (hnew : s.facts.length ≤ past.length) :
    ∃ before e later made after w hub, events = before ++ e :: later ∧
      (s.run before).facts ++ made = past ∧
      (s.run before).watcher.Occurs (s.run before).hub e (made ++ f :: after) w hub ∧
      (s.run before).step e = ⟨w, hub, past ++ f :: after⟩ := by
  induction events generalizing s with
  | nil =>
    have hlength := congrArg List.length h
    rw [run_nil, List.length_append, List.length_cons] at hlength
    omega
  | cons e events ih =>
    rcases Nat.lt_or_ge past.length (s.step e).facts.length with hlt | hge
    · -- the fact is one of this event
      have hprefix : past ++ [f] <+: (s.step e).facts := by
        have hfact : past ++ [f] <+: past ++ f :: rest := ⟨rest, by simp⟩
        have hstep : (s.step e).facts <+: past ++ f :: rest := by
          rw [← h]
          exact facts_prefix_run (s.step e) events
        refine List.prefix_of_prefix_length_le hfact hstep ?_
        rw [List.length_append, List.length_singleton]
        exact hlt
      obtain ⟨after, hafter⟩ := hprefix
      unfold step at hafter
      split at hafter
      · rename_i w hub hhappen
        have hpast : s.facts <+: past := by
          have hfacts : past <+: s.facts ++ s.watcher.facts s.hub w e :=
            ⟨[f] ++ after, by rw [← List.append_assoc]; exact hafter⟩
          exact List.prefix_of_prefix_length_le (List.prefix_append _ _) hfacts hnew
        obtain ⟨made, rfl⟩ := hpast
        have hmade : s.watcher.facts s.hub w e = made ++ f :: after := by
          simp only [List.append_assoc, List.singleton_append] at hafter
          exact (List.append_cancel_left hafter).symm
        refine ⟨[], e, events, made, after, w, hub, rfl, rfl, ?_, ?_⟩
        · rw [← hmade]
          exact Watcher.occurs_of_happen? hhappen
        · simp only [run_nil, step, hhappen, hmade, List.append_assoc]
      · have hlength := congrArg List.length hafter
        simp only [List.length_append, List.length_cons] at hlength
        omega
    · obtain ⟨before, e', later, made, after, w, hub, rfl, hmoment⟩ := ih h hge
      exact ⟨e :: before, e', later, made, after, w, hub, rfl, hmoment⟩

/-- A fact that tells of a watchlist tells of the one at its moment. -/
theorem exists_moment_of_watchlist {s : World} {events : List Event} {past rest : List Fact}
    {f : Fact} {watchlist : Watchlist} (h : (s.run events).facts = past ++ f :: rest)
    (hnew : s.facts.length ≤ past.length) (hf : f.watchlist? = some watchlist) :
    ∃ before e later, events = before ++ e :: later ∧ (s.run before).facts = past ∧
      (s.run before).watcher.watchlist = watchlist := by
  obtain ⟨before, e, later, made, after, w, hub, hevents, hpast, hoccurs, -⟩ := exists_moment h hnew
  obtain ⟨rfl, hcurrent⟩ := hoccurs.watchlist_of_fact hf
  exact ⟨before, e, later, hevents, by simpa using hpast, hcurrent.symm⟩

end World

end VaultWatch
