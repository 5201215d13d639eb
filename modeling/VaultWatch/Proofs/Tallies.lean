import Mathlib.Algebra.BigOperators.Group.List.Basic
import Mathlib.Data.List.Nodup
import VaultWatch.Proofs.Hearings
import VaultWatch.Proofs.Observations

/-!
# What a move counts

Some counters of a chain tell the latest state; the others add up. `Counters.Grows` says by what the
latter have grown: by the fates of candidates, the matched blocks and the updates that were counted.
The main statement is `Watcher.counts_of_move?`: a move of a task counts what it tells, or the fate
that an answer decides. For the books of a whole run, `Watcher.Counts.grows` puts it in terms of
what the resolver has heard so far (`Resolver.Heard`).
-/

namespace VaultWatch

/-! ### What is counted -/

/-- One more of a kind is counted for a chain. -/
theorem Series.count_add_one {κ : Type} [DecidableEq κ] (s : Series (String × κ))
    (chain other : String) (kind kind' : κ) :
    (s.add (chain, kind) 1).count (other, kind') =
      s.count (other, kind') + if other = chain then [kind].countP (· = kind') else 0 := by
  rw [count_add, List.countP_singleton]
  simp only [Prod.mk.injEq, decide_eq_true_eq, eq_comm (a := kind')]
  by_cases hchain : other = chain <;> simp [hchain]

/-- Items counted by kind add up to all items, when each kind there is is counted once. -/
theorem sum_map_countP {α κ : Type} [DecidableEq κ] (kind : α → κ) {kinds : List κ}
    (hnodup : kinds.Nodup) (hall : ∀ k, k ∈ kinds) (items : List α) :
    (kinds.map fun k => items.countP (kind · = k)).sum = items.length := by
  induction items with
  | nil => simp
  | cons item items ih =>
    have hone : ∀ l : List κ,
        (l.map fun k => if kind item = k then 1 else 0).sum = l.count (kind item) := by
      intro l
      induction l with
      | nil => rfl
      | cons k l ih =>
        rw [List.map_cons, List.sum_cons, ih, List.count_cons, Nat.add_comm]
        simp only [beq_iff_eq, eq_comm (a := k)]
    have honce : kinds.count (kind item) = 1 :=
      List.count_eq_one_of_mem hnodup (hall (kind item))
    simp only [List.countP_cons, decide_eq_true_eq, List.sum_map_add, ih, hone, honce,
      List.length_cons]

/-- Blocks without transactions add nothing. -/
theorem DepositBlock.sum_txs_filter (blocks : List DepositBlock) :
    ((blocks.filter isMatch).map (·.txs.length)).sum = (blocks.map (·.txs.length)).sum := by
  induction blocks with
  | nil => rfl
  | cons block blocks ih =>
    rw [List.filter_cons, List.map_cons, List.sum_cons]
    split
    · rw [List.map_cons, List.sum_cons, ih]
    · rename_i hnone
      have htxs : block.txs = [] := by simpa [isMatch] using hnone
      rw [ih, htxs, List.length_nil, Nat.zero_add]

/-- The counters that add up, without those that only tell the latest state. -/
def Counters.tallies (c : Counters) : Counters :=
  { c with blockHeight := [], pollInterval := [], healthyEndpoints := [] }

/-- Between two states of the counters these fates, matched blocks and updates of a chain were
counted, and nothing else that adds up. -/
structure Counters.Grows (chain : String) (fates : List ReceiptFate) (blocks : List DepositBlock)
    (notices : List TrackNotice) (c c' : Counters) : Prop where
  receipts : ∀ other fate, c'.receipts.count (other, fate) =
    c.receipts.count (other, fate) + if other = chain then fates.countP (· = fate) else 0
  matched : ∀ other, c'.matched.count other =
    c.matched.count other + if other = chain then (blocks.map (·.txs.length)).sum else 0
  trackUpdates : ∀ other result, c'.trackUpdates.count (other, result) =
    c.trackUpdates.count (other, result) +
      if other = chain then notices.countP (·.result = result) else 0
  dispatches : c'.dispatches = c.dispatches

namespace Counters

variable {c c' : Counters} {chain : String}

theorem Grows.of_tallies (h : c'.tallies = c.tallies) : Grows chain [] [] [] c c' := by
  obtain ⟨-, -, -, hreceipts, hmatched, hupdates, hdispatches⟩ := Counters.mk.inj h
  refine ⟨?_, ?_, ?_, hdispatches⟩
  · simp [hreceipts]
  · simp [hmatched]
  · simp [hupdates]

theorem grows_countReceipt (c : Counters) (chain : String) (fate : ReceiptFate) :
    Grows chain [fate] [] [] c (c.countReceipt chain fate) :=
  ⟨fun other fate' => c.receipts.count_add_one chain other fate fate', by simp [countReceipt],
    by simp [countReceipt], rfl⟩

theorem grows_countMatched (c : Counters) (chain : String) (block : DepositBlock) :
    Grows chain [] [block] [] c (c.countMatched chain block.txs.length) :=
  ⟨by simp [countMatched], fun other => c.matched.count_add chain other _, by simp [countMatched],
    rfl⟩

theorem grows_countUpdate (c : Counters) (chain : String) (notice : TrackNotice) :
    Grows chain [] [] [notice] c (c.countUpdate chain notice.result) :=
  ⟨by simp [countUpdate], by simp [countUpdate],
    fun other result => c.trackUpdates.count_add_one chain other notice.result result, rfl⟩

end Counters

/-! ### Fates -/

/-- An answer is counted as a fate when it decides one. -/
theorem Settlement.hear_heard (job : Resolution) (maxRetry retryAt : Nat)
    (answer : Except CallError Receipt) (fates : List (BlockTx × Option Receipt)) :
    (Settlement.hear maxRetry ⟨fates, job.attempt⟩ job.current answer).failures =
        (job.heard maxRetry retryAt answer).1.failures ∧
      (Settlement.hear maxRetry ⟨fates, job.attempt⟩ job.current answer).fates.map
          (receiptFate ·.2) =
        fates.map (receiptFate ·.2) ++ (job.heard maxRetry retryAt answer).2.toList := by
  cases answer with
  | ok receipt =>
    refine ⟨(Resolver.failures_turnTo _ _ _ _).symm, ?_⟩
    exact List.map_append
  | error e =>
    cases e with
    | decode cause =>
      refine ⟨(Resolver.failures_turnTo _ _ _ _).symm, ?_⟩
      exact List.map_append
    | _ =>
      by_cases hlast : maxRetry ≤ job.attempt
      · simp only [Settlement.hear, Resolution.heard, hlast, if_true]
        exact ⟨(Resolver.failures_turnTo _ _ _ _).symm, List.map_append⟩
      · simp only [Settlement.hear, Resolution.heard, hlast, if_false]
        exact ⟨rfl, (List.append_nil _).symm⟩

/-- The resolver has heard the failures that the answers so far leave open, unless it has
stopped. -/
def Resolver.Heard (r : Resolver) (settlement : Settlement) : Prop :=
  r = .stopped ∨ settlement.failures = r.failures

theorem Hub.counters_saveObserved (hub : Hub) (block : DepositBlock) :
    (hub.saveObserved block).counters = hub.counters := by
  unfold saveObserved
  split <;> rfl

namespace Watcher

variable {w w' : Watcher} {hub hub' : Hub} {facts : List Fact}

/-- A resolver that goes down instead of asking has nothing left to hear. -/
theorem heard_turnResolver {next : Resolver} {settlement : Settlement}
    (h : settlement.failures = next.failures) :
    (w.turnResolver next).resolver.Heard settlement := by
  obtain heq | ⟨-, -, heq⟩ := w.turnResolver_cases next
  · rw [heq]
    exact .inr h
  · rw [heq]
    exact .inl rfl

/-- What a move counts: the fate that an answer decides, or else the matched blocks and the updates
that it tells of. -/
inductive Counts (w : Watcher) (hub : Hub) : List Fact → Watcher → Hub → Prop where
  | heard {job : Resolution} {answer : Except CallError Receipt} {retryAt : Nat}
      (hask : w.resolver = .asking job) :
      Counts w hub [.answered job.current answer]
        (w.turnResolver (job.heard w.settings.maxReceiptRetry retryAt answer).1)
        (hub.count (w.countFate (job.heard w.settings.maxReceiptRetry retryAt answer).2))
  | other {facts : List Fact} {w' : Watcher} {hub' : Hub}
      (hanswers : facts.filterMap Fact.answer? = [])
      (hresolver : ∀ settlement, w.resolver.Heard settlement → w'.resolver.Heard settlement)
      (hgrows : Counters.Grows w.chain [] (facts.filterMap Fact.concluded?)
        (facts.filterMap Fact.notice?) hub.counters hub'.counters) :
      Counts w hub facts w' hub'

/-- A move that tells nothing that is counted. -/
theorem Counts.quiet (hresolver : w'.resolver = w.resolver)
    (htallies : hub'.counters.tallies = hub.counters.tallies)
    (hanswers : facts.filterMap Fact.answer? = [])
    (hconcluded : facts.filterMap Fact.concluded? = [])
    (hnotices : facts.filterMap Fact.notice? = []) : w.Counts hub facts w' hub' := by
  refine .other hanswers (fun _ h => hresolver ▸ h) ?_
  rw [hconcluded, hnotices]
  exact .of_tallies htallies

theorem Fetches.counts (h : w.Fetches hub facts w' hub')
    (htallies : hub'.counters.tallies = hub.counters.tallies) : w.Counts hub facts w' hub' := by
  cases h <;> exact .quiet rfl htallies rfl rfl rfl

theorem Selects.counts (h : w.Selects facts w') : w.Counts hub facts w' hub := by
  cases h <;> exact .quiet rfl rfl rfl rfl rfl

/-- All moves of the resolver but the one that hears an answer count nothing. -/
theorem Resolves.counts (h : w.Resolves hub facts w' hub')
    (hanswers : facts.filterMap Fact.answer? = []) : w.Counts hub facts w' hub' := by
  cases h with
  | heard hask | failHeard hask => cases hanswers
  | @take job jobs hwait hreceive =>
    refine .other rfl (fun settlement hheard => ?_) (.of_tallies rfl)
    rw [hwait] at hheard
    exact hheard.imp nofun (·.trans (Resolver.failures_turnTo _ _ _ _).symm)
  | again hpause =>
    refine .other rfl (fun settlement hheard => ?_) (.of_tallies rfl)
    rw [hpause] at hheard
    exact hheard.imp nofun id
  | emit hemit hsend =>
    refine .other rfl (fun settlement hheard => ?_) (.of_tallies rfl)
    rw [hemit] at hheard
    exact hheard.imp nofun id
  | failTake | stop => exact .other rfl (fun _ _ => .inl rfl) (.of_tallies rfl)

theorem Reports.counts (h : w.Reports hub facts w' hub') : w.Counts hub facts w' hub' := by
  cases h with
  | @judge batch result rest hstage hidle hrest =>
    have hcounters : (w.judge hub batch result rest).2.counters =
      w.countOutgoing (w.updateFor batch.height result.tx (w.watchlist.judge result).1)
        hub.counters := rfl
    cases hupdate : w.updateFor batch.height result.tx (w.watchlist.judge result).1 with
    | none =>
      rw [hupdate] at hcounters
      exact .quiet rfl (congrArg Counters.tallies hcounters) rfl rfl rfl
    | some notice =>
      rw [hupdate] at hcounters
      refine .other rfl (fun _ h => h) ?_
      rw [hcounters]
      exact hub.counters.grows_countUpdate w.chain notice
  | @conclude batch hstage hidle hrest =>
    refine .other rfl (fun settlement hheard => ?_) ?_
    · unfold Watcher.conclude
      split <;> exact hheard
    · unfold Watcher.conclude
      split
      · rename_i hnone
        have hgrows : Counters.Grows w.chain [] [] [] hub.counters hub.counters := .of_tallies rfl
        refine ⟨hgrows.receipts, fun other => ?_, hgrows.trackUpdates, rfl⟩
        have htxs : (batch.matchedBlock w.chain).txs = [] := List.isEmpty_iff.mp hnone
        simp [Fact.concluded?, htxs]
      · have hsaved := hub.counters_saveObserved (batch.matchedBlock w.chain)
        change Counters.Grows w.chain [] [batch.matchedBlock w.chain] [] hub.counters
          ((hub.saveObserved (batch.matchedBlock w.chain)).counters.countMatched w.chain _)
        rw [hsaved]
        exact hub.counters.grows_countMatched w.chain (batch.matchedBlock w.chain)
  | @giveUp hash rest hstage hidle =>
    exact .other rfl (fun _ h => h) (hub.counters.grows_countUpdate w.chain (w.timeoutUpdate hash))
  | _ => exact .quiet rfl rfl rfl rfl rfl

/-- A poll counts nothing that adds up. -/
theorem tallies_of_fetch? {move : FetchMove} (h : w.fetch? hub move = some (w', hub')) :
    hub'.counters.tallies = hub.counters.tallies := by
  cases move with
  | heardBlock answer =>
    simp only [fetch?] at h
    split at h
    · cases h
      cases answer <;> rfl
    · cases h
  | deliver =>
    simp only [fetch?] at h
    split at h
    · obtain ⟨blocks, -, heq⟩ := Option.map_eq_some_iff.mp h
      cases heq
      rfl
    · cases h
  | heardHead _ | askHead | abandon | askBlock | cancel =>
    simp only [fetch?] at h
    grind

/-- A refresh counts nothing that adds up. -/
theorem counts_of_refresh? {index : Nat} {move : RefreshMove}
    (h : w.refresh? hub index move = some (w', hub')) : w.Counts hub [] w' hub' := by
  have htallies : hub'.counters.tallies = hub.counters.tallies := by
    simp only [refresh?] at h
    split at h
    · cases h
    · split at h
      · cases h
        rfl
      · cases (Option.ite_none_right_eq_some.mp h).2
        rfl
      · cases h
        simp only [refresh, Hub.count, Counters.countRefresh]
        split <;> rfl
      · cases (Option.ite_none_right_eq_some.mp h).2
        rfl
      · cases h
  obtain ⟨pool, refreshers, counters, rfl, rfl⟩ := refresh?_frame h
  exact .quiet rfl htallies rfl rfl rfl

/-- **A move counts what it tells.** -/
theorem counts_of_move? {move : Move} (h : w.move? hub move = some (w', hub')) :
    w.Counts hub (w.facts hub w' (.move move)) w' hub' := by
  cases move with
  | refresh index move => exact counts_of_refresh? h
  | fetch move => exact (fetches_of_fetch? h).counts (tallies_of_fetch? h)
  | select move =>
    obtain ⟨hselects, rfl⟩ := selects_of_select? h
    exact hselects.counts
  | report move => exact (reports_of_report? h).counts
  | resolve move =>
    have hresolve : w.resolve? hub move = some (w', hub') := h
    cases move with
    | heard answer =>
      simp only [resolve?] at hresolve
      split at hresolve
      · rename_i job hask
        cases hresolve
        simp only [facts, resolveFacts, hask]
        exact .heard hask
      · cases hresolve
    | take | again | emit | abandon | cancel =>
      have hresolves := resolves_of_resolve? hresolve
      exact hresolves.counts rfl

/-- What a move counts, by the fates that the answers of the move decide. -/
theorem Counts.grows (h : w.Counts hub facts w' hub') : ∃ fates : List ReceiptFate,
    Counters.Grows w.chain fates (facts.filterMap Fact.concluded?) (facts.filterMap Fact.notice?)
      hub.counters hub'.counters ∧
    ∀ before, w.resolver.Heard before →
      let after := before.hearAll w.settings.maxReceiptRetry (facts.filterMap Fact.answer?)
      w'.resolver.Heard after ∧
        after.fates.map (receiptFate ·.2) = before.fates.map (receiptFate ·.2) ++ fates := by
  cases h with
  | @heard job answer retryAt hask =>
    refine ⟨(job.heard w.settings.maxReceiptRetry retryAt answer).2.toList, ?_, ?_⟩
    · change Counters.Grows w.chain _ [] [] hub.counters (w.countFate _ hub.counters)
      cases (job.heard w.settings.maxReceiptRetry retryAt answer).2 with
      | none => exact .of_tallies rfl
      | some fate => exact hub.counters.grows_countReceipt w.chain fate
    · rintro ⟨fates, failures⟩ (hstopped | hfailures)
      · rw [hask] at hstopped
        cases hstopped
      · rw [hask] at hfailures
        obtain rfl : failures = job.attempt := hfailures
        obtain ⟨hfailures', hfates⟩ :=
          Settlement.hear_heard job w.settings.maxReceiptRetry retryAt answer fates
        exact ⟨heard_turnResolver hfailures', hfates⟩
  | other hanswers hresolver hgrows =>
    refine ⟨[], hgrows, fun before hheard => ?_⟩
    rw [hanswers, Settlement.hearAll_nil, List.append_nil]
    exact ⟨hresolver before hheard, rfl⟩

end Watcher

end VaultWatch
