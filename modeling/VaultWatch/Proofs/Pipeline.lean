import VaultWatch.Proofs.Deadlines
import VaultWatch.Proofs.Portions

/-!
# The pipeline

Blocks become jobs, jobs become batches, and in between every candidate waits for the answers that
decide its fate. As long as the resolver runs, nothing is lost, repeated or overtaken between the
jobs and the batches, however the stages take turns. `Line` is what is on the way, `Line.Moves`
lists what a step can do to it, and `Line.Accounts` are its books: for the candidates whose fates
are decided and those that wait, and for the batches that came out and those to come.

A watcher that can sweep and is not cancelled has a resolver that runs, unless it was about to ask
when there was no time for a call. Then the batches that are out already are all that there will
be, and they are right (`World.books_run`). If the plan keeps its deadlines all stages run for ever,
and no block is lost either (`World.runs_run`).
-/

namespace VaultWatch

/-! ### Fates -/

/-- What some answers have decided: the fates of the candidates so far, in order, a receipt or none,
and the number of failed attempts at the candidate at hand. -/
structure Settlement where
  fates : List (BlockTx × Option Receipt)
  failures : Nat

namespace Settlement

/-- Nothing has been asked. -/
def start : Settlement := ⟨[], 0⟩

/-- Takes in an answer. A receipt and an answer that cannot be read decide the fate of the
candidate, and so does the failure of the last attempt. -/
def hear (maxRetry : Nat) (s : Settlement) (tx : BlockTx) :
    Except CallError Receipt → Settlement
  | .ok receipt => ⟨s.fates ++ [(tx, some receipt)], 0⟩
  | .error (.decode _) => ⟨s.fates ++ [(tx, none)], 0⟩
  | .error _ =>
    if maxRetry ≤ s.failures then ⟨s.fates ++ [(tx, none)], 0⟩
    else { s with failures := s.failures + 1 }

/-- Takes in some answers, the oldest first. -/
def hearAll (maxRetry : Nat) (s : Settlement)
    (answers : List (BlockTx × Except CallError Receipt)) : Settlement :=
  answers.foldl (fun s a => s.hear maxRetry a.1 a.2) s

@[simp] theorem hearAll_nil (maxRetry : Nat) (s : Settlement) : s.hearAll maxRetry [] = s := rfl

@[simp]
theorem hearAll_cons (maxRetry : Nat) (s : Settlement) (a : BlockTx × Except CallError Receipt)
    (answers : List (BlockTx × Except CallError Receipt)) :
    s.hearAll maxRetry (a :: answers) = (s.hear maxRetry a.1 a.2).hearAll maxRetry answers := rfl

/-- Fates that are decided stay as they are. -/
theorem fates_prefix_hear (maxRetry : Nat) (s : Settlement) (tx : BlockTx)
    (answer : Except CallError Receipt) : s.fates <+: (s.hear maxRetry tx answer).fates := by
  unfold hear
  split
  · exact List.prefix_append _ _
  · exact List.prefix_append _ _
  · split
    · exact List.prefix_append _ _
    · exact List.prefix_refl _

theorem fates_prefix_hearAll (maxRetry : Nat) (s : Settlement)
    (answers : List (BlockTx × Except CallError Receipt)) :
    s.fates <+: (s.hearAll maxRetry answers).fates := by
  induction answers generalizing s with
  | nil => exact List.prefix_refl _
  | cons a answers ih => exact (s.fates_prefix_hear maxRetry a.1 a.2).trans (ih _)

theorem hearAll_append (maxRetry : Nat) (s : Settlement)
    (answers later : List (BlockTx × Except CallError Receipt)) :
    s.hearAll maxRetry (answers ++ later) = (s.hearAll maxRetry answers).hearAll maxRetry later :=
  List.foldl_append

end Settlement

/-- The candidates whose fate is a receipt, each with its receipt. -/
def resolved (txs : List BlockTx) (fates : List (Option Receipt)) : List ResolvedTx :=
  (txs.zip fates).filterMap fun p => p.2.map (⟨p.1, ·⟩)

theorem resolved_cons (tx : BlockTx) (txs : List BlockTx) (fate : Option Receipt)
    (fates : List (Option Receipt)) :
    resolved (tx :: txs) (fate :: fates) = (fate.map (⟨tx, ·⟩)).toList ++ resolved txs fates := by
  cases fate <;> rfl

/-- The batches that some jobs become by the fates of their candidates. -/
def batchesOf (jobs : List PendingBlock) (fates : List (Option Receipt)) : List ResolvedBlock :=
  (portions (·.candidates.length) jobs fates).map fun p =>
    ⟨p.1.height, p.1.blockHash, resolved p.1.candidates p.2⟩

/-! ### What is on the way -/

/-- The job that waits for the resolver's queue. -/
def Selector.job? : Selector → Option PendingBlock
  | .queueing job => some job
  | _ => none

theorem Selector.job?_found (watchlist : Watchlist) (block : Block) :
    (Selector.found block (watchlist.candidates block)).job? = watchlist.job? block := by
  unfold Selector.found Watchlist.job?
  split <;> rfl

theorem Selector.found_ne_stopped (block : Block) (candidates : List BlockTx) :
    Selector.found block candidates ≠ .stopped := by
  unfold Selector.found
  split <;> nofun

namespace Resolver

/-- The candidates of the job under way whose fates are not decided. -/
def pending : Resolver → List BlockTx
  | .asking job | .pausing job _ => job.current :: job.rest
  | _ => []

/-- The failed attempts at the candidate at hand. -/
def failures : Resolver → Nat
  | .asking job | .pausing job _ => job.attempt
  | _ => 0

/-- The batches to come: of the job under way, and then of some jobs, by the fates to come. -/
def owes (r : Resolver) (jobs : List PendingBlock) (future : List (Option Receipt)) :
    List ResolvedBlock :=
  match r with
  | .asking job | .pausing job _ =>
    ⟨job.height, job.blockHash,
      job.resolved ++ resolved (job.current :: job.rest) (future.take (job.rest.length + 1))⟩ ::
        batchesOf jobs (future.drop (job.rest.length + 1))
  | .emitting batch => batch :: batchesOf jobs future
  | _ => batchesOf jobs future

end Resolver

theorem Resolver.turnTo_ne_stopped (height : UInt64) (blockHash : String)
    (done : List ResolvedTx) (txs : List BlockTx) :
    Resolver.turnTo height blockHash done txs ≠ .stopped := by
  cases txs <;> nofun

/-- An answer decides the fate of the candidate at hand, or it has to be asked again. -/
theorem Resolution.heard_cases (job : Resolution) (maxRetry retryAt : Nat)
    (answer : Except CallError Receipt) :
    (∃ fate : Option Receipt,
      (job.heard maxRetry retryAt answer).1 = .turnTo job.height job.blockHash
        (job.resolved ++ (fate.map (⟨job.current, ·⟩)).toList) job.rest ∧
      ∀ fates, Settlement.hear maxRetry ⟨fates, job.attempt⟩ job.current answer =
        ⟨fates ++ [(job.current, fate)], 0⟩) ∨
    ((job.heard maxRetry retryAt answer).1 =
        .pausing { job with attempt := job.attempt + 1 } retryAt ∧
      ∀ fates, Settlement.hear maxRetry ⟨fates, job.attempt⟩ job.current answer =
        ⟨fates, job.attempt + 1⟩) := by
  have hdropped : job.drop = .turnTo job.height job.blockHash
      (job.resolved ++ ((none : Option Receipt).map (⟨job.current, ·⟩)).toList) job.rest := by
    rw [Option.map_none, Option.toList_none, List.append_nil]
    rfl
  cases answer with
  | ok receipt => exact .inl ⟨some receipt, rfl, fun _ => rfl⟩
  | error e =>
    cases e with
    | decode reason => exact .inl ⟨none, hdropped, fun _ => rfl⟩
    | _ =>
      by_cases hlast : maxRetry ≤ job.attempt
      · refine .inl ⟨none, ?_, fun fates => ?_⟩
        · simp only [Resolution.heard, hlast, if_true, hdropped]
        · simp only [Settlement.hear, hlast, if_true]
      · refine .inr ⟨?_, fun fates => ?_⟩
        · simp only [Resolution.heard, hlast, if_false]
        · simp only [Settlement.hear, hlast, if_false]

theorem Resolution.heard_ne_stopped (job : Resolution) (maxRetry retryAt : Nat)
    (answer : Except CallError Receipt) : (job.heard maxRetry retryAt answer).1 ≠ .stopped := by
  obtain ⟨fate, hturn, -⟩ | ⟨hpause, -⟩ := job.heard_cases maxRetry retryAt answer
  · rw [hturn]
    exact Resolver.turnTo_ne_stopped _ _ _ _
  · rw [hpause]
    nofun

@[simp]
theorem Resolver.pending_turnTo (height : UInt64) (blockHash : String) (done : List ResolvedTx)
    (txs : List BlockTx) : (Resolver.turnTo height blockHash done txs).pending = txs := by
  cases txs <;> rfl

@[simp]
theorem Resolver.failures_turnTo (height : UInt64) (blockHash : String) (done : List ResolvedTx)
    (txs : List BlockTx) : (Resolver.turnTo height blockHash done txs).failures = 0 := by
  cases txs <;> rfl

theorem Resolver.owes_turnTo (height : UInt64) (blockHash : String) (done : List ResolvedTx)
    (txs : List BlockTx) (jobs : List PendingBlock) (future : List (Option Receipt)) :
    (Resolver.turnTo height blockHash done txs).owes jobs future =
      ⟨height, blockHash, done ++ resolved txs (future.take txs.length)⟩ ::
        batchesOf jobs (future.drop txs.length) := by
  cases txs with
  | nil => simp only [turnTo, owes, resolved, List.zip_nil_left, List.filterMap_nil,
      List.append_nil, List.length_nil, List.drop_zero]
  | cons tx rest => rfl

/-- What is on the way between the fetcher and the reporter. -/
structure Line where
  blocks : List Block
  selector : Selector
  jobs : List PendingBlock
  resolver : Resolver
  batches : List ResolvedBlock

namespace Line

/-- The jobs that wait for the resolver. -/
def waiting (l : Line) : List PendingBlock := l.jobs ++ l.selector.job?.toList

/-- The candidates whose fates are not decided, in order. -/
def pending (l : Line) : List BlockTx :=
  l.resolver.pending ++ l.waiting.flatMap PendingBlock.candidates

/-- The batches to come of all jobs on the way and of some jobs behind them, by the fates to
come. -/
def inFlight (l : Line) (more : List PendingBlock) (future : List (Option Receipt)) :
    List ResolvedBlock :=
  l.batches ++ l.resolver.owes (l.waiting ++ more) future

end Line

/-- The fact says nothing about what is on the way. -/
def Fact.isIdle : Fact → Bool
  | .delivered .. | .selected .. | .answered .. | .taken _ => false
  | _ => true

/-- What a step does to what is on the way while the resolver runs. -/
inductive Line.Moves (maxRetry : Nat) (watchlist : Watchlist) (l : Line) :
    List Fact → Line → Prop where
  | deliver {height : UInt64} {block : Block} :
      Moves maxRetry watchlist l [.delivered height block]
        { l with blocks := l.blocks ++ [block] }
  | select {block : Block} {rest : List Block} (hselector : l.selector = .waiting)
      (hblocks : l.blocks = block :: rest) :
      Moves maxRetry watchlist l [.selected watchlist block]
        { l with blocks := rest, selector := .found block (watchlist.candidates block) }
  | queue {job : PendingBlock} (hselector : l.selector = .queueing job) :
      Moves maxRetry watchlist l [] { l with jobs := l.jobs ++ [job], selector := .waiting }
  | leave (hselector : l.selector = .waiting) :
      Moves maxRetry watchlist l [] { l with blocks := [], selector := .stopped }
  | begin {job : PendingBlock} {rest : List PendingBlock} (hresolver : l.resolver = .waiting)
      (hjobs : l.jobs = job :: rest) :
      Moves maxRetry watchlist l [] { l with jobs := rest, resolver := .begin job }
  | hear {job : Resolution} {answer : Except CallError Receipt} {retryAt : Nat}
      (hresolver : l.resolver = .asking job) :
      Moves maxRetry watchlist l [.answered job.current answer]
        { l with resolver := (job.heard maxRetry retryAt answer).1 }
  | again {job : Resolution} {wake : Nat} (hresolver : l.resolver = .pausing job wake) :
      Moves maxRetry watchlist l [] { l with resolver := .asking job }
  | emit {batch : ResolvedBlock} (hresolver : l.resolver = .emitting batch) :
      Moves maxRetry watchlist l [] { l with batches := l.batches ++ [batch], resolver := .waiting }
  | take {batch : ResolvedBlock} {rest : List ResolvedBlock}
      (hbatches : l.batches = batch :: rest) :
      Moves maxRetry watchlist l [.taken batch] { l with batches := rest }
  | rest {facts : List Fact} (hidle : ∀ f ∈ facts, f.isIdle = true) :
      Moves maxRetry watchlist l facts l

namespace Watcher

/-- What is on the way in a watcher. -/
def line (w : Watcher) : Line :=
  ⟨w.blocks.items, w.selector, w.jobs.items, w.resolver, w.batches.items⟩

/-- The resolver runs, and nobody around it makes it stop. -/
structure Works (w : Watcher) : Prop where
  cancelled : w.cancelled = false
  sweeps : w.settings.sweepInterval ≠ 0
  jobs : w.jobs.isOpen = true
  resolver : w.resolver ≠ .stopped
  batches : w.batches.isOpen = true

/-- All stages run, and nobody makes one of them stop. -/
structure Runs (w : Watcher) : Prop extends Works w where
  fetcher : w.fetcher.stage ≠ .stopped
  blocks : w.blocks.isOpen = true
  selector : w.selector ≠ .stopped

variable {w w' : Watcher} {hub hub' : Hub} {event : Event} {facts : List Fact}

/-- The resolver goes on to run, or there is no time for its next call and it goes down. -/
theorem Occurs.works_or (h : w.Occurs hub event facts w' hub') (hworks : w.Works)
    (hevent : event ≠ .cancel) : w'.Works ∨ w.callLimit? = none ∧ w'.resolver = .stopped := by
  obtain ⟨hcancelled, hsweeps, hjobs, hresolver, hbatches⟩ := hworks
  cases h with
  | fetch h => cases h <;> exact .inl ⟨hcancelled, hsweeps, hjobs, hresolver, hbatches⟩
  | select h =>
    cases h with
    | queue hqueue hsend =>
      have hopen := (Channel.items_of_send? hsend).2.2.trans hjobs
      exact .inl ⟨hcancelled, hsweeps, hopen, hresolver, hbatches⟩
    | _ => exact .inl ⟨hcancelled, hsweeps, hjobs, hresolver, hbatches⟩
  | resolve h =>
    cases h with
    | take hwait hreceive =>
      have hopen := (Channel.items_of_receive? hreceive).2.2.trans hjobs
      exact .inl ⟨hcancelled, hsweeps, hopen, Resolver.turnTo_ne_stopped _ _ _ _, hbatches⟩
    | heard hask =>
      exact .inl ⟨hcancelled, hsweeps, hjobs, Resolution.heard_ne_stopped _ _ _ _, hbatches⟩
    | again hpause => exact .inl ⟨hcancelled, hsweeps, hjobs, nofun, hbatches⟩
    | emit hemit hsend =>
      have hopen := (Channel.items_of_send? hsend).2.2.trans hbatches
      exact .inl ⟨hcancelled, hsweeps, hjobs, nofun, hopen⟩
    | failTake _ _ hlimit | failHeard _ hlimit => exact .inr ⟨hlimit, rfl⟩
    | stop hgone => exact .inr ⟨by simpa [hbatches, hcancelled] using hgone, rfl⟩
  | report h =>
    cases h with
    | take hstage hidle hreceive =>
      have hopen := (Channel.items_of_receive? hreceive).2.2.trans hbatches
      exact .inl ⟨hcancelled, hsweeps, hjobs, hresolver, hopen⟩
    | fail hstage hpause => exact absurd hpause hsweeps
    | stop hstage hgone => simp [hresolver, hcancelled] at hgone
    | conclude hstage hidle hrest =>
      unfold Watcher.conclude
      split <;> exact .inl ⟨hcancelled, hsweeps, hjobs, hresolver, hbatches⟩
    | _ => exact .inl ⟨hcancelled, hsweeps, hjobs, hresolver, hbatches⟩
  | cancel => exact absurd rfl hevent
  | _ => exact .inl ⟨hcancelled, hsweeps, hjobs, hresolver, hbatches⟩

/-- All stages go on to run while there is time for calls. -/
theorem Occurs.runs (h : w.Occurs hub event facts w' hub') (hruns : w.Runs)
    (hlimit : w.callLimit? ≠ none) (hevent : event ≠ .cancel) : w'.Runs := by
  have hworks : w'.Works := (h.works_or hruns.toWorks hevent).resolve_right fun h => hlimit h.1
  obtain ⟨⟨hcancelled, -, hjobs, -, -⟩, hfetcher, hblocks, hselector⟩ := hruns
  cases h with
  | fetch h =>
    cases h with
    | deliver hstage hsend =>
      have hopen := (Channel.items_of_send? hsend).2.2.trans hblocks
      exact ⟨hworks, nofun, hopen, hselector⟩
    | @heardBlock answer _ hstage =>
      refine ⟨hworks, ?_, hblocks, hselector⟩
      cases answer <;> nofun
    | failHead hstage hnone => exact absurd hnone hlimit
    | stop hgone => simp [hblocks, hcancelled, hlimit] at hgone
    | _ => exact ⟨hworks, nofun, hblocks, hselector⟩
  | select h =>
    cases h with
    | @take block blocks hwait hreceive =>
      have hopen := (Channel.items_of_receive? hreceive).2.2.trans hblocks
      exact ⟨hworks, hfetcher, hopen, Selector.found_ne_stopped _ _⟩
    | queue hqueue hsend => exact ⟨hworks, hfetcher, hblocks, nofun⟩
    | stop hgone => simp [hfetcher, hjobs, hcancelled] at hgone
  | resolve h => cases h <;> exact ⟨hworks, hfetcher, hblocks, hselector⟩
  | report h =>
    cases h with
    | conclude hstage hidle hrest =>
      refine ⟨hworks, ?_, ?_, ?_⟩ <;>
      · unfold Watcher.conclude
        split <;> assumption
    | _ => exact ⟨hworks, hfetcher, hblocks, hselector⟩
  | cancel => exact absurd rfl hevent
  | _ => exact ⟨hworks, hfetcher, hblocks, hselector⟩

/-- While the resolver runs, every step does one of these things to what is on the way. -/
theorem Occurs.moves (h : w.Occurs hub event facts w' hub') (hworks : w.Works)
    (hresolver' : w'.resolver ≠ .stopped) :
    w.line.Moves w.settings.maxReceiptRetry w.watchlist facts w'.line := by
  obtain ⟨hcancelled, hsweeps, hjobs, hresolver, hbatches⟩ := hworks
  cases h with
  | fetch h =>
    cases h with
    | @deliver block blocks hstage hsend =>
      have hmove : w.line.Moves w.settings.maxReceiptRetry w.watchlist
          [.delivered w.fetcher.cursor block] { w.line with blocks := w.blocks.items ++ [block] } :=
        .deliver
      rw [← (Channel.items_of_send? hsend).1] at hmove
      exact hmove
    | _ => exact .rest (by simp [Fact.isIdle])
  | select h =>
    cases h with
    | take hwait hreceive => exact .select hwait (Channel.items_of_receive? hreceive).1
    | @queue job jobs hqueue hsend =>
      have hmove : w.line.Moves w.settings.maxReceiptRetry w.watchlist []
          { w.line with jobs := w.jobs.items ++ [job], selector := .waiting } :=
        .queue hqueue
      rw [← (Channel.items_of_send? hsend).1] at hmove
      exact hmove
    | stop hgone =>
      have hwait : w.selector = .waiting := by
        simp only [hjobs, hcancelled, Bool.true_eq_false, Bool.false_eq_true, or_false] at hgone
        exact hgone.1
      exact .leave hwait
  | resolve h =>
    cases h with
    | take hwait hreceive => exact .begin hwait (Channel.items_of_receive? hreceive).1
    | heard hask => exact .hear hask
    | again hpause => exact .again hpause
    | @emit batch batches hemit hsend =>
      have hmove : w.line.Moves w.settings.maxReceiptRetry w.watchlist []
          { w.line with batches := w.batches.items ++ [batch], resolver := .waiting } :=
        .emit hemit
      rw [← (Channel.items_of_send? hsend).1] at hmove
      exact hmove
    | failTake _ _ _ | failHeard _ _ | stop _ => exact absurd rfl hresolver'
  | report h =>
    cases h with
    | take hstage hidle hreceive => exact .take (Channel.items_of_receive? hreceive).1
    | fail hstage hpause => exact absurd hpause hsweeps
    | stop hstage hgone => simp [hresolver, hcancelled] at hgone
    | conclude hstage hidle hrest =>
      unfold Watcher.conclude
      split <;> exact .rest (by simp [Fact.isIdle])
    | judge hstage hidle hrest => exact .rest (by simp [Fact.isIdle])
    | _ => exact .rest (by simp [Fact.isIdle])
  | track => exact .rest (by simp [Fact.isIdle])
  | _ => exact .rest (by simp)

/-- A resolver that is down stays down. -/
theorem Occurs.resolver_stopped (h : w.Occurs hub event facts w' hub')
    (hstopped : w.resolver = .stopped) : w'.resolver = .stopped := by
  cases h with
  | fetch h => cases h <;> exact hstopped
  | select h => cases h <;> exact hstopped
  | resolve h =>
    cases h with
    | failTake _ _ _ | failHeard _ _ | stop _ => rfl
    | take h _ | heard h | again h | emit h _ =>
      rw [hstopped] at h
      cases h
  | report h =>
    cases h with
    | conclude _ _ _ =>
      unfold Watcher.conclude
      split <;> exact hstopped
    | _ => exact hstopped
  | _ => exact hstopped

/-- Behind a resolver that is down no batch comes in; those that are there are taken or go away. -/
theorem Occurs.batches_prefix (h : w.Occurs hub event facts w' hub')
    (hstopped : w'.resolver = .stopped) :
    facts.filterMap Fact.taken? ++ w'.batches.items <+: w.batches.items := by
  have hrest (facts : List Fact) (hnone : ∀ f ∈ facts, f.taken? = none) :
      facts.filterMap Fact.taken? ++ w.batches.items <+: w.batches.items := by
    rw [List.filterMap_eq_nil_iff.mpr hnone]
    exact List.prefix_refl _
  cases h with
  | fetch h => cases h <;> exact hrest _ (by simp [Fact.taken?])
  | select h => cases h <;> exact hrest _ (by simp [Fact.taken?])
  | resolve h =>
    cases h with
    | emit _ _ => cases hstopped
    | _ => exact hrest _ (by simp [Fact.taken?])
  | report h =>
    cases h with
    | take _ _ hreceive =>
      rw [(Channel.items_of_receive? hreceive).1]
      exact List.prefix_refl _
    | fail _ _ | stop _ _ => exact List.nil_prefix
    | conclude _ _ _ =>
      unfold Watcher.conclude
      split <;> exact hrest _ (by simp [Fact.taken?])
    | _ => exact hrest _ (by simp [Fact.taken?])
  | track => exact hrest _ (by simp [Fact.taken?])
  | _ => exact hrest _ (by simp)

end Watcher

/-- All stages of a watcher run at first, if it can sweep and its plan keeps its deadlines. -/
theorem ChainPlan.KeepsDeadlines.runs_start {plan : ChainPlan} (h : plan.KeepsDeadlines)
    (hsweeps : plan.sweepInterval ≠ 0) (codec : Codec) (pool : Pool) (vault : Option String) :
    (Watcher.start plan codec pool vault).Runs := by
  refine ⟨⟨rfl, hsweeps, rfl, nofun, rfl⟩, ?_, rfl, nofun⟩
  rw [h.fetcher_start]
  nofun

/-! ### The books of the line -/

/-- The facts of idle steps add nothing to the books of the line. -/
theorem Fact.idle_readings {facts : List Fact} (h : ∀ f ∈ facts, f.isIdle = true) :
    facts.filterMap delivered? = [] ∧ facts.filterMap selected? = [] ∧
      facts.filterMap job? = [] ∧ facts.filterMap answer? = [] ∧ facts.filterMap taken? = [] := by
  have hread : ∀ f ∈ facts, f.delivered? = none ∧ f.selected? = none ∧ f.job? = none ∧
      f.answer? = none ∧ f.taken? = none := by
    intro f hf
    have hidle := h f hf
    cases f <;> first | exact ⟨rfl, rfl, rfl, rfl, rfl⟩ | cases hidle
  exact ⟨List.filterMap_eq_nil_iff.mpr fun f hf => (hread f hf).1,
    List.filterMap_eq_nil_iff.mpr fun f hf => (hread f hf).2.1,
    List.filterMap_eq_nil_iff.mpr fun f hf => (hread f hf).2.2.1,
    List.filterMap_eq_nil_iff.mpr fun f hf => (hread f hf).2.2.2.1,
    List.filterMap_eq_nil_iff.mpr fun f hf => (hread f hf).2.2.2.2⟩

/-- Every step keeps what has been looked through and what waits for it together, unless the
selector goes down. -/
theorem Line.Moves.blocks {maxRetry : Nat} {watchlist : Watchlist} {l l' : Line}
    {facts : List Fact} {selected delivered : List Block} (h : l.Moves maxRetry watchlist facts l')
    (hselector' : l'.selector ≠ .stopped) (hblocks : selected ++ l.blocks = delivered) :
    (selected ++ facts.filterMap Fact.selected?) ++ l'.blocks =
      delivered ++ facts.filterMap Fact.delivered? := by
  rw [← hblocks]
  cases h with
  | select hselector hfront =>
    rw [hfront]
    simp only [Fact.selected?, Fact.delivered?, List.filterMap_cons, List.filterMap_nil,
      List.append_assoc, List.append_nil, List.singleton_append]
  | rest hidle =>
    obtain ⟨hdelivered, hselected, -, -, -⟩ := Fact.idle_readings hidle
    rw [hselected, hdelivered, List.append_nil, List.append_nil]
  | leave _ => exact absurd rfl hselector'
  | _ =>
    simp only [Fact.selected?, Fact.delivered?, List.filterMap_cons, List.filterMap_nil,
      List.append_assoc, List.append_nil]

/-- The books of the line. The candidates whose fates are decided and those that wait are the
candidates of all jobs; and the batches that came out and those to come, of these jobs and of any
behind them, are what the fates decided and the fates to come make of the jobs. -/
structure Line.Accounts (l : Line) (jobs : List PendingBlock) (settlement : Settlement)
    (taken : List ResolvedBlock) : Prop where
  settled : settlement.fates.map (·.1) ++ l.pending = jobs.flatMap PendingBlock.candidates
  failures : settlement.failures = l.resolver.failures
  batches : ∀ more future, taken ++ l.inFlight more future =
    batchesOf (jobs ++ more) (settlement.fates.map (·.2) ++ future)

/-- The books only look at what waits, the resolver and the batches. -/
theorem Line.Accounts.of_waiting_eq {l l' : Line} {jobs : List PendingBlock}
    {settlement : Settlement} {taken : List ResolvedBlock}
    (h : l.Accounts jobs settlement taken) (hwaiting : l'.waiting = l.waiting)
    (hresolver : l'.resolver = l.resolver) (hbatches : l'.batches = l.batches) :
    l'.Accounts jobs settlement taken := by
  obtain ⟨hsettled, hfailures, hcoming⟩ := h
  refine ⟨?_, hresolver ▸ hfailures, fun more future => ?_⟩
  · rw [Line.pending, hwaiting, hresolver]
    exact hsettled
  · rw [Line.inFlight, hwaiting, hresolver, hbatches]
    exact hcoming more future

/-- The fates decided make these batches of the first of some jobs, whatever jobs and fates are to
come. -/
def Settlement.Yields (s : Settlement) (jobs : List PendingBlock) (batches : List ResolvedBlock) :
    Prop :=
  ∀ more future, batches <+: batchesOf (jobs ++ more) (s.fates.map (·.2) ++ future)

namespace Settlement.Yields

variable {s : Settlement} {jobs : List PendingBlock} {batches : List ResolvedBlock}

/-- The batches in front of them are made as well. -/
theorem of_prefix (h : s.Yields jobs batches) {first : List ResolvedBlock}
    (hfirst : first <+: batches) : s.Yields jobs first :=
  fun more future => hfirst.trans (h more future)

/-- More answers and more jobs change nothing about these batches. -/
theorem mono (h : s.Yields jobs batches) (maxRetry : Nat)
    (answers : List (BlockTx × Except CallError Receipt)) (later : List PendingBlock) :
    (s.hearAll maxRetry answers).Yields (jobs ++ later) batches := by
  intro more future
  obtain ⟨fates, hfates⟩ := s.fates_prefix_hearAll maxRetry answers
  rw [← hfates, List.map_append, List.append_assoc, List.append_assoc]
  exact h _ _

theorem prefix_batchesOf (h : s.Yields jobs batches) :
    batches <+: batchesOf jobs (s.fates.map (·.2)) := by
  have hall := h [] []
  rwa [List.append_nil, List.append_nil] at hall

theorem length_le (h : s.Yields jobs batches) : batches.length ≤ jobs.length := by
  have hlength := h.prefix_batchesOf.length_le
  rwa [batchesOf, List.length_map, length_portions] at hlength

/-- The batch of a job: the candidates of the job with the receipts that are their fates. -/
theorem getElem?_eq (h : s.Yields jobs batches) {j : Nat} {job : PendingBlock}
    (hjob : jobs[j]? = some job) (hj : j < batches.length) :
    batches[j]? = some ⟨job.height, job.blockHash, resolved job.candidates
      (((s.fates.map (·.2)).drop
        ((jobs.take j).flatMap PendingBlock.candidates).length).take job.candidates.length)⟩ := by
  obtain ⟨rest, hrest⟩ := h.prefix_batchesOf
  have hbatch := congrArg (·[j]?) hrest
  simp only [batchesOf, List.getElem?_map, getElem?_portions, hjob, Option.map_some,
    List.getElem?_append_left hj] at hbatch
  rw [hbatch, List.length_flatMap]

end Settlement.Yields

/-- Books in order say which batches the fates decided make. -/
theorem Line.Accounts.yields {l : Line} {jobs : List PendingBlock} {settlement : Settlement}
    {taken : List ResolvedBlock} (h : l.Accounts jobs settlement taken) :
    settlement.Yields jobs (taken ++ l.batches) := by
  intro more future
  rw [← h.batches more future, Line.inFlight, ← List.append_assoc]
  exact List.prefix_append _ _

/-- A candidate whose fate is a receipt is among the results. -/
theorem mem_resolved {txs : List BlockTx} {fates : List (Option Receipt)} {i : Nat} {tx : BlockTx}
    {receipt : Receipt} (htx : txs[i]? = some tx) (hfate : fates[i]? = some (some receipt)) :
    ⟨tx, receipt⟩ ∈ resolved txs fates := by
  have hzip : (txs.zip fates)[i]? = some (tx, some receipt) :=
    List.getElem?_zip_eq_some.mpr ⟨htx, hfate⟩
  exact List.mem_filterMap.mpr ⟨_, List.mem_of_getElem? hzip, rfl⟩

/-- Every step keeps the books. -/
theorem Line.Moves.accounts {maxRetry : Nat} {watchlist : Watchlist} {l l' : Line}
    {facts : List Fact} {jobs : List PendingBlock} {settlement : Settlement}
    {taken : List ResolvedBlock} (h : l.Moves maxRetry watchlist facts l')
    (ha : l.Accounts jobs settlement taken) :
    l'.Accounts (jobs ++ facts.filterMap Fact.job?)
      (settlement.hearAll maxRetry (facts.filterMap Fact.answer?))
      (taken ++ facts.filterMap Fact.taken?) := by
  have ⟨hsettled, hfailures, hbatches⟩ := ha
  cases h with
  | deliver =>
    simp only [Fact.job?, Fact.answer?, Fact.taken?, List.filterMap_cons, List.filterMap_nil,
      List.append_nil, Settlement.hearAll_nil]
    exact ⟨hsettled, hfailures, hbatches⟩
  | @select block rest hselector hblocks =>
    have hjob : [Fact.selected watchlist block].filterMap Fact.job? =
        (watchlist.job? block).toList := by
      simp only [List.filterMap_cons, List.filterMap_nil, Fact.job?]
      cases watchlist.job? block <;> rfl
    have hwaiting : Line.waiting { l with
        blocks := rest, selector := .found block (watchlist.candidates block) } =
          l.waiting ++ (watchlist.job? block).toList := by
      rw [Line.waiting, Line.waiting, Selector.job?_found, hselector]
      simp only [Selector.job?, Option.toList_none, List.append_nil]
    rw [hjob]
    simp only [Fact.answer?, Fact.taken?, List.filterMap_cons, List.filterMap_nil, List.append_nil,
      Settlement.hearAll_nil]
    refine ⟨?_, hfailures, fun more future => ?_⟩
    · rw [Line.pending, hwaiting, List.flatMap_append, List.flatMap_append, ← hsettled]
      simp only [Line.pending, List.append_assoc]
    · rw [Line.inFlight, hwaiting, List.append_assoc, List.append_assoc jobs]
      exact hbatches ((watchlist.job? block).toList ++ more) future
  | @queue job hselector =>
    have hwaiting : Line.waiting { l with jobs := l.jobs ++ [job], selector := .waiting } =
        l.waiting := by
      simp only [Line.waiting, hselector, Selector.job?, Option.toList_none, List.append_nil,
        Option.toList_some]
    simp only [List.filterMap_nil, List.append_nil, Settlement.hearAll_nil]
    exact ha.of_waiting_eq hwaiting rfl rfl
  | leave hselector =>
    have hwaiting : Line.waiting { l with blocks := [], selector := .stopped } = l.waiting := by
      rw [Line.waiting, Line.waiting, hselector]
      rfl
    simp only [List.filterMap_nil, List.append_nil, Settlement.hearAll_nil]
    exact ha.of_waiting_eq hwaiting rfl rfl
  | @begin job rest hresolver hjobs =>
    have hwaiting : l.waiting = job ::
        Line.waiting { l with jobs := rest, resolver := .begin job } := by
      simp only [Line.waiting, hjobs, List.cons_append]
    simp only [List.filterMap_nil, List.append_nil, Settlement.hearAll_nil]
    refine ⟨?_, ?_, fun more future => ?_⟩
    · rw [Line.pending, hresolver, hwaiting, List.flatMap_cons] at hsettled
      rw [Line.pending, Resolver.begin, Resolver.pending_turnTo]
      exact hsettled
    · rw [hresolver] at hfailures
      exact hfailures.trans (Resolver.failures_turnTo _ _ _ _).symm
    · rw [← hbatches more future, Line.inFlight, Line.inFlight, hresolver, hwaiting,
        Resolver.begin, Resolver.owes_turnTo]
      rfl
  | @hear job answer retryAt hresolver =>
    obtain ⟨fates, failures⟩ := settlement
    rw [hresolver] at hfailures
    obtain rfl : failures = job.attempt := hfailures
    simp only [Fact.job?, Fact.answer?, Fact.taken?, List.filterMap_cons, List.filterMap_nil,
      List.append_nil, Settlement.hearAll_cons, Settlement.hearAll_nil]
    rw [Line.pending, hresolver] at hsettled
    obtain ⟨fate, hturn, hheard⟩ | ⟨hpause, hheard⟩ := job.heard_cases maxRetry retryAt answer
    · -- the fate is the first of those that were to come
      rw [hturn, hheard]
      refine ⟨?_, (Resolver.failures_turnTo _ _ _ _).symm, fun more future => ?_⟩
      · rw [← hsettled, Line.pending, Resolver.pending_turnTo, List.map_append]
        simp only [List.append_assoc]
        rfl
      · have hnext := hbatches more (fate :: future)
        rw [Line.inFlight, hresolver, Resolver.owes, List.take_succ_cons, List.drop_succ_cons,
          resolved_cons] at hnext
        rw [Line.inFlight, Resolver.owes_turnTo, List.map_append, List.append_assoc,
          List.append_assoc]
        exact hnext
    · rw [hpause, hheard]
      refine ⟨hsettled, rfl, fun more future => ?_⟩
      rw [← hbatches more future, Line.inFlight, Line.inFlight, hresolver]
      rfl
  | @again job wake hresolver =>
    simp only [List.filterMap_nil, List.append_nil, Settlement.hearAll_nil]
    rw [Line.pending, hresolver] at hsettled
    rw [hresolver] at hfailures
    refine ⟨hsettled, hfailures, fun more future => ?_⟩
    rw [← hbatches more future, Line.inFlight, Line.inFlight, hresolver]
    rfl
  | @emit batch hresolver =>
    simp only [List.filterMap_nil, List.append_nil, Settlement.hearAll_nil]
    rw [Line.pending, hresolver] at hsettled
    rw [hresolver] at hfailures
    refine ⟨hsettled, hfailures, fun more future => ?_⟩
    rw [← hbatches more future, Line.inFlight, Line.inFlight, hresolver, List.append_assoc]
    rfl
  | @take batch rest hbatches' =>
    simp only [Fact.job?, Fact.answer?, Fact.taken?, List.filterMap_cons, List.filterMap_nil,
      List.append_nil, Settlement.hearAll_nil]
    refine ⟨hsettled, hfailures, fun more future => ?_⟩
    rw [← hbatches more future, Line.inFlight, Line.inFlight, hbatches', List.append_assoc]
    rfl
  | rest hidle =>
    obtain ⟨-, -, hjob, hanswer, htaken⟩ := Fact.idle_readings hidle
    rw [hjob, hanswer, htaken, List.append_nil, List.append_nil, Settlement.hearAll_nil]
    exact ⟨hsettled, hfailures, hbatches⟩

namespace World

/-- What the answers so far have decided. -/
def settlement (s : World) : Settlement :=
  Settlement.start.hearAll s.watcher.settings.maxReceiptRetry s.answers

/-- The books of a world: the batches that came out and those that wait are made by the fates
decided, and while the resolver runs the books of the line are in order. -/
structure Books (s : World) : Prop where
  yields : s.settlement.Yields s.jobs (s.taken ++ s.watcher.batches.items)
  accounts : s.watcher.resolver ≠ .stopped →
    s.watcher.Works ∧ s.watcher.line.Accounts s.jobs s.settlement s.taken

theorem Books.yields_taken {s : World} (h : s.Books) : s.settlement.Yields s.jobs s.taken :=
  h.yields.of_prefix (List.prefix_append _ _)

/-- Every step keeps the books. -/
theorem Books.step {s : World} {e : Event} {facts : List Fact} {w : Watcher} {hub : Hub}
    (h : s.Books) (hoccurs : s.watcher.Occurs s.hub e facts w hub) (he : e ≠ .cancel) :
    (World.mk w hub (s.facts ++ facts)).Books := by
  have hsettlement : (World.mk w hub (s.facts ++ facts)).settlement =
      s.settlement.hearAll s.watcher.settings.maxReceiptRetry (facts.filterMap Fact.answer?) := by
    simp only [settlement, answers, List.filterMap_append, Settlement.hearAll_append,
      hoccurs.settings_eq]
  have hjobs : (World.mk w hub (s.facts ++ facts)).jobs = s.jobs ++ facts.filterMap Fact.job? :=
    List.filterMap_append
  have htaken : (World.mk w hub (s.facts ++ facts)).taken =
      s.taken ++ facts.filterMap Fact.taken? :=
    List.filterMap_append
  by_cases hstopped : w.resolver = .stopped
  · refine ⟨?_, fun hrun => absurd hstopped hrun⟩
    rw [hsettlement, hjobs, htaken, List.append_assoc]
    have hfirst := (List.prefix_append_right_inj s.taken).mpr (hoccurs.batches_prefix hstopped)
    exact (h.yields.of_prefix hfirst).mono _ _ _
  · obtain ⟨hworks, haccounts⟩ := h.accounts fun hdown => hstopped (hoccurs.resolver_stopped hdown)
    have haccounts' := (hoccurs.moves hworks hstopped).accounts haccounts
    rw [← hsettlement, ← hjobs, ← htaken] at haccounts'
    exact ⟨haccounts'.yields, fun _ =>
      ⟨(hoccurs.works_or hworks he).resolve_right fun h => hstopped h.2, haccounts'⟩⟩

section Runs

variable (settings : ChainPlan) (codec : Codec) (pool : Pool) (vault : Option String) (hub : Hub)
  (events : List Event) (hsweeps : settings.sweepInterval ≠ 0) (hevents : ∀ e ∈ events, e ≠ .cancel)

include hsweeps hevents

/-- **The books** are in order at every moment of every run of a watcher that can sweep and is not
cancelled. -/
theorem books_run : ((World.start settings codec pool vault hub).run events).Books := by
  refine run_induction_occurs _ events hevents ⟨fun more future => ?_, fun _ => ⟨?_, ?_⟩⟩
    fun t e facts w hub he ht hoccurs => ht.step hoccurs he
  · exact List.nil_prefix
  · exact ⟨rfl, hsweeps, rfl, nofun, rfl⟩
  · exact ⟨rfl, rfl, fun _ _ => rfl⟩

/-- **All stages run** at every moment of such a run if the plan keeps its deadlines, and each block
that was delivered has been looked through or waits for it. -/
theorem runs_run (hkeeps : settings.KeepsDeadlines) :
    let s := (World.start settings codec pool vault hub).run events
    s.watcher.Runs ∧ s.selected ++ s.watcher.line.blocks = s.delivered := by
  have hrun := run_induction_occurs (P := fun s => s.watcher.Follows settings ∧ s.watcher.Runs ∧
    s.selected ++ s.watcher.line.blocks = s.delivered)
    (World.start settings codec pool vault hub) events hevents ⟨?_, ?_, rfl⟩ ?_
  · exact hrun.2
  · exact Watcher.follows_start settings codec pool vault
  · exact hkeeps.runs_start hsweeps codec pool vault
  · rintro t e facts w hub he ⟨hfollows, hruns, hblocks⟩ hoccurs
    have hruns' := hoccurs.runs hruns (hkeeps.callLimit?_ne_none hfollows) he
    have hblocks' := (hoccurs.moves hruns.toWorks hruns'.resolver).blocks hruns'.selector hblocks
    refine ⟨hoccurs.follows hfollows, hruns', ?_⟩
    rwa [selected, delivered, ← List.filterMap_append, ← List.filterMap_append] at hblocks'

end Runs

end World

end VaultWatch
