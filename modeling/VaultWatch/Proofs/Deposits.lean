import VaultWatch.Proofs.Batches
import VaultWatch.Proofs.Heights
import VaultWatch.Proofs.Passage
import VaultWatch.Proofs.Pipeline

/-!
# Deposits

What a watcher reports when nothing disturbs it: the vault stays the same, nothing is tracked,
nobody cancels it, and the outbound streams stay open. Then the matched blocks sent, followed by
those that are still owed for what is on the way, are the payments to the vault in the delivered
blocks, in order, each with its receipt. `expected` says it of the blocks and the fates alone.

This takes a reporter that can run. A watcher whose waits may take no time at all cannot sweep, its
reporter ends as soon as it begins, and what is on the way is lost: `accounted_iff` gives the exact
condition for watchers that keep their deadlines, and `lost_without_timeout` a run that loses a
deposit. It takes a resolver that can run as well, and one that finds no time for a call goes down
with what it has resolved: `lost_beyond_deadlines` is a run of a watcher that does not keep its
deadlines.
-/

namespace VaultWatch

/-! ### What is expected -/

/-- The deposit that a payment with a receipt is. -/
def BlockTx.deposit? (tx : BlockTx) (fate : Option Receipt) : Option Deposit :=
  match tx.recipient, fate with
  | some recipient, some receipt => some ⟨tx.hash, tx.raw, tx.sender, recipient, receipt.success⟩
  | _, _ => none

/-- The matched block of a block by the fates of its payments. -/
def Watchlist.matchedBlock (w : Watchlist) (chain : String) (block : Block)
    (fates : List (Option Receipt)) : DepositBlock :=
  ⟨chain, block.height, block.hash,
    ((w.payments block).zip fates).filterMap fun p => p.1.deposit? p.2⟩

/-- The block has something to report. -/
def DepositBlock.isMatch (block : DepositBlock) : Bool := !block.txs.isEmpty

/-- The matched blocks of some blocks by the fates of their payments. -/
def expected (chain : String) (w : Watchlist) (blocks : List Block)
    (fates : List (Option Receipt)) : List DepositBlock :=
  ((portions (fun block => (w.payments block).length) blocks fates).map fun p =>
    w.matchedBlock chain p.1 p.2).filter DepositBlock.isMatch

/-! ### What is owed -/

/-- The matched blocks that a watcher still owes for what is on the way, by the fates to come of the
candidates that wait. -/
def Watcher.owed (w : Watcher) (future : List (Option Receipt)) : List DepositBlock :=
  let coming := w.line.inFlight (w.line.blocks.filterMap w.watchlist.job?) future
  let results := (w.reporter.part?.map PartBatch.rest).getD [] ++
    coming.flatMap ResolvedBlock.results
  w.reporter.announcing?.toList ++
    (w.reporter.ahead w.chain coming (results.map fun r => (w.watchlist.judge r).1)).filter
      DepositBlock.isMatch

/-- The candidates on the way whose fates are not decided, in order. -/
def Watcher.undecided (w : Watcher) : List BlockTx :=
  w.line.pending ++ w.line.blocks.flatMap w.watchlist.candidates

/-- Nothing is on the way. -/
structure Watcher.IsDrained (w : Watcher) : Prop where
  blocks : w.line.blocks = []
  jobs : w.line.waiting = []
  resolver : w.resolver = .waiting ∨ w.resolver = .stopped
  batches : w.line.batches = []
  part : w.reporter.part? = none
  block : w.reporter.announcing? = none

theorem expected_paymentBlock {chain : String} {w : Watchlist} {vault : String}
    (hvault : w.vault = some vault) :
    expected chain w [paymentBlock vault] [some paymentReceipt] =
      [⟨chain, 0, "0x03", [⟨"0x01", [], "0x02", vault, true⟩]⟩] := by
  rw [expected, portions_cons, portions_nil, List.map_singleton, Watchlist.matchedBlock,
    w.payments_paymentBlock hvault]
  rfl

theorem Watcher.IsDrained.inFlight_eq_nil {w : Watcher} (h : w.IsDrained) :
    w.line.inFlight (w.line.blocks.filterMap w.watchlist.job?) [] = [] := by
  rw [Line.inFlight, h.batches, h.jobs, h.blocks]
  obtain hresolver | hresolver : w.line.resolver = .waiting ∨ w.line.resolver = .stopped :=
    h.resolver
  · rw [hresolver]
    rfl
  · rw [hresolver]
    rfl

/-- The candidates of the jobs of some blocks are the candidates of the blocks. -/
theorem Watchlist.flatMap_job? (w : Watchlist) (blocks : List Block) :
    (blocks.filterMap w.job?).flatMap PendingBlock.candidates = blocks.flatMap w.candidates := by
  induction blocks with
  | nil => rfl
  | cons block blocks ih =>
    rw [List.filterMap_cons, List.flatMap_cons, ← ih, Watchlist.job?]
    by_cases hnone : w.candidates block = []
    · rw [hnone]
      rfl
    · rw [if_neg (by simpa using hnone)]
      rfl

/-! ### Verdicts on payments -/

namespace Watchlist

variable {w : Watchlist} (hplain : w.IsPlain)

include hplain

/-- A payment with a receipt is judged to be a deposit. -/
theorem IsPlain.depositOf_judge {tx : BlockTx} (hpays : w.paysVault tx.recipient = true)
    (receipt : Receipt) :
    Watcher.depositOf (w.judge ⟨tx, receipt⟩).1 = tx.deposit? (some receipt) := by
  rw [judge_of_unknown w _ (hplain.find?_eq_none _)]
  cases hto : tx.recipient with
  | none =>
    rw [hto] at hpays
    cases hpays
  | some recipient =>
    rw [hto] at hpays
    have hvault : w.vaultIs recipient = true := hpays
    simp only [hto, hvault, if_true, Watcher.depositOf, BlockTx.deposit?]
    rfl

/-- The deposits among the results for the candidates of a block. -/
theorem IsPlain.deposits_eq (block : Block) (fates : List (Option Receipt)) :
    ((resolved (w.candidates block) fates).map fun r => (w.judge r).1).filterMap
        Watcher.depositOf =
      ((w.payments block).zip fates).filterMap fun p => p.1.deposit? p.2 := by
  rw [hplain.candidates_eq, resolved, List.filterMap_map, List.filterMap_filterMap]
  refine List.filterMap_congr fun p hp => ?_
  obtain ⟨tx, fate⟩ := p
  have hpays := (List.mem_filter.mp (List.of_mem_zip hp).1).2
  cases fate with
  | none => cases h : tx.recipient <;> simp [BlockTx.deposit?, h]
  | some receipt => exact hplain.depositOf_judge hpays receipt

end Watchlist

/-- The deposits of some batches when every result is judged alike. -/
theorem digest_verdicts (chain : String) (verdict : ResolvedTx → Verdict)
    (batches : List ResolvedBlock) :
    digest chain batches ((batches.flatMap ResolvedBlock.results).map verdict) =
      batches.map fun batch => ⟨chain, batch.height, batch.blockHash,
        (batch.results.map verdict).filterMap Watcher.depositOf⟩ := by
  induction batches with
  | nil => rfl
  | cons batch batches ih =>
    have hsize : (batch.results.map verdict).length = batch.results.length := List.length_map _
    rw [List.flatMap_cons, List.map_append, digest, portions_cons, ← hsize, List.take_left,
      List.drop_left, List.map_cons, List.map_cons]
    exact congrArg (_ :: ·) ih

/-- The deposits of the batches of some blocks are what is expected of the blocks. -/
theorem digest_batchesOf {w : Watchlist} (hplain : w.IsPlain) (chain : String)
    (blocks : List Block) (fates : List (Option Receipt)) :
    ((batchesOf (blocks.filterMap w.job?) fates).map fun batch =>
      (⟨chain, batch.height, batch.blockHash,
        (batch.results.map fun r => (w.judge r).1).filterMap Watcher.depositOf⟩ :
          DepositBlock)).filter DepositBlock.isMatch = expected chain w blocks fates := by
  induction blocks generalizing fates with
  | nil => rfl
  | cons block blocks ih =>
    have hsame := hplain.candidates_eq block
    rw [expected, portions_cons, List.map_cons]
    by_cases hnone : w.candidates block = []
    · -- such a block makes no job, and there is nothing to report
      have hjob : w.job? block = none := by rw [Watchlist.job?, hnone]; rfl
      have hquiet : w.payments block = [] := hsame ▸ hnone
      rw [List.filterMap_cons_none hjob, ih, hquiet, List.length_nil, List.drop_zero,
        List.filter_cons_of_neg]
      · rfl
      · simp [Watchlist.matchedBlock, hquiet, DepositBlock.isMatch]
    · have hjob : w.job? block = some ⟨block.height, block.hash, w.candidates block⟩ :=
        if_neg (by simpa using hnone)
      rw [List.filterMap_cons_some hjob, batchesOf, portions_cons, List.map_cons, List.map_cons,
        hplain.deposits_eq, List.filter_cons, List.filter_cons, hsame]
      have hrest := ih (fates.drop (w.payments block).length)
      rw [expected] at hrest
      rw [← hrest]
      rfl

/-! ### Runs without disturbance -/

/-- Both outbound streams are open. -/
def Hub.StreamsOpen (hub : Hub) : Prop := hub.matched.isOpen = true ∧ hub.updates.isOpen = true

/-- The event tracks nothing, keeps the vault, closes no outbound stream and cancels nothing. -/
def Event.Undisturbed (vault : String) : Event → Prop
  | .track _ | .cancel => False
  | .switchVault address => address = vault
  | .elsewhere hub => hub.StreamsOpen
  | _ => True

namespace Watcher

variable {w w' : Watcher} {hub hub' : Hub} {event : Event} {facts : List Fact}

/-- Without disturbance a watchlist without tracked transactions stays as it is. -/
theorem Occurs.watchlist_eq {vault : String} (h : w.Occurs hub event facts w' hub')
    (hevent : event.Undisturbed vault) (hplain : w.watchlist.IsPlain)
    (hvault : w.watchlist.vault = some vault) : w'.watchlist = w.watchlist := by
  cases h with
  | fetch h => cases h <;> rfl
  | select h => cases h <;> rfl
  | resolve h => cases h <;> rfl
  | report h =>
    cases h with
    | @judge batch result rest _ _ _ => exact hplain.judge_snd result
    | conclude _ _ _ =>
      unfold Watcher.conclude
      split <;> rfl
    | sweep _ _ _ => exact hplain.expire_snd hub.now w.settings.trackTimeout
    | _ => rfl
  | track => cases hevent
  | @switchVault address =>
    obtain rfl : address = vault := hevent
    exact w.watchlist.moveVault_self hvault
  | _ => rfl

/-- Without disturbance the stream of matched blocks stays open. -/
theorem Occurs.matched_open {vault : String} (h : w.Occurs hub event facts w' hub')
    (hevent : event.Undisturbed vault) (hopen : hub.matched.isOpen = true) :
    hub'.matched.isOpen = true := by
  cases h with
  | fetch h => cases h <;> exact hopen
  | select h => exact hopen
  | resolve h => cases h <;> exact hopen
  | report h =>
    cases h with
    | conclude _ _ _ =>
      unfold Watcher.conclude Hub.saveObserved
      split
      · exact hopen
      · split <;> exact hopen
    | announce _ hsend => exact (Channel.items_of_send? hsend).2.2.trans hopen
    | _ => exact hopen
  | elsewhere => exact hevent.1
  | _ => exact hopen

/-- What a step concludes with deposits waits behind what has been waiting, and what it sends comes
from the front; or what has been waiting is lost. -/
theorem Handles.announces (h : w.Handles hub facts w') :
    facts.filterMap Fact.sent? ++ w'.reporter.announcing?.toList =
        w.reporter.announcing?.toList ++
          (facts.filterMap Fact.concluded?).filter DepositBlock.isMatch ∨
      (w.cancelled = true ∨ hub.matched.isOpen = false) ∧ facts = [] ∧
        w'.reporter.announcing? = none := by
  cases h with
  | take _ hblock _ hblock' => exact .inl (by rw [hblock, hblock']; rfl)
  | judge _ _ haside _ hblock =>
    obtain ⟨-, -, hconcluded, hnone⟩ := Fact.aside_readings haside
    refine .inl ?_
    rw [hblock]
    simp only [Fact.sent?, Fact.concluded?, List.filterMap_cons, hconcluded, hnone,
      List.append_nil, List.nil_append, List.filter_nil]
  | @conclude batch _ _ hblock _ _ hblock' =>
    refine .inl ?_
    rw [hblock, hblock']
    simp only [Fact.sent?, Fact.concluded?, List.filterMap_cons, List.filterMap_nil,
      List.nil_append, Option.toList_none, List.filter_cons, List.filter_nil,
      DepositBlock.isMatch, PartBatch.matchedBlock]
    by_cases hnone : batch.deposits.isEmpty = true
    · simp [hnone]
    · simp [hnone]
  | announce _ hblock _ hblock' =>
    refine .inl ?_
    rw [hblock, hblock']
    simp [Fact.sent?, Fact.concluded?]
  | lose hgone _ _ hblock' => exact .inr ⟨hgone, rfl, hblock'⟩
  | nothing haside _ hblock =>
    obtain ⟨-, -, hconcluded, hnone⟩ := Fact.aside_readings haside
    refine .inl ?_
    rw [hblock, hconcluded, hnone, List.filter_nil, List.append_nil, List.nil_append]

/-- While the stream is open and nobody cancels, each conclusion that has deposits is sent or waits
to be sent, in order. -/
theorem Handles.sent_append {sent concluded : List DepositBlock} (h : w.Handles hub facts w')
    (hcancelled : w.cancelled = false) (hopen : hub.matched.isOpen = true)
    (hsent : sent ++ w.reporter.announcing?.toList = concluded.filter DepositBlock.isMatch) :
    (sent ++ facts.filterMap Fact.sent?) ++ w'.reporter.announcing?.toList =
      (concluded ++ facts.filterMap Fact.concluded?).filter DepositBlock.isMatch := by
  rcases h.announces with hnext | ⟨hgone, -, -⟩
  · rw [List.append_assoc, hnext, ← List.append_assoc, hsent, List.filter_append]
  · simp [hcancelled, hopen] at hgone

end Watcher

namespace World

/-- How a run without disturbance goes on: all stages run, the watcher follows its plan, the
watchlist stays as it is at first, the stream of matched blocks stays open, and all conclusions with
deposits have been sent, but for the one that waits for the stream. -/
structure Steady (settings : ChainPlan) (vault : String) (s : World) : Prop where
  runs : s.watcher.Runs
  follows : s.watcher.Follows settings
  watchlist_eq : s.watcher.watchlist = settings.watchlist (some vault)
  matched_open : s.hub.matched.isOpen = true
  sent_append : s.sent ++ s.watcher.reporter.announcing?.toList =
    s.concluded.filter DepositBlock.isMatch

section Undisturbed

variable (settings : ChainPlan) (codec : Codec) (pool : Pool) (vault : String) (hub : Hub)
  (events : List Event) (hkeeps : settings.KeepsDeadlines)
  (hsweeps : settings.sweepInterval ≠ 0) (hopen : hub.StreamsOpen)
  (hevents : ∀ e ∈ events, e.Undisturbed vault)

include hkeeps hsweeps hopen hevents

theorem steady_run :
    ((World.start settings codec pool (some vault) hub).run events).Steady settings vault := by
  refine run_induction_occurs _ events hevents ⟨?_, ?_, rfl, hopen.1, rfl⟩ ?_
  · exact hkeeps.runs_start hsweeps codec pool (some vault)
  · exact Watcher.follows_start settings codec pool (some vault)
  rintro t e facts w hub he ⟨hruns, hfollows, hwatchlist, hmatched, hsent⟩ hoccurs
  have hcancel : e ≠ .cancel := by
    rintro rfl
    exact he
  have hplain : t.watcher.watchlist.IsPlain := by rw [hwatchlist]; rfl
  have hvault : t.watcher.watchlist.vault = some vault := by rw [hwatchlist]; rfl
  have hsent' := hoccurs.handles.sent_append hruns.cancelled hmatched hsent
  refine ⟨hoccurs.runs hruns (hkeeps.callLimit?_ne_none hfollows) hcancel, hoccurs.follows hfollows,
    (hoccurs.watchlist_eq he hplain hvault).trans hwatchlist, hoccurs.matched_open he hmatched, ?_⟩
  rwa [sent, concluded, ← List.filterMap_append, ← List.filterMap_append] at hsent'

/-- Without disturbance every watchlist that the record tells of is the first one. -/
theorem watchlist_of_undisturbed {f : Fact} {watchlist : Watchlist}
    (hf : f ∈ ((World.start settings codec pool (some vault) hub).run events).facts)
    (htold : f.watchlist? = some watchlist) : watchlist = settings.watchlist (some vault) := by
  obtain ⟨past, rest, hfacts⟩ := List.append_of_mem hf
  obtain ⟨before, e, later, rfl, -, hcurrent⟩ :=
    exists_moment_of_watchlist hfacts (Nat.zero_le _) htold
  have hbefore := steady_run settings codec pool vault hub before hkeeps hsweeps hopen
    fun e he => hevents e (List.mem_append_left _ he)
  exact hcurrent.symm.trans hbefore.watchlist_eq

/-- Without disturbance every block that was looked through has made the job of its payments. -/
theorem jobs_of_undisturbed :
    let s := (World.start settings codec pool (some vault) hub).run events
    s.jobs = s.selected.filterMap (settings.watchlist (some vault)).job? := by
  intro s
  rw [jobs, selected, List.filterMap_filterMap]
  refine List.filterMap_congr fun f hf => ?_
  cases f with
  | selected watchlist block =>
    rw [watchlist_of_undisturbed settings codec pool vault hub events hkeeps hsweeps hopen hevents
      hf rfl]
    rfl
  | _ => rfl

/-- Without disturbance every result is judged with the first watchlist. -/
theorem verdicts_of_undisturbed :
    let s := (World.start settings codec pool (some vault) hub).run events
    s.judgements.map Judgement.verdict = (s.judgements.map Judgement.result).map fun result =>
      ((settings.watchlist (some vault)).judge result).1 := by
  intro s
  rw [List.map_map]
  refine List.map_congr_left fun j hj => ?_
  obtain ⟨f, hf, hjudged⟩ := List.mem_filterMap.mp hj
  cases f with
  | judged watchlist height blockHash result =>
    cases hjudged
    rw [Function.comp, Judgement.verdict,
      watchlist_of_undisturbed settings codec pool vault hub events hkeeps hsweeps hopen hevents
        hf rfl]
  | _ => cases hjudged

end Undisturbed

/-- The fates of the candidates that are decided, in order. -/
def fates (s : World) : List (Option Receipt) := s.settlement.fates.map (·.2)

/-- A watcher has accounted for all deposits: blocks have been delivered for the heights from the
head on; the matched blocks sent and those owed are what is expected of the delivered blocks,
whatever becomes of the candidates that wait; fates are decided in the order of the payments; and
when nothing is on the way all that is expected has been sent. -/
structure Accounted (chain : String) (watchlist : Watchlist) (s : World) : Prop where
  heights : s.heads = [] ∧ s.heights = [] ∨
    ∃ first, s.heads = [first] ∧ s.heights = heightsFrom first s.delivered.length
  owed : ∀ future, s.sent ++ s.watcher.owed future =
    expected chain watchlist s.delivered (s.fates ++ future)
  fates : s.settlement.fates.map (·.1) ++ s.watcher.undecided =
    s.delivered.flatMap watchlist.payments
  drained : s.watcher.IsDrained → s.sent = expected chain watchlist s.delivered s.fates

/-- A watcher without disturbance that can sweep and keeps its deadlines accounts for all
deposits. -/
theorem accounted_of_undisturbed (settings : ChainPlan) (codec : Codec) (pool : Pool)
    (vault : String) (hub : Hub) (events : List Event) (hkeeps : settings.KeepsDeadlines)
    (hsweeps : settings.sweepInterval ≠ 0) (hopen : hub.StreamsOpen)
    (hevents : ∀ e ∈ events, e.Undisturbed vault) :
    ((World.start settings codec pool (some vault) hub).run events).Accounted settings.chain
      (settings.watchlist (some vault)) := by
  have hcancel : ∀ e ∈ events, e ≠ .cancel := by
    rintro e he rfl
    exact hevents _ he
  obtain ⟨-, hfollows, hwatchlist, -, hsent⟩ :=
    steady_run settings codec pool vault hub events hkeeps hsweeps hopen hevents
  obtain ⟨hruns, hblocks⟩ :=
    runs_run settings codec pool (some vault) hub events hsweeps hcancel hkeeps
  obtain ⟨-, haccounts⟩ :=
    (books_run settings codec pool (some vault) hub events hsweeps hcancel).accounts hruns.resolver
  have hjobs :=
    jobs_of_undisturbed settings codec pool vault hub events hkeeps hsweeps hopen hevents
  have hverdicts :=
    verdicts_of_undisturbed settings codec pool vault hub events hkeeps hsweeps hopen hevents
  have hbooks := reporter_accounts_run settings codec pool (some vault) hub events
  have hheights := heights_run settings codec pool (some vault) hub events
  have hplain : (settings.watchlist (some vault)).IsPlain := rfl
  generalize hs : (World.start settings codec pool (some vault) hub).run events = s at *
  generalize settings.watchlist (some vault) = watchlist at *
  dsimp only at hheights
  have howed : ∀ future, s.sent ++ s.watcher.owed future =
      expected settings.chain watchlist s.delivered (s.fates ++ future) := by
    intro future
    have hchain : s.watcher.chain = settings.chain := congrArg ChainPlan.chain hfollows.settings_eq
    have hbatches := haccounts.batches (s.watcher.line.blocks.filterMap watchlist.job?) future
    rw [hjobs, ← List.filterMap_append, hblocks] at hbatches
    rw [Watcher.owed, hwatchlist, hchain, ← List.append_assoc, hsent, ← List.filter_append,
      hbooks.deposits, hverdicts, ← List.map_append, ← List.append_assoc, hbooks.results,
      ← List.flatMap_append, digest_verdicts, hbatches, digest_batchesOf hplain]
    rfl
  refine ⟨hheights, howed, ?_, fun hdrained => ?_⟩
  · have hsame : watchlist.payments = watchlist.candidates := by
      funext block
      exact (hplain.candidates_eq block).symm
    rw [Watcher.undecided, hwatchlist, ← List.append_assoc, haccounts.settled, hjobs, hsame,
      ← hblocks, List.flatMap_append, watchlist.flatMap_job?]
  · have hnothing : s.watcher.owed [] = [] := by
      rw [Watcher.owed, hdrained.inFlight_eq_nil, hdrained.part, hdrained.block]
      rw [Reporter.ahead_of_none hdrained.part]
      rfl
    rw [← List.append_nil s.sent, ← hnothing, howed, List.append_nil]

/-! ### Runs without a timeout -/

/-- A run in which a payment to the vault is found and its receipt told, while the reporter has
ended at its beginning. -/
def strandedRun (vault : String) : List Event :=
  [.move (.report .begin)] ++ offerPayment vault ++ resolveBlock paymentReceipt ++
    [.move (.resolve .abandon)]

theorem undisturbed_strandedRun (vault : String) :
    ∀ e ∈ strandedRun vault, e.Undisturbed vault := by
  simp [strandedRun, offerPayment, fetchBlock, selectBlock, resolveBlock, Event.Undisturbed]

theorem run_strandedRun (settings : ChainPlan) (codec : Codec) (pool : Pool) (vault : String)
    (hub : Hub) (hkeeps : settings.KeepsDeadlines) (hsweeps : settings.sweepInterval = 0) :
    let s := (World.start settings codec pool (some vault) hub).run (strandedRun vault)
    s.delivered = [paymentBlock vault] ∧ s.fates = [some paymentReceipt] ∧ s.sent = [] ∧
      s.watcher.IsDrained := by
  intro s
  have hs : s = (World.start settings codec pool (some vault) hub).run (strandedRun vault) := rfl
  -- the watcher and the facts before each task takes its turn
  let w₀ := (Watcher.start settings codec pool (some vault)).stopReporter
  have hbegin : (World.start settings codec pool (some vault) hub).run
      [.move (.report .begin)] = ⟨w₀, hub, []⟩ := by
    have hmove : (Watcher.start settings codec pool (some vault)).happen? hub
        (.move (.report .begin)) = some (w₀, hub) :=
      if_pos hsweeps
    rw [run_cons, step, start, hmove]
    rfl
  have hstage : w₀.fetcher.stage = .askingHead :=
    congrArg Fetcher.stage (hkeeps.fetcher_start codec pool (some vault))
  have hlimit₀ : w₀.callLimit? ≠ none := by
    have hrun := hkeeps.callLimit?_run codec pool (some vault) hub [.move (.report .begin)]
    rwa [hbegin] at hrun
  obtain ⟨fetcher, fees, hub₁, hoffer⟩ :=
    run_offerPayment w₀ hub [] vault hstage hlimit₀ rfl rfl rfl rfl rfl
  let w₁ := { w₀ with
    fetcher
    fees
    blocks := ⟨1, [], true⟩
    jobs := ⟨max settings.channelCapacity 1, [⟨0, "0x03", [payment vault]⟩], true⟩ }
  let facts₁ : List Fact := [.head 0, .delivered 0 (paymentBlock vault),
    .selected w₀.watchlist (paymentBlock vault)]
  have hlimit₁ : w₁.callLimit? ≠ none := by
    have hrun := hkeeps.callLimit?_run codec pool (some vault) hub
      ([.move (.report .begin)] ++ offerPayment vault)
    rwa [run_append, hbegin, hoffer] at hrun
  obtain ⟨hub₂, hresolve⟩ := run_resolveBlock w₁ hub₁ facts₁ paymentReceipt rfl hlimit₁
    rfl
  rw [strandedRun, run_append, run_append, run_append, hbegin, hoffer] at hs
  change s = ((World.mk w₁ hub₁ facts₁).run (resolveBlock paymentReceipt)).run _ at hs
  rw [hresolve] at hs
  rw [hs]
  exact ⟨rfl, rfl, rfl, rfl, rfl, .inr rfl, rfl, rfl, rfl⟩

/-- Such a run leaves a payment out: nothing is on the way, and nothing has been sent. -/
theorem not_accounted_strandedRun (settings : ChainPlan) (codec : Codec) (pool : Pool)
    (vault : String) (hub : Hub) (hkeeps : settings.KeepsDeadlines)
    (hsweeps : settings.sweepInterval = 0) :
    ¬ ((World.start settings codec pool (some vault) hub).run (strandedRun vault)).Accounted
      settings.chain (settings.watchlist (some vault)) := by
  intro haccounted
  obtain ⟨hdelivered, hfates, hsent, hdrained⟩ :=
    run_strandedRun settings codec pool vault hub hkeeps hsweeps
  have hall := haccounted.drained hdrained
  rw [hdelivered, hfates, hsent, expected_paymentBlock rfl] at hall
  cases hall

/-- **Deposits are accounted for exactly when waits may take time.** A watcher whose plan keeps its
deadlines accounts for all deposits in every run without disturbance, whatever the schedule of its
tasks and the answers of the nodes, if and only if its timeout for tracked transactions is not
zero. -/
theorem accounted_iff (settings : ChainPlan) (hkeeps : settings.KeepsDeadlines) (codec : Codec)
    (pool : Pool) (vault : String) :
    (∀ (hub : Hub) (events : List Event), hub.StreamsOpen →
      (∀ e ∈ events, e.Undisturbed vault) →
        ((World.start settings codec pool (some vault) hub).run events).Accounted settings.chain
          (settings.watchlist (some vault))) ↔ 0 < settings.trackTimeout := by
  constructor
  · intro haccounted
    by_contra hnone
    have hsweeps : settings.sweepInterval = 0 := by
      rw [ChainPlan.sweepInterval, Nat.eq_zero_of_not_pos hnone]
      rfl
    exact not_accounted_strandedRun settings codec pool vault (.start 1) hkeeps hsweeps
      (haccounted (.start 1) (strandedRun vault) ⟨rfl, rfl⟩ (undisturbed_strandedRun vault))
  · intro hpositive hub events hopen hevents
    refine accounted_of_undisturbed settings codec pool vault hub events hkeeps ?_ hopen hevents
    rw [ChainPlan.sweepInterval, longestSweep, secs]
    omega

/-- With the defaults the payment of such a run is accounted for: its batch waits for the
reporter. -/
theorem accounted_strandedRun : (localPlan none).KeepsDeadlines ∧
    ((localWorld none "0x04").run (strandedRun "0x04")).Accounted (localPlan none).chain
      ((localPlan none).watchlist (some "0x04")) := by
  have hkeeps := keepsDeadlines_localPlan none
  have htimeout : 0 < (localPlan none).trackTimeout := by decide
  exact ⟨hkeeps, (accounted_iff (localPlan none) hkeeps _ _ "0x04").mpr htimeout _ _ ⟨rfl, rfl⟩
    (undisturbed_strandedRun "0x04")⟩

/-- A configuration whose chain gives up tracked transactions at once is fit to run, and its watcher
loses a payment to the vault. -/
theorem lost_without_timeout : (localSettings (some 0)).validate = .ok () ∧
    localPlan (some 0) ∈ (localSettings (some 0)).watchers ∧
      ¬ ((localWorld (some 0) "0x04").run (strandedRun "0x04")).Accounted
        (localPlan (some 0)).chain ((localPlan (some 0)).watchlist (some "0x04")) :=
  ⟨rfl, localPlan_mem_watchers _,
    not_accounted_strandedRun _ _ _ _ _ (keepsDeadlines_localPlan _) rfl⟩

/-! ### Runs beyond the deadlines -/

/-- A configuration with one chain, whose calls may take twenty thousand pauses. -/
def overstretched : Settings :=
  { localSettings none with
    engine := {
      initialPollIntervalMs := 1000
      rpcTimeoutFactor := 20000
      tuning := { missRaise := 1000000000000000000 } } }

/-- The settings of the watcher of this chain. -/
def overstretchedPlan : ChainPlan := .resolve (localChain none) overstretched.engine

/-- A run in which a block with two payments is found, and the receipt of the first one is told. The
second one is not there yet, and before it is asked for again a poll misses. -/
def overstretchedRun : List Event :=
  [.move (.report .begin)] ++
    fetchBlock 0 ⟨0, "0x03", none, [payment "0x04", payment "0x04"]⟩ ++ selectBlock ++
    resolveBlock paymentReceipt ++
    [.move (.resolve (.heard (.error .notFound))), .elsewhere { Hub.start 1 with now := 10000 },
      .move (.fetch .askBlock), .move (.fetch (.heardBlock (.error .notFound))),
      .move (.resolve .again)]

/-- **Deadlines have to be kept.** A configuration that is fit to run, and that does not give up
tracked transactions at once, has a run without disturbance in which the resolver finds no time for
its next call and loses a payment whose receipt was told. -/
theorem lost_beyond_deadlines : overstretched.validate = .ok () ∧
    overstretchedPlan ∈ overstretched.watchers ∧ 0 < overstretchedPlan.trackTimeout ∧
    (∀ e ∈ overstretchedRun, e.Undisturbed "0x04") ∧
      ¬ ((World.start overstretchedPlan Piped.codec (.unconnected "local" ["http://127.0.0.1"])
          (some "0x04") (.start 1)).run overstretchedRun).Accounted overstretchedPlan.chain
        (overstretchedPlan.watchlist (some "0x04")) := by
  refine ⟨rfl, List.mem_singleton.mpr rfl, by decide, ?_, fun haccounted => ?_⟩
  · simp [overstretchedRun, fetchBlock, selectBlock, resolveBlock, Event.Undisturbed,
      Hub.StreamsOpen, Hub.start, Channel.empty]
  · -- nothing has been sent, and nothing is owed for the payment whose fate is a receipt
    exact absurd (haccounted.owed []) (by decide +kernel)

end World

end VaultWatch
