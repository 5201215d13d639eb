import VaultWatch.Proofs.Batches
import VaultWatch.Proofs.Endings
import VaultWatch.Proofs.Passage
import VaultWatch.Proofs.Pipeline

/-!
# Outcomes

What becomes of a candidate whose receipt is told. A block is looked through with the watchlist of
one moment, and the results are judged with that of a later one, when transactions have been tracked
and given up and the vault may be another. `reported_or_passedOver` follows a candidate through this
time: when its batch has been handled it is reported, or it was a payment to a vault that has been
left in between. The second does happen (`lost_by_switch`).
-/

namespace VaultWatch

/-! ### Candidates and what becomes of them -/

namespace World

/-- In the record, between the facts `before` and the facts `after`, a block was looked through with
a watchlist; the transaction is one of its candidates, the fate of this candidate is a receipt, and
the batch of the block has been handled. Fates are decided in the order of the candidates of all
blocks, and batches are handled in the order of the jobs. -/
structure Handled (s : World) (before : List Fact) (watchlist : Watchlist) (block : Block)
    (after : List Fact) (result : ResolvedTx) : Prop where
  facts : s.facts = before ++ .selected watchlist block :: after
  fate : ∃ i, (watchlist.candidates block)[i]? = some result.tx ∧
    s.settlement.fates[((before.filterMap Fact.job?).flatMap PendingBlock.candidates).length + i]? =
      some (result.tx, some result.receipt)
  done : (before.filterMap Fact.job?).length < s.concluded.length

/-- A candidate has been reported since its block was looked through, in a matched block of this
block or in an update for its hash, or it had been reported before, in an update that was not a
timeout. -/
inductive Reported (before : List Fact) (watchlist : Watchlist) (block : Block) (after : List Fact)
    (result : ResolvedTx) : Prop where
  | matched {matched : DepositBlock} {recipient : String}
      (hmatched : matched ∈ after.filterMap Fact.concluded?)
      (hheight : matched.blockHeight = block.height) (hhash : matched.blockHash = block.hash)
      (hto : result.tx.recipient = some recipient)
      (htx : Watchlist.observed result.tx recipient result.receipt ∈ matched.txs)
  | updated {notice : TrackNotice} (hnotice : notice ∈ after.filterMap Fact.notice?)
      (hkey : watchlist.tracked.key notice.txHash = watchlist.tracked.key result.tx.hash)
  | before {notice : TrackNotice} (hnotice : notice ∈ before.filterMap Fact.notice?)
      (hkey : watchlist.tracked.key notice.txHash = watchlist.tracked.key result.tx.hash)
      (hresult : notice.result ≠ .timeout)

/-- A candidate was a payment to the vault of the moment when its block was looked through, and was
not awaited; and when it was judged its hash was not known, and the vault was another one. -/
structure PassedOver (watchlist : Watchlist) (block : Block) (after : List Fact)
    (result : ResolvedTx) : Prop where
  unawaited : watchlist.tracked.contains result.tx.hash = false
  paid : watchlist.paysVault result.tx.recipient = true
  left : ∃ later, .judged later block.height block.hash result ∈ after ∧
    later.tracked.find? result.tx.hash = none ∧ later.vault ≠ watchlist.vault ∧
      later.paysVault result.tx.recipient = false

end World

/-! ### The moment of a judgement -/

/-- The step that makes a judgement known makes nothing known before it, and behind it only the
update that the verdict asks for. Nothing is about to be given up at that moment. -/
theorem Watcher.Turns.of_judged {w w' : Watcher} {hub : Hub} {made more : List Fact}
    {watchlist : Watchlist} {height : UInt64} {blockHash : String} {result : ResolvedTx}
    (h : w.Turns hub (made ++ .judged watchlist height blockHash result :: more) w') :
    made = [] ∧ watchlist = w.watchlist ∧ w.reporter.overdue = [] ∧
      more = ((w.updateFor height result.tx (w.watchlist.judge result).1).map
        Fact.noticed).toList := by
  generalize hfacts : made ++ .judged watchlist height blockHash result :: more = facts at h
  have hmem : .judged watchlist height blockHash result ∈ facts := by
    rw [← hfacts]
    exact List.mem_append_right _ List.mem_cons_self
  cases h with
  | judge hstage =>
    cases made with
    | nil =>
      cases hfacts
      exact ⟨rfl, rfl, by simp only [Reporter.overdue, hstage], rfl⟩
    | cons f made =>
      obtain ⟨-, hnotices⟩ := List.cons_eq_cons.mp hfacts
      have hnotice := congrArg (Fact.judged watchlist height blockHash result ∈ ·) hnotices
      simp at hnotice
  | nothing hquiet _ _ => cases hquiet _ hmem
  | _ => simp at hmem

namespace World

/-- A watcher without a pause between sweeps concludes nothing. -/
theorem concluded_eq_nil (settings : ChainPlan) (codec : Codec) (pool : Pool)
    (vault : Option String) (hub : Hub) (events : List Event)
    (hsweeps : settings.sweepInterval = 0) :
    ((World.start settings codec pool vault hub).run events).concluded = [] := by
  have hrun := run_invariant (P := fun t => t.watcher.settings = settings ∧
      (t.watcher.reporter.stage = .starting ∨ t.watcher.reporter.stage = .stopped) ∧
        t.concluded = [])
    (World.start settings codec pool vault hub) events ⟨rfl, .inl rfl, rfl⟩ ?_
  · exact hrun.2.2
  rintro t e facts w hub ⟨hsettings, hstage, ht⟩ hoccurs
  have hkeep : (w.reporter.stage = .starting ∨ w.reporter.stage = .stopped) ∧
      facts.filterMap Fact.concluded? = [] := by
    cases hoccurs with
    | fetch h => cases h <;> exact ⟨hstage, rfl⟩
    | select h => cases h <;> exact ⟨hstage, rfl⟩
    | resolve h => cases h <;> exact ⟨hstage, rfl⟩
    | report h =>
      cases h with
      | fail _ _ => exact ⟨.inr rfl, rfl⟩
      | stop _ _ => exact ⟨.inr rfl, rfl⟩
      | sendUpdate _ _ | loseUpdate _ _ => exact ⟨hstage, rfl⟩
      | begin _ hpause => exact absurd (hsettings ▸ hsweeps) hpause
      | _ => simp_all
    | _ => exact ⟨hstage, rfl⟩
  refine ⟨hoccurs.settings_eq.trans hsettings, hkeep.1, ?_⟩
  rw [concluded, List.filterMap_append, hkeep.2, List.append_nil]
  exact ht

/-- The batch of a candidate that has been handled: it is that of its block, and the candidate is
among the results. -/
theorem Handled.exists_batch {s : World} {before after : List Fact} {watchlist : Watchlist}
    {block : Block} {result : ResolvedTx} (h : s.Handled before watchlist block after result)
    (hyields : s.settlement.Yields s.jobs s.taken)
    (hbound : s.concluded.length ≤ s.taken.length) :
    ∃ batch, s.taken[(before.filterMap Fact.job?).length]? = some batch ∧
      batch.height = block.height ∧ batch.blockHash = block.hash ∧ result ∈ batch.results := by
  obtain ⟨hfacts, ⟨i, hcandidate, hfate⟩, hdone⟩ := h
  have hjob : Fact.job? (.selected watchlist block) =
      some ⟨block.height, block.hash, watchlist.candidates block⟩ := by
    refine if_neg fun hnone => ?_
    rw [List.isEmpty_iff.mp hnone] at hcandidate
    cases hcandidate
  have hjobs : s.jobs = before.filterMap Fact.job? ++
      ⟨block.height, block.hash, watchlist.candidates block⟩ :: after.filterMap Fact.job? := by
    rw [jobs, hfacts, List.filterMap_append, List.filterMap_cons_some hjob]
  have hjob? : s.jobs[(before.filterMap Fact.job?).length]? =
      some ⟨block.height, block.hash, watchlist.candidates block⟩ := by
    rw [hjobs, List.getElem?_append_right (Nat.le_refl _), Nat.sub_self, List.getElem?_cons_zero]
  have hbatch := hyields.getElem?_eq hjob? (Nat.lt_of_lt_of_le hdone hbound)
  refine ⟨_, hbatch, rfl, rfl, mem_resolved hcandidate ?_⟩
  have hsize : i < (watchlist.candidates block).length := by
    obtain ⟨hlt, -⟩ := List.getElem?_eq_some_iff.mp hcandidate
    exact hlt
  rw [hjobs, List.take_left, List.getElem?_take_of_lt hsize, List.getElem?_drop,
    List.getElem?_map, hfate]
  rfl

/-- **A candidate that has been handled has been judged** since its block was looked through, and if
it was judged to be a deposit it is in a matched block of this block. -/
theorem Handled.exists_judged {settings : ChainPlan} {codec : Codec} {pool : Pool}
    {vault : Option String} {hub : Hub} {events : List Event} {before after : List Fact}
    {watchlist : Watchlist} {block : Block} {result : ResolvedTx}
    (h : ((World.start settings codec pool vault hub).run events).Handled before watchlist block
      after result) (hevents : ∀ e ∈ events, e ≠ .cancel) :
    ∃ later, .judged later block.height block.hash result ∈ after ∧
      ∀ tx, (later.judge result).1 = .deposit tx → ∃ matched ∈ after.filterMap Fact.concluded?,
        matched.blockHeight = block.height ∧ matched.blockHash = block.hash ∧ tx ∈ matched.txs := by
  have hsweeps : settings.sweepInterval ≠ 0 := by
    intro hnone
    have hbound := h.done
    rw [concluded_eq_nil settings codec pool vault hub events hnone] at hbound
    exact Nat.not_lt_zero _ hbound
  -- the books at the end of the run, and those of the moment when the block was looked through
  obtain ⟨past, e, rest, rfl, hpast, -⟩ := exists_moment_of_watchlist h.facts (Nat.zero_le _) rfl
  have hyields :=
    (books_run settings codec pool vault hub (past ++ e :: rest) hsweeps hevents).yields_taken
  have hyields₀ := (books_run settings codec pool vault hub past hsweeps
    fun e he => hevents e (List.mem_append_left _ he)).yields_taken
  have hbooks := reporter_accounts_run settings codec pool vault hub (past ++ e :: rest)
  have hbooks₀ := reporter_accounts_run settings codec pool vault hub past
  dsimp only at hbooks hbooks₀
  generalize (World.start settings codec pool vault hub).run (past ++ e :: rest) = s at *
  generalize (World.start settings codec pool vault hub).run past = t at *
  obtain ⟨batch, hbatch, hheight, hhash, hresult⟩ :=
    h.exists_batch hyields hbooks.length_concluded_le
  have hdone := h.done
  -- what has become known since that moment is told by the facts behind it
  have htaken : s.taken = t.taken ++ after.filterMap Fact.taken? := by
    rw [taken, taken, h.facts, hpast, List.filterMap_append]
    rfl
  have hjudgements : s.judgements = t.judgements ++ after.filterMap Fact.judgement? := by
    rw [judgements, judgements, h.facts, hpast, List.filterMap_append]
    rfl
  have hconcluded : s.concluded = t.concluded ++ after.filterMap Fact.concluded? := by
    rw [concluded, concluded, h.facts, hpast, List.filterMap_append]
    rfl
  have hnew : t.taken.length ≤ (before.filterMap Fact.job?).length := by
    rw [← hpast]
    exact hyields₀.length_le
  rw [htaken] at hbatch
  rw [hconcluded] at hdone
  rw [htaken, hjudgements, hconcluded] at hbooks
  obtain ⟨j, hj, hlocated, matched, hmatched, hblock⟩ :=
    hbooks₀.exists_judgement hbooks hbatch hnew hdone hresult
  rw [hheight, hhash] at hlocated hblock
  obtain ⟨f, hf, hjudged⟩ := List.mem_filterMap.mp hj
  cases f with
  | judged later height blockHash result' =>
    cases hjudged
    cases hlocated
    exact ⟨later, hf, fun tx htx => ⟨matched, hmatched, hblock.1, hblock.2.1, hblock.2.2 tx htx⟩⟩
  | _ => cases hjudged

/-- The end of a wait is told in the step that judges the transaction. -/
theorem exists_notice_of_judged {s : World} {events : List Event} {past rest : List Fact}
    {watchlist : Watchlist} {height : UInt64} {blockHash : String} {result : ResolvedTx}
    {since : Nat}
    (h : (s.run events).facts = past ++ .judged watchlist height blockHash result :: rest)
    (hnew : s.facts.length ≤ past.length)
    (hwait : watchlist.tracked.find? result.tx.hash = some (.awaited since)) :
    ∃ notice ∈ rest.filterMap Fact.notice?, notice.txHash = result.tx.hash := by
  obtain ⟨before, e, later, made, more, w, hub, rfl, -, hoccurs, hstep⟩ := exists_moment h hnew
  obtain ⟨rfl, hcurrent, -, rfl⟩ := hoccurs.turns.of_judged
  rw [← hcurrent, watchlist.judge_of_awaited result hwait] at hstep
  have hprefix := facts_prefix_run ((s.run before).step e) later
  rw [run_append, run_cons] at h
  rw [h, hstep, List.prefix_append_right_inj, List.cons_prefix_cons] at hprefix
  have hnotice := hprefix.2.subset List.mem_cons_self
  exact ⟨_, List.mem_filterMap.mpr ⟨_, hnotice, rfl⟩, rfl⟩

section Runs

variable (settings : ChainPlan) (codec : Codec) (pool : Pool) (vault : Option String) (hub : Hub)
  (events : List Event)
  (hroom : ∀ f ∈ ((World.start settings codec pool vault hub).run events).facts, f.evicts = false)

include hroom

/-- A wait that is over at a judgement: its end has been told since a moment when the transaction
was awaited. -/
theorem exists_notice_of_contains {before between rest : List Fact} {f : Fact}
    {watchlist now : Watchlist} {height : UInt64} {blockHash : String} {result : ResolvedTx}
    (hfacts : ((World.start settings codec pool vault hub).run events).facts =
      before ++ f :: between ++ .judged now height blockHash result :: rest)
    (htold : f.watchlist? = some watchlist)
    (hwait : watchlist.tracked.contains result.tx.hash = true)
    (hunknown : now.tracked.find? result.tx.hash = none) :
    ∃ notice ∈ (f :: between).filterMap Fact.notice?,
      watchlist.tracked.key notice.txHash = watchlist.tracked.key result.tx.hash := by
  have hfirst := hfacts
  rw [List.append_assoc, List.cons_append] at hfirst
  obtain ⟨past, e, later, rfl, hpast, hcurrent⟩ :=
    exists_moment_of_watchlist hfirst (Nat.zero_le _) htold
  rw [run_append] at hfacts hroom
  obtain ⟨past', e', later', made, more, w, hub', -, hpast', hoccurs, -⟩ :=
    exists_moment hfacts (by rw [hpast, List.length_append]; exact Nat.le_add_right _ _)
  obtain ⟨rfl, rfl, hidle, -⟩ := hoccurs.turns.of_judged
  rw [List.append_nil] at hpast'
  subst hcurrent
  have hroom' : ∀ f ∈ (((World.start settings codec pool vault hub).run past).run past').facts,
      f.evicts = false := by
    intro f hf
    refine hroom f ?_
    rw [hfacts, ← hpast']
    exact List.mem_append_left _ hf
  obtain ⟨since, hsince, notice, hnotice, hsame⟩ :=
    exists_notice_of_unknown _ past' hwait hunknown hidle hroom'
  rw [hpast', hpast] at hsince
  rw [List.append_cancel_left hsince]
  exact ⟨notice, hnotice, hsame⟩

/-- Between the moment when a block was looked through and a later judgement nothing is forgotten: a
transaction has been told of, or it is not known at the judgement and was not awaited before. -/
theorem exists_notice_or_unknown {before between rest : List Fact} {watchlist now : Watchlist}
    {block : Block} {height : UInt64} {blockHash : String} {result : ResolvedTx}
    (hfacts : ((World.start settings codec pool vault hub).run events).facts =
      before ++ .selected watchlist block :: between ++
        .judged now height blockHash result :: rest) :
    (∃ notice ∈ (between ++ rest).filterMap Fact.notice?,
      watchlist.tracked.key notice.txHash = watchlist.tracked.key result.tx.hash) ∨
    (∃ notice ∈ before.filterMap Fact.notice?,
      watchlist.tracked.key notice.txHash = watchlist.tracked.key result.tx.hash ∧
        notice.result ≠ .timeout) ∨
    (now.tracked.find? result.tx.hash = none ∧
      watchlist.tracked.contains result.tx.hash = false) := by
  have hkey : now.tracked.key = watchlist.tracked.key :=
    Tracked.key_eq_of_foldCase_eq (foldCase_eq_of_mem_facts settings codec pool vault hub events
      (f := .selected watchlist block) (g := .judged now height blockHash result)
      (by simp [hfacts]) (by simp [hfacts]) rfl rfl)
  rw [List.filterMap_append]
  cases hfind : now.tracked.find? result.tx.hash with
  | some wait =>
    cases wait with
    | awaited since =>
      -- the judgement itself ends the wait
      obtain ⟨notice, hnotice, hhash⟩ := exists_notice_of_judged hfacts (Nat.zero_le _) hfind
      exact .inl ⟨notice, List.mem_append_right _ hnotice, by rw [hhash]⟩
    | confirmed =>
      obtain ⟨past, e, later, -, hpast, hcurrent⟩ :=
        exists_moment_of_watchlist hfacts (Nat.zero_le _) rfl
      have htold := exists_notice_of_confirmed settings codec pool vault hub past
      dsimp only at htold
      rw [hcurrent, notices, hpast, List.filterMap_append, hkey] at htold
      obtain ⟨notice, hnotice, hsame, hresult⟩ := htold _ (Tracked.mem_of_find?_eq_some _ _ hfind)
      rw [hkey] at hsame
      rcases List.mem_append.mp hnotice with hbefore | hbetween
      · exact .inr (.inl ⟨notice, hbefore, hsame, hresult⟩)
      · exact .inl ⟨notice, List.mem_append_left _ hbetween, hsame⟩
  | none =>
    by_cases hwait : watchlist.tracked.contains result.tx.hash = true
    · obtain ⟨notice, hnotice, hsame⟩ := exists_notice_of_contains settings codec pool vault hub
        events hroom hfacts rfl hwait hfind
      exact .inl ⟨notice, List.mem_append_left _ hnotice, hsame⟩
    · exact .inr (.inr ⟨rfl, by simpa using hwait⟩)

end Runs

/-- **No candidate is dropped but for a new vault.** In every run without cancellation that pushes
nothing out of the memory, a candidate whose receipt was told has been reported once its batch has
been handled, or it was a payment to a vault that had been left when it was judged. -/
theorem reported_or_passedOver (settings : ChainPlan) (codec : Codec) (pool : Pool)
    (vault : Option String) (hub : Hub) (events : List Event) (hevents : ∀ e ∈ events, e ≠ .cancel)
    (hroom : ∀ f ∈ ((World.start settings codec pool vault hub).run events).facts,
      f.evicts = false)
    {before after : List Fact} {watchlist : Watchlist} {block : Block} {result : ResolvedTx}
    (h : ((World.start settings codec pool vault hub).run events).Handled before watchlist block
      after result) :
    Reported before watchlist block after result ∨ PassedOver watchlist block after result := by
  obtain ⟨now, hjudged, hdeposit⟩ := h.exists_judged hevents
  obtain ⟨between, rest, rfl⟩ := List.append_of_mem hjudged
  have hfacts := h.facts
  rw [← List.cons_append, ← List.append_assoc] at hfacts
  obtain ⟨notice, hnotice, hsame⟩ | ⟨notice, hnotice, hsame, hresult⟩ | ⟨hunknown, hwait⟩ :=
    exists_notice_or_unknown settings codec pool vault hub events hroom hfacts
  · rw [List.filterMap_append] at hnotice
    have hafter : notice ∈ (between ++ .judged now block.height block.hash result :: rest).filterMap
        Fact.notice? := by
      rw [List.filterMap_append]
      exact hnotice
    exact .inl (.updated hafter hsame)
  · exact .inl (.before hnotice hsame hresult)
  · have hpays : watchlist.paysVault result.tx.recipient = true := by
      obtain ⟨i, hcandidate, -⟩ := h.fate
      exact watchlist.paysVault_of_mem_candidates (List.mem_of_getElem? hcandidate) hwait
    cases hvault : now.paysVault result.tx.recipient with
    | true =>
      obtain ⟨recipient, hto, hverdict⟩ := now.judge_of_paysVault result hunknown hvault
      obtain ⟨matched, hmatched, hheight, hhash, htx⟩ := hdeposit _ hverdict
      exact .inl (.matched hmatched hheight hhash hto htx)
    | false =>
      refine .inr ⟨hwait, hpays, now, hjudged, hunknown, fun hsame => ?_, hvault⟩
      -- the recipient would be the same vault as before
      have hcase : now.tracked.foldCase = watchlist.tracked.foldCase :=
        foldCase_eq_of_mem_facts settings codec pool vault hub events
          (f := .selected watchlist block) (g := .judged now block.height block.hash result)
          (by simp [hfacts]) (by simp [hfacts]) rfl rfl
      rw [Watchlist.paysVault_eq hsame hcase, hpays] at hvault
      cases hvault

/-! ### Runs in which the vault is switched -/

/-- A run in which a payment to the vault is found, the vault is switched, and the receipt of the
payment is told and handled. -/
def switchedRun (vault other : String) : List Event :=
  [.move (.report .begin)] ++ offerPayment vault ++ [.switchVault other] ++
    resolveBlock paymentReceipt ++ reportBlock

/-- What becomes known in such a run once the block has been looked through. -/
def switchedFacts (chain : String) (watchlist : Watchlist) (vault : String) : List Fact :=
  let result : ResolvedTx := ⟨payment vault, paymentReceipt⟩
  [.answered (payment vault) (.ok paymentReceipt), .taken ⟨0, "0x03", [result]⟩,
    .judged watchlist 0 "0x03" result,
    .concluded ⟨chain, 0, "0x03", (Watcher.depositOf (watchlist.judge result).1).toList⟩]

theorem facts_switchedRun (settings : ChainPlan) (hkeeps : settings.KeepsDeadlines) (codec : Codec)
    (pool : Pool) (vault other : String) (hub : Hub) (hsweeps : settings.sweepInterval ≠ 0) :
    ((World.start settings codec pool (some vault) hub).run (switchedRun vault other)).facts =
      [.head 0, .delivered 0 (paymentBlock vault)] ++
        .selected (settings.watchlist (some vault)) (paymentBlock vault) ::
          switchedFacts settings.chain (settings.watchlist (some other)) vault := by
  let w₀ : Watcher := { Watcher.start settings codec pool (some vault) with
    reporter := ⟨.waiting, none, hub.now⟩ }
  have hbegin : (World.start settings codec pool (some vault) hub).run
      [.move (.report .begin)] = ⟨w₀, hub, []⟩ := by
    have hmove : (Watcher.start settings codec pool (some vault)).happen? hub
        (.move (.report .begin)) = some (w₀, hub) :=
      if_neg hsweeps
    rw [run_cons, step, start, hmove]
    rfl
  have hstage : w₀.fetcher.stage = .askingHead :=
    congrArg Fetcher.stage (hkeeps.fetcher_start codec pool (some vault))
  have hlimit₀ : w₀.callLimit? ≠ none := by
    have hrun := hkeeps.callLimit?_run codec pool (some vault) hub [.move (.report .begin)]
    rwa [hbegin] at hrun
  -- the watcher and the facts before each task takes its turn
  obtain ⟨fetcher, fees, hub₁, hoffer⟩ :=
    run_offerPayment w₀ hub [] vault hstage hlimit₀ rfl rfl rfl rfl rfl
  let w₁ := { w₀ with
    fetcher
    fees
    watchlist := settings.watchlist (some other)
    blocks := ⟨1, [], true⟩
    jobs := ⟨max settings.channelCapacity 1, [⟨0, "0x03", [payment vault]⟩], true⟩ }
  let facts₁ : List Fact := [.head 0, .delivered 0 (paymentBlock vault),
    .selected w₀.watchlist (paymentBlock vault)]
  have hlimit₁ : w₁.callLimit? ≠ none := by
    have hrun := hkeeps.callLimit?_run codec pool (some vault) hub
      ([.move (.report .begin)] ++ offerPayment vault ++ [.switchVault other])
    rwa [run_append, run_append, hbegin, hoffer] at hrun
  obtain ⟨hub₂, hresolve⟩ := run_resolveBlock w₁ hub₁ facts₁ paymentReceipt rfl hlimit₁
    rfl
  let w₂ := { w₁ with
    jobs := ⟨max settings.channelCapacity 1, [], true⟩
    resolver := .emitting ⟨0, "0x03", [⟨payment vault, paymentReceipt⟩]⟩ }
  let facts₂ := facts₁ ++ [.answered (payment vault) (.ok paymentReceipt)]
  have hreport := run_reportBlock w₂ hub₂ facts₂ rfl rfl rfl rfl rfl
  rw [switchedRun, run_append, run_append, run_append, run_append, hbegin, hoffer]
  change (((World.mk w₁ hub₁ facts₁).run (resolveBlock paymentReceipt)).run _).facts = _
  rw [hresolve]
  exact hreport

/-- Such a run handles the payment, and pushes nothing out of the memory. -/
theorem handled_switchedRun (settings : ChainPlan) (hkeeps : settings.KeepsDeadlines)
    (codec : Codec) (pool : Pool) (vault other : String) (hub : Hub)
    (hsweeps : settings.sweepInterval ≠ 0) :
    let s := (World.start settings codec pool (some vault) hub).run (switchedRun vault other)
    s.Handled [.head 0, .delivered 0 (paymentBlock vault)] (settings.watchlist (some vault))
        (paymentBlock vault)
        (switchedFacts settings.chain (settings.watchlist (some other)) vault)
        ⟨payment vault, paymentReceipt⟩ ∧
      ∀ f ∈ s.facts, f.evicts = false := by
  intro s
  have hfacts := facts_switchedRun settings hkeeps codec pool vault other hub hsweeps
  have hcandidates : (settings.watchlist (some vault)).candidates (paymentBlock vault) =
      [payment vault] := by
    have hplain : (settings.watchlist (some vault)).IsPlain := rfl
    rw [hplain.candidates_eq, Watchlist.payments_paymentBlock rfl]
  have hsettlement : s.settlement = ⟨[(payment vault, some paymentReceipt)], 0⟩ := by
    rw [settlement, answers, hfacts]
    rfl
  have hconcluded : s.concluded.length = 1 := by
    rw [concluded, hfacts]
    rfl
  refine ⟨⟨hfacts, ⟨0, by rw [hcandidates]; rfl, ?_⟩, ?_⟩, ?_⟩
  · rw [hsettlement]
    rfl
  · rw [hconcluded]
    exact Nat.zero_lt_one
  · rw [hfacts]
    simp [switchedFacts, Fact.evicts]

/-- A payment is not reported in such a run when the new vault is another one. -/
theorem not_reported_switchedRun (settings : ChainPlan) (vault other : String)
    (hother : (settings.watchlist (some other)).vaultIs vault = false) :
    ¬ Reported [.head 0, .delivered 0 (paymentBlock vault)] (settings.watchlist (some vault))
      (paymentBlock vault)
      (switchedFacts settings.chain (settings.watchlist (some other)) vault)
      ⟨payment vault, paymentReceipt⟩ := by
  have hverdict : ((settings.watchlist (some other)).judge ⟨payment vault, paymentReceipt⟩).1 =
      .unrelated := by
    rw [Watchlist.judge_of_unknown _ _ rfl]
    simp only [payment, hother, Bool.false_eq_true, if_false]
  rintro (⟨hmatched, -, -, -, htx⟩ | ⟨hnotice, -⟩ | ⟨hnotice, -, -⟩)
  · simp only [switchedFacts, hverdict, Watcher.depositOf, Fact.concluded?, List.filterMap_cons,
      List.filterMap_nil, List.mem_singleton] at hmatched
    rw [hmatched] at htx
    cases htx
  · cases hnotice
  · cases hnotice

/-- A payment is reported in such a run when the vault is kept. -/
theorem reported_keptVault : Reported [.head 0, .delivered 0 (paymentBlock "0x04")]
    ((localPlan none).watchlist (some "0x04")) (paymentBlock "0x04")
    (switchedFacts "local" ((localPlan none).watchlist (some "0x04")) "0x04")
    ⟨payment "0x04", paymentReceipt⟩ := by
  obtain ⟨hhandled, hroom⟩ := handled_switchedRun (localPlan none)
    (keepsDeadlines_localPlan none) Piped.codec (.unconnected "local" ["http://127.0.0.1"])
    "0x04" "0x04" (.start 1) (by decide)
  have hevents : ∀ e ∈ switchedRun "0x04" "0x04", e ≠ .cancel := by
    simp [switchedRun, offerPayment, fetchBlock, selectBlock, resolveBlock, reportBlock]
  refine (reported_or_passedOver _ _ _ _ _ _ hevents hroom hhandled).resolve_right ?_
  rintro ⟨-, -, later, hjudged, -, hvault, -⟩
  simp only [switchedFacts, List.mem_cons, Fact.judged.injEq, reduceCtorEq, List.not_mem_nil,
    false_or, or_false] at hjudged
  exact hvault (by rw [hjudged.1])

/-- **A new vault drops a payment to the old one in silence.** A configuration that is fit to run
has a run without cancellation that pushes nothing out of the memory, and at the end of which a
candidate with a receipt is not reported although its batch has been handled. -/
theorem lost_by_switch : (localSettings none).validate = .ok () ∧
    localPlan none ∈ (localSettings none).watchers ∧
    (∀ e ∈ switchedRun "0x04" "0x05", e ≠ .cancel) ∧
    let s := (localWorld none "0x04").run (switchedRun "0x04" "0x05")
    (∀ f ∈ s.facts, f.evicts = false) ∧ ∃ before watchlist block after result,
      s.Handled before watchlist block after result ∧
        ¬ Reported before watchlist block after result := by
  obtain ⟨hhandled, hroom⟩ := handled_switchedRun (localPlan none)
    (keepsDeadlines_localPlan none) Piped.codec (.unconnected "local" ["http://127.0.0.1"])
    "0x04" "0x05" (.start 1) (by decide)
  have hlost := not_reported_switchedRun (localPlan none) "0x04" "0x05" (by decide)
  refine ⟨rfl, localPlan_mem_watchers none, ?_, hroom, _, _, _, _, _, hhandled, hlost⟩
  simp [switchedRun, offerPayment, fetchBlock, selectBlock, resolveBlock, reportBlock]

end World

end VaultWatch
