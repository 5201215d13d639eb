import Mathlib.Data.List.Infix
import VaultWatch.Proofs.Portions
import VaultWatch.Proofs.Step

/-!
# Batches

What becomes of a batch. The reporter takes it, judges its results one by one, and concludes it with
the deposits found; a conclusion that has deposits is announced next. Nothing is skipped, repeated
or mixed up with another batch, however the other tasks run in between: `Reporter.Accounts` are the
books that say so, and they are in order in every run.
-/

namespace VaultWatch

/-! ### What a step means for a batch -/

/-- The fact says nothing about a batch. -/
def Fact.isAside : Fact → Bool
  | .taken _ | .judged .. | .concluded _ | .sent _ => false
  | _ => true

namespace Reporter

/-- The batch under way. -/
def part? (r : Reporter) : Option PartBatch :=
  match r.stage with
  | .judging batch => some batch
  | _ => none

/-- The matched block that waits for the outbound stream. -/
def announcing? (r : Reporter) : Option DepositBlock :=
  match r.stage with
  | .announcing block => some block
  | _ => none

end Reporter

/-- The part of a batch that is left when its first result has been judged. -/
def PartBatch.judged (batch : PartBatch) (rest : List ResolvedTx) (verdict : Verdict) :
    PartBatch :=
  { batch with rest, deposits := batch.deposits ++ (Watcher.depositOf verdict).toList }

namespace Watcher

/-- What a step means for batches: one is taken, the first result of the one under way is judged,
it is concluded, its block is sent, or lost because nobody wants it any more, or nothing. -/
inductive Handles (w : Watcher) (hub : Hub) : List Fact → Watcher → Prop where
  | take {batch : ResolvedBlock} {w' : Watcher} (hpart : w.reporter.part? = none)
      (hblock : w.reporter.announcing? = none) (hpart' : w'.reporter.part? = some (.start batch))
      (hblock' : w'.reporter.announcing? = none) : Handles w hub [.taken batch] w'
  | judge {batch : PartBatch} {result : ResolvedTx} {rest : List ResolvedTx} {notices : List Fact}
      {w' : Watcher} (hpart : w.reporter.part? = some batch) (hrest : batch.rest = result :: rest)
      (haside : ∀ f ∈ notices, f.isAside = true)
      (hpart' : w'.reporter.part? = some (batch.judged rest (w.watchlist.judge result).1))
      (hblock : w'.reporter.announcing? = w.reporter.announcing?) :
      Handles w hub (.judged w.watchlist batch.height batch.blockHash result :: notices) w'
  | conclude {batch : PartBatch} {w' : Watcher} (hpart : w.reporter.part? = some batch)
      (hblock : w.reporter.announcing? = none) (hrest : batch.rest = [])
      (hpart' : w'.reporter.part? = none)
      (hblock' : w'.reporter.announcing? =
        if batch.deposits.isEmpty then none else some (batch.matchedBlock w.chain)) :
      Handles w hub [.concluded (batch.matchedBlock w.chain)] w'
  | announce {block : DepositBlock} {w' : Watcher} (hpart : w.reporter.part? = none)
      (hblock : w.reporter.announcing? = some block) (hpart' : w'.reporter.part? = none)
      (hblock' : w'.reporter.announcing? = none) : Handles w hub [.sent block] w'
  | lose {w' : Watcher} (hgone : w.cancelled = true ∨ hub.matched.isOpen = false)
      (hpart : w.reporter.part? = none) (hpart' : w'.reporter.part? = none)
      (hblock' : w'.reporter.announcing? = none) : Handles w hub [] w'
  | nothing {facts : List Fact} {w' : Watcher} (haside : ∀ f ∈ facts, f.isAside = true)
      (hpart : w'.reporter.part? = w.reporter.part?)
      (hblock : w'.reporter.announcing? = w.reporter.announcing?) : Handles w hub facts w'

theorem Reports.handles {w w' : Watcher} {hub hub' : Hub} {facts : List Fact}
    (h : w.Reports hub facts w' hub') : w.Handles hub facts w' := by
  -- what the reporter is doing decides both readings
  have hread : ∀ {r : Reporter} {stage : Reporter.Stage}, r.stage = stage →
      r.part? = (Reporter.mk stage none 0).part? ∧
        r.announcing? = (Reporter.mk stage none 0).announcing? := by
    rintro r stage rfl
    exact ⟨rfl, rfl⟩
  cases h with
  | take hstage _ _ => exact .take (hread hstage).1 (hread hstage).2 rfl rfl
  | judge hstage _ hrest =>
    refine .judge (hread hstage).1 hrest ?_ rfl (hread hstage).2.symm
    simp [Fact.isAside]
  | @conclude batch hstage _ hrest =>
    refine .conclude (hread hstage).1 (hread hstage).2 hrest ?_ ?_
    · unfold Watcher.conclude
      split <;> rfl
    · unfold Watcher.conclude
      split <;> rfl
  | announce hstage _ => exact .announce (hread hstage).1 (hread hstage).2 rfl rfl
  | loseBlock hstage hgone => exact .lose hgone (hread hstage).1 rfl rfl
  | begin hstage _ => exact .nothing (by simp) (hread hstage).1.symm (hread hstage).2.symm
  | fail hstage _ => exact .nothing (by simp) (hread hstage).1.symm (hread hstage).2.symm
  | sweep hstage _ _ =>
    exact .nothing (by simp [Fact.isAside]) (hread hstage).1.symm (hread hstage).2.symm
  | giveUp hstage _ =>
    exact .nothing (by simp [Fact.isAside]) (hread hstage).1.symm (hread hstage).2.symm
  | endSweep hstage _ => exact .nothing (by simp) (hread hstage).1.symm (hread hstage).2.symm
  | sendUpdate _ _ => exact .nothing (by simp) rfl rfl
  | loseUpdate _ _ => exact .nothing (by simp) rfl rfl
  | stop hstage _ => exact .nothing (by simp) (hread hstage).1.symm (hread hstage).2.symm

/-- Every step is of one of these kinds. -/
theorem Occurs.handles {w w' : Watcher} {hub hub' : Hub} {event : Event} {facts : List Fact}
    (h : w.Occurs hub event facts w' hub') : w.Handles hub facts w' := by
  cases h with
  | report h => exact h.handles
  | fetch h => cases h <;> exact .nothing (by simp [Fact.isAside]) rfl rfl
  | select h => cases h <;> exact .nothing (by simp [Fact.isAside]) rfl rfl
  | resolve h => cases h <;> exact .nothing (by simp [Fact.isAside]) rfl rfl
  | track => exact .nothing (by simp [Fact.isAside]) rfl rfl
  | _ => exact .nothing (by simp) rfl rfl

end Watcher

/-- Facts beside batches add nothing to the books of batches. -/
theorem Fact.aside_readings {facts : List Fact} (h : ∀ f ∈ facts, f.isAside = true) :
    facts.filterMap taken? = [] ∧ facts.filterMap judgement? = [] ∧
      facts.filterMap concluded? = [] ∧ facts.filterMap sent? = [] := by
  have hread : ∀ f ∈ facts, f.taken? = none ∧ f.judgement? = none ∧ f.concluded? = none ∧
      f.sent? = none := by
    intro f hf
    have haside := h f hf
    cases f <;> first | exact ⟨rfl, rfl, rfl, rfl⟩ | cases haside
  exact ⟨List.filterMap_eq_nil_iff.mpr fun f hf => (hread f hf).1,
    List.filterMap_eq_nil_iff.mpr fun f hf => (hread f hf).2.1,
    List.filterMap_eq_nil_iff.mpr fun f hf => (hread f hf).2.2.1,
    List.filterMap_eq_nil_iff.mpr fun f hf => (hread f hf).2.2.2⟩

namespace Watcher

variable {w w' : Watcher} {hub : Hub} {facts : List Fact} {block : DepositBlock}

/-- What is sent has been waiting for the outbound stream. -/
theorem Handles.announcing_of_sent (h : w.Handles hub facts w')
    (hsent : block ∈ facts.filterMap Fact.sent?) : block ∈ w.reporter.announcing? := by
  cases h with
  | announce _ hblock _ _ =>
    rw [List.mem_singleton.mp hsent]
    exact hblock
  | judge _ _ haside _ _ =>
    obtain ⟨-, -, -, hnone⟩ := Fact.aside_readings haside
    rw [List.filterMap_cons, hnone] at hsent
    cases hsent
  | nothing haside _ _ =>
    obtain ⟨-, -, -, hnone⟩ := Fact.aside_readings haside
    rw [hnone] at hsent
    cases hsent
  | _ => cases hsent

/-- What waits for the outbound stream has been waiting before, or has just been concluded. -/
theorem Handles.announced (h : w.Handles hub facts w') (hblock : block ∈ w'.reporter.announcing?) :
    block ∈ w.reporter.announcing? ∨ block ∈ facts.filterMap Fact.concluded? := by
  cases h with
  | conclude _ _ _ _ hblock' =>
    rw [hblock'] at hblock
    split at hblock
    · cases hblock
    · cases hblock
      exact .inr List.mem_cons_self
  | judge _ _ _ _ hsame => exact .inl (hsame ▸ hblock)
  | nothing _ _ hsame => exact .inl (hsame ▸ hblock)
  | take _ _ _ hblock' | announce _ _ _ hblock' | lose _ _ _ hblock' =>
    rw [hblock'] at hblock
    cases hblock

end Watcher

/-- A verdict adds its deposit behind those found before. -/
theorem PartBatch.deposits_judged (batch : PartBatch) (rest : List ResolvedTx) (verdict : Verdict)
    (future : List Verdict) :
    (batch.judged rest verdict).deposits ++ future.filterMap Watcher.depositOf =
      batch.deposits ++ (verdict :: future).filterMap Watcher.depositOf := by
  rw [judged, List.filterMap_cons, List.append_assoc]
  cases Watcher.depositOf verdict <;> rfl

/-! ### The books of batches -/

/-- The results of a batch, each with the height and the hash of the block. -/
def ResolvedBlock.located (batch : ResolvedBlock) : List (UInt64 × String × ResolvedTx) :=
  batch.results.map (batch.height, batch.blockHash, ·)

/-- The results of a batch that are not judged yet, each with the height and the hash. -/
def PartBatch.located (batch : PartBatch) : List (UInt64 × String × ResolvedTx) :=
  batch.rest.map (batch.height, batch.blockHash, ·)

/-- What a judgement is about. -/
def Judgement.located (j : Judgement) : UInt64 × String × ResolvedTx :=
  (j.height, j.blockHash, j.result)

/-- The deposits of some batches by the verdicts on their results. -/
def digest (chain : String) (batches : List ResolvedBlock) (verdicts : List Verdict) :
    List DepositBlock :=
  (portions (·.results.length) batches verdicts).map fun p =>
    ⟨chain, p.1.height, p.1.blockHash, p.2.filterMap Watcher.depositOf⟩

/-- The deposits still to be concluded: of the batch under way, and then of some batches, by the
verdicts to come. -/
def Reporter.ahead (r : Reporter) (chain : String) (more : List ResolvedBlock)
    (future : List Verdict) : List DepositBlock :=
  match r.part? with
  | some batch =>
    ⟨chain, batch.height, batch.blockHash,
      batch.deposits ++ (future.take batch.rest.length).filterMap Watcher.depositOf⟩ ::
        digest chain more (future.drop batch.rest.length)
  | none => digest chain more future

theorem Reporter.ahead_of_none {r : Reporter} (h : r.part? = none) (chain : String)
    (more : List ResolvedBlock) (future : List Verdict) :
    r.ahead chain more future = digest chain more future := by
  simp only [ahead, h]

theorem Reporter.ahead_of_some {r : Reporter} {batch : PartBatch} (h : r.part? = some batch)
    (chain : String) (more : List ResolvedBlock) (future : List Verdict) :
    r.ahead chain more future =
      ⟨chain, batch.height, batch.blockHash,
        batch.deposits ++ (future.take batch.rest.length).filterMap Watcher.depositOf⟩ ::
          digest chain more (future.drop batch.rest.length) := by
  simp only [ahead, h]

theorem length_digest (chain : String) (batches : List ResolvedBlock) (verdicts : List Verdict) :
    (digest chain batches verdicts).length = batches.length := by
  rw [digest, List.length_map, length_portions]

/-- The books of the reporter. The results judged, and those left of the batch under way, are the
results of the batches taken. The deposits concluded, and those still to be concluded of the batch
under way and of any batches behind it, are the deposits of all of these batches by the verdicts on
their results. And all results of the batches concluded have been judged. -/
structure Reporter.Accounts (r : Reporter) (chain : String) (taken : List ResolvedBlock)
    (judgements : List Judgement) (concluded : List DepositBlock) : Prop where
  judged : judgements.map Judgement.located ++ (r.part?.map PartBatch.located).getD [] =
    taken.flatMap ResolvedBlock.located
  deposits : ∀ more future, concluded ++ r.ahead chain more future =
    digest chain (taken ++ more) (judgements.map Judgement.verdict ++ future)
  finished : (taken.take concluded.length).flatMap ResolvedBlock.located <+:
    judgements.map Judgement.located

namespace Reporter.Accounts

variable {r : Reporter} {chain : String} {taken : List ResolvedBlock} {judgements : List Judgement}
  {concluded : List DepositBlock}

/-- What has been concluded are the deposits of the batches taken, but for the one under way. -/
theorem concluded_append (h : r.Accounts chain taken judgements concluded) :
    concluded ++ r.ahead chain [] [] = digest chain taken (judgements.map Judgement.verdict) := by
  have hbooks := h.deposits [] []
  rwa [List.append_nil, List.append_nil] at hbooks

theorem length_concluded_le (h : r.Accounts chain taken judgements concluded) :
    concluded.length ≤ taken.length := by
  have hlength := congrArg List.length h.concluded_append
  rw [List.length_append, length_digest] at hlength
  omega

/-- A batch that has been concluded: all its results have been judged, in order and behind those of
the batches before, and the verdicts on them decide its deposits. -/
theorem getElem?_concluded (h : r.Accounts chain taken judgements concluded) {j : Nat}
    {batch : ResolvedBlock} (hbatch : taken[j]? = some batch) (hj : j < concluded.length) :
    let part := (judgements.drop ((taken.take j).map (·.results.length)).sum).take
      batch.results.length
    part.map Judgement.located = batch.located ∧
      concluded[j]? = some ⟨chain, batch.height, batch.blockHash,
        (part.map Judgement.verdict).filterMap Watcher.depositOf⟩ := by
  intro part
  have hlocated : ∀ b : ResolvedBlock, b.located.length = b.results.length :=
    fun b => List.length_map _
  constructor
  · have htaken : (taken.take (j + 1)).flatMap ResolvedBlock.located <+:
        (taken.take concluded.length).flatMap ResolvedBlock.located := by
      obtain ⟨rest, hrest⟩ := List.take_prefix_take_left (l := taken) hj
      exact ⟨rest.flatMap ResolvedBlock.located, by rw [← hrest, List.flatMap_append]⟩
    obtain ⟨later, hlater⟩ := htaken.trans h.finished
    have hbefore : ((taken.take j).flatMap ResolvedBlock.located).length =
        ((taken.take j).map (·.results.length)).sum := by
      rw [List.length_flatMap]
      simp only [hlocated]
    rw [List.take_add_one, hbatch, Option.toList_some, List.flatMap_append,
      List.flatMap_singleton, List.append_assoc] at hlater
    rw [List.map_take, List.map_drop, ← hlater, ← hbefore, List.drop_left, ← hlocated batch,
      List.take_left]
  · have hbooks := congrArg (·[j]?) h.concluded_append
    simp only [digest, List.getElem?_map, getElem?_portions, hbatch, Option.map_some,
      List.getElem?_append_left hj, ← List.map_drop, ← List.map_take] at hbooks
    exact hbooks

/-- The results judged, and those left of the batch under way, are those of the batches taken. -/
theorem results (h : r.Accounts chain taken judgements concluded) :
    judgements.map Judgement.result ++ (r.part?.map PartBatch.rest).getD [] =
      taken.flatMap ResolvedBlock.results := by
  have hresult := congrArg (List.map fun p => p.2.2) h.judged
  rw [List.map_append, List.map_flatMap, List.map_map] at hresult
  simp only [ResolvedBlock.located, List.map_map, Function.comp_def, List.map_id'] at hresult
  rw [← hresult]
  cases r.part? with
  | none => rfl
  | some batch =>
    simp only [Option.map_some, Option.getD_some, PartBatch.located, List.map_map,
      Function.comp_def, List.map_id']
    rfl

/-- No more results have been judged than the batches taken have. -/
theorem length_judgements_le (h : r.Accounts chain taken judgements concluded) :
    judgements.length ≤ (taken.map (·.results.length)).sum := by
  have hlength := congrArg List.length h.judged
  simp only [List.length_append, List.length_map, List.length_flatMap,
    ResolvedBlock.located] at hlength
  omega

/-- Every result of a batch that has been concluded has been judged, and if it was judged to be a
deposit it is among the deposits of the batch. Both are news since a moment when the batch had not
been taken. -/
theorem exists_judgement {r₀ : Reporter} {taken₀ : List ResolvedBlock}
    {judgements₀ : List Judgement} {concluded₀ : List DepositBlock}
    (h₀ : r₀.Accounts chain taken₀ judgements₀ concluded₀)
    (h : r.Accounts chain (taken₀ ++ taken) (judgements₀ ++ judgements) (concluded₀ ++ concluded))
    {i : Nat} {batch : ResolvedBlock} {result : ResolvedTx}
    (hbatch : (taken₀ ++ taken)[i]? = some batch) (hnew : taken₀.length ≤ i)
    (hi : i < (concluded₀ ++ concluded).length) (hresult : result ∈ batch.results) :
    ∃ j ∈ judgements, j.located = (batch.height, batch.blockHash, result) ∧
      ∃ block ∈ concluded, block.blockHeight = batch.height ∧ block.blockHash = batch.blockHash ∧
        ∀ tx, j.verdict = .deposit tx → tx ∈ block.txs := by
  obtain ⟨hpart, hblock⟩ := h.getElem?_concluded hbatch hi
  have hmem : (batch.height, batch.blockHash, result) ∈ batch.located :=
    List.mem_map_of_mem hresult
  rw [← hpart] at hmem
  obtain ⟨j, hj, hlocated⟩ := List.mem_map.mp hmem
  -- the earlier judgements are about batches in front of this one
  have hearlier : judgements₀.length ≤
      (((taken₀ ++ taken).take i).map (·.results.length)).sum := by
    rw [List.take_append, List.take_of_length_le hnew, List.map_append, List.sum_append]
    exact Nat.le_add_right_of_le h₀.length_judgements_le
  have hj' := List.mem_of_mem_take hj
  rw [List.drop_append, List.drop_eq_nil_of_le hearlier, List.nil_append] at hj'
  rw [List.getElem?_append_right (h₀.length_concluded_le.trans hnew)] at hblock
  refine ⟨j, List.mem_of_mem_drop hj', hlocated, _, List.mem_of_getElem? hblock, rfl, rfl,
    fun tx htx => ?_⟩
  refine List.mem_filterMap.mpr ⟨j.verdict, List.mem_map_of_mem hj, ?_⟩
  rw [htx]
  rfl

end Reporter.Accounts

/-- Every step keeps the books. -/
theorem Watcher.Handles.accounts {w w' : Watcher} {hub : Hub} {facts : List Fact}
    {taken : List ResolvedBlock} {judgements : List Judgement} {concluded : List DepositBlock}
    (h : w.Handles hub facts w')
    (ha : w.reporter.Accounts w.chain taken judgements concluded) :
    w'.reporter.Accounts w.chain (taken ++ facts.filterMap Fact.taken?)
      (judgements ++ facts.filterMap Fact.judgement?)
      (concluded ++ facts.filterMap Fact.concluded?) := by
  have hbound := ha.length_concluded_le
  obtain ⟨hjudged, hdeposits, hfinished⟩ := ha
  cases h with
  | @take batch _ hpart _ hpart' _ =>
    simp only [Fact.taken?, Fact.judgement?, Fact.concluded?, List.filterMap_cons,
      List.filterMap_nil, List.append_nil]
    rw [hpart, Option.map_none, Option.getD_none, List.append_nil] at hjudged
    refine ⟨?_, fun more future => ?_, ?_⟩
    · rw [hpart', hjudged, List.flatMap_append, List.flatMap_singleton]
      rfl
    · -- the batch taken is the first of those that were behind
      have hnext := hdeposits (batch :: more) future
      rw [Reporter.ahead_of_none hpart] at hnext
      rw [Reporter.ahead_of_some hpart', List.append_assoc, List.singleton_append, ← hnext]
      rfl
    · rw [List.take_append_of_le_length hbound]
      exact hfinished
  | @judge batch result rest _ _ hpart hrest haside hpart' _ =>
    obtain ⟨htaken, hjudgement, hconcluded, -⟩ := Fact.aside_readings haside
    simp only [Fact.taken?, Fact.judgement?, Fact.concluded?, List.filterMap_cons, htaken,
      hjudgement, hconcluded, List.append_nil]
    rw [hpart, Option.map_some, Option.getD_some, PartBatch.located, hrest] at hjudged
    refine ⟨?_, fun more future => ?_, ?_⟩
    · rw [hpart', ← hjudged, List.map_append, List.append_assoc]
      rfl
    · -- the verdict is the first of those that were to come
      have hnext := hdeposits more ((w.watchlist.judge result).1 :: future)
      rw [Reporter.ahead_of_some hpart, hrest, List.length_cons, List.take_succ_cons,
        List.drop_succ_cons] at hnext
      rw [Reporter.ahead_of_some hpart', PartBatch.deposits_judged, List.map_append,
        List.append_assoc]
      exact hnext
    · rw [List.map_append]
      exact hfinished.trans (List.prefix_append _ _)
  | @conclude batch _ hpart _ hrest hpart' _ =>
    simp only [Fact.taken?, Fact.judgement?, Fact.concluded?, List.filterMap_cons,
      List.filterMap_nil, List.append_nil]
    rw [hpart, Option.map_some, Option.getD_some, PartBatch.located, hrest, List.map_nil,
      List.append_nil] at hjudged
    refine ⟨?_, fun more future => ?_, ?_⟩
    · rw [hpart', ← hjudged]
      exact List.append_nil _
    · rw [← hdeposits more future, Reporter.ahead_of_some hpart, Reporter.ahead_of_none hpart',
        hrest, List.append_assoc]
      simp only [List.length_nil, List.take_zero, List.drop_zero, List.filterMap_nil,
        List.append_nil, PartBatch.matchedBlock, List.singleton_append]
    · -- every result has been judged, so those of all batches but the last have
      rw [hjudged]
      obtain ⟨later, hlater⟩ := List.take_prefix (concluded ++
        [batch.matchedBlock w.chain]).length taken
      exact ⟨later.flatMap ResolvedBlock.located, by rw [← List.flatMap_append, hlater]⟩
  | announce hpart _ hpart' _ =>
    simp only [Fact.taken?, Fact.judgement?, Fact.concluded?, List.filterMap_cons,
      List.filterMap_nil, List.append_nil]
    refine ⟨?_, fun more future => ?_, hfinished⟩
    · rw [hpart', ← hjudged, hpart]
    · rw [← hdeposits more future, Reporter.ahead_of_none hpart', Reporter.ahead_of_none hpart]
  | lose _ hpart hpart' _ =>
    simp only [List.filterMap_nil, List.append_nil]
    refine ⟨?_, fun more future => ?_, hfinished⟩
    · rw [hpart', ← hjudged, hpart]
    · rw [← hdeposits more future, Reporter.ahead_of_none hpart', Reporter.ahead_of_none hpart]
  | nothing haside hpart _ =>
    obtain ⟨htaken, hjudgement, hconcluded, -⟩ := Fact.aside_readings haside
    rw [htaken, hjudgement, hconcluded, List.append_nil, List.append_nil, List.append_nil]
    refine ⟨?_, fun more future => ?_, hfinished⟩
    · rw [hpart, hjudged]
    · rw [← hdeposits more future]
      simp only [Reporter.ahead, hpart]

namespace World

variable (settings : ChainPlan) (codec : Codec) (pool : Pool) (vault : Option String) (hub : Hub)
  (events : List Event)

/-- **The books of the reporter** are in order at every moment of every run. -/
theorem reporter_accounts_run :
    let s := (World.start settings codec pool vault hub).run events
    s.watcher.reporter.Accounts settings.chain s.taken s.judgements s.concluded := by
  have hrun := run_invariant (P := fun s => s.watcher.settings = settings ∧
      s.watcher.reporter.Accounts settings.chain s.taken s.judgements s.concluded)
    (World.start settings codec pool vault hub) events
    ⟨rfl, rfl, fun _ _ => rfl, List.nil_prefix⟩ ?_
  · exact hrun.2
  rintro t e facts w hub ⟨hsettings, ht⟩ hoccurs
  have hchain : t.watcher.chain = settings.chain := congrArg ChainPlan.chain hsettings
  rw [← hchain] at ht ⊢
  have hnext := hoccurs.handles.accounts ht
  refine ⟨hoccurs.settings_eq.trans hsettings, ?_⟩
  rwa [taken, judgements, concluded, ← List.filterMap_append, ← List.filterMap_append,
    ← List.filterMap_append] at hnext

/-- What is sent has been concluded. -/
theorem sent_subset_concluded :
    let s := (World.start settings codec pool vault hub).run events
    s.sent ⊆ s.concluded := by
  have hrun := run_invariant (P := fun s => s.sent ⊆ s.concluded ∧
      ∀ block ∈ s.watcher.reporter.announcing?, block ∈ s.concluded)
    (World.start settings codec pool vault hub) events ⟨List.nil_subset _, by rintro _ ⟨⟩⟩ ?_
  · exact hrun.1
  rintro t e facts w hub ⟨hsent, hblock⟩ hoccurs
  simp only [sent, concluded, List.filterMap_append] at hsent hblock ⊢
  refine ⟨List.append_subset.mpr ⟨?_, ?_⟩, fun block h => List.mem_append.mpr ?_⟩
  · exact List.Subset.trans hsent (List.subset_append_left _ _)
  · intro block h
    exact List.mem_append_left _ (hblock block (hoccurs.handles.announcing_of_sent h))
  · exact (hoccurs.handles.announced h).imp_left (hblock block)

end World

/-! ### Deposits and their judgements -/

/-- Every deposit among some batches comes from a judgement on a result of the same block. -/
theorem exists_judgement_of_mem_digest {chain : String} {batches : List ResolvedBlock}
    {judgements : List Judgement} {block : DepositBlock} {tx : Deposit}
    (hjudged : judgements.map Judgement.located <+: batches.flatMap ResolvedBlock.located)
    (hblock : block ∈ digest chain batches (judgements.map Judgement.verdict))
    (htx : tx ∈ block.txs) :
    ∃ j ∈ judgements, j.height = block.blockHeight ∧ j.blockHash = block.blockHash ∧
      j.verdict = .deposit tx := by
  induction batches generalizing judgements with
  | nil => cases hblock
  | cons batch batches ih =>
    have hsize : batch.located.length = batch.results.length := List.length_map _
    rw [digest, portions_cons, List.map_cons, List.mem_cons] at hblock
    rw [List.flatMap_cons] at hjudged
    rcases hblock with rfl | hblock
    · obtain ⟨verdict, hverdict, hdeposit⟩ := List.mem_filterMap.mp htx
      rw [← List.map_take, List.mem_map] at hverdict
      obtain ⟨j, hj, rfl⟩ := hverdict
      have hlocated : j.located ∈ batch.located := by
        have hprefix := hjudged.take batch.results.length
        rw [← List.map_take, ← hsize, List.take_left] at hprefix
        exact hprefix.subset (List.mem_map_of_mem (hsize ▸ hj))
      obtain ⟨result, -, hresult⟩ := List.mem_map.mp hlocated
      refine ⟨j, List.mem_of_mem_take hj, ?_, ?_, ?_⟩
      · exact (congrArg Prod.fst hresult).symm
      · exact (congrArg (·.2.1) hresult).symm
      · cases hv : j.verdict with
        | deposit other =>
          rw [hv] at hdeposit
          rw [Option.some.inj hdeposit]
        | _ =>
          rw [hv] at hdeposit
          cases hdeposit
    · have hrest := hjudged.drop batch.results.length
      rw [← List.map_drop, ← hsize, List.drop_left] at hrest
      rw [← List.map_drop] at hblock
      rw [hsize] at hrest
      obtain ⟨j, hj, htold⟩ := ih hrest hblock
      exact ⟨j, List.mem_of_mem_drop hj, htold⟩

end VaultWatch
