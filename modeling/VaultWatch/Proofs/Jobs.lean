import Mathlib.Data.List.Induction
import VaultWatch.Proofs.Hearings
import VaultWatch.Proofs.Pipeline

/-!
# Jobs

What the resolver makes of the jobs in its queue, whatever the nodes answer and whatever everybody
else does in between. `Resolving` is a resolver at work with a record of the jobs queued, the
answers heard and the batches emitted. The record can be told job by job (`Resolving.tells_run`):
first the chapters of the jobs done, in the order of the queue and each closed by its batch, and
then the chapter of the job at hand. What this says about jobs and batches is `Resolving.Orderly`.
-/

namespace VaultWatch

open Resolver (isFailure Decides)

/-! ### The record -/

/-- What a move of the resolver adds to the record. -/
def Resolver.words (r : Resolver) : ResolveMove → List Word
  | .heard answer => (r.query?.map (Word.heard · answer)).toList
  | .emit =>
    match r with
    | .emitting batch => [.emitted batch]
    | _ => []
  | .take | .again | .abandon | .cancel => []

/-- A resolver at work, in a watcher and with its hub: the jobs queued so far, in order, and what it
has heard and said so far. -/
structure Resolving where
  watcher : Watcher
  hub : Hub
  queued : List PendingBlock
  words : List Word

namespace Resolving

/-- Something that happens to a resolver at work. -/
inductive Turn where
  | move (move : ResolveMove)
  /-- A job is put in the queue. -/
  | queue (job : PendingBlock)
  /-- Everything else in the watcher and the hub may change. -/
  | elsewhere (watcher : Watcher) (hub : Hub)

/-- A resolver that has not run yet. -/
def start (settings : ChainPlan) (codec : Codec) (pool : Pool) (vault : Option String) (hub : Hub) :
    Resolving :=
  ⟨.start settings codec pool vault, hub, [], []⟩

/-- The number of candidates of the chain that have been counted under a fate. -/
def counted (s : Resolving) (fate : ReceiptFate) : Nat :=
  s.hub.counters.receipts.count (s.watcher.chain, fate)

/-- The batches emitted so far, in order. -/
def emitted (s : Resolving) : List ResolvedBlock := s.words.filterMap Word.batch?

/-- A change leaves alone what is the resolver's own: the settings, its state, its queue, and what
it counts for its chain. -/
def LeftAlone (s : Resolving) (watcher : Watcher) (hub : Hub) : Prop :=
  watcher.settings = s.watcher.settings ∧ watcher.resolver = s.watcher.resolver ∧
    watcher.jobs = s.watcher.jobs ∧
      ∀ fate ∈ [ReceiptFate.resolved, .dropped],
        hub.counters.receipts.count (s.watcher.chain, fate) = s.counted fate

instance (s : Resolving) (watcher : Watcher) (hub : Hub) : Decidable (s.LeftAlone watcher hub) :=
  inferInstanceAs (Decidable (_ ∧ _ ∧ _ ∧ ∀ fate ∈ _, _ = _))

/-- The state after a turn; one that cannot be taken changes nothing. -/
def step (s : Resolving) : Turn → Resolving
  | .move move =>
    match s.watcher.resolve? s.hub move with
    | some (watcher, hub) =>
      { s with watcher, hub, words := s.words ++ s.watcher.resolver.words move }
    | none => s
  | .queue job =>
    match s.watcher.jobs.send? job with
    | some jobs => { s with watcher := { s.watcher with jobs }, queued := s.queued ++ [job] }
    | none => s
  | .elsewhere watcher hub => if s.LeftAlone watcher hub then { s with watcher, hub } else s

/-- The state after some turns. -/
def run (s : Resolving) (turns : List Turn) : Resolving := turns.foldl step s

theorem run_append (s : Resolving) (turns later : List Turn) :
    s.run (turns ++ later) = (s.run turns).run later :=
  List.foldl_append

/-! ### What a turn can do -/

/-- What a turn can do. -/
inductive Steps (s : Resolving) : Resolving → Prop where
  | rests : Steps s s
  | take {job : PendingBlock} {jobs : Channel PendingBlock} (hwait : s.watcher.resolver = .waiting)
      (hreceive : s.watcher.jobs.receive? = some (job, jobs)) :
      Steps s { s with watcher := { s.watcher with jobs }.turnResolver (.begin job) }
  | heard {job : Resolution} {answer : Except CallError Receipt} {retryAt : Nat}
      {resolver : Resolver} {fate : Option ReceiptFate} (hask : s.watcher.resolver = .asking job)
      (hheard : job.heard s.watcher.settings.maxReceiptRetry retryAt answer = (resolver, fate)) :
      Steps s { s with
        watcher := s.watcher.turnResolver resolver
        hub := s.hub.count (s.watcher.countFate fate)
        words := s.words ++ [.heard (.receipt job.current.hash) answer] }
  | again {job : Resolution} {wake : Nat} (hpause : s.watcher.resolver = .pausing job wake) :
      Steps s { s with watcher := s.watcher.turnResolver (.asking job) }
  | emit {batch : ResolvedBlock} {batches : Channel ResolvedBlock}
      (hemit : s.watcher.resolver = .emitting batch)
      (hsend : s.watcher.batches.send? batch = some batches) :
      Steps s { s with
        watcher := { s.watcher with batches, resolver := .waiting }
        words := s.words ++ [.emitted batch] }
  | stop (hrun : s.watcher.resolver ≠ .stopped)
      (hgone : s.watcher.cancelled = true ∨ s.watcher.batches.isOpen = false) :
      Steps s { s with watcher := s.watcher.stopResolver }
  | queue {job : PendingBlock} {jobs : Channel PendingBlock}
      (hsend : s.watcher.jobs.send? job = some jobs) :
      Steps s { s with watcher := { s.watcher with jobs }, queued := s.queued ++ [job] }
  | elsewhere {watcher : Watcher} {hub : Hub} (halone : s.LeftAlone watcher hub) :
      Steps s { s with watcher, hub }

theorem steps_move (s : Resolving) (move : ResolveMove) : s.Steps (s.step (.move move)) := by
  obtain ⟨w, hub, queued, words⟩ := s
  unfold step
  dsimp only
  split
  · rename_i w' hub' h
    cases move with
    | take =>
      simp only [Watcher.resolve?] at h
      split at h
      · rename_i job jobs hwait hreceive
        cases h
        rw [Resolver.words, List.append_nil]
        exact .take hwait hreceive
      · cases h
    | heard answer =>
      simp only [Watcher.resolve?] at h
      split at h
      · rename_i job hask
        cases h
        rw [Resolver.words, hask]
        exact .heard hask rfl
      · cases h
    | again =>
      simp only [Watcher.resolve?] at h
      split at h
      · rename_i job wake hpause
        cases (Option.ite_none_right_eq_some.mp h).2
        rw [Resolver.words, List.append_nil]
        exact .again hpause
      · cases h
    | emit =>
      simp only [Watcher.resolve?] at h
      split at h
      · rename_i batch hemit
        obtain ⟨batches, hsend, heq⟩ := Option.map_eq_some_iff.mp h
        cases heq
        rw [hemit]
        exact .emit hemit hsend
      · cases h
    | abandon =>
      simp only [Watcher.resolve?] at h
      split at h
      · rename_i batch hemit
        split at h <;> cases h
        rename_i hclosed
        rw [Resolver.words, List.append_nil]
        exact .stop (by simp [hemit]) (.inr (by simpa using hclosed))
      · cases h
    | cancel =>
      have hcancel : w.resolver ≠ .stopped ∧ w.cancelled = true ∧
          (w.stopResolver, hub) = (w', hub') := by
        simp only [Watcher.resolve?] at h
        split at h
        iterate 3
          rename_i hstage
          obtain ⟨hcancel, heq⟩ := Option.ite_none_right_eq_some.mp h
          exact ⟨by simp [hstage], hcancel, Option.some.inj heq⟩
        iterate 2 cases h
      obtain ⟨hrun, hcancelled, heq⟩ := hcancel
      cases heq
      rw [Resolver.words, List.append_nil]
      exact .stop hrun (.inl hcancelled)
  · exact .rests

theorem steps_step (s : Resolving) (turn : Turn) : s.Steps (s.step turn) := by
  cases turn with
  | move move => exact s.steps_move move
  | queue job =>
    unfold step
    dsimp only
    split
    · rename_i jobs hsend
      exact .queue hsend
    · exact .rests
  | elsewhere watcher hub =>
    unfold step
    dsimp only
    split
    · rename_i halone
      exact .elsewhere halone
    · exact .rests

/-! ### What the record tells -/

/-- The jobs that have been begun: the jobs done, and the one at hand if there is one. -/
def begun (done : List Chapter) (draft : Option Chapter) : List PendingBlock :=
  done.map Chapter.job ++ draft.toList.map Chapter.job

/-- The candidates whose fates are decided. -/
def decided (done : List Chapter) (draft : Option Chapter) : List Hearing :=
  done.flatMap Chapter.hearings ++ draft.toList.flatMap Chapter.hearings

/-- The record of a resolver that began with the counts of `first`, job by job: the jobs done, and
the one at hand if there is one. -/
structure Tells (first s : Resolving) (done : List Chapter) (draft : Option Chapter) : Prop where
  settings_eq : s.watcher.settings = first.watcher.settings
  /-- What has been heard and said for the jobs done, each closed by its batch, and then what has
  been heard for the job at hand. -/
  words : s.words = done.flatMap Chapter.told ++ draft.toList.flatMap Chapter.heard
  /-- All candidates of the jobs done are decided. -/
  whole : ∀ c ∈ done, c.IsSound first.watcher.settings.maxReceiptRetry ∧ c.rest = []
  sound : ∀ c ∈ draft, c.IsSound first.watcher.settings.maxReceiptRetry
  /-- The jobs are those queued first. Unless the resolver has stopped, all others wait. -/
  jobs : ∃ waiting, s.queued = begun done draft ++ waiting ∧
    (s.watcher.resolver ≠ .stopped → waiting = s.watcher.jobs.items)
  stands : Chapter.Stands draft s.watcher.resolver
  /-- Each candidate has been counted by its fate. -/
  counted : ∀ fate, s.counted fate = first.counted fate +
    (decided done draft).countP (receiptFate ·.fate = fate)

variable {first s s' : Resolving} {done : List Chapter} {draft : Option Chapter}

/-- A turn that leaves the record and the chapters as they are. -/
theorem Tells.keep (h : Tells first s done draft)
    (hsettings : s'.watcher.settings = s.watcher.settings) (hwords : s'.words = s.words)
    (hjobs : ∃ waiting, s'.queued = begun done draft ++ waiting ∧
      (s'.watcher.resolver ≠ .stopped → waiting = s'.watcher.jobs.items))
    (hstands : Chapter.Stands draft s'.watcher.resolver)
    (hcounted : ∀ fate, s'.counted fate = s.counted fate) : Tells first s' done draft :=
  ⟨hsettings.trans h.settings_eq, hwords.trans h.words, h.whole, h.sound, hjobs, hstands,
    fun fate => (hcounted fate).trans (h.counted fate)⟩

/-- A resolver that goes down leaves the record and the chapters as they are. -/
theorem Tells.stop (h : Tells first s done draft) :
    Tells first { s with watcher := s.watcher.stopResolver } done draft := by
  obtain ⟨waiting, hqueued, -⟩ := h.jobs
  exact h.keep rfl rfl ⟨waiting, hqueued, fun hnot => absurd rfl hnot⟩ .stopped fun _ => rfl

/-- It makes no difference if the resolver goes down instead of asking. -/
theorem Tells.turn {watcher : Watcher} {next : Resolver} {hub : Hub} {queued : List PendingBlock}
    {words : List Word}
    (h : Tells first ⟨{ watcher with resolver := next }, hub, queued, words⟩ done draft) :
    Tells first ⟨watcher.turnResolver next, hub, queued, words⟩ done draft := by
  obtain heq | ⟨-, -, heq⟩ := watcher.turnResolver_cases next
  · rw [heq]
    exact h
  · rw [heq]
    exact h.stop

/-- The resolver takes the next job. -/
theorem Tells.take {job : PendingBlock} {jobs : Channel PendingBlock}
    (h : Tells first s done none) (hwait : s.watcher.resolver = .waiting)
    (hreceive : s.watcher.jobs.receive? = some (job, jobs)) :
    Tells first { s with watcher := { s.watcher with jobs, resolver := .begin job } } done
      (some (.start job)) := by
  obtain ⟨waiting, hqueued, hwaiting⟩ := h.jobs
  refine ⟨h.settings_eq, ?_, h.whole, ?_, ⟨jobs.items, ?_, fun _ => rfl⟩, ?_, h.counted⟩
  · have hnothing : (Chapter.start job).heard = [] := by
      rw [Chapter.heard, Chapter.start]
      cases job.candidates <;> rfl
    rw [Option.toList_some, List.flatMap_singleton, hnothing]
    exact h.words
  · rintro _ ⟨⟩
    exact Chapter.isSound_start job
  · rw [hqueued, hwaiting (by simp [hwait]), (Channel.items_of_receive? hreceive).1]
    simp [begun, Chapter.start]
  · exact .busy (Chapter.reached_turnTo (c := .start job) rfl)

/-- The next stage takes the batch of the job at hand. -/
theorem Tells.emit {c : Chapter} {batches : Channel ResolvedBlock}
    (h : Tells first s done (some c)) (hrun : s.watcher.resolver ≠ .stopped) (hrest : c.rest = []) :
    Tells first { s with
      watcher := { s.watcher with batches, resolver := .waiting }
      words := s.words ++ [.emitted c.batch] } (done ++ [c]) none := by
  obtain ⟨waiting, hqueued, hwaiting⟩ := h.jobs
  refine ⟨h.settings_eq, ?_, ?_, nofun, ⟨waiting, ?_, fun _ => hwaiting hrun⟩, .waiting,
    fun fate => ?_⟩
  · rw [h.words]
    simp [Chapter.told]
  · intro d hd
    rcases List.mem_append.mp hd with hdone | hlast
    · exact h.whole d hdone
    · rw [List.mem_singleton.mp hlast]
      exact ⟨h.sound c rfl, hrest⟩
  · rw [hqueued]
    simp [begun]
  · have hdecided : decided (done ++ [c]) none = decided done (some c) := by simp [decided]
    rw [hdecided]
    exact h.counted fate

/-- The fate of the candidate at hand is decided. -/
theorem Tells.settle {c : Chapter} {tx : BlockTx} {rest : List BlockTx}
    {answer : Except CallError Receipt} {fate : Option Receipt}
    (h : Tells first s done (some c)) (hrun : s.watcher.resolver ≠ .stopped)
    (hrest : c.rest = tx :: rest)
    (hdecides : Decides first.watcher.settings.maxReceiptRetry (c.failures ++ [answer]) fate) :
    Tells first { s with
      watcher := { s.watcher with
        resolver := .turnTo c.job.height c.job.blockHash
          (c.results ++ (fate.map (⟨tx, ·⟩)).toList) rest }
      hub := s.hub.count (s.watcher.countFate (some (receiptFate fate)))
      words := s.words ++ [.heard (.receipt tx.hash) answer] } done
      (some (c.settle tx rest answer fate)) := by
  obtain ⟨waiting, hqueued, hwaiting⟩ := h.jobs
  refine ⟨h.settings_eq, ?_, h.whole, ?_, ⟨waiting, hqueued, fun _ => hwaiting hrun⟩, ?_,
    fun other => ?_⟩
  · rw [h.words]
    simp [Chapter.heard_settle hrest]
  · rintro _ ⟨⟩
    exact (h.sound c rfl).settle hrest hdecides
  · have hreached := Chapter.reached_turnTo (c := c.settle tx rest answer fate) rfl
    rw [Chapter.results_settle] at hreached
    exact .busy hreached
  · -- the candidate is counted once, by its fate
    have hdecided : decided done (some (c.settle tx rest answer fate)) =
        decided done (some c) ++ [⟨tx, c.failures ++ [answer], fate⟩] := by
      simp [decided, Chapter.settle]
    rw [hdecided, List.countP_append, List.countP_singleton, ← Nat.add_assoc, ← h.counted other]
    change (s.hub.counters.receipts.add (s.watcher.chain, receiptFate fate) 1).count
      (s.watcher.chain, other) = _
    rw [Series.count_add]
    simp only [Prod.mk.injEq, true_and, decide_eq_true_eq, @eq_comm _ other]
    rfl

/-- The attempt at the candidate at hand has failed. -/
theorem Tells.retry {c : Chapter} {tx : BlockTx} {rest : List BlockTx} {retryAt : Nat}
    {answer : Except CallError Receipt}
    (h : Tells first s done (some c)) (hrun : s.watcher.resolver ≠ .stopped)
    (hrest : c.rest = tx :: rest) (hfailure : isFailure answer = true)
    (hlength : c.failures.length < first.watcher.settings.maxReceiptRetry) :
    Tells first { s with
      watcher := { s.watcher with
        resolver := .pausing ⟨c.job.height, c.job.blockHash, c.results, tx, c.failures.length + 1,
          rest⟩ retryAt }
      words := s.words ++ [.heard (.receipt tx.hash) answer] } done (some (c.retry answer)) := by
  obtain ⟨waiting, hqueued, hwaiting⟩ := h.jobs
  refine ⟨h.settings_eq, ?_, h.whole, ?_, ⟨waiting, hqueued, fun _ => hwaiting hrun⟩, ?_, h.counted⟩
  · rw [h.words]
    simp [Chapter.heard_retry hrest]
  · rintro _ ⟨⟩
    exact (h.sound c rfl).retry hfailure hlength
  · have hreached : (c.retry answer).Reached (.pausing _ retryAt) := .pausing hrest
    simp only [Chapter.retry, List.length_append, List.length_singleton] at hreached
    exact .busy hreached

/-- The sleep before the next attempt is over. -/
theorem Tells.again {c : Chapter} {tx : BlockTx} {rest : List BlockTx}
    (h : Tells first s done (some c)) (hrun : s.watcher.resolver ≠ .stopped)
    (hrest : c.rest = tx :: rest) :
    Tells first { s with watcher := { s.watcher with
      resolver := .asking ⟨c.job.height, c.job.blockHash, c.results, tx, c.failures.length,
        rest⟩ } } done (some c) := by
  obtain ⟨waiting, hqueued, hwaiting⟩ := h.jobs
  exact h.keep rfl rfl ⟨waiting, hqueued, fun _ => hwaiting hrun⟩ (.busy (.asking hrest))
    fun _ => rfl

theorem Tells.step (h : Tells first s done draft) (hstep : s.Steps s') :
    ∃ done' draft', Tells first s' done' draft' := by
  have hstands := h.stands
  obtain ⟨waiting, hqueued, hwaiting⟩ := h.jobs
  cases hstep with
  | rests => exact ⟨done, draft, h⟩
  | stop _ _ => exact ⟨done, draft, h.stop⟩
  | @queue job jobs hsend =>
    have hitems := (Channel.items_of_send? hsend).1
    refine ⟨done, draft,
      h.keep rfl rfl ⟨waiting ++ [job], ?_, fun hrun => ?_⟩ h.stands fun _ => rfl⟩
    · rw [hqueued, List.append_assoc]
    · rw [hwaiting hrun]
      exact hitems.symm
  | @elsewhere watcher hub halone =>
    obtain ⟨hsettings, hresolver, hjobs, hcounted⟩ := halone
    refine ⟨done, draft, h.keep hsettings rfl ⟨waiting, hqueued, fun hrun => ?_⟩ ?_ fun fate => ?_⟩
    · exact (hwaiting (hresolver ▸ hrun)).trans (congrArg Channel.items hjobs).symm
    · exact hresolver ▸ hstands
    · have hchain : watcher.chain = s.watcher.chain := congrArg ChainPlan.chain hsettings
      rw [Resolving.counted, hchain]
      cases fate <;> exact hcounted _ (by decide)
  | take hwait hreceive =>
    rw [hwait] at hstands
    cases hstands with
    | waiting => exact ⟨done, _, (h.take hwait hreceive).turn⟩
    | busy hreached => cases hreached
  | emit hemit hsend =>
    rw [hemit] at hstands
    cases hstands with
    | @busy c _ hreached =>
      cases hreached with
      | emitting hrest => exact ⟨_, none, h.emit (by rw [hemit]; nofun) hrest⟩
  | again hpause =>
    have hrun : s.watcher.resolver ≠ .stopped := by
      rw [hpause]
      nofun
    rw [hpause] at hstands
    cases hstands with
    | @busy c _ hreached =>
      cases hreached with
      | pausing hrest =>
        exact ⟨done, _, (h.again hrun hrest).turn⟩
  | @heard job answer retryAt resolver fate hask hheard =>
    have hrun : s.watcher.resolver ≠ .stopped := by
      rw [hask]
      nofun
    rw [h.settings_eq] at hheard
    rw [hask] at hstands
    cases hstands with
    | @busy c _ hreached =>
      cases hreached with
      | @asking tx rest hrest =>
        have hsound := h.sound c rfl
        obtain ⟨fate, hdecides, heq⟩ | ⟨hfailure, hlength, heq⟩ :=
          Resolution.heard_decides ⟨c.job.height, c.job.blockHash, c.results, tx,
            c.failures.length, rest⟩ retryAt answer hsound.failures hsound.length_failures rfl
        · rw [heq] at hheard
          cases hheard
          exact ⟨done, _, (h.settle hrun hrest hdecides).turn⟩
        · rw [heq] at hheard
          cases hheard
          exact ⟨done, _, (h.retry hrun hrest hfailure hlength).turn⟩

/-- After every run the record can be told job by job. -/
theorem tells_run (settings : ChainPlan) (codec : Codec) (pool : Pool) (vault : Option String)
    (hub : Hub) (turns : List Turn) :
    ∃ done draft, Tells (start settings codec pool vault hub)
      ((start settings codec pool vault hub).run turns) done draft := by
  have hfirst : Tells (start settings codec pool vault hub) (start settings codec pool vault hub)
      [] none :=
    ⟨rfl, rfl, nofun, nofun, ⟨[], rfl, fun _ => rfl⟩, .waiting, fun _ => rfl⟩
  induction turns using List.reverseRecOn with
  | nil => exact ⟨[], none, hfirst⟩
  | append_singleton turns turn ih =>
    obtain ⟨done, draft, htells⟩ := ih
    rw [run_append]
    exact htells.step (steps_step _ turn)

/-! ### Jobs and batches -/

/-- What the record says about jobs and batches. -/
structure Orderly (first s : Resolving) (done : List Chapter) (draft : Option Chapter) : Prop
    extends Tells first s done draft where
  /-- The batches emitted are those of the jobs done. -/
  emitted : s.emitted = done.map Chapter.batch
  /-- As many jobs are done as batches have been emitted, and they are those queued first. -/
  order : done.map Chapter.job = s.queued.take s.emitted.length
  /-- A receipt is asked for only when all jobs before have their batches. -/
  query : ∀ q ∈ s.watcher.resolver.query?, ∃ job, s.queued[s.emitted.length]? = some job ∧
    ∃ tx ∈ job.candidates, q = .receipt tx.hash
  /-- Every candidate of the jobs done has been counted, and those decided of the job at hand. -/
  grown : s.counted .resolved + s.counted .dropped =
    first.counted .resolved + first.counted .dropped +
      (done.flatMap fun c => c.job.candidates).length +
        (draft.toList.flatMap Chapter.hearings).length
  /-- When it waits and nothing is queued, all jobs have their batches. -/
  finished : s.watcher.resolver = .waiting → s.watcher.jobs.items = [] →
    s.emitted.length = s.queued.length

theorem filterMap_batch?_heard (c : Chapter) : c.heard.filterMap Word.batch? = [] := by
  have hnone : ∀ word ∈ c.heard, word.batch? = none := by
    intro word hword
    simp only [Chapter.heard, BlockTx.heard, List.mem_append, List.mem_flatMap,
      List.mem_map] at hword
    rcases hword with ⟨_, _, _, _, rfl⟩ | ⟨_, _, _, _, rfl⟩ <;> rfl
  exact List.filterMap_eq_nil_iff.mpr hnone

theorem filterMap_batch?_told (done : List Chapter) :
    (done.flatMap Chapter.told).filterMap Word.batch? = done.map Chapter.batch := by
  induction done with
  | nil => rfl
  | cons c done ih =>
    rw [List.flatMap_cons, List.filterMap_append, ih, Chapter.told, List.filterMap_append,
      filterMap_batch?_heard]
    rfl

theorem countP_resolved_add_dropped (hearings : List Hearing) :
    hearings.countP (receiptFate ·.fate = .resolved) +
      hearings.countP (receiptFate ·.fate = .dropped) = hearings.length := by
  induction hearings with
  | nil => rfl
  | cons h hearings ih =>
    rw [List.countP_cons, List.countP_cons, List.length_cons, ← ih]
    cases receiptFate h.fate <;> simp <;> omega

/-- The candidates of the jobs done are those whose fates are decided. -/
theorem Tells.length_hearings (h : Tells first s done draft) :
    (done.flatMap Chapter.hearings).length = (done.flatMap fun c => c.job.candidates).length := by
  rw [List.length_flatMap, List.length_flatMap]
  congr 1
  refine List.map_congr_left fun c hc => ?_
  obtain ⟨hsound, hrest⟩ := h.whole c hc
  rw [← hsound.candidates, hrest, List.append_nil, List.length_map]

theorem Tells.orderly (h : Tells first s done draft) : Orderly first s done draft := by
  have hemitted : s.emitted = done.map Chapter.batch := by
    rw [Resolving.emitted, h.words, List.filterMap_append, filterMap_batch?_told]
    cases draft with
    | none => exact List.append_nil _
    | some c =>
      rw [Option.toList_some, List.flatMap_singleton, filterMap_batch?_heard, List.append_nil]
  have hlength : s.emitted.length = done.length := by rw [hemitted, List.length_map]
  have hstands := h.stands
  obtain ⟨waiting, hqueued, hwaiting⟩ := h.jobs
  refine ⟨h, hemitted, ?_, fun q hq => ?_, ?_, fun hwait hnone => ?_⟩
  · rw [hlength, hqueued, begun, List.append_assoc, ← List.length_map Chapter.job,
      List.take_left]
  · cases hresolver : s.watcher.resolver with
    | asking job =>
      rw [hresolver] at hstands hq
      cases hstands with
      | @busy c _ hreached =>
        cases hreached with
        | @asking tx rest hrest =>
          refine ⟨c.job, ?_, tx, ?_, (Option.mem_some.mp hq).symm⟩
          · rw [hqueued, begun, hlength, List.append_assoc, ← List.length_map Chapter.job]
            simp
          · rw [← (h.sound c rfl).candidates, hrest]
            simp
    | _ =>
      rw [hresolver] at hq
      cases hq
  · have hresolved := h.counted .resolved
    have hdropped := h.counted .dropped
    have hboth := countP_resolved_add_dropped (decided done draft)
    rw [decided, List.length_append, h.length_hearings] at hboth
    rw [decided] at hresolved hdropped
    omega
  · rw [hwait] at hstands
    cases hstands with
    | waiting =>
      rw [hlength, hqueued, begun, hwaiting (by rw [hwait]; nofun), hnone]
      simp
    | busy hreached => cases hreached

/-! ### The end of the resolver -/

/-- A resolver that has stopped says nothing more. -/
theorem Steps.of_stopped (h : s.Steps s') (hstopped : s.watcher.resolver = .stopped) :
    s'.words = s.words ∧ s'.watcher.resolver = .stopped := by
  cases h with
  | rests => exact ⟨rfl, hstopped⟩
  | queue _ => exact ⟨rfl, hstopped⟩
  | elsewhere halone => exact ⟨rfl, halone.2.1.trans hstopped⟩
  | stop hrun _ => exact absurd hstopped hrun
  | take hwait _ =>
    rw [hstopped] at hwait
    cases hwait
  | heard hask _ =>
    rw [hstopped] at hask
    cases hask
  | again hpause =>
    rw [hstopped] at hpause
    cases hpause
  | emit hemit _ =>
    rw [hstopped] at hemit
    cases hemit

theorem words_of_stopped (hstopped : s.watcher.resolver = .stopped) (later : List Turn) :
    (s.run later).words = s.words := by
  induction later generalizing s with
  | nil => rfl
  | cons turn later ih =>
    obtain ⟨hwords, hstill⟩ := (s.steps_step turn).of_stopped hstopped
    exact (ih hstill).trans hwords

/-- A resolver that turns to anything but its end stops only if there is no time for a call. -/
theorem callLimit?_eq_none_of_stopped (w : Watcher) {next : Resolver} (hnext : next ≠ .stopped)
    (hstopped : (w.turnResolver next).resolver = .stopped) : w.callLimit? = none := by
  obtain heq | ⟨-, hlimit, -⟩ := w.turnResolver_cases next
  · rw [heq] at hstopped
    exact absurd hstopped hnext
  · exact hlimit

/-- The resolver stops only when it is cancelled, the next stage is gone, or there is no time for a
call. -/
theorem Steps.gone_of_stopped (h : s.Steps s') (hrun : s.watcher.resolver ≠ .stopped)
    (hstopped : s'.watcher.resolver = .stopped) :
    s.watcher.cancelled = true ∨ s.watcher.batches.isOpen = false ∨
      s.watcher.callLimit? = none := by
  cases h with
  | rests => exact absurd hstopped hrun
  | queue _ => exact absurd hstopped hrun
  | elsewhere halone => exact absurd (halone.2.1.symm.trans hstopped) hrun
  | stop _ hgone => exact hgone.imp_right .inl
  | @take job jobs _ _ =>
    exact .inr (.inr (callLimit?_eq_none_of_stopped { s.watcher with jobs }
      (Resolver.turnTo_ne_stopped _ _ _ _) hstopped))
  | @heard job answer retryAt resolver fate _ hheard =>
    have hnext := job.heard_ne_stopped s.watcher.settings.maxReceiptRetry retryAt answer
    rw [hheard] at hnext
    exact .inr (.inr (callLimit?_eq_none_of_stopped s.watcher hnext hstopped))
  | @again job wake _ =>
    have hnext : Resolver.asking job ≠ .stopped := nofun
    exact .inr (.inr (callLimit?_eq_none_of_stopped s.watcher hnext hstopped))
  | emit _ _ => cases hstopped

end Resolving

end VaultWatch
