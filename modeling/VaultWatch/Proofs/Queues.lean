import VaultWatch.Proofs.Jobs

/-!
# Queues

The resolver comes to the end of its queue, whatever the nodes answer: a job takes a bounded number
of moves, and the resolver can always make one when a call can be given time, the nodes answer, time
passes and the next stage makes room (`Resolving.IsAtWork.drive`). With what its record tells on the
way this is the main statement, `Resolving.serves_run`.
-/

namespace VaultWatch

/-! ### Work left -/

/-- The number of moves that a resolver makes at most until it waits for the next job. -/
def Resolver.work (maxRetry : Nat) : Resolver → Nat
  | .asking job => 2 * (maxRetry - job.attempt) + 1 + job.rest.length * (2 * maxRetry + 1) + 1
  | .pausing job _ => 2 * (maxRetry - job.attempt) + 1 + job.rest.length * (2 * maxRetry + 1) + 2
  | .emitting _ => 1
  | .waiting | .stopped => 0

theorem Resolver.work_turnTo (maxRetry : Nat) (height : UInt64) (blockHash : String)
    (done : List ResolvedTx) (txs : List BlockTx) :
    (turnTo height blockHash done txs).work maxRetry = txs.length * (2 * maxRetry + 1) + 1 := by
  cases txs with
  | nil => simp [turnTo, work]
  | cons tx rest =>
    simp only [turnTo, work, List.length_cons, Nat.add_mul, Nat.sub_zero]
    omega

/-- Every answer brings the end nearer. -/
theorem Resolution.work_heard_lt (job : Resolution) (maxRetry retryAt : Nat)
    (answer : Except CallError Receipt) :
    (job.heard maxRetry retryAt answer).1.work maxRetry < (Resolver.asking job).work maxRetry := by
  have hturn : ∀ done, (Resolver.turnTo job.height job.blockHash done job.rest).work maxRetry <
      (Resolver.asking job).work maxRetry := by
    intro done
    rw [Resolver.work_turnTo, Resolver.work]
    omega
  cases answer with
  | ok receipt => exact hturn _
  | error e =>
    by_cases hlast : maxRetry ≤ job.attempt
    · have hdrop : (job.heard maxRetry retryAt (.error e)).1 = job.drop := by
        cases e <;> simp [heard, hlast]
      rw [hdrop]
      exact hturn _
    · cases e with
      | decode cause => exact hturn _
      | _ =>
        simp only [heard, hlast, if_false, Resolver.work]
        omega

namespace Resolving

/-- The number of moves that the resolver makes at most until nothing is queued. -/
def work (s : Resolving) : Nat :=
  s.watcher.resolver.work s.watcher.settings.maxReceiptRetry +
    (s.watcher.jobs.items.map fun job =>
      job.candidates.length * (2 * s.watcher.settings.maxReceiptRetry + 1) + 2).sum

/-- What brings the resolver on: the nodes give an answer, the time comes to ask again, or the next
stage takes all batches that wait for it. -/
def help (s : Resolving) (answer : Except CallError Receipt) : List Turn :=
  match s.watcher.resolver with
  | .waiting => [.move .take]
  | .asking _ => [.move (.heard answer)]
  | .pausing _ wake =>
    [.elsewhere s.watcher { s.hub with now := max s.hub.now wake }, .move .again]
  | .emitting _ =>
    [.elsewhere { s.watcher with batches := { s.watcher.batches with items := [] } } s.hub,
      .move .emit]
  | .stopped => []

/-- The state after the resolver has been brought on again and again, with these answers at hand. -/
def drive (s : Resolving) (answers : List (Except CallError Receipt)) : Resolving :=
  answers.foldl (fun s answer => s.run (s.help answer)) s

/-- The resolver is at work, a call can be given time, and the next stage is there. -/
structure IsAtWork (s : Resolving) : Prop where
  runs : s.watcher.resolver ≠ .stopped
  limit : s.watcher.callLimit? ≠ none
  isOpen : s.watcher.batches.isOpen = true
  room : 0 < s.watcher.batches.capacity

variable {s : Resolving}

theorem run_help_waiting (h : s.IsAtWork) (answer : Except CallError Receipt)
    (hwait : s.watcher.resolver = .waiting) :
    s.run (s.help answer) = match s.watcher.jobs.receive? with
      | some (job, jobs) =>
        { s with watcher := { s.watcher with jobs, resolver := .begin job } }
      | none => s := by
  simp only [help, hwait, run, List.foldl_cons, List.foldl_nil, step, Watcher.resolve?]
  cases s.watcher.jobs.receive? with
  | none => rfl
  | some received =>
    obtain ⟨job, jobs⟩ := received
    have hlimit : { s.watcher with jobs, resolver := .waiting }.callLimit? ≠ none := h.limit
    simp only [Resolver.words, List.append_nil, Watcher.turnResolver_of_callLimit? _ _ hlimit]

theorem run_help_asking (h : s.IsAtWork) (answer : Except CallError Receipt) {job : Resolution}
    (hask : s.watcher.resolver = .asking job) :
    ∃ retryAt hub words, s.run (s.help answer) =
      { s with
        watcher := { s.watcher with
          resolver := (job.heard s.watcher.settings.maxReceiptRetry retryAt answer).1 }
        hub, words } := by
  simp only [help, hask, run, List.foldl_cons, List.foldl_nil, step, Watcher.resolve?,
    s.watcher.turnResolver_of_callLimit? _ h.limit]
  exact ⟨_, _, _, rfl⟩

theorem run_help_pausing (h : s.IsAtWork) (answer : Except CallError Receipt) {job : Resolution}
    {wake : Nat} (hpause : s.watcher.resolver = .pausing job wake) :
    ∃ hub words, s.run (s.help answer) =
      { s with watcher := { s.watcher with resolver := .asking job }, hub, words } := by
  have halone : s.LeftAlone s.watcher { s.hub with now := max s.hub.now wake } :=
    ⟨rfl, rfl, rfl, fun _ _ => rfl⟩
  have hdue : wake ≤ max s.hub.now wake := Nat.le_max_right _ _
  simp only [help, hpause, run, List.foldl_cons, List.foldl_nil, step, if_pos halone,
    Watcher.resolve?, if_pos hdue, s.watcher.turnResolver_of_callLimit? _ h.limit]
  exact ⟨_, _, rfl⟩

theorem run_help_emitting (h : s.IsAtWork) (answer : Except CallError Receipt)
    {batch : ResolvedBlock} (hemit : s.watcher.resolver = .emitting batch) :
    ∃ batches words, s.run (s.help answer) =
        { s with watcher := { s.watcher with batches, resolver := .waiting }, words } ∧
      batches.isOpen = true ∧ 0 < batches.capacity := by
  let room : Channel ResolvedBlock := { s.watcher.batches with items := [] }
  let drained : Watcher := { s.watcher with batches := room }
  have hhelp : s.help answer = [.elsewhere drained s.hub, .move .emit] := by
    simp only [help, hemit, drained, room]
  have hdrain : s.step (.elsewhere drained s.hub) = { s with watcher := drained } :=
    if_pos ⟨rfl, rfl, rfl, fun _ _ => rfl⟩
  have hsend : room.send? batch = some { room with items := [batch] } := by
    simp [Channel.send?, Channel.hasRoom, room, h.isOpen, h.room]
  have hmove : drained.resolve? s.hub .emit =
      some ({ drained with batches := { room with items := [batch] }, resolver := .waiting },
        s.hub) := by
    simp only [Watcher.resolve?, drained, hemit, hsend, Option.map_some]
  refine ⟨{ room with items := [batch] }, s.words ++ drained.resolver.words .emit, ?_, h.isOpen,
    h.room⟩
  rw [hhelp]
  change (s.step (.elsewhere drained s.hub)).step (.move .emit) = _
  rw [hdrain]
  simp only [step, hmove]
  rfl

/-- The resolver comes nearer to the end of the queue, or is there already. -/
theorem IsAtWork.help (h : s.IsAtWork) (answer : Except CallError Receipt) :
    (s.run (s.help answer)).IsAtWork ∧ (s.run (s.help answer)).queued = s.queued ∧
      (s.run (s.help answer)).work ≤ s.work - 1 := by
  cases hresolver : s.watcher.resolver with
  | stopped => exact absurd hresolver h.runs
  | waiting =>
    rw [run_help_waiting h answer hresolver]
    cases hreceive : s.watcher.jobs.receive? with
    | none =>
      have hitems : s.watcher.jobs.items = [] := by
        cases hcases : s.watcher.jobs.items with
        | nil => rfl
        | cons job rest => simp [Channel.receive?, hcases] at hreceive
      refine ⟨h, rfl, ?_⟩
      simp [work, hresolver, hitems, Resolver.work]
    | some received =>
      obtain ⟨job, jobs⟩ := received
      have hitems := (Channel.items_of_receive? hreceive).1
      have hwaiting : Resolver.waiting.work s.watcher.settings.maxReceiptRetry = 0 := rfl
      refine ⟨⟨Resolver.turnTo_ne_stopped _ _ _ _, h.limit, h.isOpen, h.room⟩, rfl, ?_⟩
      simp only [work, hresolver, hitems, hwaiting, Resolver.begin, Resolver.work_turnTo,
        List.map_cons, List.sum_cons]
      omega
  | asking job =>
    obtain ⟨retryAt, hub, words, hrun⟩ := run_help_asking h answer hresolver
    have hless := job.work_heard_lt s.watcher.settings.maxReceiptRetry retryAt answer
    rw [hrun]
    refine ⟨⟨job.heard_ne_stopped _ _ _, h.limit, h.isOpen, h.room⟩, rfl, ?_⟩
    simp only [work, hresolver]
    omega
  | pausing job wake =>
    obtain ⟨hub, words, hrun⟩ := run_help_pausing h answer hresolver
    rw [hrun]
    refine ⟨⟨by simp, h.limit, h.isOpen, h.room⟩, rfl, ?_⟩
    simp only [work, hresolver, Resolver.work]
    omega
  | emitting batch =>
    obtain ⟨batches, words, hrun, hopen, hroom⟩ := run_help_emitting h answer hresolver
    rw [hrun]
    refine ⟨⟨by simp, h.limit, hopen, hroom⟩, rfl, ?_⟩
    simp only [work, hresolver, Resolver.work]
    omega

theorem IsAtWork.drive (h : s.IsAtWork) (answers : List (Except CallError Receipt)) :
    (s.drive answers).IsAtWork ∧ (s.drive answers).queued = s.queued ∧
      (s.drive answers).work ≤ s.work - answers.length := by
  induction answers generalizing s with
  | nil => exact ⟨h, rfl, Nat.le_refl _⟩
  | cons answer answers ih =>
    obtain ⟨hnext, hqueued, hwork⟩ := h.help answer
    obtain ⟨hend, hsame, hless⟩ := ih hnext
    refine ⟨hend, hsame.trans hqueued, hless.trans ?_⟩
    rw [List.length_cons]
    omega

theorem exists_run_eq_drive (s : Resolving) (answers : List (Except CallError Receipt)) :
    ∃ turns, s.run turns = s.drive answers := by
  induction answers generalizing s with
  | nil => exact ⟨[], rfl⟩
  | cons answer answers ih =>
    obtain ⟨later, hlater⟩ := ih (s.run (s.help answer))
    exact ⟨s.help answer ++ later, (run_append s _ later).trans hlater⟩

/-- Without work left the resolver waits, and nothing is queued. -/
theorem IsAtWork.of_work_eq_zero (h : s.IsAtWork) (hwork : s.work = 0) :
    s.watcher.resolver = .waiting ∧ s.watcher.jobs.items = [] := by
  have hboth := Nat.add_eq_zero_iff.mp hwork
  constructor
  · cases hresolver : s.watcher.resolver with
    | waiting => rfl
    | stopped => exact absurd hresolver h.runs
    | _ => simp [hresolver, Resolver.work] at hboth
  · cases hitems : s.watcher.jobs.items with
    | nil => rfl
    | cons job rest => simp [hitems] at hboth

/-! ### The resolver as a whole -/

/-- What a resolver does that began as `first`. -/
structure Serves (first s : Resolving) : Prop where
  /-- Its batches are those of the jobs queued first, one for each, from all of their candidates. -/
  orderly : ∃ done draft, Orderly first s done draft
  /-- When it has stopped it says nothing more, about the job at hand or any other. -/
  stopped : s.watcher.resolver = .stopped → ∀ later, (s.run later).words = s.words
  /-- It stops only when it is cancelled, the next stage is gone, or a call cannot be given time. -/
  gone : s.watcher.resolver ≠ .stopped → ∀ turn, (s.step turn).watcher.resolver = .stopped →
    s.watcher.cancelled = true ∨ s.watcher.batches.isOpen = false ∨ s.watcher.callLimit? = none
  /-- Otherwise it can be brought to emit the batches of all jobs queued, with any answers. -/
  finishes : s.IsAtWork → ∀ answers, s.work ≤ answers.length →
    ∃ later, s.run later = s.drive answers ∧ (s.run later).queued = s.queued ∧
      (s.run later).emitted.length = s.queued.length

/-- **Jobs become batches.** A resolver begins with an empty queue; jobs are queued, queries are
answered, and everybody else does what they like, in any order. Its batches are those of the jobs in
the order of the queue: each has the height and the hash of its job and the candidates whose fate is
a receipt, each with the receipt told for its own hash. -/
theorem serves_run (settings : ChainPlan) (codec : Codec) (pool : Pool) (vault : Option String)
    (hub : Hub) (turns : List Turn) :
    Serves (start settings codec pool vault hub)
      ((start settings codec pool vault hub).run turns) := by
  obtain ⟨done, draft, htells⟩ := tells_run settings codec pool vault hub turns
  refine ⟨⟨done, draft, htells.orderly⟩, words_of_stopped, fun hrun turn hstopped => ?_,
    fun hwork answers henough => ?_⟩
  · exact (steps_step _ turn).gone_of_stopped hrun hstopped
  · obtain ⟨later, hlater⟩ := exists_run_eq_drive
      ((start settings codec pool vault hub).run turns) answers
    obtain ⟨hend, hqueued, hnone⟩ := hwork.drive answers
    rw [Nat.sub_eq_zero_of_le henough, Nat.le_zero] at hnone
    obtain ⟨hwaiting, hempty⟩ := hend.of_work_eq_zero hnone
    refine ⟨later, hlater, by rw [hlater, hqueued], ?_⟩
    -- the state after both runs is that of one run
    obtain ⟨_, _, hafter⟩ := tells_run settings codec pool vault hub (turns ++ later)
    rw [run_append, hlater] at hafter
    rw [hlater, hafter.orderly.finished hwaiting hempty, hqueued]

end Resolving

end VaultWatch
