import Mathlib.Data.Nat.Find
import VaultWatch.Proofs.Jobs
import VaultWatch.Proofs.Passage

/-!
# Attempts

What the resolver does for one candidate, attempt by attempt, whatever the nodes answer and whatever
everybody else does in between. `Resolving.deeds` lists what it does along a run, the attempts and
the sleeps. The attempts at a candidate come in rounds, each of one failed attempt and one sleep,
and end with an attempt that no sleep follows (`Resolving.Attended`): one that is answered with a
receipt or with something that cannot be read, or the last one permitted. Only the end of the
watcher and a call that cannot be given time cut them short. The main statement is
`Resolving.attends_candidate`.
-/

namespace VaultWatch

open Resolver (isFailure)

/-! ### Answers in a row -/

/-- The attempts answered like this end with the one of this index, counted from zero: all before it
fail, and either it does not or it is the last one permitted. -/
structure Resolver.EndsAt (maxRetry : Nat) (answers : Nat → Except CallError Receipt) (n : Nat) :
    Prop where
  le : n ≤ maxRetry
  failed : ∀ i < n, isFailure (answers i) = true
  last : isFailure (answers n) = true → n = maxRetry

/-- Whatever the answers, there is exactly one attempt with which they end. -/
theorem Resolver.existsUnique_endsAt (maxRetry : Nat)
    (answers : Nat → Except CallError Receipt) : ∃! n, EndsAt maxRetry answers n := by
  have hsome : ∃ n, isFailure (answers n) = false ∨ n = maxRetry := ⟨maxRetry, .inr rfl⟩
  refine ⟨Nat.find hsome, ⟨Nat.find_min' hsome (.inr rfl), fun i hi => ?_, fun hfailure => ?_⟩,
    fun m hm => ?_⟩
  · have hnot := not_or.mp (Nat.find_min hsome hi)
    simpa using hnot.1
  · rcases Nat.find_spec hsome with hdecided | hlast
    · rw [hfailure] at hdecided
      cases hdecided
    · exact hlast
  · -- no attempt before the least one ends them, and none behind it is made
    have hleast : Nat.find hsome ≤ m := by
      refine Nat.find_min' hsome ?_
      cases hanswer : isFailure (answers m) with
      | false => exact .inl rfl
      | true => exact .inr (hm.last hanswer)
    by_contra hne
    have hless : Nat.find hsome < m := by omega
    have hfailure := hm.failed _ hless
    rcases Nat.find_spec hsome with hdecided | hlast
    · rw [hfailure] at hdecided
      cases hdecided
    · have hle := hm.le
      omega

/-- **What one answer does.** A failure is followed by a pause if there is an attempt left. Any
other answer, and the failure of the last attempt, decides the fate of the candidate: it is kept
with its receipt if there is one. -/
theorem Resolution.heard_eq (job : Resolution) (maxRetry retryAt : Nat)
    (answer : Except CallError Receipt) :
    (job.heard maxRetry retryAt answer).1 =
      if isFailure answer = true ∧ job.attempt < maxRetry then
        .pausing { job with attempt := job.attempt + 1 } retryAt
      else .turnTo job.height job.blockHash
        (job.resolved ++ (answer.toOption.map (⟨job.current, ·⟩)).toList) job.rest := by
  have hdropped (e : CallError) : job.drop = .turnTo job.height job.blockHash
      (job.resolved ++ ((Except.toOption (.error e)).map (⟨job.current, ·⟩)).toList) job.rest := by
    change job.drop = .turnTo job.height job.blockHash (job.resolved ++ []) job.rest
    rw [List.append_nil]
    rfl
  cases answer with
  | ok receipt => rfl
  | error e =>
    cases e with
    | decode cause => exact hdropped (.decode cause)
    | _ =>
      by_cases hlast : maxRetry ≤ job.attempt
      · rw [if_neg fun h => absurd h.2 (Nat.not_lt.mpr hlast), ← hdropped]
        simp only [Resolution.heard, if_pos hlast]
      · rw [if_pos ⟨rfl, Nat.lt_of_not_le hlast⟩]
        simp only [Resolution.heard, if_neg hlast]

/-! ### Deeds -/

/-- Something that the resolver does, with the time at which it is done. -/
inductive Deed where
  /-- An attempt: a query is asked and answered. -/
  | asked (query : Query) (answer : Except CallError Receipt) (now : Nat)
  /-- The sleep before the next attempt is over. -/
  | slept (now : Nat)

/-- A failed attempt and the sleep after it. -/
structure Round where
  answer : Except CallError Receipt
  askedAt : Nat
  wokeAt : Nat

/-- What the resolver does in a round for a candidate. -/
def Round.deeds (tx : BlockTx) (r : Round) : List Deed :=
  [.asked (.receipt tx.hash) r.answer r.askedAt, .slept r.wokeAt]

/-- What the resolver does for a candidate in some rounds, and then with one more attempt. -/
def attempts (tx : BlockTx) (rounds : List Round) (last : Except CallError Receipt) (now : Nat) :
    List Deed :=
  rounds.flatMap (Round.deeds tx) ++ [.asked (.receipt tx.hash) last now]

/-- A sleep makes a round of the last attempt. -/
theorem attempts_append_slept (tx : BlockTx) (rounds : List Round)
    (last : Except CallError Receipt) (askedAt wokeAt : Nat) :
    attempts tx rounds last askedAt ++ [.slept wokeAt] =
      (rounds ++ [(⟨last, askedAt, wokeAt⟩ : Round)]).flatMap (Round.deeds tx) := by
  rw [attempts, List.flatMap_append, List.flatMap_singleton, List.append_assoc]
  rfl

/-- As many failed attempts as leave another one, each with a sleep as long as the plan says. -/
structure ChainPlan.Permits (plan : ChainPlan) (rounds : List Round) : Prop where
  failed : ∀ r ∈ rounds, isFailure r.answer = true
  slept : ∀ r ∈ rounds, r.askedAt + plan.receiptRetryDelay ≤ r.wokeAt
  length_le : rounds.length ≤ plan.maxReceiptRetry

/-- One more round is permitted if there is one more attempt left. -/
theorem ChainPlan.Permits.concat {plan : ChainPlan} {rounds : List Round}
    (h : plan.Permits rounds) {r : Round} (hfailed : isFailure r.answer = true)
    (hslept : r.askedAt + plan.receiptRetryDelay ≤ r.wokeAt)
    (hlength : rounds.length < plan.maxReceiptRetry) : plan.Permits (rounds ++ [r]) := by
  refine ⟨fun other hother => ?_, fun other hother => ?_, ?_⟩
  · rcases List.mem_append.mp hother with hold | hnew
    · exact h.failed other hold
    · rwa [List.mem_singleton.mp hnew]
  · rcases List.mem_append.mp hother with hold | hnew
    · exact h.slept other hold
    · rwa [List.mem_singleton.mp hnew]
  · rw [List.length_append, List.length_singleton]
    exact hlength

namespace Resolving

/-- What the resolver does in a turn. -/
def deed? (s : Resolving) : Turn → Option Deed
  | .move (.heard answer) => s.watcher.resolver.query?.map (Deed.asked · answer s.hub.now)
  | .move .again =>
    match s.watcher.resolver with
    | .pausing _ wake => if wake ≤ s.hub.now then some (.slept s.hub.now) else none
    | _ => none
  | _ => none

/-- What the resolver does in some turns, in order. -/
def deeds (s : Resolving) : List Turn → List Deed
  | [] => []
  | turn :: turns => (s.deed? turn).toList ++ (s.step turn).deeds turns

variable {s : Resolving} {job : Resolution} {wake : Nat}

theorem deeds_append (s : Resolving) (turns later : List Turn) :
    s.deeds (turns ++ later) = s.deeds turns ++ (s.run turns).deeds later := by
  induction turns generalizing s with
  | nil => rfl
  | cons turn turns ih =>
    rw [List.cons_append, deeds, deeds, ih, List.append_assoc]
    rfl

theorem deeds_concat {turns : List Turn} {turn : Turn} {deed : Deed}
    (h : (s.run turns).deed? turn = some deed) :
    s.deeds (turns ++ [turn]) = s.deeds turns ++ [deed] := by
  rw [deeds_append]
  simp only [deeds, h, Option.toList_some, List.append_nil]

theorem deeds_concat_of_none {turns : List Turn} {turn : Turn}
    (h : (s.run turns).deed? turn = none) : s.deeds (turns ++ [turn]) = s.deeds turns := by
  rw [deeds_append]
  simp only [deeds, h, Option.toList_none, List.append_nil]

theorem run_concat (s : Resolving) (turns : List Turn) (turn : Turn) :
    s.run (turns ++ [turn]) = (s.run turns).step turn := by
  rw [run_append]
  rfl

/-! ### One turn -/

theorem Steps.settings_eq {s' : Resolving} (h : s.Steps s') :
    s'.watcher.settings = s.watcher.settings := by
  cases h with
  | elsewhere halone => exact halone.1
  | take _ _ | heard _ _ | again _ => exact Watcher.turnResolver_settings _ _
  | _ => rfl

theorem run_settings (s : Resolving) (turns : List Turn) :
    (s.run turns).watcher.settings = s.watcher.settings := by
  induction turns generalizing s with
  | nil => rfl
  | cons turn turns ih => exact (ih (s.step turn)).trans (s.steps_step turn).settings_eq

/-- In a turn the resolver moves, or nothing is done for a candidate. -/
theorem moves_or_idle (s : Resolving) (turn : Turn) : (∃ move, turn = .move move) ∨
    (s.deed? turn = none ∧ (s.step turn).watcher.resolver = s.watcher.resolver) := by
  cases turn with
  | move move => exact .inl ⟨move, rfl⟩
  | queue job =>
    refine .inr ⟨rfl, ?_⟩
    unfold step
    dsimp only
    split <;> rfl
  | elsewhere watcher hub =>
    refine .inr ⟨rfl, ?_⟩
    unfold step
    dsimp only
    split
    · rename_i halone
      exact halone.2.1
    · rfl

/-- The resolver has turned to a stage, or it was about to ask there when there was no time for a
call, and has gone down. -/
def TurnedTo (s : Resolving) (stage : Resolver) : Prop :=
  s.watcher.resolver = stage ∨
    stage.query?.isSome ∧ s.watcher.callLimit? = none ∧ s.watcher.resolver = .stopped

theorem TurnedTo.of_turnResolver {w : Watcher} {stage : Resolver}
    (h : s.watcher = w.turnResolver stage) : s.TurnedTo stage := by
  unfold TurnedTo
  obtain heq | ⟨hquery, hlimit, heq⟩ := w.turnResolver_cases stage
  · exact .inl (by rw [h, heq])
  · exact .inr ⟨hquery, by rw [h, w.turnResolver_callLimit?, hlimit], by rw [h, heq]; rfl⟩

/-- It needs no time for a call to turn to a stage that asks nothing. -/
theorem TurnedTo.resolver_eq_of_query? {stage : Resolver} (h : s.TurnedTo stage)
    (hquery : stage.query? = none) : s.watcher.resolver = stage :=
  h.resolve_right fun hdown => by simp [hquery] at hdown

theorem TurnedTo.resolver_eq {stage : Resolver} (h : s.TurnedTo stage)
    (hlimit : s.watcher.callLimit? ≠ none) : s.watcher.resolver = stage :=
  h.resolve_right fun hdown => hlimit hdown.2.1

theorem step_heard (hask : s.watcher.resolver = .asking job)
    (answer : Except CallError Receipt) :
    s.deed? (.move (.heard answer)) = some (.asked (.receipt job.current.hash) answer s.hub.now) ∧
      (s.step (.move (.heard answer))).watcher = s.watcher.turnResolver
        (job.heard s.watcher.settings.maxReceiptRetry
          (s.hub.now + s.watcher.settings.receiptRetryDelay) answer).1 := by
  constructor
  · simp only [deed?, hask, Resolver.query?, Option.map_some]
  · simp only [step, Watcher.resolve?, hask]

theorem step_again (hpause : s.watcher.resolver = .pausing job wake) (hdue : wake ≤ s.hub.now) :
    s.deed? (.move .again) = some (.slept s.hub.now) ∧
      (s.step (.move .again)).watcher = s.watcher.turnResolver (.asking job) := by
  constructor
  · simp only [deed?, hpause, if_pos hdue]
  · simp only [step, Watcher.resolve?, hpause, if_pos hdue]

/-- While the resolver asks for a receipt nothing else is done, until the query is answered. -/
theorem step_asking (hask : s.watcher.resolver = .asking job) (turn : Turn) :
    (s.deed? turn = none ∧ (s.step turn).watcher.resolver = .asking job) ∨
    ∃ answer, s.deed? turn = some (.asked (.receipt job.current.hash) answer s.hub.now) ∧
      (s.step turn).TurnedTo (job.heard s.watcher.settings.maxReceiptRetry
        (s.hub.now + s.watcher.settings.receiptRetryDelay) answer).1 := by
  obtain ⟨move, rfl⟩ | ⟨hnone, hsame⟩ := s.moves_or_idle turn
  · cases move with
    | heard answer =>
      obtain ⟨hdeed, hnext⟩ := step_heard hask answer
      exact .inr ⟨answer, hdeed, .of_turnResolver hnext⟩
    | _ => exact .inl (by simp only [deed?, step, Watcher.resolve?, hask, and_self])
  · exact .inl ⟨hnone, hsame.trans hask⟩

/-- While the resolver sleeps nothing else is done, until it wakes in time or is cancelled. -/
theorem step_pausing (hpause : s.watcher.resolver = .pausing job wake) (turn : Turn) :
    (s.deed? turn = none ∧ (s.step turn).watcher.resolver = .pausing job wake) ∨
    (s.deed? turn = none ∧ s.watcher.cancelled = true ∧
      (s.step turn).watcher.resolver = .stopped) ∨
    (s.deed? turn = some (.slept s.hub.now) ∧ wake ≤ s.hub.now ∧
      (s.step turn).TurnedTo (.asking job)) := by
  obtain ⟨move, rfl⟩ | ⟨hnone, hsame⟩ := s.moves_or_idle turn
  · cases move with
    | again =>
      by_cases hdue : wake ≤ s.hub.now
      · obtain ⟨hdeed, hnext⟩ := step_again hpause hdue
        exact .inr (.inr ⟨hdeed, hdue, .of_turnResolver hnext⟩)
      · refine .inl ⟨?_, ?_⟩
        · simp only [deed?, hpause, if_neg hdue]
        · simp only [step, Watcher.resolve?, hpause, if_neg hdue]
    | cancel =>
      cases hcancelled : s.watcher.cancelled with
      | true =>
        refine .inr (.inl ⟨rfl, rfl, ?_⟩)
        simp only [step, Watcher.resolve?, hpause, hcancelled, if_true]
        rfl
      | false =>
        refine .inl ⟨rfl, ?_⟩
        simp only [step, Watcher.resolve?, hpause, hcancelled, Bool.false_eq_true, if_false]
    | _ => exact .inl (by simp only [deed?, step, Watcher.resolve?, hpause, Resolver.query?,
        Option.map_none, and_self])
  · exact .inl ⟨hnone, hsame.trans hpause⟩

/-- A resolver that has stopped does nothing any more. -/
theorem deed?_of_stopped (hstopped : s.watcher.resolver = .stopped) (turn : Turn) :
    s.deed? turn = none := by
  unfold deed?
  split
  · rw [hstopped]
    rfl
  · rw [hstopped]
  · rfl

/-! ### The attempts at a candidate -/

/-- How far the resolver has come in some turns with the candidate that it turned to before them. -/
inductive Attended (s : Resolving) (job : Resolution) (turns : List Turn) : Prop where
  /-- Some rounds are over, and the next attempt is under way. -/
  | asking {rounds : List Round} (hrounds : s.watcher.settings.Permits rounds)
      (hdeeds : s.deeds turns = rounds.flatMap (Round.deeds job.current))
      (hstage : (s.run turns).watcher.resolver = .asking { job with attempt := rounds.length })
  /-- Another attempt has failed, and the sleep after it is not over. -/
  | sleeping {rounds : List Round} {answer : Except CallError Receipt} {now : Nat}
      (hrounds : s.watcher.settings.Permits rounds) (hfailure : isFailure answer = true)
      (hlength : rounds.length < s.watcher.settings.maxReceiptRetry)
      (hdeeds : s.deeds turns = attempts job.current rounds answer now)
      (hstage : (s.run turns).watcher.resolver =
        .pausing { job with attempt := rounds.length + 1 }
          (now + s.watcher.settings.receiptRetryDelay))
  /-- The sleep has been cut short by the end of the watcher. -/
  | cut {before after : List Turn} {rounds : List Round} {answer : Except CallError Receipt}
      {now : Nat} (hturns : turns = before ++ after)
      (hcancelled : (s.run before).watcher.cancelled = true)
      (hrounds : s.watcher.settings.Permits rounds) (hfailure : isFailure answer = true)
      (hlength : rounds.length < s.watcher.settings.maxReceiptRetry)
      (hdeeds : s.deeds turns = attempts job.current rounds answer now)
      (hstage : (s.run turns).watcher.resolver = .stopped)
  /-- After the last sleep there was no time for another call. -/
  | failed {before after : List Turn} {rounds : List Round} (hturns : turns = before ++ after)
      (hlimit : (s.run before).watcher.callLimit? = none)
      (hrounds : s.watcher.settings.Permits rounds)
      (hdeeds : s.deeds turns = rounds.flatMap (Round.deeds job.current))
      (hstage : (s.run turns).watcher.resolver = .stopped)
  /-- The fate of the candidate has been decided: by a receipt or an answer that cannot be read, or
  by the failure of the last attempt permitted. With a receipt it is kept, without one it is
  dropped, and at once the resolver turns to the next candidate or to the end of the job. -/
  | decided {before after : List Turn} {rounds : List Round} {answer : Except CallError Receipt}
      {now : Nat} (hturns : turns = before ++ after) (hrounds : s.watcher.settings.Permits rounds)
      (hlast : isFailure answer = true → rounds.length = s.watcher.settings.maxReceiptRetry)
      (hdeeds : s.deeds before = attempts job.current rounds answer now)
      (hstage : (s.run before).TurnedTo (.turnTo job.height job.blockHash
        (job.resolved ++ (answer.toOption.map (⟨job.current, ·⟩)).toList) job.rest))

variable {turns : List Turn}

/-- One turn carries the attempts on, or leaves them where they are. -/
theorem Attended.concat (h : s.Attended job turns) (turn : Turn) :
    s.Attended job (turns ++ [turn]) := by
  have hsettings := s.run_settings turns
  cases h with
  | @asking rounds hrounds hdeeds hstage =>
    obtain ⟨hnone, hsame⟩ | ⟨answer, hdeed, hnext⟩ := step_asking hstage turn
    · refine .asking hrounds ((deeds_concat_of_none hnone).trans hdeeds) ?_
      rw [run_concat, hsame]
    · have hall : s.deeds (turns ++ [turn]) =
          attempts job.current rounds answer (s.run turns).hub.now := by
        rw [deeds_concat hdeed, hdeeds]
        rfl
      rw [hsettings, Resolution.heard_eq, ← run_concat] at hnext
      split at hnext
      · rename_i hagain
        exact .sleeping hrounds hagain.1 hagain.2 hall (hnext.resolver_eq_of_query? rfl)
      · rename_i hagain
        refine .decided (List.append_nil _).symm hrounds (fun hfailure => ?_) hall hnext
        have hnot : ¬ rounds.length < s.watcher.settings.maxReceiptRetry :=
          fun hless => hagain ⟨hfailure, hless⟩
        have hle := hrounds.length_le
        omega
  | @sleeping rounds answer now hrounds hfailure hlength hdeeds hstage =>
    obtain ⟨hnone, hsame⟩ | ⟨hnone, hcancelled, hnext⟩ | ⟨hdeed, hdue, hnext⟩ :=
      step_pausing hstage turn
    · refine .sleeping hrounds hfailure hlength ((deeds_concat_of_none hnone).trans hdeeds) ?_
      rw [run_concat, hsame]
    · have hall := (deeds_concat_of_none hnone).trans hdeeds
      refine .cut rfl hcancelled hrounds hfailure hlength hall ?_
      rw [run_concat, hnext]
    · let round : Round := ⟨answer, now, (s.run turns).hub.now⟩
      have hround : s.watcher.settings.Permits (rounds ++ [round]) :=
        hrounds.concat hfailure hdue hlength
      have hall : s.deeds (turns ++ [turn]) =
          (rounds ++ [round]).flatMap (Round.deeds job.current) := by
        rw [deeds_concat hdeed, hdeeds]
        exact attempts_append_slept _ _ _ _ _
      rw [← run_concat] at hnext
      obtain hasks | ⟨-, hlimit, hdown⟩ := hnext
      · refine .asking hround hall ?_
        rw [hasks, List.length_append, List.length_singleton]
      · exact .failed (List.append_nil _).symm hlimit hround hall hdown
  | @cut before after rounds answer now hturns hcancelled hrounds hfailure hlength hdeeds hstage =>
    have hsplit : turns ++ [turn] = before ++ (after ++ [turn]) := by
      rw [hturns, List.append_assoc]
    have hall := (deeds_concat_of_none (deed?_of_stopped hstage turn)).trans hdeeds
    refine .cut hsplit hcancelled hrounds hfailure hlength hall ?_
    rw [run_concat]
    exact (((s.run turns).steps_step turn).of_stopped hstage).2
  | @failed before after rounds hturns hlimit hrounds hdeeds hstage =>
    have hsplit : turns ++ [turn] = before ++ (after ++ [turn]) := by
      rw [hturns, List.append_assoc]
    have hall := (deeds_concat_of_none (deed?_of_stopped hstage turn)).trans hdeeds
    refine .failed hsplit hlimit hrounds hall ?_
    rw [run_concat]
    exact (((s.run turns).steps_step turn).of_stopped hstage).2
  | @decided before after rounds answer now hturns hrounds hlast hdeeds hstage =>
    have hsplit : turns ++ [turn] = before ++ (after ++ [turn]) := by
      rw [hturns, List.append_assoc]
    exact .decided hsplit hrounds hlast hdeeds hstage

/-- Along every run the attempts at a candidate have come somewhere. -/
theorem attended_run (hask : s.watcher.resolver = .asking job) (hfirst : job.attempt = 0)
    (turns : List Turn) : s.Attended job turns := by
  induction turns using List.reverseRecOn with
  | nil =>
    have hnothing : s.watcher.settings.Permits [] := ⟨nofun, nofun, Nat.zero_le _⟩
    refine .asking hnothing rfl ?_
    rw [List.length_nil, ← hfirst]
    exact hask
  | append_singleton turns turn ih => exact ih.concat turn

/-! ### The counter -/

/-- A resolver that goes down counts nothing any more. -/
theorem failures_turnResolver_le (w : Watcher) (next : Resolver) :
    (w.turnResolver next).resolver.failures ≤ next.failures := by
  obtain heq | ⟨-, -, heq⟩ := w.turnResolver_cases next
  · rw [heq]
  · rw [heq]
    exact Nat.zero_le _

/-- The count of failed attempts is at most the number that may be repeated. -/
theorem Steps.failures_le {s' : Resolving} (h : s.Steps s')
    (hle : s.watcher.resolver.failures ≤ s.watcher.settings.maxReceiptRetry) :
    s'.watcher.resolver.failures ≤ s.watcher.settings.maxReceiptRetry := by
  cases h with
  | @heard job answer retryAt resolver fate hask hheard =>
    have hresolver : resolver =
        (job.heard s.watcher.settings.maxReceiptRetry retryAt answer).1 := by rw [hheard]
    refine (failures_turnResolver_le _ _).trans ?_
    rw [hresolver, Resolution.heard_eq]
    split
    · rename_i hagain
      exact hagain.2
    · rw [Resolver.failures_turnTo]
      exact Nat.zero_le _
  | again hpause =>
    rw [hpause] at hle
    exact (failures_turnResolver_le _ _).trans hle
  | take _ _ =>
    refine (failures_turnResolver_le _ _).trans ?_
    rw [Resolver.begin, Resolver.failures_turnTo]
    exact Nat.zero_le _
  | elsewhere halone =>
    rw [halone.2.1]
    exact hle
  | rests => exact hle
  | queue _ => exact hle
  | emit _ _ => exact Nat.zero_le _
  | stop _ _ => exact Nat.zero_le _

theorem failures_run_le
    (hle : s.watcher.resolver.failures ≤ s.watcher.settings.maxReceiptRetry) (turns : List Turn) :
    (s.run turns).watcher.resolver.failures ≤ s.watcher.settings.maxReceiptRetry := by
  induction turns generalizing s with
  | nil => exact hle
  | cons turn turns ih =>
    have hstep := s.steps_step turn
    have hrest := ih (s := s.step turn) (by rw [hstep.settings_eq]; exact hstep.failures_le hle)
    rwa [hstep.settings_eq] at hrest

/-! ### Coming to the end -/

/-- The time comes to ask again. -/
def await (s : Resolving) (wake : Nat) : Turn :=
  .elsewhere s.watcher { s.hub with now := max s.hub.now wake }

theorem step_await (s : Resolving) (wake : Nat) :
    s.step (s.await wake) = { s with hub := { s.hub with now := max s.hub.now wake } } :=
  if_pos ⟨rfl, rfl, rfl, fun _ _ => rfl⟩

/-- After a failed attempt that leaves another one there can be a sleep and the next attempt, as
there is still time for calls. -/
theorem exists_round (hask : s.watcher.resolver = .asking job)
    (hlimit : s.watcher.callLimit? ≠ none) {answer : Except CallError Receipt}
    (hfailure : isFailure answer = true)
    (hless : job.attempt < s.watcher.settings.maxReceiptRetry) :
    ∃ (turns : List Turn) (r : Round), r.answer = answer ∧
      s.deeds turns = r.deeds job.current ∧ (s.run turns).watcher.callLimit? ≠ none ∧
      (s.run turns).watcher.resolver = .asking { job with attempt := job.attempt + 1 } := by
  obtain ⟨hdeed, hnext⟩ := step_heard hask answer
  rw [Resolution.heard_eq, if_pos ⟨hfailure, hless⟩] at hnext
  -- the attempt, the time that passes, and the end of the sleep
  let failed : Resolving := s.step (.move (.heard answer))
  let wake : Nat := s.hub.now + s.watcher.settings.receiptRetryDelay
  let due : Resolving := failed.step (failed.await wake)
  have hdue : due = { failed with hub := { failed.hub with now := max failed.hub.now wake } } :=
    failed.step_await wake
  have hpause : due.watcher.resolver = .pausing { job with attempt := job.attempt + 1 } wake := by
    rw [hdue]
    exact (TurnedTo.of_turnResolver hnext).resolver_eq_of_query? rfl
  have hlimit' : due.watcher.callLimit? ≠ none := by
    rw [hdue]
    change failed.watcher.callLimit? ≠ none
    rw [hnext, Watcher.turnResolver_callLimit?]
    exact hlimit
  have htime : wake ≤ due.hub.now := by
    rw [hdue]
    exact le_max_right _ _
  obtain ⟨hslept, hagain⟩ := step_again hpause htime
  have hlimit'' : (due.step (.move .again)).watcher.callLimit? ≠ none := by
    rw [hagain, Watcher.turnResolver_callLimit?]
    exact hlimit'
  refine ⟨[.move (.heard answer), failed.await wake, .move .again],
    ⟨answer, s.hub.now, due.hub.now⟩, rfl, ?_, hlimit'',
    (TurnedTo.of_turnResolver hagain).resolver_eq hlimit''⟩
  have hnone : failed.deed? (failed.await wake) = none := rfl
  change (s.deed? (.move (.heard answer))).toList ++ ((failed.deed? (failed.await wake)).toList ++
    ((due.deed? (.move .again)).toList ++ [])) = _
  rw [hdeed, hnone, hslept]
  rfl

/-- From any attempt on, with any answers to come, the resolver can be brought to the one with which
they end. -/
theorem exists_turns_of_endsAt {answers : Nat → Except CallError Receipt} {n : Nat} (left : Nat) :
    ∀ {s : Resolving} {job : Resolution}, s.watcher.resolver = .asking job →
      s.watcher.callLimit? ≠ none →
      Resolver.EndsAt s.watcher.settings.maxReceiptRetry answers n → job.attempt + left = n →
      ∃ (turns : List Turn) (rounds : List Round) (now : Nat),
        rounds.map Round.answer = (List.range' job.attempt left).map answers ∧
        s.deeds turns = attempts job.current rounds (answers n) now ∧
        (s.run turns).watcher.resolver = .turnTo job.height job.blockHash
          (job.resolved ++ ((answers n).toOption.map (⟨job.current, ·⟩)).toList) job.rest := by
  induction left with
  | zero =>
    intro s job hask hlimit hends hleft
    obtain ⟨hdeed, hnext⟩ := step_heard hask (answers n)
    have hlast : ¬ (isFailure (answers n) = true ∧
        job.attempt < s.watcher.settings.maxReceiptRetry) := by
      rintro ⟨hfailure, hless⟩
      have hmax := hends.last hfailure
      omega
    rw [Resolution.heard_eq, if_neg hlast] at hnext
    have hlimit' : (s.step (.move (.heard (answers n)))).watcher.callLimit? ≠ none := by
      rw [hnext, Watcher.turnResolver_callLimit?]
      exact hlimit
    refine ⟨[.move (.heard (answers n))], [], s.hub.now, rfl, ?_,
      (TurnedTo.of_turnResolver hnext).resolver_eq hlimit'⟩
    change (s.deed? (.move (.heard (answers n)))).toList ++ [] = _
    rw [hdeed]
    rfl
  | succ left ih =>
    intro s job hask hlimit hends hleft
    have hfailure : isFailure (answers job.attempt) = true := hends.failed _ (by omega)
    have hless : job.attempt < s.watcher.settings.maxReceiptRetry := by
      have hle := hends.le
      omega
    obtain ⟨turns, r, hanswer, hdeeds, hlimit', hnext⟩ := exists_round hask hlimit hfailure hless
    have hends' : Resolver.EndsAt (s.run turns).watcher.settings.maxReceiptRetry answers n := by
      rw [s.run_settings turns]
      exact hends
    obtain ⟨later, rounds, now, hanswers, hlater, hturn⟩ := ih hnext hlimit' hends' (by
      change job.attempt + 1 + left = n
      omega)
    refine ⟨turns ++ later, r :: rounds, now, ?_, ?_, ?_⟩
    · rw [List.map_cons, hanswer, hanswers, List.range'_succ, List.map_cons]
    · rw [deeds_append, hdeeds, hlater]
      rfl
    · rw [run_append]
      exact hturn

/-! ### The resolver and a candidate -/

/-- What a resolver does for the candidate that it has turned to. -/
structure Attends (s : Resolving) (job : Resolution) : Prop where
  /-- Whatever happens, the attempts are made in rounds, up to the one that decides the fate of the
  candidate. -/
  attended : ∀ turns, s.Attended job turns
  /-- The count of failed attempts is a 32-bit number, for this candidate and all after it. -/
  counter : ∀ turns, (s.run turns).watcher.resolver.failures < UInt32.size
  /-- Whatever the answers to come, there is exactly one attempt with which they end. -/
  ends : ∀ answers, ∃! n, Resolver.EndsAt s.watcher.settings.maxReceiptRetry answers n
  /-- If there is time for calls, the resolver can be brought to it, and to the fate that its answer
  decides. -/
  reaches : s.watcher.callLimit? ≠ none → ∀ answers n,
    Resolver.EndsAt s.watcher.settings.maxReceiptRetry answers n →
    ∃ (turns : List Turn) (rounds : List Round) (now : Nat),
      rounds.map Round.answer = (List.range n).map answers ∧
      s.deeds turns = attempts job.current rounds (answers n) now ∧
      (s.run turns).watcher.resolver = .turnTo job.height job.blockHash
        (job.resolved ++ ((answers n).toOption.map (⟨job.current, ·⟩)).toList) job.rest

/-- **A bounded number of attempts.** A resolver has turned to a candidate; queries are answered and
everybody else does what they like, in any order. The attempts at the candidate end with the first
answer that is a receipt or cannot be read, or else with as many failures as there are attempts
permitted. Between two attempts there is one sleep, and none after the last. -/
theorem attends_candidate {height : UInt64} {blockHash : String} {resolved : List ResolvedTx}
    {tx : BlockTx} {rest : List BlockTx}
    (hturn : s.watcher.resolver = .turnTo height blockHash resolved (tx :: rest))
    (hlimit : s.watcher.settings.maxReceiptRetry < UInt32.size) :
    s.Attends ⟨height, blockHash, resolved, tx, 0, rest⟩ := by
  have hnone : s.watcher.resolver.failures = 0 := by rw [hturn, Resolver.failures_turnTo]
  refine ⟨attended_run hturn rfl, fun turns => ?_, Resolver.existsUnique_endsAt _,
    fun htime answers n hends => ?_⟩
  · have hle := failures_run_le (s := s) (by omega) turns
    omega
  · obtain ⟨turns, rounds, now, hanswers, hdeeds, hend⟩ :=
      exists_turns_of_endsAt n hturn htime hends (Nat.zero_add n)
    refine ⟨turns, rounds, now, ?_, hdeeds, hend⟩
    rw [hanswers, List.range_eq_range']

/-- A resolver that has just taken a job with one candidate, and may ask for its receipt as often as
a configuration can say. -/
def firstCandidate : Resolving :=
  (start { localPlan none with maxReceiptRetry := UInt32.size - 1 } Piped.codec
    (.unconnected "local" ["http://127.0.0.1"]) none (.start 1)).run
      [.queue ⟨0, "0x03", [payment "0x04"]⟩, .move .take]

/-- The largest number of attempts: the counter holds it. -/
theorem attends_firstCandidate :
    (firstCandidate.watcher.resolver = .turnTo 0 "0x03" [] [payment "0x04"] ∧
      firstCandidate.watcher.settings.maxReceiptRetry < UInt32.size) ∧
      firstCandidate.Attends ⟨0, "0x03", [], payment "0x04", 0, []⟩ := by
  have hturn : firstCandidate.watcher.resolver = .turnTo 0 "0x03" [] [payment "0x04"] := rfl
  have hlimit : firstCandidate.watcher.settings.maxReceiptRetry < UInt32.size := by decide
  exact ⟨⟨hturn, hlimit⟩, attends_candidate hturn hlimit⟩

end Resolving

end VaultWatch
