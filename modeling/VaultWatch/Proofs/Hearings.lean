import VaultWatch.Query
import VaultWatch.Watcher.Resolver

/-!
# Hearings

How the fates of candidates are decided, and what is heard on the way. The answers to the queries
for one receipt decide a candidate's fate (`Resolver.Decides`), and the resolver goes by them
(`Resolution.heard_decides`). A chapter tells how far a job has come: its candidates in order, each
with the answers that decided its fate, and the failed attempts at the one at hand.
-/

namespace VaultWatch

/-! ### Answers -/

namespace Resolver

/-- The attempt failed, but another one may not. -/
def isFailure : Except CallError Receipt → Bool
  | .ok _ => false
  | .error (.decode _) => false
  | .error _ => true

/-- The answers decide the fate of a candidate, a receipt or none: at most `maxRetry` failures and
then a receipt, or an answer that cannot be read, or one failure more than that. -/
inductive Decides (maxRetry : Nat) : List (Except CallError Receipt) → Option Receipt → Prop where
  | told {failures : List (Except CallError Receipt)} {receipt : Receipt}
      (hfailures : ∀ a ∈ failures, isFailure a = true) (hlength : failures.length ≤ maxRetry) :
      Decides maxRetry (failures ++ [.ok receipt]) (some receipt)
  | unreadable {failures : List (Except CallError Receipt)} {cause : PayloadError}
      (hfailures : ∀ a ∈ failures, isFailure a = true) (hlength : failures.length ≤ maxRetry) :
      Decides maxRetry (failures ++ [.error (.decode cause)]) none
  | exhausted {failures : List (Except CallError Receipt)}
      (hfailures : ∀ a ∈ failures, isFailure a = true)
      (hlength : failures.length = maxRetry + 1) : Decides maxRetry failures none

end Resolver

/-- How the fate of a candidate is counted. -/
def receiptFate (fate : Option Receipt) : ReceiptFate :=
  if fate.isSome then .resolved else .dropped

open Resolver (isFailure Decides)

/-- One more answer decides the fate of the candidate at hand, or it is a failure that leaves
another attempt. -/
theorem Resolution.heard_decides (job : Resolution) {maxRetry : Nat} (retryAt : Nat)
    (answer : Except CallError Receipt) {failures : List (Except CallError Receipt)}
    (hfailures : ∀ a ∈ failures, isFailure a = true) (hlength : failures.length ≤ maxRetry)
    (hattempt : job.attempt = failures.length) :
    (∃ fate : Option Receipt, Decides maxRetry (failures ++ [answer]) fate ∧
      job.heard maxRetry retryAt answer = (.turnTo job.height job.blockHash
        (job.resolved ++ (fate.map (⟨job.current, ·⟩)).toList) job.rest,
          some (receiptFate fate))) ∨
    (isFailure answer = true ∧ failures.length < maxRetry ∧
      job.heard maxRetry retryAt answer =
        (.pausing { job with attempt := job.attempt + 1 } retryAt, none)) := by
  have hdropped : job.drop = .turnTo job.height job.blockHash
      (job.resolved ++ ((none : Option Receipt).map (⟨job.current, ·⟩)).toList) job.rest := by
    rw [Option.map_none, Option.toList_none, List.append_nil]
    rfl
  cases answer with
  | ok receipt => exact .inl ⟨some receipt, .told hfailures hlength, rfl⟩
  | error e =>
    by_cases hfailure : isFailure (.error e) = true
    · have hheard : job.heard maxRetry retryAt (.error e) =
          if maxRetry ≤ job.attempt then (job.drop, some .dropped)
          else (.pausing { job with attempt := job.attempt + 1 } retryAt, none) := by
        cases e <;> first | rfl | cases hfailure
      rw [hheard, hattempt]
      by_cases hlast : maxRetry ≤ failures.length
      · refine .inl ⟨none, .exhausted ?_ ?_, ?_⟩
        · intro a ha
          rcases List.mem_append.mp ha with hmem | hmem
          · exact hfailures a hmem
          · rwa [List.mem_singleton.mp hmem]
        · rw [List.length_append, List.length_singleton]
          omega
        · rw [if_pos hlast, hdropped]
          rfl
      · exact .inr ⟨hfailure, by omega, if_neg hlast⟩
    · cases e with
      | decode cause =>
        refine .inl ⟨none, .unreadable hfailures hlength, ?_⟩
        rw [← hdropped]
        rfl
      | _ => exact absurd rfl hfailure

/-! ### Words -/

/-- Something that the resolver hears or says. -/
inductive Word where
  /-- A query is answered. -/
  | heard (query : Query) (answer : Except CallError Receipt)
  /-- The next stage takes a batch. -/
  | emitted (batch : ResolvedBlock)

/-- The batch that a word tells to be emitted. -/
def Word.batch? : Word → Option ResolvedBlock
  | .emitted batch => some batch
  | _ => none

/-! ### Chapters -/

/-- A candidate whose fate has been decided, with the answers to the queries for its receipt. -/
structure Hearing where
  tx : BlockTx
  answers : List (Except CallError Receipt)
  fate : Option Receipt

/-- How far a job has come: the candidates whose fates are decided, those whose fates are not, in
order, and the failed attempts at the first of these. -/
structure Chapter where
  job : PendingBlock
  hearings : List Hearing
  failures : List (Except CallError Receipt)
  rest : List BlockTx

/-- What is heard for a candidate: the answers to queries for the receipt of its own hash. -/
def BlockTx.heard (tx : BlockTx) (answers : List (Except CallError Receipt)) : List Word :=
  answers.map (Word.heard (.receipt tx.hash))

/-- The candidate with its receipt, if it has not been dropped. -/
def Hearing.result? (h : Hearing) : Option ResolvedTx := h.fate.map (⟨h.tx, ·⟩)

namespace Chapter

/-- A job that has just been begun. -/
def start (job : PendingBlock) : Chapter := ⟨job, [], [], job.candidates⟩

/-- What has been resolved, in order. -/
def results (c : Chapter) : List ResolvedTx := c.hearings.filterMap Hearing.result?

/-- The batch of what has been resolved. -/
def batch (c : Chapter) : ResolvedBlock := ⟨c.job.height, c.job.blockHash, c.results⟩

/-- What has been heard for the job. -/
def heard (c : Chapter) : List Word :=
  c.hearings.flatMap (fun h => h.tx.heard h.answers) ++
    c.rest.head?.toList.flatMap (·.heard c.failures)

/-- What has been heard and said for a job that has come to its end. -/
def told (c : Chapter) : List Word := c.heard ++ [.emitted c.batch]

/-- The chapter is about the candidates of its job, in order, and the answers decide their fates. -/
structure IsSound (maxRetry : Nat) (c : Chapter) : Prop where
  candidates : c.hearings.map Hearing.tx ++ c.rest = c.job.candidates
  decided : ∀ h ∈ c.hearings, Decides maxRetry h.answers h.fate
  failures : ∀ a ∈ c.failures, isFailure a = true
  length_failures : c.failures.length ≤ maxRetry

/-- The resolver has come so far. -/
inductive Reached (c : Chapter) : Resolver → Prop where
  | asking {tx : BlockTx} {rest : List BlockTx} (hrest : c.rest = tx :: rest) :
      Reached c (.asking ⟨c.job.height, c.job.blockHash, c.results, tx, c.failures.length, rest⟩)
  | pausing {tx : BlockTx} {rest : List BlockTx} {wake : Nat} (hrest : c.rest = tx :: rest) :
      Reached c
        (.pausing ⟨c.job.height, c.job.blockHash, c.results, tx, c.failures.length, rest⟩ wake)
  | emitting (hrest : c.rest = []) : Reached c (.emitting c.batch)

/-- What the resolver is doing goes with the job at hand: it has come so far with it, or waits
between two jobs, or has stopped in any place. -/
inductive Stands : Option Chapter → Resolver → Prop where
  | stopped {draft : Option Chapter} : Stands draft .stopped
  | waiting : Stands none .waiting
  | busy {c : Chapter} {resolver : Resolver} (hreached : c.Reached resolver) :
      Stands (some c) resolver

/-- A fate that has been decided. -/
def settle (c : Chapter) (tx : BlockTx) (rest : List BlockTx) (answer : Except CallError Receipt)
    (fate : Option Receipt) : Chapter :=
  ⟨c.job, c.hearings ++ [⟨tx, c.failures ++ [answer], fate⟩], [], rest⟩

/-- One more failed attempt. -/
def retry (c : Chapter) (answer : Except CallError Receipt) : Chapter :=
  { c with failures := c.failures ++ [answer] }

variable {c : Chapter} {tx : BlockTx} {rest : List BlockTx} {answer : Except CallError Receipt}
  {fate : Option Receipt} {maxRetry : Nat}

theorem reached_turnTo (hfailures : c.failures = []) :
    c.Reached (.turnTo c.job.height c.job.blockHash c.results c.rest) := by
  cases hrest : c.rest with
  | nil => exact .emitting hrest
  | cons tx rest =>
    have hreached := Reached.asking hrest
    rw [hfailures] at hreached
    exact hreached

theorem isSound_start (job : PendingBlock) : (start job).IsSound maxRetry :=
  ⟨rfl, nofun, nofun, Nat.zero_le _⟩

theorem IsSound.settle (h : c.IsSound maxRetry) (hrest : c.rest = tx :: rest)
    (hdecides : Decides maxRetry (c.failures ++ [answer]) fate) :
    (c.settle tx rest answer fate).IsSound maxRetry := by
  refine ⟨?_, ?_, nofun, Nat.zero_le _⟩
  · have hcandidates := h.candidates
    rw [hrest] at hcandidates
    simpa [Chapter.settle] using hcandidates
  · intro hearing hmem
    rcases List.mem_append.mp hmem with hold | hnew
    · exact h.decided hearing hold
    · rw [List.mem_singleton.mp hnew]
      exact hdecides

theorem IsSound.retry (h : c.IsSound maxRetry) (hfailure : isFailure answer = true)
    (hlength : c.failures.length < maxRetry) : (c.retry answer).IsSound maxRetry := by
  refine ⟨h.candidates, h.decided, ?_, ?_⟩
  · intro a ha
    rcases List.mem_append.mp ha with hold | hnew
    · exact h.failures a hold
    · rwa [List.mem_singleton.mp hnew]
  · simp only [Chapter.retry, List.length_append, List.length_singleton]
    omega

theorem heard_settle (hrest : c.rest = tx :: rest) :
    (c.settle tx rest answer fate).heard = c.heard ++ [.heard (.receipt tx.hash) answer] := by
  simp [heard, settle, hrest, BlockTx.heard]

theorem heard_retry (hrest : c.rest = tx :: rest) :
    (c.retry answer).heard = c.heard ++ [.heard (.receipt tx.hash) answer] := by
  simp [heard, retry, hrest, BlockTx.heard]

theorem results_settle : (c.settle tx rest answer fate).results =
    c.results ++ (fate.map (⟨tx, ·⟩)).toList := by
  rw [results, settle, List.filterMap_append]
  cases fate <;> rfl

end Chapter

end VaultWatch
