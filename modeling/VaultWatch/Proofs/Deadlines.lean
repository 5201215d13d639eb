import VaultWatch.Proofs.Cadences
import VaultWatch.Proofs.Step

/-!
# Deadlines

The fetcher and the resolver go down when they are about to ask and the time that a call may take is
out of range. It is a multiple of the pause between two polls, which only the polls change
(`World.follows_run`). A plan keeps its deadlines if no pause that its cadence can come to takes the
multiple out of range; then there is a time for calls at every moment of every run
(`ChainPlan.KeepsDeadlines.callLimit?_run`).
-/

namespace VaultWatch

/-! ### The cadence of a run -/

/-- Only a poll tells the cadence anything. -/
theorem Watcher.Occurs.exists_beats {w w' : Watcher} {hub hub' : Hub} {event : Event}
    {facts : List Fact} (h : w.Occurs hub event facts w' hub') :
    ∃ beats, w'.fetcher.cadence = w.fetcher.cadence.after beats := by
  cases h with
  | fetch h =>
    cases h with
    | @heardBlock answer _ _ =>
      cases answer with
      | ok block => exact ⟨[.found w.fetcher.late], rfl⟩
      | error e => exact ⟨[.miss], rfl⟩
    | _ => exact ⟨[], rfl⟩
  | select h => cases h <;> exact ⟨[], rfl⟩
  | resolve h => cases h <;> exact ⟨[], rfl⟩
  | report h =>
    cases h with
    | conclude _ _ _ =>
      unfold Watcher.conclude
      split <;> exact ⟨[], rfl⟩
    | _ => exact ⟨[], rfl⟩
  | _ => exact ⟨[], rfl⟩

/-- The watcher runs on a plan, and its cadence is one that the plan's comes to by some beats. -/
structure Watcher.Follows (w : Watcher) (plan : ChainPlan) : Prop where
  settings_eq : w.settings = plan
  cadence : ∃ beats, w.fetcher.cadence = plan.cadence.after beats

/-- A watcher that has not run yet follows its plan. -/
theorem Watcher.follows_start (plan : ChainPlan) (codec : Codec) (pool : Pool)
    (vault : Option String) : (Watcher.start plan codec pool vault).Follows plan :=
  ⟨rfl, [], Fetcher.within_cadence _ _⟩

theorem Watcher.Occurs.follows {w w' : Watcher} {hub hub' : Hub} {event : Event}
    {facts : List Fact} {plan : ChainPlan} (h : w.Occurs hub event facts w' hub')
    (hw : w.Follows plan) : w'.Follows plan := by
  obtain ⟨beats, hbeats⟩ := hw.cadence
  obtain ⟨more, hmore⟩ := h.exists_beats
  refine ⟨h.settings_eq.trans hw.settings_eq, beats ++ more, ?_⟩
  rw [hmore, hbeats, Cadence.after_append]

/-- **Every watcher follows its plan**, along every run. -/
theorem World.follows_run (plan : ChainPlan) (codec : Codec) (pool : Pool) (vault : Option String)
    (hub : Hub) (events : List Event) :
    ((World.start plan codec pool vault hub).run events).watcher.Follows plan :=
  run_invariant (P := fun s => s.watcher.Follows plan) _ events
    (Watcher.follows_start plan codec pool vault) fun _ _ _ _ _ hs hoccurs => hoccurs.follows hs

/-! ### Plans that keep their deadlines -/

namespace ChainPlan

/-- Whatever the watcher's cadence is told, the multiple of its pause that a call may take is in
range. -/
def KeepsDeadlines (plan : ChainPlan) : Prop :=
  ∀ beats, (plan.deadline.multiple? (plan.cadence.after beats).interval).isSome

variable {plan : ChainPlan}

/-- A multiple up to the thousandfold keeps the deadlines. -/
theorem keepsDeadlines_of_le (hfactor : plan.rpcTimeoutFactor ≤ 1000)
    (hwords : plan.cadence.InWords) : plan.KeepsDeadlines :=
  fun beats => Deadline.isSome_multiple?_of_le hfactor (hwords.after beats).interval

/-- There is a time for the calls of every watcher that follows a plan which keeps its
deadlines. -/
theorem KeepsDeadlines.callLimit?_ne_none (h : plan.KeepsDeadlines) {w : Watcher}
    (hw : w.Follows plan) : w.callLimit? ≠ none := by
  obtain ⟨beats, hbeats⟩ := hw.cadence
  rw [Watcher.callLimit?, Deadline.millis?_ne_none_iff, hw.settings_eq, hbeats]
  exact h beats

/-- Such a watcher begins with the query for the head. -/
theorem KeepsDeadlines.fetcher_start (h : plan.KeepsDeadlines) (codec : Codec) (pool : Pool)
    (vault : Option String) :
    (Watcher.start plan codec pool vault).fetcher = .start plan.cadence :=
  Fetcher.within_eq_self (Deadline.millis?_ne_none_iff.mpr (h []))

/-- **Deadlines are kept**: at every moment of every run there is a time for calls. -/
theorem KeepsDeadlines.callLimit?_run (h : plan.KeepsDeadlines) (codec : Codec) (pool : Pool)
    (vault : Option String) (hub : Hub) (events : List Event) :
    ((World.start plan codec pool vault hub).run events).watcher.callLimit? ≠ none :=
  h.callLimit?_ne_none (World.follows_run plan codec pool vault hub events)

/-- Along every run of such a watcher the multiple is in range. -/
theorem KeepsDeadlines.multiple?_run (h : plan.KeepsDeadlines) (codec : Codec) (pool : Pool)
    (vault : Option String) (hub : Hub) (events : List Event) :
    let w := ((World.start plan codec pool vault hub).run events).watcher
    (w.settings.deadline.multiple? w.fetcher.cadence.interval).isSome :=
  Deadline.millis?_ne_none_iff.mp (h.callLimit?_run codec pool vault hub events)

end ChainPlan

end VaultWatch
