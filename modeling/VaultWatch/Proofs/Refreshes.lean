import Mathlib.Data.List.Basic
import Mathlib.Data.List.Induction
import VaultWatch.Proofs.Passage
import VaultWatch.Proofs.Step

/-!
# Refreshes

What the refresh loop of a watcher makes of its endpoint pool. A `Survey` is all that a refresh
learns from outside: which addresses discovery tells, which of the targets can be connected, and
what the probes of these say. `Renewal` is what a refresh has to do with it, said without the way it
is done: whatever was connected replaces the endpoints as a whole, in the order in which the
addresses were first named, and if nothing was the pool stays as it is.

The loop itself is in one of four stages. `Turns` lists what one event can do to it and to the pool,
and everything about runs follows from this list by induction: the pool is never empty and names no
address twice, and a wait that is going on has been given its length by the very endpoints that are
there now. The main statement is `World.refreshes_run`.
-/

namespace VaultWatch

/-! ### First occurrences -/

section Distinct

variable {α : Type} [DecidableEq α]

theorem distinct_concat (items : List α) (item : α) :
    distinct (items ++ [item]) =
      if item ∈ distinct items then distinct items else distinct items ++ [item] := by
  rw [distinct, List.foldl_append]
  rfl

@[simp]
theorem mem_distinct {items : List α} {item : α} : item ∈ distinct items ↔ item ∈ items := by
  induction items using List.reverseRecOn with
  | nil => exact Iff.rfl
  | append_singleton items last ih =>
    rw [distinct_concat, List.mem_append, List.mem_singleton]
    split
    · rename_i hlast
      rw [ih]
      refine ⟨.inl, fun h => h.elim id fun heq => ?_⟩
      exact ih.mp (heq ▸ hlast)
    · rw [List.mem_append, List.mem_singleton, ih]

/-- The members stand in the order in which they occur first. -/
theorem pairwise_distinct (items : List α) :
    (distinct items).Pairwise fun a b => items.idxOf a < items.idxOf b := by
  induction items using List.reverseRecOn with
  | nil => exact .nil
  | append_singleton items last ih =>
    -- one more item at the end changes no first occurrence
    have hkept : (distinct items).Pairwise fun a b =>
        (items ++ [last]).idxOf a < (items ++ [last]).idxOf b := by
      refine ih.imp_of_mem fun {a b} ha hb hlt => ?_
      rw [List.idxOf_append_of_mem (mem_distinct.mp ha),
        List.idxOf_append_of_mem (mem_distinct.mp hb)]
      exact hlt
    rw [distinct_concat]
    split
    · exact hkept
    · rename_i hlast
      refine List.pairwise_append.mpr ⟨hkept, List.pairwise_singleton _ _, fun a ha b hb => ?_⟩
      obtain rfl := List.mem_singleton.mp hb
      have ha' : a ∈ items := mem_distinct.mp ha
      have hb' : b ∉ items := fun h => hlast (mem_distinct.mpr h)
      rw [List.idxOf_append_of_mem ha', List.idxOf_append_of_notMem hb']
      exact Nat.lt_add_right _ (List.idxOf_lt_length_of_mem ha')

theorem nodup_distinct (items : List α) : (distinct items).Nodup :=
  (pairwise_distinct items).imp fun hlt heq => absurd (heq ▸ hlt) (Nat.lt_irrefl _)

end Distinct

/-! ### One refresh -/

/-- What a refresh learns: the addresses that discovery tells, if it is asked and does not fail, and
what becomes of each target, which cannot be connected or is as healthy as its probe says. -/
structure Survey where
  found : Option (List String)
  reach : String → Option Bool

/-- The addresses told by discovery; none if it fails. -/
def Survey.discovered (survey : Survey) : List String := survey.found.getD []

namespace Pool

/-- The targets of a refresh with what becomes of them. -/
def probed (p : Pool) (survey : Survey) : List (String × Option Bool) :=
  (p.targets survey.discovered).map fun url => (url, survey.reach url)

/-- What a refresh has to make of a pool with the given name and configured addresses. -/
structure Renewal (chain : String) (urls : List String) (survey : Survey) (before : Pool)
    (outcome : Except CallError Nat) (after : Pool) : Prop where
  /-- When nothing can be connected the refresh fails and the pool stays as it is. -/
  kept (hnone : ∀ url ∈ urls ++ survey.discovered, survey.reach url = none) :
    outcome = .error (.noHealthyEndpoint chain) ∧ after = before
  /-- Otherwise the endpoints are those connected, in the order in which the configured addresses
  and then the discovered ones name them first, and the healthy ones are counted. -/
  renewed (hsome : ∃ url ∈ urls ++ survey.discovered, survey.reach url ≠ none) :
    outcome = .ok (after.endpoints.countP (·.healthy)) ∧
      (∀ e, e ∈ after.endpoints ↔
        e.url ∈ urls ++ survey.discovered ∧ survey.reach e.url = some e.healthy) ∧
      (after.endpoints.map (·.url)).Pairwise fun a b =>
        (urls ++ survey.discovered).idxOf a < (urls ++ survey.discovered).idxOf b

/-- The endpoints that a survey connects. -/
def connected (p : Pool) (survey : Survey) : List Endpoint :=
  (p.targets survey.discovered).filterMap fun url => (survey.reach url).map (Endpoint.mk url)

theorem mem_connected {p : Pool} {survey : Survey} {e : Endpoint} :
    e ∈ p.connected survey ↔
      e.url ∈ p.urls ++ survey.discovered ∧ survey.reach e.url = some e.healthy := by
  obtain ⟨url, healthy⟩ := e
  simp only [connected, targets, List.mem_filterMap, mem_distinct, Option.map_eq_some_iff]
  constructor
  · rintro ⟨url', hmem, healthy', hreach, heq⟩
    cases heq
    exact ⟨hmem, hreach⟩
  · rintro ⟨hmem, hreach⟩
    exact ⟨url, hmem, healthy, hreach, rfl⟩

/-- The connected endpoints stand in the order of the targets. -/
theorem map_url_connected_sublist (p : Pool) (survey : Survey) :
    ((p.connected survey).map (·.url)).Sublist (p.targets survey.discovered) := by
  have hurls : (p.connected survey).map (·.url) =
      (p.targets survey.discovered).filter fun url => (survey.reach url).isSome := by
    rw [connected, List.map_filterMap, ← List.filterMap_eq_filter]
    refine List.filterMap_congr fun url _ => ?_
    cases hreach : survey.reach url <;> simp [Option.guard, hreach]
  rw [hurls]
  exact List.filter_sublist

theorem nodup_map_url_connected (p : Pool) (survey : Survey) :
    ((p.connected survey).map (·.url)).Nodup :=
  (p.map_url_connected_sublist survey).nodup (nodup_distinct _)

/-- A refresh that connects nothing fails and changes nothing. -/
theorem refreshed_probed_of_nil {p : Pool} {survey : Survey} (h : p.connected survey = []) :
    p.refreshed (p.probed survey) = (.error (.noHealthyEndpoint p.chain), p) := by
  have hnil : ((p.probed survey).filterMap fun probe =>
      probe.2.map (Endpoint.mk probe.1)) = [] := by
    rw [probed, List.filterMap_map]
    exact h
  rw [refreshed, hnil]
  rfl

/-- Any other refresh puts what it connects in the place of the endpoints. -/
theorem refreshed_probed_of_ne_nil {p : Pool} {survey : Survey} (h : p.connected survey ≠ []) :
    p.refreshed (p.probed survey) =
      (.ok ((p.connected survey).countP (·.healthy)),
        { p with endpoints := p.connected survey }) := by
  have hconnected : ((p.probed survey).filterMap fun probe =>
      probe.2.map (Endpoint.mk probe.1)) = p.connected survey := by
    rw [probed, List.filterMap_map]
    rfl
  rw [refreshed, hconnected, if_neg (by simpa using h)]
  rfl

/-- Every refresh does what it has to. -/
theorem renewal_refreshed (p : Pool) (survey : Survey) :
    Renewal p.chain p.urls survey p (p.refreshed (p.probed survey)).1
      (p.refreshed (p.probed survey)).2 := by
  constructor
  · intro hnone
    have hnil : p.connected survey = [] := by
      refine List.eq_nil_iff_forall_not_mem.mpr fun e he => ?_
      obtain ⟨hmem, hreach⟩ := mem_connected.mp he
      rw [hnone e.url hmem] at hreach
      cases hreach
    rw [refreshed_probed_of_nil hnil]
    exact ⟨rfl, rfl⟩
  · rintro ⟨url, hmem, hreach⟩
    obtain ⟨healthy, hhealthy⟩ := Option.ne_none_iff_exists'.mp hreach
    have hne : p.connected survey ≠ [] :=
      List.ne_nil_of_mem (mem_connected.mpr ⟨hmem, hhealthy⟩ : (⟨url, healthy⟩ : Endpoint) ∈ _)
    rw [refreshed_probed_of_ne_nil hne]
    refine ⟨rfl, fun e => mem_connected, ?_⟩
    exact (pairwise_distinct _).sublist (p.map_url_connected_sublist survey)

/-- A pool whose endpoints have been connected: there are some, and no two under one address. -/
structure IsConnected (p : Pool) : Prop where
  ne_nil : p.endpoints ≠ []
  nodup : (p.endpoints.map (·.url)).Nodup

theorem isConnected_of_refreshed_eq_ok {p p' : Pool} {survey : Survey} {healthy : Nat}
    (h : p.refreshed (p.probed survey) = (.ok healthy, p')) : p'.IsConnected := by
  by_cases hne : p.connected survey = []
  · rw [refreshed_probed_of_nil hne] at h
    cases h
  · rw [refreshed_probed_of_ne_nil hne] at h
    cases h
    exact ⟨hne, p.nodup_map_url_connected survey⟩

/-- What no refresh changes about a pool. -/
def Alike (p p' : Pool) : Prop := p'.chain = p.chain ∧ p'.urls = p.urls

theorem Alike.trans {p p' p'' : Pool} (h : p.Alike p') (h' : p'.Alike p'') : p.Alike p'' :=
  ⟨h'.1.trans h.1, h'.2.trans h.2⟩

theorem probed_eq {p p' : Pool} (h : p.Alike p') (survey : Survey) :
    p'.probed survey = p.probed survey := by
  rw [probed, probed, targets, targets, h.2]

/-- A refresh never leaves a connected pool without endpoints. -/
theorem IsConnected.refreshed {p : Pool} (h : p.IsConnected) (survey : Survey) :
    (p.refreshed (p.probed survey)).2.IsConnected := by
  by_cases hne : p.connected survey = []
  · rw [refreshed_probed_of_nil hne]
    exact h
  · rw [refreshed_probed_of_ne_nil hne]
    exact ⟨hne, p.nodup_map_url_connected survey⟩

theorem alike_refreshed (p : Pool) (probes : List (String × Option Bool)) :
    p.Alike (p.refreshed probes).2 := by
  simp only [Pool.refreshed]
  split <;> exact ⟨rfl, rfl⟩

end Pool

/-! ### The loop -/

/-- The wait before the next refresh of a pool. -/
def Pool.pauseLength (p : Pool) (every unhealthyEvery : Nat) : Nat :=
  if ∀ e ∈ p.endpoints, e.healthy = false then unhealthyEvery else every

theorem Pool.numHealthy_eq_zero_iff (p : Pool) :
    p.numHealthy = 0 ↔ ∀ e ∈ p.endpoints, e.healthy = false := by
  rw [numHealthy, List.countP_eq_zero]
  simp only [Bool.not_eq_true]

theorem Refresher.pause_numHealthy (r : Refresher) (now : Nat) (p : Pool) :
    r.pause now p.numHealthy =
      { r with stage := .pausing (now + p.pauseLength r.every r.unhealthyEvery) } := by
  rw [pause, Pool.pauseLength]
  simp only [p.numHealthy_eq_zero_iff]

/-- What an event at a time can do to a pool and to its refresh loop. -/
inductive Turns (now : Nat) : Event → Pool → Refresher → Pool → Refresher → Prop where
  | rests {e : Event} {p : Pool} {r : Refresher} : Turns now e p r p r
  | begins {p : Pool} {r : Refresher} (hstage : r.stage = .starting) :
      Turns now (.move (.refresh 0 .begin)) p r p
        { r with stage := .pausing (now + p.pauseLength r.every r.unhealthyEvery) }
  | probes {p : Pool} {r : Refresher} {wake : Nat} (hstage : r.stage = .pausing wake)
      (hdue : wake ≤ now) : Turns now (.move (.refresh 0 .probe)) p r p r.probe
  | refreshes {p : Pool} {r : Refresher} {probes : List (String × Option Bool)}
      (hstage : r.stage = .probing) :
      Turns now (.move (.refresh 0 (.refreshed probes))) p r (p.refreshed probes).2
        { r with
          stage := .pausing (now + (p.refreshed probes).2.pauseLength r.every r.unhealthyEvery) }
  | stops {p : Pool} {r : Refresher} {wake : Nat} (hstage : r.stage = .pausing wake) :
      Turns now (.move (.refresh 0 .cancel)) p r p r.stop

namespace Turns

variable {now : Nat} {e : Event} {p p' : Pool} {r r' : Refresher}

theorem periods (h : Turns now e p r p' r') :
    r'.every = r.every ∧ r'.unhealthyEvery = r.unhealthyEvery := by
  cases h <;> exact ⟨rfl, rfl⟩

/-- Only the end of a refresh changes the pool. -/
theorem pool_eq_or (h : Turns now e p r p' r') :
    p' = p ∨
      ∃ probes, e = .move (.refresh 0 (.refreshed probes)) ∧ p' = (p.refreshed probes).2 := by
  cases h with
  | refreshes _ => exact .inr ⟨_, rfl, rfl⟩
  | _ => exact .inl rfl

/-- A wait has just been given its length, or it is an older one and the pool is the same. -/
theorem of_pausing {wake : Nat} (h : Turns now e p r p' r') (hstage' : r'.stage = .pausing wake) :
    (p' = p ∧ r' = r) ∨
      (r' ≠ r ∧ wake = now + p'.pauseLength r.every r.unhealthyEvery) := by
  -- a loop that begins to wait was not waiting before
  have hnew : (∀ wake, r.stage ≠ .pausing wake) → r' ≠ r := fun hnot heq =>
    hnot wake (heq ▸ hstage')
  cases h with
  | rests => exact .inl ⟨rfl, rfl⟩
  | begins hstage =>
    obtain rfl := Refresher.Stage.pausing.inj hstage'
    exact .inr ⟨hnew fun _ => by simp [hstage], rfl⟩
  | refreshes hstage =>
    obtain rfl := Refresher.Stage.pausing.inj hstage'
    exact .inr ⟨hnew fun _ => by simp [hstage], rfl⟩
  | probes _ _ => cases hstage'
  | stops _ => cases hstage'

/-- A loop begins to probe at the end of a wait. -/
theorem of_probing (h : Turns now e p r p' r') (hstage' : r'.stage = .probing) :
    r.stage = .probing ∨ ∃ wake, r.stage = .pausing wake ∧ wake ≤ now := by
  cases h with
  | rests => exact .inl hstage'
  | probes hstage hdue => exact .inr ⟨_, hstage, hdue⟩
  | begins _ => cases hstage'
  | refreshes _ => cases hstage'
  | stops _ => cases hstage'

end Turns

namespace Watcher

variable {w w' : Watcher} {hub hub' : Hub} {r : Refresher}

/-- No other event concerns the pool and the loops. -/
theorem Occurs.refreshes_or {event : Event} {facts : List Fact}
    (h : w.Occurs hub event facts w' hub') :
    (∃ index move, event = .move (.refresh index move)) ∨
      w'.pool = w.pool ∧ w'.refreshers = w.refreshers := by
  cases h with
  | refresh => exact .inl ⟨_, _, rfl⟩
  | fetch h => cases h <;> exact .inr ⟨rfl, rfl⟩
  | select h => cases h <;> exact .inr ⟨rfl, rfl⟩
  | resolve h => cases h <;> exact .inr ⟨rfl, rfl⟩
  | report h =>
    cases h with
    | conclude _ _ _ =>
      unfold Watcher.conclude
      split <;> exact .inr ⟨rfl, rfl⟩
    | _ => exact .inr ⟨rfl, rfl⟩
  | _ => exact .inr ⟨rfl, rfl⟩

/-- A move of the only loop of a watcher. -/
theorem turns_of_refresh? {index : Nat} {move : RefreshMove} (hr : w.refreshers = [r])
    (h : w.refresh? hub index move = some (w', hub')) :
    ∃ r', w'.refreshers = [r'] ∧
      Turns hub.now (.move (.refresh index move)) w.pool r w'.pool r' := by
  unfold refresh? at h
  rw [hr] at h
  cases index with
  | succ index =>
    rw [List.getElem?_cons_succ, List.getElem?_nil] at h
    cases h
  | zero =>
    simp only [List.getElem?_cons_zero] at h
    split at h
    · rename_i hstage
      cases h
      refine ⟨_, by rw [setRefresher, hr]; rfl, ?_⟩
      rw [Refresher.pause_numHealthy]
      exact .begins hstage
    · rename_i wake hstage
      obtain ⟨hdue, heq⟩ := Option.ite_none_right_eq_some.mp h
      cases heq
      exact ⟨_, by rw [setRefresher, hr]; rfl, .probes hstage hdue⟩
    · rename_i probes hstage
      obtain rfl : w' = { w with pool := (w.pool.refreshed probes).2 }.setRefresher 0
          (r.pause hub.now (w.pool.refreshed probes).2.numHealthy) :=
        (congrArg Prod.fst (Option.some.inj h)).symm
      refine ⟨_, by rw [setRefresher, hr]; rfl, ?_⟩
      rw [Refresher.pause_numHealthy]
      exact .refreshes hstage
    · rename_i wake hstage
      cases (Option.ite_none_right_eq_some.mp h).2
      exact ⟨_, by rw [setRefresher, hr]; rfl, .stops hstage⟩
    · cases h

end Watcher

namespace World

/-- **One step of the loop**: an event turns the only loop of a watcher, or leaves it alone. -/
theorem turns_step {s : World} {r : Refresher} (hr : s.watcher.refreshers = [r]) (e : Event) :
    ∃ r', (s.step e).watcher.refreshers = [r'] ∧
      Turns s.hub.now e s.watcher.pool r (s.step e).watcher.pool r' := by
  unfold step
  split
  · rename_i w hub hhappen
    rcases (Watcher.occurs_of_happen? hhappen).refreshes_or with ⟨index, move, rfl⟩ | ⟨hpool, hsame⟩
    · exact Watcher.turns_of_refresh? hr hhappen
    · exact ⟨r, hsame.trans hr, by rw [hpool]; exact .rests⟩
  · exact ⟨r, hr, .rests⟩

/-- The end of a refresh puts the new pool in the place of the old one. -/
theorem pool_step_refreshed {s : World} {every unhealthyEvery : Nat}
    (hr : s.watcher.refreshers = [⟨every, unhealthyEvery, .probing⟩])
    (probes : List (String × Option Bool)) :
    (s.step (.move (.refresh 0 (.refreshed probes)))).watcher.pool =
      (s.watcher.pool.refreshed probes).2 := by
  have hmove : s.watcher.happen? s.hub (.move (.refresh 0 (.refreshed probes))) =
      some ((s.watcher.refresh s.hub probes).2.1.setRefresher 0
          ((⟨every, unhealthyEvery, .probing⟩ : Refresher).pause
            (s.watcher.refresh s.hub probes).2.2.now
            (s.watcher.refresh s.hub probes).2.1.pool.numHealthy),
        (s.watcher.refresh s.hub probes).2.2) := by
    simp only [Watcher.happen?, Watcher.move?, Watcher.refresh?, hr, List.getElem?_cons_zero]
  rw [step, hmove]
  rfl

/-! ### Runs -/

/-- A watcher in any state but for its pool and its refresh loop, which has not run yet. -/
def refreshing (w : Watcher) (pool : Pool) (every unhealthyEvery : Nat) (hub : Hub) : World :=
  ⟨{ w with pool, refreshers := [.start every unhealthyEvery] }, hub, []⟩

/-- The refreshes among some events go by surveys: each learns about the targets of the pool, once
about each, and about nothing else. -/
def Surveyed (pool : Pool) (events : List Event) : Prop :=
  ∀ probes, .move (.refresh 0 (.refreshed probes)) ∈ events →
    ∃ survey, probes = pool.probed survey

/-- The refresh loop is waiting now and has been since a time: one event began the wait, and none
since then has touched the loop. -/
def WaitsSince (s : World) (events : List Event) (since : Nat) : Prop :=
  ∃ before event later, events = before ++ event :: later ∧ (s.run before).hub.now = since ∧
    (s.run before).watcher.refreshers ≠ (s.run events).watcher.refreshers ∧
    ∀ more, more <+: later →
      (s.run (before ++ event :: more)).watcher.refreshers = (s.run events).watcher.refreshers

/-- A wait that an event leaves alone goes on. -/
theorem WaitsSince.concat {s : World} {events : List Event} {since : Nat} {e : Event}
    (h : s.WaitsSince events since)
    (hsame : (s.run (events ++ [e])).watcher.refreshers = (s.run events).watcher.refreshers) :
    s.WaitsSince (events ++ [e]) since := by
  obtain ⟨before, event, later, rfl, hsince, hbegun, hlater⟩ := h
  refine ⟨before, event, later ++ [e], by simp, hsince, hsame ▸ hbegun, fun more hmore => ?_⟩
  rcases List.prefix_concat_iff.mp hmore with rfl | hmore
  · simp
  · rw [hsame, hlater more hmore]

/-- A wait that an event begins has been going on since then. -/
theorem waitsSince_of_begun {s : World} {events : List Event} {e : Event}
    (hbegun : (s.run events).watcher.refreshers ≠ (s.run (events ++ [e])).watcher.refreshers) :
    s.WaitsSince (events ++ [e]) (s.run events).hub.now := by
  refine ⟨events, e, [], rfl, rfl, hbegun, fun more hmore => ?_⟩
  rw [List.prefix_nil.mp hmore]

variable {w : Watcher} {pool : Pool} {every unhealthyEvery : Nat} {hub : Hub}
  {events : List Event}

/-- The loop keeps its two periods. -/
theorem exists_stage (w : Watcher) (pool : Pool) (every unhealthyEvery : Nat) (hub : Hub)
    (events : List Event) :
    ∃ stage, ((refreshing w pool every unhealthyEvery hub).run events).watcher.refreshers =
      [⟨every, unhealthyEvery, stage⟩] := by
  refine run_induction (P := fun t => ∃ stage, t.watcher.refreshers =
    [⟨every, unhealthyEvery, stage⟩]) (K := fun _ => True) (fun _ _ => trivial) ⟨_, rfl⟩ ?_
  rintro t e - ⟨stage, hr⟩
  obtain ⟨r', hr', hturns⟩ := turns_step hr e
  obtain ⟨rfl, rfl⟩ := hturns.periods
  exact ⟨r'.stage, hr'⟩

/-- The pool stays connected and keeps its name and its configured addresses. -/
theorem isConnected_run (w : Watcher) (every unhealthyEvery : Nat) (hub : Hub)
    (hpool : pool.IsConnected) (hevents : Surveyed pool events) :
    pool.Alike ((refreshing w pool every unhealthyEvery hub).run events).watcher.pool ∧
      ((refreshing w pool every unhealthyEvery hub).run events).watcher.pool.IsConnected := by
  induction events using List.reverseRecOn with
  | nil => exact ⟨⟨rfl, rfl⟩, hpool⟩
  | append_singleton events e ih =>
    obtain ⟨halike, hconnected⟩ := ih fun probes hmem =>
      hevents probes (List.mem_append_left _ hmem)
    obtain ⟨stage, hr⟩ := exists_stage w pool every unhealthyEvery hub events
    obtain ⟨r', -, hturns⟩ := turns_step hr e
    rw [run_append, run_cons, run_nil]
    rcases hturns.pool_eq_or with hsame | ⟨probes, rfl, hnext⟩
    · rw [hsame]
      exact ⟨halike, hconnected⟩
    · obtain ⟨survey, rfl⟩ := hevents probes (List.mem_append_right _ (List.mem_singleton_self _))
      rw [hnext, ← Pool.probed_eq halike]
      exact ⟨halike.trans (Pool.alike_refreshed _ _), hconnected.refreshed survey⟩

/-- **The length of a wait**: the wait that is going on was given its length by the endpoints that
are there now. -/
theorem waits_of_pausing {wake : Nat}
    (h : ((refreshing w pool every unhealthyEvery hub).run events).watcher.refreshers =
      [⟨every, unhealthyEvery, .pausing wake⟩]) :
    ∃ since, (refreshing w pool every unhealthyEvery hub).WaitsSince events since ∧
      wake = since + ((refreshing w pool every unhealthyEvery hub).run
        events).watcher.pool.pauseLength every unhealthyEvery := by
  induction events using List.reverseRecOn with
  | nil => cases h
  | append_singleton events e ih =>
    obtain ⟨stage, hr⟩ := exists_stage w pool every unhealthyEvery hub events
    obtain ⟨r', hr', hturns⟩ := turns_step hr e
    have hnext : (refreshing w pool every unhealthyEvery hub).run (events ++ [e]) =
        ((refreshing w pool every unhealthyEvery hub).run events).step e := run_append _ _ _
    rw [hnext] at h
    obtain rfl : r' = ⟨every, unhealthyEvery, .pausing wake⟩ := List.singleton_inj.mp (hr' ▸ h)
    rcases hturns.of_pausing rfl with ⟨hpool, hsame⟩ | ⟨hnew, hwake⟩
    · -- the wait is an older one
      rw [← hsame] at hr
      obtain ⟨since, hsince, hlength⟩ := ih hr
      refine ⟨since, hsince.concat ?_, ?_⟩
      · rw [hnext, h, hr]
      · rw [hnext, hpool]
        exact hlength
    · -- the wait begins now
      refine ⟨_, waitsSince_of_begun ?_, by rw [hnext]; exact hwake⟩
      rw [hnext, h, hr]
      exact fun heq => hnew (List.singleton_inj.mp heq).symm

/-- How the pool and its refresh loop, which is in a stage, stand after some events. -/
structure Tended (chain : String) (urls : List String) (every unhealthyEvery : Nat) (first : World)
    (events : List Event) (stage : Refresher.Stage) : Prop where
  loop : (first.run events).watcher.refreshers = [⟨every, unhealthyEvery, stage⟩]
  ne_nil : (first.run events).watcher.pool.endpoints ≠ []
  nodup : ((first.run events).watcher.pool.endpoints.map (·.url)).Nodup
  /-- A refresh that is going on does what it has to, whatever it learns. -/
  renewal (hstage : stage = .probing) (survey : Survey) :
    let s := first.run events
    let probes := s.watcher.pool.probed survey
    Pool.Renewal chain urls survey s.watcher.pool (s.watcher.refresh s.hub probes).1
      (s.step (.move (.refresh 0 (.refreshed probes)))).watcher.pool
  /-- A wait that is going on has the length that goes with the endpoints that are there now. -/
  wait {wake : Nat} (hstage : stage = .pausing wake) :
    ∃ since, first.WaitsSince events since ∧
      wake = since + (first.run events).watcher.pool.pauseLength every unhealthyEvery
  /-- The next refresh begins at the end of a wait. -/
  due (event : Event) (hstage : stage ≠ .probing)
    (hbegun : ((first.run events).step event).watcher.refreshers =
      [⟨every, unhealthyEvery, .probing⟩]) :
    ∃ wake, stage = .pausing wake ∧ wake ≤ (first.run events).hub.now

/-- **The pool of a refresh loop.** However a pool was connected at first, whatever state its
watcher is in, whatever the refreshes of the loop learn and whatever else happens: the first survey
did to the pool what it had to, and so does every later one, the pool is never empty and names no
address twice, and before each further refresh the loop waits the shorter time just if no endpoint
of the pool is healthy. -/
theorem refreshes_run {chain : String} {urls : List String} {first : Survey} {healthy : Nat}
    (hconnect : (Pool.unconnected chain urls).refreshed
      ((Pool.unconnected chain urls).probed first) = (.ok healthy, pool))
    (hevents : Surveyed pool events) (w : Watcher) (every unhealthyEvery : Nat) (hub : Hub) :
    Pool.Renewal chain urls first (.unconnected chain urls) (.ok healthy) pool ∧
      ∃ stage, Tended chain urls every unhealthyEvery (refreshing w pool every unhealthyEvery hub)
        events stage := by
  have hfirst := (Pool.unconnected chain urls).renewal_refreshed first
  have halike := (Pool.unconnected chain urls).alike_refreshed
    ((Pool.unconnected chain urls).probed first)
  rw [hconnect] at hfirst halike
  obtain ⟨stage, hloop⟩ := exists_stage w pool every unhealthyEvery hub events
  obtain ⟨hsame, hconnected⟩ := isConnected_run w every unhealthyEvery hub
    (Pool.isConnected_of_refreshed_eq_ok hconnect) hevents
  obtain ⟨hchain, hurls⟩ := halike.trans hsame
  refine ⟨hfirst, stage, hloop, hconnected.ne_nil, hconnected.nodup, ?_, ?_, ?_⟩
  · rintro rfl survey
    have hrenewal := Pool.renewal_refreshed
      ((refreshing w pool every unhealthyEvery hub).run events).watcher.pool survey
    rw [hchain, hurls] at hrenewal
    simp only [pool_step_refreshed hloop]
    exact hrenewal
  · rintro wake rfl
    exact waits_of_pausing hloop
  · intro event hstage hbegun
    obtain ⟨r', hr', hturns⟩ := turns_step hloop event
    obtain rfl := List.singleton_inj.mp (hr'.symm.trans hbegun)
    exact (hturns.of_probing rfl).resolve_left hstage

/-- An address that is configured twice and one that cannot be connected. -/
def wakingUrls : List String := ["http://a", "http://b", "http://a"]

/-- The first survey connects one endpoint, which is not healthy. -/
def sleepingSurvey : Survey := ⟨none, fun url => if url = "http://a" then some false else none⟩

/-- The pool connected by it. -/
def sleepingPool : Pool := ⟨"local", wakingUrls, [⟨"http://a", false⟩]⟩

/-- Later that endpoint is healthy, and so is another one, which discovery tells. -/
def wakingSurvey : Survey :=
  ⟨some ["http://c", "http://a"], fun url => if url = "http://b" then none else some true⟩

/-- A watcher with this pool. -/
def sleepingWorld : World :=
  refreshing (localWorld none "0x04").watcher sleepingPool 30000 5000 (.start 1)

/-- The loop waits for the shorter time and refreshes the pool. -/
def wakingRun : List Event :=
  [.move (.refresh 0 .begin), .elsewhere { Hub.start 1 with now := 5000 },
    .move (.refresh 0 .probe), .move (.refresh 0 (.refreshed (sleepingPool.probed wakingSurvey)))]

/-- After that it waits for the longer time. -/
theorem tended_wakingRun :
    (Pool.unconnected "local" wakingUrls).refreshed
        ((Pool.unconnected "local" wakingUrls).probed sleepingSurvey) = (.ok 0, sleepingPool) ∧
      Surveyed sleepingPool wakingRun ∧
      (sleepingWorld.run wakingRun).watcher.pool.endpoints =
        [⟨"http://a", true⟩, ⟨"http://c", true⟩] ∧
      Tended "local" wakingUrls 30000 5000 sleepingWorld wakingRun (.pausing 35000) := by
  have hconnect : (Pool.unconnected "local" wakingUrls).refreshed
      ((Pool.unconnected "local" wakingUrls).probed sleepingSurvey) = (.ok 0, sleepingPool) := by
    rfl
  have hsurveyed : Surveyed sleepingPool wakingRun := by
    intro probes hmem
    have hprobes : probes = sleepingPool.probed wakingSurvey := by simpa [wakingRun] using hmem
    exact ⟨wakingSurvey, hprobes⟩
  have hloop : (sleepingWorld.run wakingRun).watcher.refreshers =
      [⟨30000, 5000, .pausing 35000⟩] := by
    decide +kernel
  have hendpoints : (sleepingWorld.run wakingRun).watcher.pool.endpoints =
      [⟨"http://a", true⟩, ⟨"http://c", true⟩] := by
    decide +kernel
  obtain ⟨stage, htended⟩ := (refreshes_run hconnect hsurveyed
    (localWorld none "0x04").watcher 30000 5000 (.start 1)).2
  rw [← sleepingWorld] at htended
  obtain rfl : stage = .pausing 35000 := by
    simpa using htended.loop.symm.trans hloop
  exact ⟨hconnect, hsurveyed, hendpoints, htended⟩

end World

end VaultWatch
