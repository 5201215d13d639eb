import Mathlib.Data.List.Find
import Mathlib.Data.List.Perm.Basic
import VaultWatch.CommandLine
import VaultWatch.Proofs.Calls
import VaultWatch.Proofs.Passage
import VaultWatch.Proofs.Refreshes

/-!
# Startups

The enabled sections of a configuration are enumerated in no particular order, and the chains are
added one after another. A section stands under a key of its own, but the manager goes by the name
that the section gives, and nothing keeps two sections from giving the same one. Then the first of
them that can be started has the name, and the others are turned away.

Whether a section can be started when its name is free (`startable`) does not depend on the others.
So what runs after a startup is found without following it: under each name the first section that
gives it and can be started (`planOf?_startAll`). The main statement is
`Settings.startsInOrder`: the names that run are the same for all orders, and the plans they run on
are the same for all orders exactly when sections of one name that can be started agree.
-/

namespace VaultWatch

/-- The plan that a chain runs on, if it runs. -/
def Manager.planOf? (m : Manager) (chain : String) : Option ChainPlan :=
  (m.find? chain).map (·.settings)

namespace CommandLine

/-! ### One chain -/

/-- A chain whose name is free can be started: some endpoint can be connected, and the store tells
the vaults. -/
def startable (answers : String → Bool) (hub : Hub) (plan : ChainPlan) : Bool :=
  (plan.rpcUrls.any fun url => (reach answers url).isSome) && hub.serves .readVaults

/-- What comes of adding a chain. -/
inductive Attempt (answers : String → Bool) (m : Manager) (plan : ChainPlan) : Manager → Prop where
  | skipped {hub : Hub} (hrefused : hub.refused = m.hub.refused)
      (hreason : (m.find? plan.chain).isSome = true ∨ startable answers m.hub plan = false) :
      Attempt answers m plan { m with hub }
  | started {hub : Hub} {w : Watcher} (hrefused : hub.refused = m.hub.refused)
      (hfree : m.find? plan.chain = none) (hstartable : startable answers m.hub plan = true)
      (hplan : w.settings = plan) :
      Attempt answers m plan { m with hub, watchers := m.watchers ++ [(plan.chain, w)] }

variable {answers : String → Bool} {m m' : Manager} {plan : ChainPlan}

/-- A new pool comes to have endpoints exactly when one of the addresses can be connected. -/
theorem isEmpty_endpoints_newPool (answers : String → Bool) (plan : ChainPlan) :
    ((((Manager.newPool plan).targets []).map fun url => (url, reach answers url)).filterMap
        fun probe => probe.2.map (Endpoint.mk probe.1)).isEmpty =
      !plan.rpcUrls.any fun url => (reach answers url).isSome := by
  rw [Bool.eq_iff_iff, List.isEmpty_iff, List.filterMap_eq_nil_iff, Bool.not_eq_true',
    List.any_eq_false]
  simp [Pool.targets, Manager.newPool, Pool.unconnected]

theorem attempt_addOrSkip (answers : String → Bool) (m : Manager) (plan : ChainPlan) :
    Attempt answers m plan (addOrSkip answers m plan) := by
  have hendpoints := isEmpty_endpoints_newPool answers plan
  simp only [addOrSkip, Manager.startChain]
  split
  · rename_i htaken
    exact .skipped rfl (.inl htaken)
  · rename_i hfree
    have hnone : m.find? plan.chain = none := Option.not_isSome_iff_eq_none.mp hfree
    simp only [Pool.refreshed, hendpoints]
    cases hconnects : plan.rpcUrls.any fun url => (reach answers url).isSome with
    | false => exact .skipped rfl (.inr (by rw [startable, hconnects, Bool.false_and]))
    | true =>
      simp only [Bool.not_true, Bool.false_eq_true, if_false, Hub.readVaults]
      cases hserves : m.hub.serves .readVaults with
      | false =>
        rw [if_neg (by simpa [Hub.serves, Hub.count] using hserves)]
        exact .skipped rfl (.inr (by rw [startable, hserves, Bool.and_false]))
      | true =>
        rw [if_pos (by simpa [Hub.serves, Hub.count] using hserves)]
        exact .started rfl hnone (by rw [startable, hconnects, hserves, Bool.and_self]) rfl

namespace Attempt

theorem startable_eq (h : Attempt answers m plan m') :
    startable answers m'.hub = startable answers m.hub := by
  funext other
  cases h <;> simp only [startable, Hub.serves, *]

/-- A chain that runs goes on on its plan; one that does not runs on the plan that is added, if the
plan is its own and can be started. -/
theorem planOf?_eq (h : Attempt answers m plan m') (chain : String) :
    m'.planOf? chain = (m.planOf? chain).or
      (if plan.chain = chain ∧ startable answers m.hub plan = true then some plan else none) := by
  cases h with
  | skipped _ hreason =>
    change m.planOf? chain = _
    split
    · rename_i hboth
      obtain ⟨rfl, hstartable⟩ := hboth
      rcases hreason with htaken | hnot
      · obtain ⟨w, hfind⟩ := Option.isSome_iff_exists.mp htaken
        rw [Manager.planOf?, hfind]
        rfl
      · rw [hstartable] at hnot
        cases hnot
    · exact (Option.or_none).symm
  | @started hub w _ hfree hstartable hplan =>
    rw [Manager.planOf?, Manager.find?_added, Manager.planOf?]
    by_cases hchain : chain = plan.chain
    · rw [if_pos hchain, if_pos ⟨hchain.symm, hstartable⟩]
      cases m.find? chain with
      | none => exact congrArg some hplan
      | some _ => rfl
    · rw [if_neg hchain, if_neg fun hboth => hchain hboth.1.symm, Option.or_none, Option.or_none]

end Attempt

/-! ### All chains -/

/-- The plan is for a chain and can be started. -/
def suits (answers : String → Bool) (hub : Hub) (chain : String) (plan : ChainPlan) : Bool :=
  plan.chain = chain && startable answers hub plan

/-- **The first that can be started has the name.** -/
theorem planOf?_startAll (answers : String → Bool) (m : Manager) (plans : List ChainPlan)
    (chain : String) : (startAll answers m plans).planOf? chain =
      (m.planOf? chain).or (plans.find? (suits answers m.hub chain)) := by
  induction plans generalizing m with
  | nil => exact Option.or_none.symm
  | cons plan plans ih =>
    have hattempt := attempt_addOrSkip answers m plan
    have hfirst : (if plan.chain = chain ∧ startable answers m.hub plan = true then some plan
        else none).or (plans.find? (suits answers m.hub chain)) =
          (plan :: plans).find? (suits answers m.hub chain) := by
      rw [List.find?_cons, suits]
      by_cases hchain : plan.chain = chain <;>
        cases hstartable : startable answers m.hub plan <;> simp [hchain]
    have hsuits : suits answers (addOrSkip answers m plan).hub = suits answers m.hub := by
      funext name other
      rw [suits, suits, hattempt.startable_eq]
    calc (startAll answers m (plan :: plans)).planOf? chain
        = ((addOrSkip answers m plan).planOf? chain).or
            (plans.find? (suits answers m.hub chain)) := by
          rw [← hsuits]
          exact ih (addOrSkip answers m plan)
      _ = (m.planOf? chain).or ((plan :: plans).find? (suits answers m.hub chain)) := by
          rw [hattempt.planOf?_eq, Option.or_assoc, hfirst]

end CommandLine

namespace Settings

open CommandLine

variable {s : Settings} {answers : String → Bool} {hub : Hub} {chain : String}
  {order order' : List (String × ChainSettings)}

/-! ### Orders -/

/-- The plan of a section. -/
def planFor (s : Settings) (c : String × ChainSettings) : ChainPlan := .resolve c.2 s.engine

/-- The engine on a hub after the sections were enumerated in this order, and all chains were added
that can be. -/
def startup (s : Settings) (answers : String → Bool) (hub : Hub)
    (order : List (String × ChainSettings)) : Manager :=
  startAll answers ⟨[], hub, false, false⟩ (order.map s.planFor)

/-- The program comes up as its enabled sections are enumerated. -/
theorem eq_startup_of_launch {env : String → Option String} {path : String} {file : Option Bytes}
    {m : Manager} (h : launch answers env path file = .ok m) :
    ∃ s, Config.load env path file = .ok s ∧
      m = s.startup answers (.start (streamCapacity s)) s.enabledSections := by
  unfold launch at h
  split at h
  · cases h
  · rename_i s hload
    dsimp only at h
    split at h
    · cases h
    · split at h
      · cases h
      · cases h
        exact ⟨s, hload, rfl⟩

/-- A chain runs on the plan of the first section that gives its name and can be started. -/
theorem planOf?_startup (s : Settings) (answers : String → Bool) (hub : Hub)
    (order : List (String × ChainSettings)) (chain : String) :
    (s.startup answers hub order).planOf? chain =
      (order.map s.planFor).find? (suits answers hub chain) :=
  planOf?_startAll answers _ _ chain

/-- Sections of one name that can be started agree on all that the chain is run with. -/
def NamesAgree (s : Settings) (answers : String → Bool) (hub : Hub) : Prop :=
  ∀ c ∈ s.enabledSections, ∀ d ∈ s.enabledSections, c.2.name = d.2.name →
    startable answers hub (s.planFor c) = true → startable answers hub (s.planFor d) = true →
      s.planFor c = s.planFor d

/-- Where sections of one name agree, it does not matter which is first. -/
theorem NamesAgree.planOf?_eq (h : s.NamesAgree answers hub) (horder : order.Perm s.enabledSections)
    (horder' : order'.Perm s.enabledSections) (chain : String) :
    (s.startup answers hub order).planOf? chain = (s.startup answers hub order').planOf? chain := by
  rw [planOf?_startup, planOf?_startup]
  refine List.find?_eq_find?_of_perm ((horder.trans horder'.symm).map _) ?_
  rintro p ⟨hp, hsuits⟩ q ⟨hq, hsuits'⟩
  obtain ⟨c, hc, rfl⟩ := List.mem_map.mp hp
  obtain ⟨d, hd, rfl⟩ := List.mem_map.mp hq
  simp only [suits, Bool.and_eq_true, decide_eq_true_eq] at hsuits hsuits'
  exact h c (horder.mem_iff.mp hc) d (horder.mem_iff.mp hd) (hsuits.1.trans hsuits'.1.symm)
    hsuits.2 hsuits'.2

/-- A section that can be started has its name when it is enumerated first. -/
theorem planOf?_startup_cons {c : String × ChainSettings}
    (hstartable : startable answers hub (s.planFor c) = true) :
    (s.startup answers hub (c :: order)).planOf? c.2.name = some (s.planFor c) := by
  have hsuits : suits answers hub c.2.name (s.planFor c) = true := by
    rw [suits, hstartable, Bool.and_true, decide_eq_true_eq]
    rfl
  rw [planOf?_startup, List.map_cons, List.find?_cons, hsuits]

/-- Each enabled section can be enumerated first. -/
theorem cons_erase_perm {c : String × ChainSettings} (hc : c ∈ s.enabledSections) :
    (c :: s.enabledSections.erase c).Perm s.enabledSections :=
  (List.perm_cons_erase hc).symm

/-- The names that run are those of the sections that can be started. -/
theorem isSome_planOf?_startup_iff (horder : order.Perm s.enabledSections) (chain : String) :
    ((s.startup answers hub order).planOf? chain).isSome = true ↔
      ∃ c ∈ s.enabledSections, c.2.name = chain ∧ startable answers hub (s.planFor c) = true := by
  rw [planOf?_startup, List.find?_isSome]
  constructor
  · rintro ⟨p, hp, hsuits⟩
    obtain ⟨c, hc, rfl⟩ := List.mem_map.mp hp
    simp only [suits, Bool.and_eq_true, decide_eq_true_eq] at hsuits
    exact ⟨c, horder.mem_iff.mp hc, hsuits⟩
  · rintro ⟨c, hc, rfl, hstartable⟩
    refine ⟨s.planFor c, List.mem_map_of_mem (horder.mem_iff.mpr hc), ?_⟩
    rw [suits, hstartable, Bool.and_true, decide_eq_true_eq]
    rfl

/-- How a startup depends on the order in which the enabled sections are enumerated. -/
structure StartsInOrder (s : Settings) (answers : String → Bool) (hub : Hub) : Prop where
  /-- A chain runs on the plan of the first section that gives its name and can be started. -/
  first : ∀ order, order.Perm s.enabledSections → ∀ chain,
    (s.startup answers hub order).planOf? chain =
      (order.map s.planFor).find? fun plan =>
        plan.chain = chain && startable answers hub plan
  /-- Whether a chain runs does not depend on the order. -/
  names : ∀ order, order.Perm s.enabledSections → ∀ chain,
    ((s.startup answers hub order).planOf? chain).isSome = true ↔
      ∃ c ∈ s.enabledSections, c.2.name = chain ∧ startable answers hub (s.planFor c) = true
  /-- A section whose name is taken is turned away, and changes nothing. -/
  later : ∀ done c, ((s.startup answers hub done).planOf? c.2.name).isSome = true →
    ∀ codec probes, (s.startup answers hub done).startChain (s.planFor c) codec probes =
      (.error (.startup c.2.name (.config "chain already running")), s.startup answers hub done)
  /-- The order does not matter exactly when sections of one name that can be started agree. -/
  agree_iff : (∀ order order', order.Perm s.enabledSections → order'.Perm s.enabledSections →
    ∀ chain, (s.startup answers hub order).planOf? chain =
      (s.startup answers hub order').planOf? chain) ↔ s.NamesAgree answers hub

/-- Where the order does not matter, sections of one name agree: each of them can be the first. -/
theorem namesAgree_of_planOf?_eq
    (hall : ∀ order order', order.Perm s.enabledSections → order'.Perm s.enabledSections →
      ∀ chain, (s.startup answers hub order).planOf? chain =
        (s.startup answers hub order').planOf? chain) : s.NamesAgree answers hub := by
  intro c hc d hd hname hstartable hstartable'
  have hsame := hall _ _ (cons_erase_perm hc) (cons_erase_perm hd) c.2.name
  rw [planOf?_startup_cons hstartable, hname, planOf?_startup_cons hstartable'] at hsame
  exact Option.some.inj hsame

/-- **What runs after a startup**, for all configurations and all orders of their sections. -/
theorem startsInOrder (s : Settings) (answers : String → Bool) (hub : Hub) :
    s.StartsInOrder answers hub := by
  refine ⟨fun order _ => s.planOf?_startup answers hub order,
    fun order horder => isSome_planOf?_startup_iff horder, fun done c htaken codec probes => ?_,
    namesAgree_of_planOf?_eq, fun h order order' horder horder' => h.planOf?_eq horder horder'⟩
  rw [Manager.planOf?, Option.isSome_map] at htaken
  exact Manager.startChain_of_running (s.planFor c) codec htaken

/-! ### Two sections of one name -/

/-- Two sections that give the same name and differ in the pause before the first poll. -/
def twoSections : Settings :=
  { localSettings none with
    chains := [("first", { localChain none with initialPollIntervalMs := some 1000 }),
      ("second", { localChain none with initialPollIntervalMs := some 3000 })] }

theorem startable_twoSections {c : String × ChainSettings} (hc : c ∈ twoSections.enabledSections) :
    startable (fun _ => true) (.start 1) (twoSections.planFor c) = true := by
  have hurls : (twoSections.planFor c).rpcUrls = ["http://127.0.0.1"] := by
    revert c
    decide
  have habsolute : Url.isAbsolute "http://127.0.0.1" = true := by decide +kernel
  have hreach : reach (fun _ => true) "http://127.0.0.1" = some true := if_pos habsolute
  rw [startable, hurls, List.any_cons, hreach]
  rfl

/-- The settings that a chain is run with can depend on the order, although the configuration was
found fit to run. -/
theorem startup_twoSections_ne :
    ¬ ∀ (s : Settings) (answers : String → Bool) (hub : Hub)
        (order order' : List (String × ChainSettings)), s.validate = .ok () →
      order.Perm s.enabledSections → order'.Perm s.enabledSections → ∀ chain,
        (s.startup answers hub order).planOf? chain =
          (s.startup answers hub order').planOf? chain := by
  intro hall
  have hfirst : ("first", { localChain none with initialPollIntervalMs := some 1000 }) ∈
      twoSections.enabledSections := by decide
  have hsecond : ("second", { localChain none with initialPollIntervalMs := some 3000 }) ∈
      twoSections.enabledSections := by decide
  have hagree : twoSections.NamesAgree (fun _ => true) (.start 1) :=
    namesAgree_of_planOf?_eq fun order order' => hall twoSections _ _ order order' rfl
  have hplans := hagree _ hfirst _ hsecond rfl (startable_twoSections hfirst)
    (startable_twoSections hsecond)
  exact absurd (congrArg ChainPlan.initialPollInterval hplans) (by decide)

end Settings

end VaultWatch
