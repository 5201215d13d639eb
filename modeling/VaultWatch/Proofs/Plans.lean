import VaultWatch.CommandLine
import VaultWatch.Proofs.Deadlines
import VaultWatch.Proofs.Passage

/-!
# Plans

What a configuration that was found fit to run says about the parameters of its watchers.
`Settings.RunsSafely` lists what these have to be for a watcher to run on them. There is always room
in channels, samples and the cache (`Settings.hasRoom`), since each capacity is checked or raised to
one where a section is merged over the defaults. Two things are not checked, and the main statement,
`Settings.runsSafely_iff`, says how far each may go: the time after which a transaction is given up,
which may be zero, and the factor of the time that calls may take, which may be as large as a number
of 32 bits.

The statement asks for numbers that fit their types (`Settings.InRange`), which those of every
configuration that can be read do (`Config.inRange_of_ofText`).
-/

namespace VaultWatch

/-! ### Configurations in range -/

/-- The times of a cadence and the factor for calls are as large as a configuration can say. -/
structure Settings.InRange (s : Settings) : Prop where
  initialPollInterval : s.engine.initialPollIntervalMs < UInt64.size
  minPollInterval : s.engine.minPollIntervalMs < UInt64.size
  rpcTimeoutFactor : s.engine.rpcTimeoutFactor < UInt32.size
  chainInitialPollInterval (key : String) (c : ChainSettings) (hc : (key, c) ∈ s.chains) :
    ∀ ms ∈ c.initialPollIntervalMs, ms < UInt64.size
  chainMinPollInterval (key : String) (c : ChainSettings) (hc : (key, c) ∈ s.chains) :
    ∀ ms ∈ c.minPollIntervalMs, ms < UInt64.size

/-- The defaults are in range. -/
theorem EngineSettings.default_inRange :
    ({} : EngineSettings).initialPollIntervalMs < UInt64.size ∧
      ({} : EngineSettings).minPollIntervalMs < UInt64.size ∧
      ({} : EngineSettings).rpcTimeoutFactor < UInt32.size := by
  decide

namespace Config

theorem lt_of_natBelow? {bound n : Nat} {value : Toml} (h : natBelow? bound value = some n) :
    n < bound := by
  unfold natBelow? at h
  split at h
  · split at h
    · cases h
      assumption
    · cases h
  · cases h

namespace Fields

/-- What is read from a field with a default is the default, or is read from a value. -/
theorem eq_or_of_withDefault {α : Type} {f : Fields} {name : String} {default a : α}
    {read : Toml → Option α} (h : f.withDefault name default read = some a) :
    a = default ∨ ∃ value, read value = some a := by
  unfold withDefault at h
  split at h
  · exact .inr ⟨_, h⟩
  · exact .inl (Option.some.inj h).symm

theorem lt_of_withDefault {f : Fields} {name : String} {default bound n : Nat}
    (h : f.withDefault name default (natBelow? bound) = some n) (hdefault : default < bound) :
    n < bound := by
  rcases eq_or_of_withDefault h with rfl | ⟨value, hread⟩
  · exact hdefault
  · exact lt_of_natBelow? hread

theorem lt_of_optional {f : Fields} {name : String} {bound : Nat} {read : Option Nat}
    (h : f.optional name (natBelow? bound) = some read) : ∀ n ∈ read, n < bound := by
  unfold optional at h
  split at h
  · obtain ⟨n, hn, rfl⟩ := Option.map_eq_some_iff.mp h
    rintro _ ⟨⟩
    exact lt_of_natBelow? hn
  · obtain ⟨-, heq⟩ := Option.ite_none_left_eq_some.mp h
    cases heq
    nofun

end Fields

theorem engine?_inRange {value : Toml} {e : EngineSettings} (h : engine? value = some e) :
    e.initialPollIntervalMs < UInt64.size ∧ e.minPollIntervalMs < UInt64.size ∧
      e.rpcTimeoutFactor < UInt32.size := by
  dsimp only [engine?, Option.bind_eq_bind, Option.pure_def] at h
  obtain ⟨f, -, h⟩ := Option.bind_eq_some_iff.mp h
  obtain ⟨initial, hinitial, h⟩ := Option.bind_eq_some_iff.mp h
  obtain ⟨floor, hfloor, h⟩ := Option.bind_eq_some_iff.mp h
  obtain ⟨factor, hfactor, h⟩ := Option.bind_eq_some_iff.mp h
  -- the other fields do not matter
  iterate 14 obtain ⟨_, -, h⟩ := Option.bind_eq_some_iff.mp h
  cases h
  exact ⟨Fields.lt_of_withDefault hinitial (by decide),
    Fields.lt_of_withDefault hfloor (by decide), Fields.lt_of_withDefault hfactor (by decide)⟩

theorem chain?_inRange {value : Toml} {c : ChainSettings} (h : chain? value = some c) :
    (∀ ms ∈ c.initialPollIntervalMs, ms < UInt64.size) ∧
      ∀ ms ∈ c.minPollIntervalMs, ms < UInt64.size := by
  dsimp only [chain?, Option.bind_eq_bind, Option.pure_def] at h
  obtain ⟨f, -, h⟩ := Option.bind_eq_some_iff.mp h
  -- only two of the fields matter
  iterate 8 obtain ⟨_, -, h⟩ := Option.bind_eq_some_iff.mp h
  obtain ⟨initial, hinitial, h⟩ := Option.bind_eq_some_iff.mp h
  obtain ⟨floor, hfloor, h⟩ := Option.bind_eq_some_iff.mp h
  iterate 9 obtain ⟨_, -, h⟩ := Option.bind_eq_some_iff.mp h
  cases h
  exact ⟨Fields.lt_of_optional hinitial, Fields.lt_of_optional hfloor⟩

/-- What is read from a list has been read from its members. -/
private theorem exists_of_mem_mapM {α β : Type} {read : α → Option β} {items : List α}
    {results : List β} (h : items.mapM read = some results) {result : β}
    (hresult : result ∈ results) : ∃ item ∈ items, read item = some result := by
  induction items generalizing results with
  | nil =>
    obtain rfl : [] = results := Option.some.inj h
    cases hresult
  | cons item items ih =>
    simp only [List.mapM_cons, Option.bind_eq_bind, Option.bind_eq_some_iff, Option.pure_def,
      Option.some.injEq] at h
    obtain ⟨first, hfirst, rest, hrest, rfl⟩ := h
    rcases List.mem_cons.mp hresult with rfl | hmem
    · exact ⟨item, List.mem_cons_self, hfirst⟩
    · obtain ⟨other, hother, hread⟩ := ih hrest hmem
      exact ⟨other, List.mem_cons_of_mem item hother, hread⟩

theorem exists_of_mem_chains? {value : Toml} {chains : List (String × ChainSettings)}
    (h : chains? value = some chains) {key : String} {c : ChainSettings}
    (hc : (key, c) ∈ chains) : ∃ part, chain? part = some c := by
  unfold chains? at h
  split at h
  · obtain ⟨entry, -, hread⟩ := exists_of_mem_mapM h hc
    obtain ⟨c', hchain, heq⟩ := Option.map_eq_some_iff.mp hread
    cases heq
    exact ⟨entry.2, hchain⟩
  · cases h

theorem settings?_inRange {entries : Toml.Entries} {s : Settings}
    (h : settings? entries = some s) : s.InRange := by
  dsimp only [settings?, Option.bind_eq_bind, Option.pure_def] at h
  obtain ⟨engine, hengine, h⟩ := Option.bind_eq_some_iff.mp h
  iterate 3 obtain ⟨_, -, h⟩ := Option.bind_eq_some_iff.mp h
  obtain ⟨chains, hchains, h⟩ := Option.bind_eq_some_iff.mp h
  cases h
  have hranges : engine.initialPollIntervalMs < UInt64.size ∧
      engine.minPollIntervalMs < UInt64.size ∧ engine.rpcTimeoutFactor < UInt32.size := by
    rcases Fields.eq_or_of_withDefault hengine with rfl | ⟨value, hread⟩
    · exact EngineSettings.default_inRange
    · exact engine?_inRange hread
  have hsections {key : String} {c : ChainSettings} (hc : (key, c) ∈ chains) :
      (∀ ms ∈ c.initialPollIntervalMs, ms < UInt64.size) ∧
        ∀ ms ∈ c.minPollIntervalMs, ms < UInt64.size := by
    obtain ⟨value, -, hvalue⟩ := Option.bind_eq_some_iff.mp hchains
    obtain ⟨part, hpart⟩ := exists_of_mem_chains? hvalue hc
    exact chain?_inRange hpart
  exact {
    initialPollInterval := hranges.1
    minPollInterval := hranges.2.1
    rpcTimeoutFactor := hranges.2.2
    chainInitialPollInterval := fun _ _ hc => (hsections hc).1
    chainMinPollInterval := fun _ _ hc => (hsections hc).2 }

/-- Every configuration that can be read is in range. -/
theorem inRange_of_ofText {env : String → Option String} {text : String} {s : Settings}
    (h : ofText env text = .ok s) : s.InRange ∧ s.validate = .ok () := by
  unfold ofText at h
  dsimp only at h
  split at h
  · cases h
  · rename_i settings hsettings
    split at h
    · cases h
    · rename_i hvalid
      cases h
      obtain ⟨entries, -, hread⟩ := Option.bind_eq_some_iff.mp hsettings
      exact ⟨settings?_inRange hread, hvalid⟩

end Config

/-! ### What a watcher needs -/

namespace Settings

/-- There is room in all that a watcher holds. -/
structure HasRoom (s : Settings) (plan : ChainPlan) : Prop where
  /-- There is room in the channels of the watcher. -/
  channels (codec : Codec) (pool : Pool) (vault : Option String) :
    let w := Watcher.start plan codec pool vault
    1 ≤ w.blocks.capacity ∧ 1 ≤ w.jobs.capacity ∧ 1 ≤ w.batches.capacity
  channelCapacity : 1 ≤ plan.channelCapacity
  /-- There is room in the two outbound streams. -/
  streams :
    let m := Manager.start (CommandLine.streamCapacity s)
    1 ≤ m.hub.matched.capacity ∧ 1 ≤ m.hub.updates.capacity
  feeWindow : 1 ≤ plan.feeWindow
  trackedCapacity : 1 ≤ plan.trackedCapacity

/-- What the parameters of a watcher have to be for it to run on them. -/
structure RunsSafely (s : Settings) (plan : ChainPlan) : Prop extends HasRoom s plan where
  /-- There is a pause between two sweeps. -/
  sweepInterval : plan.sweepInterval ≠ 0
  deadlines : plan.KeepsDeadlines

variable {s : Settings} {plan : ChainPlan}

theorem mem_watchers_iff :
    plan ∈ s.watchers ↔ ∃ key c, (key, c) ∈ s.enabledSections ∧ plan = .resolve c s.engine := by
  simp only [watchers, List.mem_map, Prod.exists]
  exact exists₂_congr fun key c => and_congr_right fun _ => eq_comm

/-- Nothing is wrong with a section of a configuration that is fit to run. -/
theorem chainFault?_eq_none (hvalid : s.validate = .ok ()) {key : String} {c : ChainSettings}
    (hc : (key, c) ∈ s.enabledSections) : chainFault? s.engine key c = none := by
  have hfault : s.fault? = none := by
    unfold validate at hvalid
    split at hvalid
    · cases hvalid
    · assumption
  unfold fault? at hfault
  split at hfault
  · cases hfault
  · split at hfault
    · cases hfault
    · exact List.findSome?_eq_none_iff.mp hfault (key, c) hc

/-- What is checked about a chain that is enabled. -/
theorem ne_zero_of_validate (hvalid : s.validate = .ok ()) (hplan : plan ∈ s.watchers) :
    plan.feeWindow ≠ 0 ∧ plan.trackedCapacity ≠ 0 := by
  obtain ⟨key, c, hc, rfl⟩ := mem_watchers_iff.mp hplan
  have hfault := chainFault?_eq_none hvalid hc
  simp only [chainFault?] at hfault
  split at hfault
  · cases hfault
  · split at hfault
    · cases hfault
    · split at hfault
      · cases hfault
      · split at hfault
        · cases hfault
        · exact ⟨by assumption, by assumption⟩

/-- A configuration that is fit to run gives its watchers room. -/
theorem hasRoom (hvalid : s.validate = .ok ()) (hplan : plan ∈ s.watchers) : s.HasRoom plan := by
  obtain ⟨hwindow, htracked⟩ := ne_zero_of_validate hvalid hplan
  obtain ⟨key, c, hc, rfl⟩ := mem_watchers_iff.mp hplan
  have hraised (n : Nat) : 1 ≤ max n 1 := le_max_right n 1
  exact {
    channels := fun _ _ _ => ⟨hraised _, hraised _, hraised _⟩
    channelCapacity := hraised _
    streams := ⟨hraised _, hraised _⟩
    feeWindow := Nat.one_le_iff_ne_zero.mpr hwindow
    trackedCapacity := Nat.one_le_iff_ne_zero.mpr htracked }

/-- The cadence of a watcher begins in 64-bit words. -/
theorem InRange.inWords_cadence (hrange : s.InRange) (hplan : plan ∈ s.watchers) :
    plan.cadence.InWords := by
  obtain ⟨key, c, hc, rfl⟩ := mem_watchers_iff.mp hplan
  have hmem : (key, c) ∈ s.chains := (List.mem_filter.mp hc).1
  refine Cadence.inWords_start ?_ ?_ _
  · show c.initialPollIntervalMs.getD s.engine.initialPollIntervalMs < UInt64.size
    cases hinitial : c.initialPollIntervalMs with
    | none => exact hrange.initialPollInterval
    | some ms => exact hrange.chainInitialPollInterval key c hmem ms hinitial
  · show c.minPollIntervalMs.getD s.engine.minPollIntervalMs < UInt64.size
    cases hfloor : c.minPollIntervalMs with
    | none => exact hrange.minPollInterval
    | some ms => exact hrange.chainMinPollInterval key c hmem ms hfloor

theorem sweepInterval_ne_zero_iff : plan.sweepInterval ≠ 0 ↔ plan.trackTimeout ≠ 0 := by
  rw [ChainPlan.sweepInterval, longestSweep, secs]
  omega

/-- **What is left to the configuration.** A configuration that was found fit to run gives its
watchers room, and a watcher pauses between two sweeps exactly if tracked transactions are not given
up at once. It runs safely exactly if moreover the time that calls may take is always in range. A
factor up to a thousand keeps it in range, whatever the pauses. A factor
larger by the raise for a miss does not, once a first pause is long enough to be raised at all: then
after enough misses the time is out of range. Where it is always in range, it is so for every call
along every run of the watcher. -/
theorem runsSafely_iff (hvalid : s.validate = .ok ()) (hrange : s.InRange)
    (hplan : plan ∈ s.watchers) :
    s.HasRoom plan ∧ (plan.sweepInterval ≠ 0 ↔ plan.trackTimeout ≠ 0) ∧
      (s.RunsSafely plan ↔ plan.trackTimeout ≠ 0 ∧ plan.KeepsDeadlines) ∧
      (plan.KeepsDeadlines → ∀ codec pool vault hub events,
        let w := ((World.start plan codec pool vault hub).run events).watcher
        (w.settings.deadline.multiple? w.fetcher.cadence.interval).isSome) ∧
      (plan.rpcTimeoutFactor ≤ 1000 → plan.KeepsDeadlines) ∧
      (1000 + plan.tuning.missRaise ≤ plan.rpcTimeoutFactor →
        1000 ≤ plan.cadence.interval * plan.tuning.missRaise →
        ∃ n, plan.deadline.multiple? (plan.cadence.after (List.replicate n .miss)).interval =
          none) := by
  have hwords := hrange.inWords_cadence hplan
  have hroom := hasRoom hvalid hplan
  refine ⟨hroom, sweepInterval_ne_zero_iff, ⟨?_, ?_⟩, fun hkeeps => hkeeps.multiple?_run, ?_, ?_⟩
  · exact fun h => ⟨sweepInterval_ne_zero_iff.mp h.sweepInterval, h.deadlines⟩
  · rintro ⟨htimeout, hdeadlines⟩
    exact ⟨hroom, sweepInterval_ne_zero_iff.mpr htimeout, hdeadlines⟩
  · exact fun hfactor => ChainPlan.keepsDeadlines_of_le hfactor hwords
  · intro hfactor hgrows
    obtain ⟨key, c, hc, rfl⟩ := mem_watchers_iff.mp hplan
    have hbound : (ChainPlan.resolve c s.engine).rpcTimeoutFactor < UInt64.size := by
      have hsmall := hrange.rpcTimeoutFactor
      show max s.engine.rpcTimeoutFactor 1 < UInt64.size
      simp only [UInt32.size, UInt64.size] at hsmall ⊢
      omega
    exact Deadline.exists_misses_multiple?_eq_none hwords hgrows (hfactor.trans_lt hbound) hfactor

theorem inRange_localSettings (trackTimeoutSecs : Option Nat) :
    (localSettings trackTimeoutSecs).InRange where
  initialPollInterval := EngineSettings.default_inRange.1
  minPollInterval := EngineSettings.default_inRange.2.1
  rpcTimeoutFactor := EngineSettings.default_inRange.2.2
  chainInitialPollInterval := by
    rintro key c hc
    obtain ⟨-, rfl⟩ := Prod.mk.inj (List.mem_singleton.mp hc)
    nofun
  chainMinPollInterval := by
    rintro key c hc
    obtain ⟨-, rfl⟩ := Prod.mk.inj (List.mem_singleton.mp hc)
    nofun

/-- With the defaults a watcher runs safely. -/
theorem runsSafely_localPlan :
    (localSettings none).validate = .ok () ∧ (localSettings none).InRange ∧
      localPlan none ∈ (localSettings none).watchers ∧
      (localSettings none).RunsSafely (localPlan none) := by
  have hvalid : (localSettings none).validate = .ok () := rfl
  have hrange := inRange_localSettings none
  obtain ⟨-, -, hsafe, -, hkeeps, -⟩ := runsSafely_iff hvalid hrange (localPlan_mem_watchers none)
  have htimeout : (localPlan none).trackTimeout ≠ 0 := by decide
  have hfactor : (localPlan none).rpcTimeoutFactor ≤ 1000 := by decide
  exact ⟨hvalid, hrange, localPlan_mem_watchers none, hsafe.mpr ⟨htimeout, hkeeps hfactor⟩⟩

/-- Without a time before transactions are given up there is no pause between two sweeps, although
the configuration was found fit to run. -/
theorem not_runsSafely_localPlan :
    (localSettings (some 0)).validate = .ok () ∧
      (localSettings (some 0)).InRange ∧
      localPlan (some 0) ∈ (localSettings (some 0)).watchers ∧
      ¬ (localSettings (some 0)).RunsSafely (localPlan (some 0)) :=
  ⟨rfl, inRange_localSettings (some 0), localPlan_mem_watchers (some 0),
    fun h => h.sweepInterval rfl⟩

end Settings

end VaultWatch
