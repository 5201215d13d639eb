import VaultWatch.Proofs.Managers
import VaultWatch.Proofs.Nodes

/-!
# Calls on a manager

A call names a chain. It looks up the chain's watcher, may ask the nodes of the chain, and is
completed when the answers are there, on the manager as it then is. The main statement is
`Manager.independent_run`: at every moment of every run of a manager a call leaves all chains apart
but its own, and so does the start of a chain; a call on a chain that is not there changes nothing;
and nothing is left of a chain that could not be started.
-/

namespace VaultWatch.Manager

/-! ### Calls -/

/-- A call on a manager. -/
inductive Call where
  | moveVault (chain address token : String)
  | track (chain hash : String)
  | dispatch (request : Submission)
  | nonce (chain address : String)
  | fee (chain : String)

namespace Call

/-- The chain that a call names. -/
def chain : Call → String
  | moveVault chain _ _ | track chain _ | nonce chain _ | fee chain => chain
  | dispatch request => request.chain

/-- What a call is answered with. -/
abbrev Reply : Call → Type
  | moveVault .. => Except ServiceError Unit
  | track .. => Except ServiceError Unit
  | dispatch _ => SubmissionReport
  | nonce .. => Except ServiceError UInt64
  | fee _ => Except ServiceError FeeQuote

/-- The answer that there is no such chain. -/
def notFound : (call : Call) → call.Reply
  | moveVault chain _ _ => .error (.chainNotFound chain)
  | track chain _ => .error (.chainNotFound chain)
  | dispatch _ => .failed none .chainNotFound
  | nonce chain _ => .error (.chainNotFound chain)
  | fee chain => .error (.chainNotFound chain)

end Call

/-- Makes a call. What it comes to is its reply and the manager after it, once it is told the
manager as it is when the nodes have answered. -/
def call (m : Manager) : (call : Call) → Inquiry (Manager → call.Reply × Manager)
  | .moveVault chain address token => .done fun later => later.moveVault chain address token
  | .track chain hash => .done fun later =>
    match later.track chain hash with
    | .ok after => (.ok (), after)
    | .error e => (.error e, later)
  | .dispatch request => do
    let report ← m.dispatch request
    return fun later => (report, later.dispatched request.chain report)
  | .nonce chain address => do
    let answer ← m.nonce chain address
    return fun later => (answer, later)
  | .fee chain => m.fee chain

variable {m m' : Manager}

/-- Whatever the nodes have answered, a call does nothing but to its chain. -/
theorem does_call {early : Manager} {call : Call} {asked : List Exchange}
    {finish : Manager → call.Reply × Manager} (h : (early.call call).ComesTo asked finish) :
    m.Does call.chain (finish m).2 := by
  cases call with
  | moveVault chain address token =>
    cases h
    exact m.does_moveVault chain address token
  | track chain hash =>
    cases h
    have hdoes := m.does_act (a := .track chain hash) rfl
    simp only [act] at hdoes
    dsimp only
    split
    · rename_i after htrack
      rwa [htrack] at hdoes
    · exact .nothing
  | dispatch request =>
    obtain ⟨_, report, _, -, -, hlast⟩ := h.of_bind
    cases hlast
    exact .rests rfl
  | nonce chain address =>
    obtain ⟨_, answer, _, -, -, hlast⟩ := h.of_bind
    cases hlast
    exact .nothing
  | fee chain =>
    simp only [call, fee] at h
    split at h
    · cases h
      exact .nothing
    · split at h
      · cases h
        exact .nothing
      · obtain ⟨_, answer, _, -, -, hlast⟩ := h.of_bind
        cases hlast
        exact m.does_heardGasPrice chain _ answer

/-! ### Chains that are not there -/

theorem watcher_of_find?_eq_none (chain : String) (hnone : m.find? chain = none) :
    m.watcher chain = .error (.chainNotFound chain) := by
  rw [watcher, hnone]

/-- A call on a chain that is not there asks nothing, changes no watcher and no store, and says that
there is no such chain. -/
theorem call_of_find?_eq_none {call : Call} (hnone : m.find? call.chain = none) :
    ∃ finish, m.call call = .done finish ∧ (finish m).1 = call.notFound ∧
      (finish m).2.watchers = m.watchers ∧ (finish m).2.hub.store = m.hub.store := by
  cases call with
  | moveVault chain address token =>
    have hmove : m.moveVault chain address token = (.error (.chainNotFound chain), m) := by
      rw [moveVault, watcher_of_find?_eq_none chain hnone]
    refine ⟨_, rfl, ?_⟩
    rw [hmove]
    exact ⟨rfl, rfl, rfl⟩
  | track chain hash =>
    have htrack : m.track chain hash = .error (.chainNotFound chain) := by
      rw [track, watcher_of_find?_eq_none chain hnone]
      rfl
    refine ⟨_, rfl, ?_⟩
    rw [htrack]
    exact ⟨rfl, rfl, rfl⟩
  | dispatch request =>
    have hdispatch : m.dispatch request = .done (.failed none .chainNotFound) := by
      unfold dispatch
      rw [show m.find? request.chain = none from hnone]
    refine ⟨fun later => (.failed none .chainNotFound,
      later.dispatched request.chain (.failed none .chainNotFound)), ?_, rfl, rfl, rfl⟩
    rw [Manager.call, hdispatch]
    rfl
  | nonce chain address =>
    have hnonce : m.nonce chain address = .done (.error (.chainNotFound chain)) := by
      rw [nonce, watcher_of_find?_eq_none chain hnone]
    refine ⟨fun later => (.error (.chainNotFound chain), later), ?_, rfl, rfl, rfl⟩
    rw [Manager.call, hnonce]
    rfl
  | fee chain =>
    refine ⟨fun later => (.error (.chainNotFound chain), later), ?_, rfl, rfl, rfl⟩
    rw [Manager.call, fee, watcher_of_find?_eq_none chain hnone]

/-! ### Chains that cannot be started -/

section Start

variable (settings : ChainPlan) (codec : Codec) {probes : List (String × Option Bool)}

/-- A chain whose name is taken is not started. -/
theorem startChain_of_running (hrunning : (m.find? settings.chain).isSome = true) :
    m.startChain settings codec probes =
      (.error (.startup settings.chain (.config "chain already running")), m) := by
  unfold startChain
  exact if_pos hrunning

/-- A chain of which no endpoint could be connected is not started. -/
theorem startChain_of_unconnected (hnew : m.find? settings.chain = none)
    (hprobes : ∀ probe ∈ probes, probe.2 = none) :
    m.startChain settings codec probes =
      (.error (.startup settings.chain (.call (.noHealthyEndpoint settings.chain))), m) := by
  have hnothing : (probes.filterMap fun probe => probe.2.map (Endpoint.mk probe.1)) = [] := by
    refine List.filterMap_eq_nil_iff.mpr fun probe hprobe => ?_
    rw [hprobes probe hprobe, Option.map_none]
  have hrefreshed : (newPool settings).refreshed probes =
      (.error (.noHealthyEndpoint settings.chain), newPool settings) := by
    rw [Pool.refreshed, hnothing]
    rfl
  simp only [startChain, hnew, hrefreshed]
  rfl

/-- Whatever keeps a chain from being started, it is named, and no watcher and no store is
changed. -/
theorem of_startChain_eq_error {e : ServiceError}
    (h : m.startChain settings codec probes = (.error e, m')) :
    (∃ source, e = .startup settings.chain source) ∧ m'.watchers = m.watchers ∧
      m'.hub.store = m.hub.store := by
  simp only [startChain] at h
  split at h
  · cases h
    exact ⟨⟨_, rfl⟩, rfl, rfl⟩
  · split at h
    · cases h
      exact ⟨⟨_, rfl⟩, rfl, rfl⟩
    · split at h
      · cases h
        exact ⟨⟨_, rfl⟩, rfl, rfl⟩
      · cases h

end Start

/-! ### The manager as a whole -/

/-- At this moment the chains of a manager do not disturb each other. -/
structure Independent (m : Manager) : Prop where
  /-- A call that was made at any earlier moment leaves all other chains apart when it is completed,
  whatever the nodes have answered. -/
  call : ∀ (early : Manager) (call : Call) (asked : List Exchange)
    (finish : Manager → call.Reply × Manager), (early.call call).ComesTo asked finish →
      Apart call.chain m (finish m).2
  /-- So does the start of a chain, whether it fails or not. -/
  startChain : ∀ settings codec probes,
    Apart settings.chain m (m.startChain settings codec probes).2
  /-- So do the tasks of a watcher. -/
  move : ∀ chain move, Apart chain m (m.act (.move chain move))
  /-- A call on a chain that is not there asks nothing, changes no watcher and no store, and says
  so. -/
  unknown : ∀ call : Call, m.find? call.chain = none → ∃ finish, m.call call = .done finish ∧
    (finish m).1 = call.notFound ∧ (finish m).2.watchers = m.watchers ∧
      (finish m).2.hub.store = m.hub.store
  /-- A chain that is not started is named in the error; watchers and store are as before. -/
  failed : ∀ settings codec probes e m', m.startChain settings codec probes = (.error e, m') →
    (∃ source, e = .startup settings.chain source) ∧ m'.watchers = m.watchers ∧
      m'.hub.store = m.hub.store
  /-- A chain is not started when its name is taken. -/
  running : ∀ settings codec probes, (m.find? settings.chain).isSome = true →
    m.startChain settings codec probes =
      (.error (.startup settings.chain (.config "chain already running")), m)
  /-- A chain is not started when no endpoint could be connected. -/
  unconnected : ∀ settings codec probes, m.find? settings.chain = none →
    (∀ probe ∈ probes, probe.2 = none) → m.startChain settings codec probes =
      (.error (.startup settings.chain (.call (.noHealthyEndpoint settings.chain))), m)

/-- **Chains do not disturb each other**, at any moment of any run of a manager. -/
theorem independent_run (capacity : Nat) (acts : List Act) :
    ((start capacity).run acts).Independent := by
  have hnamed := named_run capacity acts
  generalize (start capacity).run acts = m at hnamed
  refine ⟨fun early call asked finish h => (does_call h).apart hnamed,
    fun settings codec probes => ?_,
    fun chain move => apart_act hnamed rfl, fun call hnone => call_of_find?_eq_none hnone,
    fun settings codec probes e m' h => of_startChain_eq_error settings codec h,
    fun settings codec probes hrunning => startChain_of_running settings codec hrunning,
    fun settings codec probes hnew hprobes => startChain_of_unconnected settings codec hnew hprobes⟩
  exact (m.does_startChain settings codec probes).apart hnamed

end VaultWatch.Manager
