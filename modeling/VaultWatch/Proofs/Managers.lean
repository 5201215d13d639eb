import VaultWatch.Manager
import VaultWatch.Proofs.Step
import VaultWatch.Proofs.Store

/-!
# Runs of a manager

What happens to a manager, in any order: chains are added, tasks of watchers make moves, calls are
completed, the manager is stopped, its streams are read, and others change the hub. `Manager.Does`
lists what an act can do that names a chain, and `Manager.apart_act` is what follows: all other
chains are left apart, their watchers and their parts of the store.
-/

namespace VaultWatch

/-! ### One watcher -/

/-- A task of a watcher changes nothing in the store but the part of its chain. -/
theorem Watcher.Occurs.apart {w w' : Watcher} {hub hub' : Hub} {facts : List Fact} {move : Move}
    (h : w.Occurs hub (.move move) facts w' hub') : Store.Apart w.chain hub.store hub'.store := by
  cases h with
  | fetch h => cases h <;> exact .refl _ _
  | select h => exact .refl _ _
  | resolve h => cases h <;> exact .refl _ _
  | refresh => exact .refl _ _
  | report h =>
    cases h with
    | conclude _ _ _ =>
      unfold Watcher.conclude Hub.saveObserved
      split
      · exact .refl _ _
      · split
        · exact Store.apart_save _ _ _ _
        · exact .refl _ _
    | _ => exact .refl _ _

/-- Setting the vault of a watcher changes nothing in the store but the part of its chain. -/
theorem Watcher.apart_moveVault (w : Watcher) (hub : Hub) (address token : String) :
    (w.moveVault hub address token).2.1.settings = w.settings ∧
      Store.Apart w.chain hub.store (w.moveVault hub address token).2.2.store := by
  unfold moveVault Hub.writeVault
  by_cases hserves : hub.serves .writeVault = true
  · rw [if_pos hserves]
    exact ⟨rfl, Store.apart_putVault _ _ _ _⟩
  · rw [if_neg hserves]
    exact ⟨rfl, .refl _ _⟩

namespace Manager

/-! ### Acts -/

/-- Something that happens to a manager. -/
inductive Act where
  | startChain (settings : ChainPlan) (codec : Codec) (probes : List (String × Option Bool))
  /-- A task of a watcher makes a move. -/
  | move (chain : String) (move : Move)
  | track (chain hash : String)
  | moveVault (chain address token : String)
  /-- A watcher switches over to a vault whose address has been stored. -/
  | switchVault (chain address : String)
  | heardGasPrice (chain : String) (before : Option Nat) (answer : Except CallError Nat)
  | dispatched (chain : String) (result : SubmissionReport)
  | cancel
  | takeStreams
  | closeOutbound
  | drain
  /-- Others change the hub. -/
  | elsewhere (hub : Hub)

/-- The chain that an act names. -/
def Act.chain? : Act → Option String
  | .startChain settings _ _ => some settings.chain
  | .move chain _ | .track chain _ | .moveVault chain _ _ | .switchVault chain _ => some chain
  | .heardGasPrice chain _ _ | .dispatched chain _ => some chain
  | .cancel | .takeStreams | .closeOutbound | .drain | .elsewhere _ => none

/-- The manager after an act; one that cannot happen changes nothing. -/
def act (m : Manager) : Act → Manager
  | .startChain settings codec probes => (m.startChain settings codec probes).2
  | .move chain move => (m.move? chain move).getD m
  | .track chain hash => (m.track chain hash).toOption.getD m
  | .moveVault chain address token => (m.moveVault chain address token).2
  | .switchVault chain address =>
    match m.find? chain with
    | some w => m.put chain (w.switchVault address)
    | none => m
  | .heardGasPrice chain before answer => (m.heardGasPrice chain before answer).2
  | .dispatched chain result => m.dispatched chain result
  | .cancel => m.cancel
  | .takeStreams => m.takeStreams.2
  | .closeOutbound => m.closeOutbound
  | .drain => m.drain.2
  | .elsewhere hub => { m with hub }

/-- The manager after some acts. -/
def run (m : Manager) (acts : List Act) : Manager := acts.foldl act m

/-! ### What an act can do -/

variable {m m' : Manager} {chain other : String} {w : Watcher}

/-- What an act can do that names a chain: nothing to watchers and store, or it changes the watcher
of the chain and its part of the store, or adds the watcher. -/
inductive Does (m : Manager) (chain : String) : Manager → Prop where
  | rests {hub : Hub} (hstore : hub.store = m.hub.store) : Does m chain { m with hub }
  | changes {w w' : Watcher} {hub : Hub} (hfind : m.find? chain = some w)
      (hsettings : w'.settings = w.settings) (hstore : Store.Apart w.chain m.hub.store hub.store) :
      Does m chain { m.put chain w' with hub }
  | adds {w : Watcher} {hub : Hub} (hchain : w.chain = chain) (hstore : hub.store = m.hub.store) :
      Does m chain { m with hub, watchers := m.watchers ++ [(chain, w)] }

theorem Does.nothing : m.Does chain m := .rests rfl

theorem does_startChain (m : Manager) (settings : ChainPlan) (codec : Codec)
    (probes : List (String × Option Bool)) :
    m.Does settings.chain (m.startChain settings codec probes).2 := by
  simp only [startChain]
  split
  · exact .nothing
  · split
    · exact .nothing
    · split
      · exact .rests rfl
      · exact .adds rfl rfl

theorem does_move (m : Manager) (chain : String) (move : Move) :
    m.Does chain ((m.move? chain move).getD m) := by
  unfold move?
  cases hfind : m.find? chain with
  | none => exact .nothing
  | some w =>
    cases hmove : w.move? m.hub move with
    | none =>
      simp only [Option.bind_eq_bind, Option.bind_some, hmove, Option.bind_none, Option.getD_none]
      exact .nothing
    | some after =>
      have hhappen : w.happen? m.hub (.move move) = some after := hmove
      have hoccurs := Watcher.occurs_of_happen? hhappen
      simp only [Option.bind_eq_bind, Option.bind_some, hmove]
      exact .changes hfind hoccurs.settings_eq hoccurs.apart

theorem does_moveVault (m : Manager) (chain address token : String) :
    m.Does chain (m.moveVault chain address token).2 := by
  unfold moveVault watcher
  cases hfind : m.find? chain with
  | none => exact .nothing
  | some w =>
    obtain ⟨hsettings, hstore⟩ := w.apart_moveVault m.hub address token
    exact .changes hfind hsettings hstore

theorem does_heardGasPrice (m : Manager) (chain : String) (before : Option Nat)
    (answer : Except CallError Nat) : m.Does chain (m.heardGasPrice chain before answer).2 := by
  unfold heardGasPrice watcher
  cases hfind : m.find? chain with
  | none => exact .nothing
  | some w => exact .changes hfind rfl (.refl _ _)

theorem does_act {a : Act} (hchain : a.chain? = some chain) : m.Does chain (m.act a) := by
  cases a with
  | startChain settings codec probes =>
    cases hchain
    exact m.does_startChain settings codec probes
  | move name move =>
    cases hchain
    exact m.does_move chain move
  | track name hash =>
    cases hchain
    simp only [act, track, watcher]
    cases hfind : m.find? chain with
    | none => exact .nothing
    | some w => exact .changes hfind rfl (.refl _ _)
  | moveVault name address token =>
    cases hchain
    exact m.does_moveVault chain address token
  | switchVault name address =>
    cases hchain
    simp only [act]
    cases hfind : m.find? chain with
    | none => exact .nothing
    | some w => exact .changes hfind rfl (.refl _ _)
  | heardGasPrice name before answer =>
    cases hchain
    exact m.does_heardGasPrice chain before answer
  | dispatched name result =>
    cases hchain
    exact .rests rfl
  | _ => cases hchain

/-! ### Watchers under their names -/

/-- Each watcher is under the name of its chain. -/
def Named (m : Manager) : Prop := ∀ e ∈ m.watchers, e.2.chain = e.1

theorem Named.of_watchers_eq (hnamed : m.Named) (h : m'.watchers = m.watchers) : m'.Named := by
  unfold Named
  rwa [h]

theorem Named.chain_eq (h : m.Named) (hfind : m.find? chain = some w) : w.chain = chain := by
  obtain ⟨before, after, hwatchers, -⟩ := List.lookup_eq_some_iff.mp hfind
  exact h (chain, w) (hwatchers ▸ List.mem_append_right _ List.mem_cons_self)

theorem Does.named (h : m.Does chain m') (hnamed : m.Named) : m'.Named := by
  cases h with
  | rests _ => exact hnamed
  | changes hfind hsettings _ =>
    intro e he
    obtain ⟨old, hold, rfl⟩ := List.mem_map.mp he
    split
    · exact (congrArg ChainPlan.chain hsettings).trans (hnamed.chain_eq hfind)
    · exact hnamed old hold
  | adds hchain _ =>
    intro e he
    rcases List.mem_append.mp he with hold | hnew
    · exact hnamed e hold
    · rw [List.mem_singleton.mp hnew]
      exact hchain

theorem named_act (hnamed : m.Named) (a : Act) : (m.act a).Named := by
  cases hchain : a.chain? with
  | some chain => exact (does_act hchain).named hnamed
  | none =>
    cases a with
    | cancel =>
      intro e he
      obtain ⟨old, hold, rfl⟩ := List.mem_map.mp he
      exact hnamed old hold
    | takeStreams => exact hnamed.of_watchers_eq rfl
    | closeOutbound => exact hnamed.of_watchers_eq rfl
    | drain => exact hnamed.of_watchers_eq rfl
    | elsewhere hub => exact hnamed.of_watchers_eq rfl
    | _ => cases hchain

/-- In every run from a manager without chains the watchers are under the names of their chains. -/
theorem named_run (capacity : Nat) (acts : List Act) : ((start capacity).run acts).Named := by
  have hstart : (start capacity).Named := fun e he => absurd he List.not_mem_nil
  generalize start capacity = m at hstart
  induction acts generalizing m with
  | nil => exact hstart
  | cons a acts ih => exact ih (m.act a) (named_act hstart a)

/-! ### Finding watchers -/

/-- Where all watchers are changed in their places, each is found changed. -/
theorem lookup_map_watchers (f : String → Watcher → Watcher) (watchers : List (String × Watcher))
    (chain : String) :
    (watchers.map fun e => (e.1, f e.1 e.2)).lookup chain =
      (watchers.lookup chain).map (f chain) := by
  induction watchers with
  | nil => rfl
  | cons e watchers ih =>
    rw [List.map_cons, List.lookup_cons, List.lookup_cons, ih]
    by_cases hname : chain = e.1
    · rw [hname, beq_self_eq_true]
      rfl
    · rw [beq_eq_false_iff_ne.mpr hname]

/-- A watcher that is put in place of another is found under its name, and under no other. -/
theorem find?_put (m : Manager) (chain : String) (w : Watcher) (other : String) :
    (m.put chain w).find? other =
      (m.find? other).map fun old => if other = chain then w else old := by
  have hput : (m.put chain w).watchers =
      m.watchers.map fun e => (e.1, if e.1 = chain then w else e.2) := by
    refine List.map_congr_left fun e _ => ?_
    split
    · rename_i hname
      rw [hname]
    · rfl
  rw [find?, hput]
  exact lookup_map_watchers (fun name old => if name = chain then w else old) m.watchers other

theorem find?_put_self (m : Manager) (chain : String) (w : Watcher) :
    (m.put chain w).find? chain = (m.find? chain).map fun _ => w := by
  simp only [find?_put, if_true]

theorem find?_put_of_ne (m : Manager) (w : Watcher) (hne : other ≠ chain) :
    (m.put chain w).find? other = m.find? other := by
  simp only [find?_put, hne, if_false, Option.map_id']

theorem find?_cancel (m : Manager) (chain : String) :
    m.cancel.find? chain = (m.find? chain).map Watcher.cancel :=
  lookup_map_watchers (fun _ => Watcher.cancel) m.watchers chain

/-- A watcher that is added is found if its name was free. -/
theorem find?_added (m : Manager) (hub : Hub) (name : String) (w : Watcher) (chain : String) :
    find? { m with hub, watchers := m.watchers ++ [(name, w)] } chain =
      (m.find? chain).or (if chain = name then some w else none) := by
  rw [find?, List.lookup_append]
  congr 1
  by_cases hname : chain = name
  · rw [if_pos hname, hname, List.lookup_cons_self]
  · rw [if_neg hname, List.lookup_cons, beq_eq_false_iff_ne.mpr hname]
    rfl

/-! ### Chains apart -/

/-- Nothing is changed but one chain: neither the watchers of the others nor what the store holds
for them. -/
structure Apart (chain : String) (m m' : Manager) : Prop where
  watchers : ∀ other, other ≠ chain → m'.find? other = m.find? other
  store : Store.Apart chain m.hub.store m'.hub.store

theorem Does.apart (h : m.Does chain m') (hnamed : m.Named) : Apart chain m m' := by
  cases h with
  | rests hstore =>
    refine ⟨fun _ _ => rfl, ?_⟩
    rw [hstore]
    exact .refl _ _
  | changes hfind _ hstore =>
    rw [hnamed.chain_eq hfind] at hstore
    exact ⟨fun other hne => find?_put_of_ne m _ hne, hstore⟩
  | adds _ hstore =>
    refine ⟨fun other hne => ?_, ?_⟩
    · rw [find?_added, if_neg hne, Option.or_none]
    · rw [hstore]
      exact .refl _ _

/-- An act that names a chain leaves all others apart. -/
theorem apart_act {a : Act} (hnamed : m.Named) (hchain : a.chain? = some chain) :
    Apart chain m (m.act a) :=
  (does_act hchain).apart hnamed

end Manager

end VaultWatch
