import Mathlib.Data.List.Induction
import Mathlib.Data.List.Nodup
import VaultWatch.Manager
import VaultWatch.Proofs.Passage
import VaultWatch.Proofs.Step

/-!
# Switchovers

A call that sets the vault of a watcher takes two steps: it stores the address, and some time later
it switches the watcher over to it. Nothing keeps other calls from making steps of their own in
between. `Switching` is a watcher with any number of such calls under way, and its turns may come in
any order, with anything else happening among them; a call that makes its two steps one right after
the other is `Watcher.moveVault` (`Switching.run_alone`).

Each step writes one of two logs, and the vault of the watcher and the vault that the store would
give to a new watcher are both read off from these (`Kept`). When all calls have ended, both logs
name the same calls, but perhaps not in the same order, so that the two vaults need not agree. The
main statement is `Switching.completed_run`; `Switching.disagreement_on_overtakingTurns` is a run
after which they do not. Every call ends within two turns (`Switching.hasEnded_of_two_turns`).
-/

namespace VaultWatch

/-! ### The two vaults -/

namespace World

/-- The vault of the watcher. -/
def vault (s : World) : Option String := s.watcher.watchlist.vault

/-- The first of the stored vault addresses, which is the vault of a watcher started now. -/
def storedVault (s : World) : Option String :=
  (s.hub.store.vaultAddresses s.watcher.chain).head?

end World

/-- A watcher that is added to a manager has the first of the stored addresses for its vault. -/
theorem Manager.vault_of_startChain {m m' : Manager} {settings : ChainPlan} {codec : Codec}
    {probes : List (String × Option Bool)}
    (h : m.startChain settings codec probes = (.ok (), m')) :
    ∃ w : Watcher, m'.watchers = m.watchers ++ [(settings.chain, w)] ∧
      w.watchlist.vault = (m.hub.store.vaultAddresses settings.chain).head? := by
  simp only [startChain] at h
  by_cases htaken : (m.find? settings.chain).isSome = true
  · rw [if_pos htaken] at h
    cases h
  · rw [if_neg htaken] at h
    rcases hrefreshed : (newPool settings).refreshed probes with ⟨_ | healthy, pool⟩
    · rw [hrefreshed] at h
      cases h
    · rw [hrefreshed] at h
      simp only [Hub.readVaults] at h
      by_cases hserves : (m.hub.count
          (·.countRefresh settings.chain (.ok healthy))).serves .readVaults = true
      · rw [if_pos hserves] at h
        cases h
        exact ⟨_, rfl, rfl⟩
      · rw [if_neg hserves] at h
        cases h

/-- The address stored last is the first of the stored ones. -/
theorem Hub.head?_vaultAddresses_of_writeVault {hub hub' : Hub} {chain address token : String}
    (h : hub.writeVault chain address token = .ok hub') :
    (hub'.store.vaultAddresses chain).head? = some address := by
  unfold writeVault at h
  split at h
  · cases h
    simp [Store.vaultAddresses, Store.putVault, Shelf.get_set_self]
  · cases h

/-! ### Everything else -/

/-- The event neither switches the vault nor changes the stored addresses of a chain. -/
def Event.SparesVaults (chain : String) (hub : Hub) : Event → Prop
  | .switchVault _ => False
  | .elsewhere hub' => hub'.store.vaultAddresses chain = hub.store.vaultAddresses chain
  | _ => True

namespace Watcher

variable {w w' : Watcher} {hub hub' : Hub} {event : Event} {facts : List Fact}

theorem Occurs.vault_eq (h : w.Occurs hub event facts w' hub')
    (hspared : event.SparesVaults w.chain hub) : w'.watchlist.vault = w.watchlist.vault := by
  cases h with
  | fetch h => cases h <;> rfl
  | select h => cases h <;> rfl
  | resolve h => cases h <;> rfl
  | report h =>
    cases h with
    | @judge batch result rest _ _ _ =>
      have hjudged := congrArg Watchlist.vault (w.watchlist.judge_snd result)
      exact hjudged
    | conclude _ _ _ =>
      unfold Watcher.conclude
      split <;> rfl
    | _ => rfl
  | switchVault => cases hspared
  | _ => rfl

theorem Occurs.vaultAddresses_eq (h : w.Occurs hub event facts w' hub')
    (hspared : event.SparesVaults w.chain hub) :
    hub'.store.vaultAddresses w.chain = hub.store.vaultAddresses w.chain := by
  cases h with
  | fetch h => cases h <;> rfl
  | select h => rfl
  | resolve h => cases h <;> rfl
  | report h =>
    cases h with
    | conclude _ _ _ =>
      unfold Watcher.conclude Hub.saveObserved
      split
      · rfl
      · split <;> rfl
    | _ => rfl
  | elsewhere => exact hspared
  | _ => rfl

end Watcher

/-- Such an event changes neither vault. -/
theorem World.vaults_step {s : World} {event : Event}
    (hspared : event.SparesVaults s.watcher.chain s.hub) :
    (s.step event).vault = s.vault ∧ (s.step event).storedVault = s.storedVault ∧
      (s.step event).watcher.chain = s.watcher.chain := by
  unfold step
  split
  · rename_i w hub hhappen
    have hoccurs := Watcher.occurs_of_happen? hhappen
    have hchain : w.chain = s.watcher.chain := by
      rw [Watcher.chain, hoccurs.settings_eq, Watcher.chain]
    refine ⟨hoccurs.vault_eq hspared, ?_, hchain⟩
    simp only [storedVault, hchain, hoccurs.vaultAddresses_eq hspared]
  · exact ⟨rfl, rfl, rfl⟩

/-! ### Calls under way -/

/-- A watcher with calls under way that set its vault, each known by its index among the requests. A
call that is in no log has not begun yet. -/
structure Switching where
  world : World
  /-- The calls that have stored their address, the last one in front. -/
  stored : List Nat
  /-- The calls that have switched the watcher over, the last one in front. -/
  switched : List Nat
  /-- The calls that the store has refused. -/
  refused : List Nat

namespace Switching

/-- Something that happens while calls are under way. -/
inductive Turn where
  /-- A call makes its next step. -/
  | call (index : Nat)
  /-- Something else happens, which may go by the state of the hub. -/
  | other (event : Hub → Event)

/-- No call has begun yet. -/
def start (world : World) : Switching := ⟨world, [], [], []⟩

/-- A call has ended. -/
def HasEnded (s : Switching) (index : Nat) : Prop := index ∈ s.switched ∨ index ∈ s.refused

instance (s : Switching) (index : Nat) : Decidable (s.HasEnded index) :=
  inferInstanceAs (Decidable (_ ∨ _))

/-- The next step of a call with an address and its token: first it stores the address, and then it
switches the watcher over to it. -/
def advance (s : Switching) (index : Nat) (address token : String) : Switching :=
  if s.HasEnded index then s
  else if index ∈ s.stored then
    { s with world := s.world.step (.switchVault address), switched := index :: s.switched }
  else
    match s.world.hub.writeVault s.world.watcher.chain address token with
    | .ok hub => { s with world := s.world.step (.elsewhere hub), stored := index :: s.stored }
    | .error _ => { s with refused := index :: s.refused }

/-- The state after a turn; the requests are addresses with their tokens. -/
def step (requests : List (String × String)) (s : Switching) : Turn → Switching
  | .call index =>
    match requests[index]? with
    | some (address, token) => s.advance index address token
    | none => s
  | .other event => { s with world := s.world.step (event s.world.hub) }

/-- The state after some turns. -/
def run (requests : List (String × String)) (s : Switching) (turns : List Turn) : Switching :=
  turns.foldl (step requests) s

theorem run_append (requests : List (String × String)) (s : Switching) (turns later : List Turn) :
    s.run requests (turns ++ later) = (s.run requests turns).run requests later :=
  List.foldl_append

theorem run_concat (requests : List (String × String)) (s : Switching) (turns : List Turn)
    (turn : Turn) :
    s.run requests (turns ++ [turn]) = (s.run requests turns).step requests turn :=
  run_append requests s turns [turn]

/-- A call whose two steps come one right after the other stores and switches at once. -/
theorem run_alone {requests : List (String × String)} {s : Switching} {index : Nat}
    {address token : String} (hrequest : requests[index]? = some (address, token))
    (hended : ¬ s.HasEnded index) (hstored : index ∉ s.stored) :
    let s' := s.run requests [.call index, .call index]
    (s'.world.watcher, s'.world.hub) =
      (s.world.watcher.moveVault s.world.hub address token).2 := by
  simp only [run, List.foldl_cons, List.foldl_nil, step, hrequest, Watcher.moveVault]
  rw [advance, advance, if_neg hended, if_neg hstored]
  cases hwrite : s.world.hub.writeVault s.world.watcher.chain address token with
  | error e =>
    have hnow : HasEnded { s with refused := index :: s.refused } index := .inr List.mem_cons_self
    rw [if_pos hnow]
  | ok hub =>
    have hnot : ¬ HasEnded { s with
        world := s.world.step (.elsewhere hub), stored := index :: s.stored } index := hended
    rw [if_neg hnot, if_pos List.mem_cons_self]
    rfl

/-! ### What a turn can do -/

/-- What a turn can do to calls with some requests. -/
inductive Steps (requests : List (String × String)) (s : Switching) : Turn → Switching → Prop where
  | rests {index : Nat} : Steps requests s (.call index) s
  | stores {index : Nat} {address token : String} {hub : Hub}
      (hrequest : requests[index]? = some (address, token)) (hended : ¬ s.HasEnded index)
      (hstored : index ∉ s.stored)
      (hwrite : s.world.hub.writeVault s.world.watcher.chain address token = .ok hub) :
      Steps requests s (.call index)
        { s with world := s.world.step (.elsewhere hub), stored := index :: s.stored }
  | fails {index : Nat} (hstored : index ∉ s.stored) :
      Steps requests s (.call index) { s with refused := index :: s.refused }
  | switches {index : Nat} {address token : String}
      (hrequest : requests[index]? = some (address, token)) (hended : ¬ s.HasEnded index)
      (hstored : index ∈ s.stored) :
      Steps requests s (.call index)
        { s with world := s.world.step (.switchVault address), switched := index :: s.switched }
  | other {event : Hub → Event} :
      Steps requests s (.other event) { s with world := s.world.step (event s.world.hub) }

theorem steps_step (requests : List (String × String)) (s : Switching) (turn : Turn) :
    s.Steps requests turn (s.step requests turn) := by
  cases turn with
  | other event => exact .other
  | call index =>
    unfold step
    dsimp only
    split
    · rename_i address token hrequest
      by_cases hended : s.HasEnded index
      · rw [advance, if_pos hended]
        exact .rests
      · by_cases hstored : index ∈ s.stored
        · rw [advance, if_neg hended, if_pos hstored]
          exact .switches hrequest hended hstored
        · rw [advance, if_neg hended, if_neg hstored]
          split
          · rename_i hub hwrite
            exact .stores hrequest hended hstored hwrite
          · exact .fails hstored
    · exact .rests

/-! ### Two turns are enough -/

/-- What a call has done it has done for good. -/
theorem Steps.subset {requests : List (String × String)} {s s' : Switching} {turn : Turn}
    (h : s.Steps requests turn s') :
    s.stored ⊆ s'.stored ∧ ∀ index, s.HasEnded index → s'.HasEnded index := by
  cases h with
  | rests => exact ⟨List.Subset.refl _, fun _ => id⟩
  | other => exact ⟨List.Subset.refl _, fun _ => id⟩
  | stores _ _ _ _ => exact ⟨List.subset_cons_self _ _, fun _ => id⟩
  | fails _ => exact ⟨List.Subset.refl _, fun _ => Or.imp_right (List.mem_cons_of_mem _)⟩
  | switches _ _ _ => exact ⟨List.Subset.refl _, fun _ => Or.imp_left (List.mem_cons_of_mem _)⟩

theorem subset_run (requests : List (String × String)) (s : Switching) (turns : List Turn) :
    s.stored ⊆ (s.run requests turns).stored ∧
      ∀ index, s.HasEnded index → (s.run requests turns).HasEnded index := by
  induction turns using List.reverseRecOn with
  | nil => exact ⟨List.Subset.refl _, fun _ => id⟩
  | append_singleton turns turn ih =>
    obtain ⟨hstored, hended⟩ := (steps_step requests (s.run requests turns) turn).subset
    rw [run_concat]
    exact ⟨List.Subset.trans ih.1 hstored, fun index h => hended index (ih.2 index h)⟩

/-- A turn of a call stores its address or ends it. -/
theorem stored_or_hasEnded (s : Switching) {requests : List (String × String)} {index : Nat}
    (hindex : index < requests.length) :
    index ∈ (s.step requests (.call index)).stored ∨
      (s.step requests (.call index)).HasEnded index := by
  simp only [step, List.getElem?_eq_getElem hindex, advance]
  split
  · rename_i hended
    exact .inr hended
  · split
    · exact .inr (.inl List.mem_cons_self)
    · split
      · exact .inl List.mem_cons_self
      · exact .inr (.inr List.mem_cons_self)

/-- A turn of a call that has stored its address ends it. -/
theorem hasEnded_of_stored {s : Switching} {requests : List (String × String)} {index : Nat}
    (hindex : index < requests.length) (hstored : index ∈ s.stored) :
    (s.step requests (.call index)).HasEnded index := by
  simp only [step, List.getElem?_eq_getElem hindex, advance, if_pos hstored]
  split
  · rename_i hended
    exact hended
  · exact .inl List.mem_cons_self

/-- **Two turns are enough**: a call that has had two turns has ended, whatever happens before,
between and after them. -/
theorem hasEnded_of_two_turns (s : Switching) {requests : List (String × String)} {index : Nat}
    (hindex : index < requests.length) (before between after : List Turn) :
    (s.run requests (before ++ [.call index] ++ between ++ [.call index] ++ after)).HasEnded
      index := by
  have hfirst := (s.run requests before).stored_or_hasEnded hindex
  rw [← run_concat] at hfirst
  generalize before ++ [.call index] = begun at hfirst ⊢
  have hsecond : (s.run requests (begun ++ between ++ [.call index])).HasEnded index := by
    obtain ⟨hstored, hended⟩ := (s.run requests begun).subset_run requests between
    rw [← run_append] at hstored hended
    rw [run_concat]
    rcases hfirst with hmem | hdone
    · exact hasEnded_of_stored hindex (hstored hmem)
    · exact (steps_step requests _ _).subset.2 index (hended index hdone)
  rw [run_append]
  exact (subset_run requests _ after).2 index hsecond

/-! ### Runs -/

/-- The address set by the last call of a log, or another one if the log is empty. -/
def lastAddress (requests : List (String × String)) (initial : Option String) :
    List Nat → Option String
  | [] => initial
  | index :: _ => requests[index]?.map Prod.fst

/-- Two logs tell the same address if their last calls set the same. -/
theorem lastAddress_eq_iff (requests : List (String × String)) (initial : Option String)
    {log log' : List Nat} (hlength : log.length = log'.length) :
    lastAddress requests initial log = lastAddress requests initial log' ↔
      ∀ i ∈ log.head?, ∀ j ∈ log'.head?, requests[i]?.map Prod.fst = requests[j]?.map Prod.fst := by
  cases log with
  | nil =>
    obtain rfl := List.length_eq_zero_iff.mp hlength.symm
    simp
  | cons i log =>
    cases log' with
    | nil => cases hlength
    | cons j log' => simp [lastAddress]

/-- The two vaults are those of the logs, and the logs belong together. -/
structure Kept (requests : List (String × String)) (first : World) (s : Switching) : Prop where
  chain : s.world.watcher.chain = first.watcher.chain
  vault : s.world.vault = lastAddress requests first.vault s.switched
  storedVault : s.world.storedVault = lastAddress requests first.storedVault s.stored
  stored_nodup : s.stored.Nodup
  switched_nodup : s.switched.Nodup
  switched_subset : s.switched ⊆ s.stored
  stored_lt (index : Nat) (hstored : index ∈ s.stored) : index < requests.length
  /-- A call that was refused has stored nothing. -/
  not_refused (index : Nat) (hstored : index ∈ s.stored) : index ∉ s.refused

variable {requests : List (String × String)} {first : World} {s s' : Switching} {turn : Turn}
  {turns : List Turn}

theorem kept_start (requests : List (String × String)) (first : World) :
    Kept requests first (start first) :=
  ⟨rfl, rfl, rfl, .nil, .nil, List.Subset.refl _, nofun, nofun⟩

/-- Everything else spares the vaults of a chain. -/
def Turn.Spares (chain : String) : Turn → Prop
  | .call _ => True
  | .other event => ∀ hub, (event hub).SparesVaults chain hub

theorem Kept.step (h : Kept requests first s) (hstep : s.Steps requests turn s')
    (hspared : turn.Spares first.watcher.chain) : Kept requests first s' := by
  cases hstep with
  | rests => exact h
  | @other event =>
    obtain ⟨hvault, hstoredVault, hchain⟩ := World.vaults_step
      (h.chain ▸ hspared s.world.hub : (event s.world.hub).SparesVaults _ s.world.hub)
    exact { h with
      chain := hchain.trans h.chain
      vault := hvault.trans h.vault
      storedVault := hstoredVault.trans h.storedVault }
  | @stores index address token hub hrequest hended hstored hwrite =>
    refine { h with
      chain := h.chain
      vault := h.vault
      storedVault := ?_
      stored_nodup := List.nodup_cons.mpr ⟨hstored, h.stored_nodup⟩
      switched_subset := List.subset_cons_of_subset _ h.switched_subset
      stored_lt := ?_
      not_refused := ?_ }
    · exact (Hub.head?_vaultAddresses_of_writeVault hwrite).trans
        (by rw [lastAddress, hrequest]; rfl)
    · intro other hother
      rcases List.mem_cons.mp hother with rfl | hother
      · exact (List.getElem?_eq_some_iff.mp hrequest).1
      · exact h.stored_lt other hother
    · intro other hother
      rcases List.mem_cons.mp hother with rfl | hother
      · exact fun hrefused => hended (.inr hrefused)
      · exact h.not_refused other hother
  | @fails index hstored =>
    refine { h with not_refused := fun other hother hrefused => ?_ }
    rcases List.mem_cons.mp hrefused with rfl | hrefused
    · exact hstored hother
    · exact h.not_refused other hother hrefused
  | @switches index address token hrequest hended hstored =>
    exact { h with
      chain := h.chain
      vault := by rw [lastAddress, hrequest]; rfl
      storedVault := h.storedVault
      switched_nodup := List.nodup_cons.mpr ⟨fun hmem => hended (.inl hmem), h.switched_nodup⟩
      switched_subset := List.cons_subset.mpr ⟨hstored, h.switched_subset⟩ }

theorem kept_run (requests : List (String × String)) (first : World)
    (hspared : ∀ turn ∈ turns, turn.Spares first.watcher.chain) :
    Kept requests first ((start first).run requests turns) := by
  induction turns using List.reverseRecOn with
  | nil => exact kept_start requests first
  | append_singleton turns turn ih =>
    rw [run_concat]
    have hkept := ih fun turn hmem => hspared turn (List.mem_append_left _ hmem)
    exact hkept.step (steps_step _ _ _)
      (hspared turn (List.mem_append_right _ (List.mem_singleton_self turn)))

/-! ### Calls that do not overlap -/

/-- No call stores its address while another one has stored its own but not switched yet. -/
def Exclusive (requests : List (String × String)) (s : Switching) (turns : List Turn) : Prop :=
  ∀ n < turns.length,
    (s.run requests (turns.take (n + 1))).stored ≠ (s.run requests (turns.take n)).stored →
    (s.run requests (turns.take n)).stored ⊆ (s.run requests (turns.take n)).switched

instance (requests : List (String × String)) (s : Switching) (turns : List Turn) :
    Decidable (Exclusive requests s turns) :=
  inferInstanceAs (Decidable (∀ n < turns.length, _ ≠ _ → ∀ _ ∈ _, _ ∈ _))

/-- At most the call that stored last has not switched yet. -/
def InStep (s : Switching) : Prop :=
  s.stored = s.switched ∨ ∃ index, s.stored = index :: s.switched

theorem InStep.step (h : s.InStep) (hkept : Kept requests first s)
    (hstep : s.Steps requests turn s')
    (hexclusive : s'.stored ≠ s.stored → s.stored ⊆ s.switched) : s'.InStep := by
  cases hstep with
  | rests => exact h
  | fails _ => exact h
  | other => exact h
  | @stores index address token hub hrequest hended hstored hwrite =>
    have hsubset := hexclusive (List.cons_ne_self index s.stored)
    rcases h with heq | ⟨last, heq⟩
    · exact .inr ⟨index, congrArg (index :: ·) heq⟩
    · -- the call that stored last would have switched twice
      have hnodup := hkept.stored_nodup
      rw [heq] at hsubset hnodup
      exact absurd (hsubset List.mem_cons_self) (List.nodup_cons.mp hnodup).1
  | @switches index address token hrequest hended hstored =>
    rcases h with heq | ⟨last, heq⟩
    · exact absurd (.inl (heq ▸ hstored)) hended
    · rw [heq] at hstored
      obtain rfl := (List.mem_cons.mp hstored).resolve_right fun hmem => hended (.inl hmem)
      exact .inl heq

theorem inStep_run (hspared : ∀ turn ∈ turns, turn.Spares first.watcher.chain)
    (hexclusive : Exclusive requests (start first) turns) :
    ((start first).run requests turns).InStep := by
  induction turns using List.reverseRecOn with
  | nil => exact .inl rfl
  | append_singleton turns turn ih =>
    have hbefore : ∀ turn ∈ turns, turn.Spares first.watcher.chain := fun turn hmem =>
      hspared turn (List.mem_append_left _ hmem)
    have hshorter : Exclusive requests (start first) turns := by
      intro n hn
      have hnext := hexclusive n (by rw [List.length_append]; omega)
      rw [List.take_append_of_le_length hn,
        List.take_append_of_le_length (Nat.le_of_lt hn)] at hnext
      exact hnext
    have hnow := hexclusive turns.length (by simp)
    rw [List.take_of_length_le (by simp), List.take_left, run_concat] at hnow
    rw [run_concat]
    exact (ih hbefore hshorter).step (kept_run requests first hbefore) (steps_step _ _ _) hnow

/-! ### When all calls have ended -/

/-- How the two vaults stand when all calls have ended. -/
structure Completed (requests : List (String × String)) (first : World) (s : Switching) :
    Prop where
  /-- The calls that have stored their address are those that have switched the watcher over. -/
  perm : s.switched.Perm s.stored
  /-- The vault of the watcher is that of the call that switched last. -/
  vault : s.world.vault = lastAddress requests first.vault s.switched
  /-- The first of the stored addresses is that of the call that stored last. -/
  storedVault : s.world.storedVault = lastAddress requests first.vault s.stored
  agree_iff : s.world.vault = s.world.storedVault ↔
    ∀ i ∈ s.switched.head?, ∀ j ∈ s.stored.head?,
      requests[i]?.map Prod.fst = requests[j]?.map Prod.fst
  /-- A watcher that is added with the same store has the first of the stored addresses for its
  vault. -/
  restarted {m m' : Manager} {settings : ChainPlan} {codec : Codec}
    {probes : List (String × Option Bool)} (hhub : m.hub = s.world.hub)
    (hchain : settings.chain = first.watcher.chain)
    (hadded : m.startChain settings codec probes = (.ok (), m')) :
    ∃ w : Watcher, m'.watchers = m.watchers ++ [(settings.chain, w)] ∧
      w.watchlist.vault = s.world.storedVault

theorem Kept.perm (h : Kept requests first s)
    (hended : ∀ index < requests.length, s.HasEnded index) : s.switched.Perm s.stored := by
  refine (List.perm_ext_iff_of_nodup h.switched_nodup h.stored_nodup).mpr fun index => ?_
  refine ⟨fun hmem => h.switched_subset hmem, fun hmem => ?_⟩
  rcases hended index (h.stored_lt index hmem) with hswitched | hrefused
  · exact hswitched
  · exact absurd hrefused (h.not_refused index hmem)

theorem Kept.completed (h : Kept requests first s) (hstart : first.vault = first.storedVault)
    (hended : ∀ index < requests.length, s.HasEnded index) : Completed requests first s := by
  have hperm := h.perm hended
  have hstored : s.world.storedVault = lastAddress requests first.vault s.stored :=
    hstart ▸ h.storedVault
  refine ⟨hperm, h.vault, hstored, ?_, ?_⟩
  · rw [h.vault, hstored]
    exact lastAddress_eq_iff requests first.vault hperm.length_eq
  · intro m m' settings codec probes hhub hchain hadded
    obtain ⟨w, hwatchers, hvault⟩ := Manager.vault_of_startChain hadded
    refine ⟨w, hwatchers, ?_⟩
    rw [hvault, hhub, hchain, ← h.chain]
    rfl

/-- **The vault after all calls.** Any number of calls set the vault of a watcher that began with
the first of the stored addresses; their steps come in any order, with anything else among them, and
the store may refuse some. When all have ended, the vault of the watcher is that of the call that
switched last and the first of the stored addresses is that of the call that stored last. These
agree if no call stores its address while another one has stored its own but not switched yet. -/
theorem completed_run (hstart : first.vault = first.storedVault)
    (hspared : ∀ turn ∈ turns, turn.Spares first.watcher.chain)
    (hended : ∀ index < requests.length, ((start first).run requests turns).HasEnded index) :
    let s := (start first).run requests turns
    Completed requests first s ∧
      (Exclusive requests (start first) turns → s.world.vault = s.world.storedVault) := by
  have hkept := kept_run requests first hspared
  have hcompleted := hkept.completed hstart hended
  refine ⟨hcompleted, fun hexclusive => ?_⟩
  have hlogs : ((start first).run requests turns).stored =
      ((start first).run requests turns).switched := by
    rcases inStep_run hspared hexclusive with heq | ⟨index, heq⟩
    · exact heq
    · have hlength := hcompleted.perm.length_eq
      rw [heq, List.length_cons] at hlength
      omega
  rw [hcompleted.vault, hcompleted.storedVault, hlogs]

/-- A watcher without a vault, and none is stored. -/
def vaultless : World :=
  .start (localPlan none) Piped.codec (.unconnected "local" ["http://127.0.0.1"]) none (.start 1)

/-- Two calls. -/
def twoRequests : List (String × String) := [("0x0a", "t"), ("0x0b", "t")]

/-- One call comes after the other; in between a transaction is tracked. -/
theorem completed_on_successiveTurns :
    let turns : List Turn := [.call 1, .call 1, .other fun _ => .track "0x01", .call 0, .call 0]
    let s := (start vaultless).run twoRequests turns
    Completed twoRequests vaultless s ∧ s.world.vault = s.world.storedVault := by
  intro turns s
  have hspared : ∀ turn ∈ turns, turn.Spares vaultless.watcher.chain := by
    simp [turns, Turn.Spares, Event.SparesVaults]
  have hended : ∀ index < twoRequests.length, s.HasEnded index := by decide
  obtain ⟨hcompleted, hagree⟩ := completed_run rfl hspared hended
  exact ⟨hcompleted, hagree (by decide)⟩

/-- The second call stores its address after the first one but switches before it. -/
def overtakingTurns : List Turn := [.call 0, .call 1, .call 1, .call 0]

/-- Then the watcher keeps to the one address, and a watcher started now has the other. -/
theorem disagreement_on_overtakingTurns :
    localPlan none ∈ (localSettings none).watchers ∧
      vaultless.vault = vaultless.storedVault ∧
      let s := (start vaultless).run twoRequests overtakingTurns
      (∀ index < twoRequests.length, s.HasEnded index) ∧
        s.world.vault = some "0x0a" ∧ s.world.storedVault = some "0x0b" := by
  have hended : ∀ index < twoRequests.length,
      ((start vaultless).run twoRequests overtakingTurns).HasEnded index := by
    decide
  exact ⟨localPlan_mem_watchers none, rfl, hended, rfl, rfl⟩

end Switching

end VaultWatch
