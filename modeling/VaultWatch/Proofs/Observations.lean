import VaultWatch.Proofs.Deposits
import VaultWatch.Proofs.Store

/-!
# What is stored is what is announced

A matched block is saved when it is composed, and then waits for the outbound stream. The stream
tells every block as it is; the store keeps of each hash only what was observed last. The main
statement is `World.stored_run`: after every run the observed transactions of the chain are the
latest of those in the matched blocks composed so far, and the blocks sent are among these, in
order. Nobody else may write observed transactions of this chain in the meantime (`World.IsAlone`).
-/

namespace VaultWatch

/-! ### Composed blocks -/

/-- The transactions of a matched block as they are stored. -/
def DepositBlock.observations (block : DepositBlock) : List Observation :=
  block.txs.map (block.blockHeight, ·)

/-- The matched blocks composed so far, in order. -/
def World.composed (s : World) : List DepositBlock := s.concluded.filter DepositBlock.isMatch

/-- Conclusions without deposits have nothing to store. -/
theorem DepositBlock.flatMap_observations_filter (blocks : List DepositBlock) :
    (blocks.filter isMatch).flatMap observations = blocks.flatMap observations := by
  induction blocks with
  | nil => rfl
  | cons block blocks ih =>
    rw [List.filter_cons, List.flatMap_cons]
    split
    · rw [List.flatMap_cons, ih]
    · rename_i hnone
      have htxs : block.txs = [] := by simpa [isMatch] using hnone
      rw [ih, observations, htxs, List.map_nil, List.nil_append]

/-! ### Everybody else -/

/-- The event is not a change by others of the observed transactions of a chain, and the store goes
on to save them. -/
def Event.SparesObserved (chain : String) (hub : Hub) : Event → Prop
  | .elsewhere hub' =>
    hub'.store.observed chain = hub.store.observed chain ∧ hub'.serves .saveObserved = true
  | _ => True

instance (chain : String) (hub : Hub) : (event : Event) → Decidable (event.SparesObserved chain hub)
  | .elsewhere _ => inferInstanceAs (Decidable (_ ∧ _))
  | .move _ | .track _ | .switchVault _ | .heardGasPrice _ _ | .cancel => .isTrue trivial

/-- Nobody but the watcher writes observed transactions of a chain along a run. -/
def World.IsAlone (chain : String) (s : World) : List Event → Prop
  | [] => True
  | event :: events => event.SparesObserved chain s.hub ∧ (s.step event).IsAlone chain events

instance World.decidableIsAlone (chain : String) (s : World) :
    (events : List Event) → Decidable (s.IsAlone chain events)
  | [] => .isTrue trivial
  | event :: events =>
    have := World.decidableIsAlone chain (s.step event) events
    inferInstanceAs (Decidable (_ ∧ _))

/-! ### Steps -/

theorem Hub.serves_saveObserved (hub : Hub) (block : DepositBlock) (access : Access) :
    (hub.saveObserved block).serves access = hub.serves access := by
  unfold saveObserved
  split <;> rfl

namespace Watcher

variable {w w' : Watcher} {hub hub' : Hub} {event : Event} {facts : List Fact}

/-- The store goes on to save. -/
theorem Occurs.serves_saving (h : w.Occurs hub event facts w' hub')
    (hspared : event.SparesObserved w.chain hub) (hserves : hub.serves .saveObserved = true) :
    hub'.serves .saveObserved = true := by
  cases h with
  | fetch h => cases h <;> exact hserves
  | select h => exact hserves
  | resolve h => cases h <;> exact hserves
  | report h =>
    cases h with
    | conclude _ _ _ =>
      unfold Watcher.conclude
      split
      · exact hserves
      · exact (Hub.serves_saveObserved hub _ _).trans hserves
    | _ => exact hserves
  | elsewhere => exact hspared.2
  | _ => exact hserves

/-- What a conclusion stores are its deposits. -/
theorem observed_conclude (w : Watcher) {batch : PartBatch} {observations : List Observation}
    (hserves : hub.serves .saveObserved = true)
    (hstored : hub.store.observed w.chain = Store.latest observations) :
    (w.conclude hub batch).2.store.observed w.chain =
      Store.latest (observations ++ (batch.matchedBlock w.chain).observations) := by
  unfold conclude
  by_cases hnone : batch.deposits.isEmpty = true
  · have hnothing : (batch.matchedBlock w.chain).observations = [] := by
      rw [DepositBlock.observations, PartBatch.matchedBlock, List.isEmpty_iff.mp hnone,
        List.map_nil]
    rw [if_pos hnone, hnothing, List.append_nil]
    exact hstored
  · rw [if_neg hnone]
    change (hub.saveObserved (batch.matchedBlock w.chain)).store.observed w.chain = _
    rw [Hub.saveObserved, if_pos hserves]
    exact Store.observed_save_latest _ _ _ _ hstored

/-- What a step stores are the deposits that it concludes. -/
theorem Occurs.observed_latest (h : w.Occurs hub event facts w' hub')
    (hspared : event.SparesObserved w.chain hub) (hserves : hub.serves .saveObserved = true)
    {observations : List Observation}
    (hstored : hub.store.observed w.chain = Store.latest observations) :
    hub'.store.observed w.chain =
      Store.latest (observations ++
        (facts.filterMap Fact.concluded?).flatMap DepositBlock.observations) := by
  have hsame : hub.store.observed w.chain = Store.latest (observations ++ []) := by
    rw [List.append_nil, hstored]
  cases h with
  | fetch h => cases h <;> exact hsame
  | select h => cases h <;> exact hsame
  | resolve h => cases h <;> exact hsame
  | report h =>
    cases h with
    | @judge batch result rest _ _ _ =>
      cases w.updateFor batch.height result.tx (w.watchlist.judge result).1 <;> exact hsame
    | conclude _ _ _ =>
      simp only [Fact.concluded?, List.filterMap_cons, List.filterMap_nil, List.flatMap_singleton]
      exact observed_conclude w hserves hstored
    | _ => exact hsame
  | elsewhere => exact hspared.1.trans hsame
  | _ => exact hsame

/-- What is sent and what waits to be sent has been concluded with deposits, in order. -/
theorem Handles.sent_sublist {sent concluded : List DepositBlock} (h : w.Handles hub facts w')
    (hsent : (sent ++ w.reporter.announcing?.toList).Sublist
      (concluded.filter DepositBlock.isMatch)) :
    ((sent ++ facts.filterMap Fact.sent?) ++ w'.reporter.announcing?.toList).Sublist
      ((concluded ++ facts.filterMap Fact.concluded?).filter DepositBlock.isMatch) := by
  rcases h.announces with hnext | ⟨-, rfl, hlost⟩
  · rw [List.append_assoc, hnext, ← List.append_assoc, List.filter_append]
    exact hsent.append (List.Sublist.refl _)
  · rw [hlost, List.filterMap_nil, List.filterMap_nil, Option.toList_none, List.append_nil,
      List.append_nil, List.append_nil]
    exact (List.sublist_append_left _ _).trans hsent

end Watcher

/-! ### Runs -/

namespace World

/-- How the store and the stream of matched blocks stand to what has been composed for a chain. -/
structure Stored (chain : String) (s : World) : Prop where
  /-- The store has the latest of what has been composed. -/
  observed : s.hub.store.observed chain =
    Store.latest (s.composed.flatMap DepositBlock.observations)
  /-- The blocks sent, and the one that waits to be sent, are among those composed, in order. -/
  sent : (s.sent ++ s.watcher.reporter.announcing?.toList).Sublist s.composed
  /-- Between two batches those composed are the deposits of all batches taken so far, by the
  verdicts on their results. -/
  composed : s.watcher.reporter.part? = none →
    s.composed = (digest chain s.taken (s.judgements.map Judgement.verdict)).filter
      DepositBlock.isMatch

/-- What is kept along a run on which nobody else writes observed transactions of the chain. -/
structure Keeping (settings : ChainPlan) (s : World) : Prop where
  settings_eq : s.watcher.settings = settings
  serves : s.hub.serves .saveObserved = true
  observed : s.hub.store.observed settings.chain =
    Store.latest (s.concluded.flatMap DepositBlock.observations)
  sent : (s.sent ++ s.watcher.reporter.announcing?.toList).Sublist s.composed

theorem Keeping.step {settings : ChainPlan} {s : World} {event : Event} (h : s.Keeping settings)
    (hspared : event.SparesObserved settings.chain s.hub) : (s.step event).Keeping settings := by
  unfold World.step
  split
  · rename_i w hub hhappen
    have hoccurs := Watcher.occurs_of_happen? hhappen
    have hchain : s.watcher.chain = settings.chain := congrArg ChainPlan.chain h.settings_eq
    rw [← hchain] at hspared
    have hobserved := hoccurs.observed_latest hspared h.serves (hchain ▸ h.observed)
    have hsent := hoccurs.handles.sent_sublist h.sent
    refine ⟨hoccurs.settings_eq.trans h.settings_eq, hoccurs.serves_saving hspared h.serves, ?_, ?_⟩
    · rwa [hchain, concluded, ← List.flatMap_append, ← List.filterMap_append] at hobserved
    · rwa [World.sent, concluded, ← List.filterMap_append, ← List.filterMap_append] at hsent
  · exact h

theorem Keeping.run {settings : ChainPlan} {s : World} {events : List Event}
    (h : s.Keeping settings) (halone : s.IsAlone settings.chain events) :
    (s.run events).Keeping settings := by
  induction events generalizing s with
  | nil => exact h
  | cons event events ih => exact ih (h.step halone.1) halone.2

/-- **What is stored is what is announced.** A watcher begins with no observed transactions of its
chain in the store, and nobody else writes any. Then after every run the store has the transactions
of the matched blocks composed so far, in order, but of each hash only the latest. -/
theorem stored_run (settings : ChainPlan) (codec : Codec) (pool : Pool) (vault : Option String)
    (hub : Hub) (events : List Event) (hempty : hub.store.observed settings.chain = [])
    (hserves : hub.serves .saveObserved = true)
    (halone : (World.start settings codec pool vault hub).IsAlone settings.chain events) :
    ((World.start settings codec pool vault hub).run events).Stored settings.chain := by
  have hstart : (World.start settings codec pool vault hub).Keeping settings :=
    ⟨rfl, hserves, hempty, List.Sublist.refl _⟩
  have hkept := hstart.run halone
  refine ⟨?_, hkept.sent, fun hpart => ?_⟩
  · rw [hkept.observed, composed, DepositBlock.flatMap_observations_filter]
  · have hbooks := (reporter_accounts_run settings codec pool vault hub events).concluded_append
    rw [Reporter.ahead_of_none hpart, digest, portions_nil, List.map_nil, List.append_nil] at hbooks
    rw [composed, hbooks]

/-- Somebody saves a transaction for another chain. Then a block is found in which two payments to
the vault have the same hash, and its batch is concluded. -/
def repeatedRun : List Event :=
  [.move (.report .begin),
    .elsewhere ((Hub.start 1).saveObserved
      ⟨"other", 0, "0x05", [⟨"0x01", [], "0x02", "0x04", true⟩]⟩)] ++
    fetchBlock 0 ⟨0, "0x03", none, [payment "0x04", { payment "0x04" with sender := "0x06" }]⟩ ++
    selectBlock ++ resolveBlock paymentReceipt ++
    [.move (.resolve (.heard (.ok paymentReceipt))), .move (.resolve .emit),
      .move (.report .take), .move (.report .judge), .move (.report .judge),
      .move (.report .conclude)]

/-- Both payments are announced, and the second one is stored. -/
theorem stored_repeatedRun :
    let s := (localWorld none "0x04").run repeatedRun
    s.Stored "local" ∧
      s.composed = [⟨"local", 0, "0x03", [⟨"0x01", [], "0x02", "0x04", true⟩,
        ⟨"0x01", [], "0x06", "0x04", true⟩]⟩] ∧
      s.hub.store.observed "local" = [(0, ⟨"0x01", [], "0x06", "0x04", true⟩)] :=
  ⟨stored_run (localPlan none) _ _ _ _ repeatedRun rfl rfl (by decide +kernel), by decide +kernel,
    by decide +kernel⟩

end World

end VaultWatch
