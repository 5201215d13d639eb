import VaultWatch.Proofs.Observations
import VaultWatch.Proofs.Waits

/-!
# Letter case makes no difference

A watcher that does not heed letter case keeps the hashes that it tracks in small letters, but the
vault as it was written; the vault is compared letter by letter at every use, and what a sweep gives
up is told in the spelling in which it was kept. The main statement is
`World.output_eq_of_folded_eq`: two runs that differ only in the spelling of the tracked hashes and
of the vaults switched over to let others see the same.

The proof runs the watcher in small letters. `World.folded` is a world with its vault in small
letters, and each event takes it to the world after the event, again in small letters
(`World.step_folded`). Two runs that differ in spelling are the same run in small letters, in which
others see what they see of either.
-/

namespace VaultWatch

/-- The spelling of an address does not matter to the comparison. -/
@[simp]
theorem Ascii.sameFold_fold (a b : String) :
    Ascii.sameFold (Ascii.fold a) b = Ascii.sameFold a b := by
  simp only [sameFold, fold_fold]

/-! ### Small letters -/

/-- The watchlist with its vault in small letters. -/
def Watchlist.folded (w : Watchlist) : Watchlist := { w with vault := w.vault.map Ascii.fold }

/-- The watcher with its vault in small letters. -/
def Watcher.folded (w : Watcher) : Watcher := { w with watchlist := w.watchlist.folded }

/-- The hub without the vault addresses in its store, which a watcher reads only before it
starts. -/
def Hub.folded (hub : Hub) : Hub := { hub with store := { hub.store with vaults := [] } }

namespace Watchlist

variable (w : Watchlist)

@[simp] theorem tracked_folded : w.folded.tracked = w.tracked := rfl

theorem vaultIs_folded (hcase : w.tracked.foldCase = true) : w.folded.vaultIs = w.vaultIs := by
  funext address
  cases hvault : w.vault with
  | none => simp only [vaultIs, folded, hvault, Option.map_none]
  | some vault =>
    simp only [vaultIs, folded, hvault, Option.map_some, addressesAgree, hcase, if_true,
      Ascii.sameFold_fold]

theorem paysVault_folded (hcase : w.tracked.foldCase = true) :
    w.folded.paysVault = w.paysVault := by
  funext recipient
  rw [paysVault, paysVault, w.vaultIs_folded hcase]

theorem candidates_folded (hcase : w.tracked.foldCase = true) :
    w.folded.candidates = w.candidates := by
  funext block
  refine List.filter_congr fun tx _ => ?_
  rw [wants, wants, w.paysVault_folded hcase, tracked_folded]

theorem judge_folded (hcase : w.tracked.foldCase = true) (result : ResolvedTx) :
    w.folded.judge result = ((w.judge result).1, (w.judge result).2.folded) := by
  have hverdict : (w.folded.judge result).1 = (w.judge result).1 := by
    cases hfind : w.tracked.find? result.tx.hash with
    | none =>
      rw [w.judge_of_unknown result hfind, w.folded.judge_of_unknown result hfind,
        w.vaultIs_folded hcase]
    | some wait =>
      cases wait with
      | awaited since =>
        rw [w.judge_of_awaited result hfind, w.folded.judge_of_awaited result hfind]
      | confirmed =>
        rw [w.judge_of_confirmed result hfind, w.folded.judge_of_confirmed result hfind]
  have hafter : (w.folded.judge result).2 = (w.judge result).2.folded := by
    rw [judge_snd, judge_snd]
    rfl
  exact Prod.ext hverdict hafter

theorem track_folded (hcase : w.tracked.foldCase = true) (now : Nat) (hash : String) :
    (w.track now hash).folded = w.folded.track now (Ascii.fold hash) := by
  have hkey : w.tracked.key hash = w.tracked.key (Ascii.fold hash) := by
    simp only [Tracked.key, hcase, if_true, Ascii.fold_fold]
  simp only [track, folded, Tracked.track, hkey]

end Watchlist

/-! ### Moves and calls -/

theorem Hub.saveObserved_folded (hub : Hub) (block : DepositBlock) :
    hub.folded.saveObserved block = (hub.saveObserved block).folded := by
  unfold saveObserved
  rw [apply_ite folded]
  rfl

namespace Watcher

variable (w : Watcher) (hub : Hub)

/-- A watcher and its hub in small letters. -/
def foldedPair (r : Watcher × Hub) : Watcher × Hub := (r.1.folded, r.2.folded)

theorem fetch?_folded (m : FetchMove) :
    w.folded.fetch? hub.folded m = (w.fetch? hub m).map foldedPair := by
  cases m with
  | heardHead _ | heardBlock _ =>
    simp only [fetch?, folded]
    split <;> rfl
  | deliver =>
    simp only [fetch?, folded]
    split
    · rw [Option.map_map]
      rfl
    · rfl
  | askHead | abandon | askBlock =>
    simp only [fetch?, folded]
    split
    · rw [apply_ite (Option.map foldedPair)]
      rfl
    · rfl
  | cancel =>
    rw [fetch?, fetch?, apply_ite (Option.map foldedPair)]
    rfl

theorem select?_folded (hcase : w.watchlist.tracked.foldCase = true) (m : SelectMove) :
    w.folded.select? hub.folded m = (w.select? hub m).map foldedPair := by
  cases m with
  | take =>
    simp only [select?, folded]
    split
    · simp only [select, Watchlist.candidates_folded _ hcase]
      rfl
    · rfl
  | queue =>
    simp only [select?, folded]
    split
    · rw [Option.map_map]
      rfl
    · rfl
  | finish | abandon =>
    simp only [select?, folded]
    split
    · rw [apply_ite (Option.map foldedPair)]
      rfl
    · rfl
  | cancel =>
    simp only [select?, folded]
    split
    · rfl
    · rw [apply_ite (Option.map foldedPair)]
      rfl

theorem turnResolver_folded (next : Resolver) :
    (w.folded.turnResolver next, hub.folded) = foldedPair (w.turnResolver next, hub) := by
  have hlimit : w.folded.callLimit? = w.callLimit? := rfl
  rw [turnResolver, turnResolver, hlimit]
  split <;> rfl

theorem resolve?_folded (m : ResolveMove) :
    w.folded.resolve? hub.folded m = (w.resolve? hub m).map foldedPair := by
  cases m with
  | take =>
    simp only [resolve?, folded]
    split
    · rename_i job jobs hwait hreceive
      exact congrArg some ({ w with jobs }.turnResolver_folded hub (.begin job))
    · rfl
  | heard answer =>
    simp only [resolve?, folded]
    split
    · rename_i job hask
      let retryAt := hub.now + w.settings.receiptRetryDelay
      let heard := job.heard w.settings.maxReceiptRetry retryAt answer
      exact congrArg some (w.turnResolver_folded (hub.count (w.countFate heard.2)) heard.1)
    · rfl
  | emit =>
    simp only [resolve?, folded]
    split
    · rw [Option.map_map]
      rfl
    · rfl
  | again =>
    simp only [resolve?, folded]
    split
    · rename_i job wake hpause
      have hturn := w.turnResolver_folded hub (.asking job)
      rw [apply_ite (Option.map foldedPair), Option.map_some, ← hturn]
      rfl
    · rfl
  | abandon =>
    simp only [resolve?, folded]
    split
    · rw [apply_ite (Option.map foldedPair)]
      rfl
    · rfl
  | cancel =>
    simp only [resolve?, folded]
    split
    iterate 3
      rw [apply_ite (Option.map foldedPair)]
      rfl
    iterate 2 rfl

theorem refresh?_folded (index : Nat) (m : RefreshMove) :
    w.folded.refresh? hub.folded index m = (w.refresh? hub index m).map foldedPair := by
  simp only [refresh?, folded]
  split
  · rfl
  · split
    · rfl
    · rw [apply_ite (Option.map foldedPair)]
      rfl
    · rfl
    · rw [apply_ite (Option.map foldedPair)]
      rfl
    · rfl

theorem judge_folded (hcase : w.watchlist.tracked.foldCase = true) (batch : PartBatch)
    (result : ResolvedTx) (rest : List ResolvedTx) :
    w.folded.judge hub.folded batch result rest = foldedPair (w.judge hub batch result rest) := by
  have hjudge := w.watchlist.judge_folded hcase result
  simp only [judge, folded, hjudge]
  rfl

theorem conclude_folded (batch : PartBatch) :
    w.folded.conclude hub.folded batch = foldedPair (w.conclude hub batch) := by
  simp only [conclude, folded, Hub.saveObserved_folded, apply_ite foldedPair]
  rfl

theorem report?_folded (hcase : w.watchlist.tracked.foldCase = true) (m : ReportMove) :
    w.folded.report? hub.folded m = (w.report? hub m).map foldedPair := by
  cases m with
  | begin =>
    simp only [report?, folded]
    split
    · rw [apply_ite (Option.map foldedPair)]
      rfl
    · rfl
  | take | giveUp | endSweep =>
    simp only [report?, folded]
    split <;> rfl
  | judge =>
    simp only [report?, folded]
    split
    · split
      · rw [Option.map_some, ← judge_folded w hub hcase]
        rfl
      · rfl
    · rfl
  | conclude =>
    simp only [report?, folded]
    split
    · rw [apply_ite (Option.map foldedPair), Option.map_some, ← conclude_folded]
      rfl
    · rfl
  | sendUpdate | announce =>
    simp only [report?, folded]
    split
    · rw [Option.map_map]
      rfl
    · rfl
  | sweep | finish | loseUpdate | loseBlock | cancel =>
    simp only [report?, folded]
    split
    · rw [apply_ite (Option.map foldedPair)]
      rfl
    · rfl

end Watcher

/-- A call that switches the vault has the same outcome for either spelling, and leads to the same
watcher and hub in small letters, whatever address the store had. -/
theorem Watcher.moveVault_folded {w w' : Watcher} {hub hub' : Hub} {address address' : String}
    (hw : w.folded = w'.folded) (hhub : hub.folded = hub'.folded)
    (haddress : Ascii.fold address = Ascii.fold address') (token : String) :
    (w.moveVault hub address token).1 = (w'.moveVault hub' address' token).1 ∧
      foldedPair (w.moveVault hub address token).2 =
        foldedPair (w'.moveVault hub' address' token).2 := by
  have hserves : hub.serves .writeVault = hub'.serves .writeVault := by
    change hub.folded.serves .writeVault = hub'.folded.serves .writeVault
    rw [hhub]
  unfold moveVault Hub.writeVault
  rw [hserves]
  cases hub'.serves .writeVault with
  | true =>
    have hswitch : (w.switchVault address).folded = (w'.switchVault address').folded := by
      change w.folded.switchVault (Ascii.fold address) = w'.folded.switchVault (Ascii.fold address')
      rw [hw, haddress]
    exact ⟨rfl, Prod.ext hswitch hhub⟩
  | false => exact ⟨rfl, Prod.ext hw hhub⟩

/-! ### Runs in small letters -/

/-- The event with the texts in small letters that a caller chose. -/
def Event.folded : Event → Event
  | .track hash => .track (Ascii.fold hash)
  | .switchVault address => .switchVault (Ascii.fold address)
  | .elsewhere hub => .elsewhere hub.folded
  | event => event

/-- The fact as it is told of a watcher that hears small letters only. -/
def Fact.folded : Fact → Fact
  | .selected watchlist block => .selected watchlist.folded block
  | .judged watchlist height blockHash result => .judged watchlist.folded height blockHash result
  | .tracked watchlist now hash => .tracked watchlist.folded now (Ascii.fold hash)
  | .swept watchlist now maxAge => .swept watchlist.folded now maxAge
  | fact => fact

namespace Watcher

variable (w after : Watcher) (hub : Hub)

theorem happen?_folded (hcase : w.watchlist.tracked.foldCase = true) (event : Event) :
    w.folded.happen? hub.folded event.folded = (w.happen? hub event).map foldedPair := by
  cases event with
  | move move =>
    cases move with
    | refresh index move => exact w.refresh?_folded hub index move
    | fetch move => exact w.fetch?_folded hub move
    | resolve move => exact w.resolve?_folded hub move
    | select move => exact w.select?_folded hub hcase move
    | report move => exact w.report?_folded hub hcase move
  | track hash =>
    have htrack := w.watchlist.track_folded hcase hub.now hash
    simp only [happen?, Event.folded, Option.map_some, foldedPair, track, folded, htrack]
    rfl
  | switchVault _ | heardGasPrice _ _ | elsewhere _ | cancel => rfl

theorem facts_folded (event : Event) :
    w.folded.facts hub.folded after.folded event.folded =
      (w.facts hub after event).map Fact.folded := by
  cases event with
  | move move =>
    cases move with
    | refresh _ _ => rfl
    | fetch move =>
      cases move with
      | heardHead answer => cases answer <;> rfl
      | deliver =>
        simp only [facts, Event.folded, fetchFacts, folded]
        split <;> rfl
      | _ => rfl
    | select move =>
      cases move with
      | take =>
        simp only [facts, Event.folded, selectFacts, folded]
        cases w.blocks.receive? <;> rfl
      | _ => rfl
    | resolve move =>
      cases move with
      | heard answer =>
        simp only [facts, Event.folded, resolveFacts, folded]
        split <;> rfl
      | _ => rfl
    | report move =>
      cases move with
      | take =>
        simp only [facts, Event.folded, reportFacts, folded]
        cases w.batches.receive? <;> rfl
      | judge =>
        simp only [facts, Event.folded, reportFacts, folded, freshNotice]
        split
        · rename_i batch hstage
          cases batch.rest <;> cases after.reporter.outgoing <;> rfl
        · rfl
      | giveUp =>
        simp only [facts, Event.folded, reportFacts, folded, freshNotice]
        cases after.reporter.outgoing <;> rfl
      | conclude | announce =>
        simp only [facts, Event.folded, reportFacts, folded]
        split <;> rfl
      | _ => rfl
  | track _ | switchVault _ | heardGasPrice _ _ | elsewhere _ | cancel => rfl

end Watcher

namespace World

/-- The world as it is seen by a watcher that hears small letters only. -/
def folded (s : World) : World := ⟨s.watcher.folded, s.hub.folded, s.facts.map Fact.folded⟩

theorem step_folded (s : World) (hcase : s.watcher.watchlist.tracked.foldCase = true)
    (event : Event) : s.folded.step event.folded = (s.step event).folded := by
  have hhappen : s.folded.watcher.happen? s.folded.hub event.folded = _ :=
    s.watcher.happen?_folded s.hub hcase event
  unfold step
  rw [hhappen]
  cases s.watcher.happen? s.hub event with
  | none => rfl
  | some after =>
    simp only [Option.map_some, Watcher.foldedPair, Watcher.facts_folded, folded, List.map_append]

/-- No event changes whether letter case counts. -/
theorem foldCase_step (s : World) (event : Event) :
    (s.step event).watcher.watchlist.tracked.foldCase = s.watcher.watchlist.tracked.foldCase := by
  unfold step
  split
  · rename_i w hub hhappen
    exact (Watcher.occurs_of_happen? hhappen).turns.foldCase_eq
  · rfl

/-- **Small letters all along**: a run that hears small letters only goes through the same states,
seen in small letters. -/
theorem run_folded (s : World) (hcase : s.watcher.watchlist.tracked.foldCase = true)
    (events : List Event) : s.folded.run (events.map Event.folded) = (s.run events).folded := by
  induction events generalizing s with
  | nil => rfl
  | cons event events ih =>
    have hnext := (s.foldCase_step event).trans hcase
    rw [List.map_cons, run_cons, s.step_folded hcase, ih _ hnext, run_cons]

end World

/-! ### What others see of a run -/

/-- What others see of a run. -/
structure Output where
  /-- The matched blocks composed, whether or not the stream has taken them. -/
  composed : List DepositBlock
  /-- The matched blocks that the stream has taken. -/
  sent : List DepositBlock
  /-- The updates produced. -/
  notices : List TrackNotice
  /-- The transactions whose receipts were asked for, once for each attempt, with the answers. -/
  answers : List (BlockTx × Except CallError Receipt)
  /-- The queries that wait for their answers. -/
  queries : Task → Option Query
  /-- The observed transactions in the store. -/
  stored : Shelf Observation
  /-- The stream of matched blocks with what its reader has not taken yet. -/
  matched : Channel DepositBlock
  /-- The stream of updates with what its reader has not taken yet. -/
  updates : Channel TrackNotice
  counters : Counters

namespace World

/-- What others see of a run. -/
def output (s : World) : Output where
  composed := s.composed
  sent := s.sent
  notices := s.notices
  answers := s.answers
  queries := s.watcher.query?
  stored := s.hub.store.transactions
  matched := s.hub.matched
  updates := s.hub.updates
  counters := s.hub.counters

/-- A reading of the record that does not look at watchlists and at tracked hashes is the same in
small letters. -/
theorem filterMap_folded {α : Type} {reading : Fact → Option α}
    (h : ∀ f, reading f.folded = reading f) (facts : List Fact) :
    (facts.map Fact.folded).filterMap reading = facts.filterMap reading := by
  rw [List.filterMap_map]
  exact List.filterMap_congr fun f _ => h f

/-- In small letters others see the same. -/
theorem output_folded (s : World) : s.folded.output = s.output := by
  have hconcluded : s.folded.concluded = s.concluded :=
    filterMap_folded (fun f => by cases f <;> rfl) s.facts
  have hsent : s.folded.sent = s.sent := filterMap_folded (fun f => by cases f <;> rfl) s.facts
  have hnotices : s.folded.notices = s.notices :=
    filterMap_folded (fun f => by cases f <;> rfl) s.facts
  have hanswers : s.folded.answers = s.answers :=
    filterMap_folded (fun f => by cases f <;> rfl) s.facts
  have hqueries : s.folded.watcher.query? = s.watcher.query? := by
    funext task
    cases task <;> rfl
  simp only [output, composed, hconcluded, hsent, hnotices, hanswers, hqueries]
  rfl

/-- **Letter case makes no difference.** -/
theorem output_eq_of_folded_eq (settings : ChainPlan) (codec : Codec) (pool : Pool)
    (vault vault' : Option String) (hub hub' : Hub) (events events' : List Event)
    (hcase : settings.caseInsensitiveAddresses = true)
    (hvault : vault.map Ascii.fold = vault'.map Ascii.fold) (hhub : hub.folded = hub'.folded)
    (hevents : events.map Event.folded = events'.map Event.folded) :
    ((World.start settings codec pool vault hub).run events).output =
      ((World.start settings codec pool vault' hub').run events').output := by
  have hstart : (World.start settings codec pool vault hub).folded =
      (World.start settings codec pool vault' hub').folded := by
    change World.start settings codec pool (vault.map Ascii.fold) hub.folded =
      World.start settings codec pool (vault'.map Ascii.fold) hub'.folded
    rw [hvault, hhub]
  calc ((World.start settings codec pool vault hub).run events).output
      = ((World.start settings codec pool vault hub).run events).folded.output :=
        (output_folded _).symm
    _ = ((World.start settings codec pool vault' hub').run events').folded.output := by
        rw [← run_folded _ hcase, ← run_folded _ hcase, hstart, hevents]
    _ = ((World.start settings codec pool vault' hub').run events').output := output_folded _

/-- Two transactions are tracked and the vault is switched; then a block is found with a payment to
the vault and with the first of the two, and the second one is given up. -/
def spelledRun (seen unseen vault : String) : List Event :=
  [.move (.report .begin), .track seen, .track unseen, .switchVault vault] ++
    fetchBlock 0 ⟨0, "0x03", none, [payment "0x0b", { payment "0x04" with hash := "0x0c" }]⟩ ++
    selectBlock ++ resolveBlock paymentReceipt ++
    [.move (.resolve (.heard (.ok paymentReceipt))), .move (.resolve .emit),
      .move (.report .take), .move (.report .judge), .move (.report .judge),
      .move (.report .sendUpdate), .move (.report .conclude), .move (.report .announce),
      .elsewhere { Hub.start 1 with now := 3600000 }, .move (.report .sweep),
      .move (.report .giveUp)]

theorem spelledRun_folded (seen unseen vault : String) :
    (spelledRun seen unseen vault).map Event.folded =
      spelledRun (Ascii.fold seen) (Ascii.fold unseen) (Ascii.fold vault) := rfl

/-- The updates, the deposit and the hash given up are the same in either spelling. -/
theorem output_spelledRun :
    let s := (localWorld none "0x0A").run (spelledRun "0X0c" "0x0D" "0x0B")
    let s' := (localWorld none "0x0a").run (spelledRun "0x0C" "0X0d" "0X0b")
    s.output = s'.output ∧
      s.sent = [⟨"local", 0, "0x03", [⟨"0x01", [], "0x02", "0x0b", true⟩]⟩] ∧
      s.notices = [⟨"local", "0x0c", 0, [], .confirmed⟩, ⟨"local", "0x0d", 0, [], .timeout⟩] :=
  have hseen : Ascii.fold "0X0c" = Ascii.fold "0x0C" := by decide +kernel
  have hunseen : Ascii.fold "0x0D" = Ascii.fold "0X0d" := by decide +kernel
  have hvault : Ascii.fold "0x0B" = Ascii.fold "0X0b" := by decide +kernel
  have hevents : (spelledRun "0X0c" "0x0D" "0x0B").map Event.folded =
      (spelledRun "0x0C" "0X0d" "0X0b").map Event.folded := by
    rw [spelledRun_folded, spelledRun_folded, hseen, hunseen, hvault]
  ⟨output_eq_of_folded_eq (localPlan none) _ _ (some "0x0A") (some "0x0a") _ _ _ _ rfl
      (by decide +kernel) rfl hevents, by decide +kernel, by decide +kernel⟩

end World

end VaultWatch
