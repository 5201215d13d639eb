import VaultWatch.Codec.Piped
import VaultWatch.Proofs.Deadlines
import VaultWatch.Proofs.Watchlist

/-!
# The passage of one block

A run in which a block with one payment passes through a watcher stage by stage: it is fetched and
looked through, the receipt of the payment is asked for, and the result is judged. Such runs show
what a watcher does not promise, and `localWorld` is a watcher to show it of, from a configuration
with one chain.
-/

namespace VaultWatch

theorem Channel.send?_empty {α : Type} (capacity : Nat) (item : α) :
    (Channel.empty capacity).send? item = some ⟨max capacity 1, [item], true⟩ := by
  have hroom : 0 < max capacity 1 := Nat.lt_of_lt_of_le Nat.zero_lt_one (Nat.le_max_right _ _)
  simp [send?, empty, hasRoom, hroom]

/-! ### A payment -/

/-- A transaction that pays an address. -/
def payment (address : String) : BlockTx := ⟨"0x01", [], "0x02", some address, .legacy 0⟩

/-- A block with nothing but a payment to an address. -/
def paymentBlock (address : String) : Block := ⟨0, "0x03", none, [payment address]⟩

/-- The receipt of a payment that succeeded. -/
def paymentReceipt : Receipt := ⟨"0x01", some 0, true⟩

namespace Watchlist

variable {w : Watchlist} {address : String}

theorem payments_paymentBlock (hvault : w.vault = some address) :
    w.payments (paymentBlock address) = [payment address] := by
  have hpays : w.paysVault (some address) = true := by
    simp only [paysVault, Option.any_some, vaultIs, hvault, addressesAgree_self]
  exact List.filter_cons_of_pos hpays

theorem job?_paymentBlock (hplain : w.IsPlain) (hvault : w.vault = some address) :
    w.job? (paymentBlock address) = some ⟨0, "0x03", [payment address]⟩ := by
  rw [job?, hplain.candidates_eq, payments_paymentBlock hvault]
  rfl

end Watchlist

/-! ### The stages -/

namespace World

variable (w : Watcher) (hub : Hub) (facts : List Fact)

/-- The head is told, and the block at its height is found and delivered. -/
def fetchBlock (height : UInt64) (block : Block) : List Event :=
  [.move (.fetch (.heardHead (.ok height))), .move (.fetch (.heardBlock (.ok block))),
    .move (.fetch .deliver)]

theorem run_fetchBlock (height : UInt64) (block : Block)
    (hstage : w.fetcher.stage = .askingHead) (hlimit : w.callLimit? ≠ none)
    (hblocks : w.blocks = .empty 1) :
    ∃ fetcher hub', (World.mk w hub facts).run (fetchBlock height block) =
      ⟨{ w with fetcher, blocks := ⟨1, [block], true⟩ }, hub',
        facts ++ [.head height, .delivered height block]⟩ := by
  have hpoll : ({ w.fetcher with stage := .askingBlock, cursor := height } : Fetcher).within
      w.settings.deadline = { w.fetcher with stage := .askingBlock, cursor := height } :=
    Fetcher.within_eq_self hlimit
  have hsend : w.blocks.send? block = some ⟨1, [block], true⟩ := by
    rw [hblocks, Channel.send?_empty]
    rfl
  simp only [fetchBlock, run_cons, run_nil, step, Watcher.happen?, Watcher.move?, Watcher.fetch?,
    hstage, Fetcher.heardHead, hpoll, Fetcher.heardBlock, hsend, Option.map_some, Watcher.facts,
    Watcher.fetchFacts, List.append_assoc]
  exact ⟨_, _, rfl⟩

/-- The block is looked through, and its candidates are queued. -/
def selectBlock : List Event := [.move (.select .take), .move (.select .queue)]

theorem run_selectBlock {block : Block} {job : PendingBlock} {room capacity : Nat} {isOpen : Bool}
    (hblocks : w.blocks = ⟨room, [block], isOpen⟩)
    (hselector : w.selector = .waiting) (hjob : w.watchlist.job? block = some job)
    (hjobs : w.jobs = .empty capacity) :
    ∃ fees, (World.mk w hub facts).run selectBlock =
      ⟨{ w with fees, blocks := ⟨room, [], isOpen⟩, jobs := ⟨max capacity 1, [job], true⟩ }, hub,
        facts ++ [.selected w.watchlist block]⟩ := by
  have hfound : Selector.found block (w.watchlist.candidates block) = .queueing job := by
    unfold Watchlist.job? at hjob
    unfold Selector.found
    split at hjob
    · cases hjob
    · rename_i hsome
      rw [if_neg hsome, Option.some.inj hjob]
  have hsend : w.jobs.send? job = some ⟨max capacity 1, [job], true⟩ := by
    rw [hjobs, Channel.send?_empty]
  have hreceive : w.blocks.receive? = some (block, ⟨room, [], isOpen⟩) := by
    rw [hblocks]
    rfl
  simp only [selectBlock, run_cons, run_nil, step, Watcher.happen?, Watcher.move?, Watcher.select?,
    hselector, hreceive, Watcher.select, hfound, hsend, Option.map_some, Watcher.facts,
    Watcher.selectFacts, Option.toList_some, List.append_nil]
  exact ⟨_, rfl⟩

/-- A block with nothing but a payment is fetched and looked through. -/
def offerPayment (address : String) : List Event :=
  fetchBlock 0 (paymentBlock address) ++ selectBlock

theorem run_offerPayment (address : String) {capacity : Nat}
    (hstage : w.fetcher.stage = .askingHead) (hlimit : w.callLimit? ≠ none)
    (hblocks : w.blocks = .empty 1) (hselector : w.selector = .waiting)
    (hjobs : w.jobs = .empty capacity) (hplain : w.watchlist.IsPlain)
    (hvault : w.watchlist.vault = some address) :
    ∃ fetcher fees hub', (World.mk w hub facts).run (offerPayment address) =
      ⟨{ w with
          fetcher
          fees
          blocks := ⟨1, [], true⟩
          jobs := ⟨max capacity 1, [⟨0, "0x03", [payment address]⟩], true⟩ }, hub',
        facts ++ [.head 0, .delivered 0 (paymentBlock address),
          .selected w.watchlist (paymentBlock address)]⟩ := by
  obtain ⟨fetcher, hub', hfetch⟩ :=
    run_fetchBlock w hub facts 0 (paymentBlock address) hstage hlimit hblocks
  obtain ⟨fees, hselect⟩ := run_selectBlock
    { w with fetcher, blocks := ⟨1, [paymentBlock address], true⟩ } hub'
    (facts ++ [.head 0, .delivered 0 (paymentBlock address)]) rfl hselector
    (Watchlist.job?_paymentBlock hplain hvault) hjobs
  refine ⟨fetcher, fees, hub', ?_⟩
  rw [offerPayment, run_append, hfetch, hselect, List.append_assoc]
  rfl

/-- The receipt of the only candidate is asked for and told. -/
def resolveBlock (receipt : Receipt) : List Event :=
  [.move (.resolve .take), .move (.resolve (.heard (.ok receipt)))]

theorem run_resolveBlock {height : UInt64} {blockHash : String} {tx : BlockTx}
    {room : Nat} {isOpen : Bool} (receipt : Receipt) (hresolver : w.resolver = .waiting)
    (hlimit : w.callLimit? ≠ none) (hjobs : w.jobs = ⟨room, [⟨height, blockHash, [tx]⟩], isOpen⟩) :
    ∃ hub', (World.mk w hub facts).run (resolveBlock receipt) =
      ⟨{ w with
          jobs := ⟨room, [], isOpen⟩
          resolver := .emitting ⟨height, blockHash, [⟨tx, receipt⟩]⟩ }, hub',
        facts ++ [.answered tx (.ok receipt)]⟩ := by
  have hreceive : w.jobs.receive? = some (⟨height, blockHash, [tx]⟩, ⟨room, [], isOpen⟩) := by
    rw [hjobs]
    rfl
  have hask : { w with jobs := ⟨room, [], isOpen⟩, resolver := .waiting }.turnResolver
      (.asking ⟨height, blockHash, [], tx, 0, []⟩) =
        { w with
          jobs := ⟨room, [], isOpen⟩
          resolver := .asking ⟨height, blockHash, [], tx, 0, []⟩ } :=
    Watcher.turnResolver_of_callLimit? _ _ hlimit
  simp only [resolveBlock, run_cons, run_nil, step, Watcher.happen?, Watcher.move?,
    Watcher.resolve?, hresolver, hreceive, Resolver.begin, Resolver.turnTo, hask, Watcher.facts,
    Watcher.resolveFacts, List.append_nil]
  exact ⟨_, rfl⟩

/-- The batch is handed on, taken, judged and concluded. -/
def reportBlock : List Event :=
  [.move (.resolve .emit), .move (.report .take), .move (.report .judge),
    .move (.report .conclude)]

theorem run_reportBlock {height : UInt64} {blockHash : String} {result : ResolvedTx}
    {capacity : Nat} (hresolver : w.resolver = .emitting ⟨height, blockHash, [result]⟩)
    (hbatches : w.batches = .empty capacity) (hstage : w.reporter.stage = .waiting)
    (hidle : w.reporter.outgoing = none)
    (hunknown : w.watchlist.tracked.find? result.tx.hash = none) :
    ((World.mk w hub facts).run reportBlock).facts = facts ++
      [.taken ⟨height, blockHash, [result]⟩, .judged w.watchlist height blockHash result,
        .concluded ⟨w.chain, height, blockHash,
          (Watcher.depositOf (w.watchlist.judge result).1).toList⟩] := by
  have hsend : w.batches.send? ⟨height, blockHash, [result]⟩ =
      some ⟨max capacity 1, [⟨height, blockHash, [result]⟩], true⟩ := by
    rw [hbatches, Channel.send?_empty]
  have hreceive : (⟨max capacity 1, [⟨height, blockHash, [result]⟩], true⟩ :
      Channel ResolvedBlock).receive? =
        some (⟨height, blockHash, [result]⟩, ⟨max capacity 1, [], true⟩) := rfl
  have hnotice : ∀ w' : Watcher,
      w'.updateFor height result.tx (w.watchlist.judge result).1 = none := by
    intro w'
    rw [w.watchlist.judge_of_unknown result hunknown]
    split
    · split <;> rfl
    · rfl
  simp only [reportBlock, run_cons, run_nil, step, Watcher.happen?, Watcher.move?,
    Watcher.resolve?, Watcher.report?, hresolver, hsend, hreceive, hstage, hidle, hnotice,
    Option.map_some, PartBatch.start, Watcher.judge, Reporter.judged, Watcher.facts,
    Watcher.resolveFacts, Watcher.reportFacts, Watcher.freshNotice, Option.toList_some,
    List.append_nil, List.isEmpty_nil, if_true, List.append_assoc]
  rfl

end World

/-! ### One chain -/

/-- The section of a chain that gives up tracked transactions after so many seconds. -/
def localChain (trackTimeoutSecs : Option Nat) : ChainSettings where
  name := "local"
  family := .evm
  rpcUrls := ["http://127.0.0.1"]
  feeMode := .legacy
  enabled := true
  trackTimeoutSecs

/-- A configuration with this chain only. -/
def localSettings (trackTimeoutSecs : Option Nat) : Settings where
  engine := {}
  database := none
  api := ⟨false, "127.0.0.1", 0⟩
  metrics := ⟨false, 0⟩
  chains := [("local", localChain trackTimeoutSecs)]

/-- The settings of the watcher of this chain. -/
def localPlan (trackTimeoutSecs : Option Nat) : ChainPlan :=
  .resolve (localChain trackTimeoutSecs) {}

theorem localPlan_mem_watchers (trackTimeoutSecs : Option Nat) :
    localPlan trackTimeoutSecs ∈ (localSettings trackTimeoutSecs).watchers :=
  List.mem_singleton.mpr rfl

/-- With the default multiple the deadlines are kept. -/
theorem keepsDeadlines_localPlan (trackTimeoutSecs : Option Nat) :
    (localPlan trackTimeoutSecs).KeepsDeadlines := by
  obtain ⟨hfactor, hinitial, hfloor⟩ : max ({} : EngineSettings).rpcTimeoutFactor 1 ≤ 1000 ∧
      ({} : EngineSettings).initialPollIntervalMs < UInt64.size ∧
        ({} : EngineSettings).minPollIntervalMs < UInt64.size := by decide
  exact ChainPlan.keepsDeadlines_of_le hfactor (Cadence.inWords_start hinitial hfloor _)

/-- The watcher of this chain before it runs. -/
def localWorld (trackTimeoutSecs : Option Nat) (vault : String) : World :=
  .start (localPlan trackTimeoutSecs) Piped.codec (.unconnected "local" ["http://127.0.0.1"])
    (some vault) (.start 1)

end VaultWatch
