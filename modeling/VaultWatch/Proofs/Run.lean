import VaultWatch.Watcher.Calls
import VaultWatch.Watcher.Move

/-!
# Runs of a watcher

A run is what happens to a watcher and its hub in any order: the moves of the watcher's tasks, the
calls on it, and whatever others do to the hub in the meantime (the clock advances, the outbound
streams are read or closed, other watchers send, count and store). An event that cannot happen when
its turn comes is passed over, so every list of events is a run and every schedule of the tasks is
among them.

A run also leaves a record. `Fact` lists what is worth telling about a run, in the order in which it
happened: which block was delivered for which height, what the selector looked through and with
which watchlist, how the queries for receipts were answered, what the reporter judged, gave up and
sent. The record adds nothing to the watcher: `World.step` only writes it down.
-/

namespace VaultWatch

/-! ### Events -/

/-- Something that happens to a watcher or to its hub. -/
inductive Event where
  /-- A task of the watcher makes a move. -/
  | move (move : Move)
  /-- A transaction is tracked from now on. -/
  | track (hash : String)
  /-- The watcher switches over to a vault whose address has been stored. The storing itself is a
  change of the hub that may come any time before. -/
  | switchVault (address : String)
  /-- The nodes tell a gas price that a fee estimate asked for, when this one was kept before. -/
  | heardGasPrice (before : Option Nat) (answer : Except CallError Nat)
  /-- Others change the hub. -/
  | elsewhere (hub : Hub)
  /-- All tasks are told to stop. -/
  | cancel

namespace Watcher

/-- The watcher and the hub after an event, if it can happen. -/
def happen? (w : Watcher) (hub : Hub) : Event → Option (Watcher × Hub)
  | .move move => w.move? hub move
  | .track hash => some (w.track hub.now hash, hub)
  | .switchVault address => some (w.switchVault address, hub)
  | .heardGasPrice before answer => some ((w.heardGasPrice before hub.now answer).2, hub)
  | .elsewhere hub => some (w, hub)
  | .cancel => some (w.cancel, hub)

/-- Setting the vault is a change of the hub and then a switch, or nothing at all when the store
refuses. -/
theorem moveVault_eq (w : Watcher) (hub : Hub) (address token : String) :
    (w.moveVault hub address token).2 = (w, hub) ∨
      ∃ stored, hub.writeVault w.chain address token = .ok stored ∧
        w.happen? hub (.elsewhere stored) = some (w, stored) ∧
        w.happen? stored (.switchVault address) = some (w.moveVault hub address token).2 := by
  unfold moveVault
  cases hwrite : hub.writeVault w.chain address token with
  | error e => exact .inl rfl
  | ok stored => exact .inr ⟨stored, rfl, rfl, rfl⟩

end Watcher

/-! ### Facts -/

/-- Something worth telling about a run. -/
inductive Fact where
  /-- The nodes told the height of the chain's head. -/
  | head (height : UInt64)
  /-- The selector's channel took the block found by the poll of a height. -/
  | delivered (height : UInt64) (block : Block)
  /-- A block was looked through with the watchlist of that moment. -/
  | selected (watchlist : Watchlist) (block : Block)
  /-- The query for the receipt of a candidate was answered. -/
  | answered (tx : BlockTx) (answer : Except CallError Receipt)
  /-- The reporter took a batch. -/
  | taken (batch : ResolvedBlock)
  /-- A result from the block of that height and hash was judged with the watchlist of that
  moment. -/
  | judged (watchlist : Watchlist) (height : UInt64) (blockHash : String) (result : ResolvedTx)
  /-- The batch taken last has been judged; these are its deposits, possibly none. -/
  | concluded (block : DepositBlock)
  /-- The outbound stream took a matched block. -/
  | sent (block : DepositBlock)
  /-- The update for the end of a wait was produced. -/
  | noticed (notice : TrackNotice)
  /-- A transaction was tracked with the watchlist of that moment. -/
  | tracked (watchlist : Watchlist) (now : Nat) (hash : String)
  /-- The watchlist of that moment gave up what had been awaited for so long. -/
  | swept (watchlist : Watchlist) (now maxAge : Nat)

/-- A judgement on a result from the block of that height and hash, with the watchlist of that
moment. -/
structure Judgement where
  watchlist : Watchlist
  height : UInt64
  blockHash : String
  result : ResolvedTx

/-- What a judgement says. -/
def Judgement.verdict (j : Judgement) : Verdict := (j.watchlist.judge j.result).1

/-- The job that a block makes; a block without candidates makes none. -/
def Watchlist.job? (w : Watchlist) (block : Block) : Option PendingBlock :=
  if (w.candidates block).isEmpty then none
  else some ⟨block.height, block.hash, w.candidates block⟩

namespace Fact

/-- The update that a fact tells of. -/
def notice? : Fact → Option TrackNotice
  | noticed notice => some notice
  | _ => none

/-- The height of the head that a fact tells. -/
def head? : Fact → Option UInt64
  | head height => some height
  | _ => none

/-- The height that a fact tells a block to be delivered for. -/
def height? : Fact → Option UInt64
  | delivered height _ => some height
  | _ => none

/-- The block that a fact tells to be delivered. -/
def delivered? : Fact → Option Block
  | delivered _ block => some block
  | _ => none

/-- The block that a fact tells to be looked through. -/
def selected? : Fact → Option Block
  | selected _ block => some block
  | _ => none

/-- The job that a fact tells to be made of a block; a block without candidates makes none. -/
def job? : Fact → Option PendingBlock
  | selected watchlist block => watchlist.job? block
  | _ => none

/-- The answer to a query for a receipt that a fact tells of. -/
def answer? : Fact → Option (BlockTx × Except CallError Receipt)
  | answered tx answer => some (tx, answer)
  | _ => none

/-- The batch that a fact tells to be taken. -/
def taken? : Fact → Option ResolvedBlock
  | taken batch => some batch
  | _ => none

/-- The judgement that a fact tells of. -/
def judgement? : Fact → Option Judgement
  | judged watchlist height blockHash result => some ⟨watchlist, height, blockHash, result⟩
  | _ => none

/-- The deposits, possibly none, that a fact tells to be all of a batch. -/
def concluded? : Fact → Option DepositBlock
  | concluded block => some block
  | _ => none

/-- The matched block that a fact tells to be sent. -/
def sent? : Fact → Option DepositBlock
  | sent block => some block
  | _ => none

/-- The watchlist of the moment that a fact tells of. -/
def watchlist? : Fact → Option Watchlist
  | selected watchlist _ => some watchlist
  | judged watchlist _ _ _ => some watchlist
  | tracked watchlist _ _ => some watchlist
  | swept watchlist _ _ => some watchlist
  | _ => none

/-- The hash that a fact tells to be tracked. -/
def trackedHash? : Fact → Option String
  | tracked _ _ hash => some hash
  | _ => none

end Fact

namespace Watcher

/-- The update that has just been produced. -/
def freshNotice (w : Watcher) : List Fact :=
  (w.reporter.outgoing.map Fact.noticed).toList

/-- What a move of the fetcher makes known. -/
def fetchFacts (w : Watcher) : FetchMove → List Fact
  | .heardHead (.ok height) => [.head height]
  | .deliver =>
    match w.fetcher.stage with
    | .delivering block => [.delivered w.fetcher.cursor block]
    | _ => []
  | _ => []

/-- What a move of the selector makes known. -/
def selectFacts (w : Watcher) : SelectMove → List Fact
  | .take => (w.blocks.receive?.map fun r => Fact.selected w.watchlist r.1).toList
  | _ => []

/-- What a move of the resolver makes known. -/
def resolveFacts (w : Watcher) : ResolveMove → List Fact
  | .heard answer =>
    match w.resolver with
    | .asking job => [.answered job.current answer]
    | _ => []
  | _ => []

/-- What a move of the reporter makes known, which leads to the watcher `after`. -/
def reportFacts (w : Watcher) (hub : Hub) (after : Watcher) : ReportMove → List Fact
  | .take => (w.batches.receive?.map fun r => Fact.taken r.1).toList
  | .judge =>
    match w.reporter.stage with
    | .judging batch =>
      (batch.rest.head?.map (Fact.judged w.watchlist batch.height batch.blockHash)).toList ++
        after.freshNotice
    | _ => []
  | .conclude =>
    match w.reporter.stage with
    | .judging batch => [.concluded (batch.matchedBlock w.chain)]
    | _ => []
  | .sweep => [.swept w.watchlist hub.now w.settings.trackTimeout]
  | .giveUp => after.freshNotice
  | .announce =>
    match w.reporter.stage with
    | .announcing block => [.sent block]
    | _ => []
  | _ => []

/-- What an event makes known, which leads to the watcher `after`. -/
def facts (w : Watcher) (hub : Hub) (after : Watcher) : Event → List Fact
  | .move (.fetch move) => w.fetchFacts move
  | .move (.select move) => w.selectFacts move
  | .move (.resolve move) => w.resolveFacts move
  | .move (.report move) => w.reportFacts hub after move
  | .track hash => [.tracked w.watchlist hub.now hash]
  | _ => []

end Watcher

/-! ### Worlds -/

/-- A watcher in the middle of a run: its hub, and the facts of the run so far, oldest first. -/
structure World where
  watcher : Watcher
  hub : Hub
  facts : List Fact

namespace World

/-- A watcher that has not run yet, with a hub in any state. -/
def start (settings : ChainPlan) (codec : Codec) (pool : Pool) (vault : Option String)
    (hub : Hub) : World :=
  ⟨.start settings codec pool vault, hub, []⟩

/-- The world after an event; one that cannot happen changes nothing. -/
def step (s : World) (event : Event) : World :=
  match s.watcher.happen? s.hub event with
  | some (w, hub) => ⟨w, hub, s.facts ++ s.watcher.facts s.hub w event⟩
  | none => s

/-- The world after some events. -/
def run (s : World) (events : List Event) : World := events.foldl step s

@[simp] theorem run_nil (s : World) : s.run [] = s := rfl

@[simp] theorem run_cons (s : World) (event : Event) (events : List Event) :
    s.run (event :: events) = (s.step event).run events := rfl

theorem run_append (s : World) (events later : List Event) :
    s.run (events ++ later) = (s.run events).run later :=
  List.foldl_append

/-- **Induction along a run**: what holds at first and is kept by each event of a kind holds after
every run of such events. -/
theorem run_induction {P : World → Prop} {K : Event → Prop} {s : World} {events : List Event}
    (hok : ∀ e ∈ events, K e) (hstart : P s) (hstep : ∀ t e, K e → P t → P (t.step e)) :
    P (s.run events) := by
  induction events generalizing s with
  | nil => exact hstart
  | cons e events ih =>
    have he : K e := hok e List.mem_cons_self
    exact ih (fun e' h => hok e' (List.mem_cons_of_mem e h)) (hstep s e he hstart)

/-! ### Readings of the record -/

/-- The updates produced so far, in order. -/
def notices (s : World) : List TrackNotice := s.facts.filterMap Fact.notice?

/-- The hashes tracked so far, in order, one for each call. -/
def tracks (s : World) : List String := s.facts.filterMap Fact.trackedHash?

/-- The heights of the head told so far, in order. -/
def heads (s : World) : List UInt64 := s.facts.filterMap Fact.head?

/-- The heights that blocks have been delivered for so far, in order. -/
def heights (s : World) : List UInt64 := s.facts.filterMap Fact.height?

/-- The blocks delivered so far, in order. -/
def delivered (s : World) : List Block := s.facts.filterMap Fact.delivered?

/-- The blocks looked through so far, in order. -/
def selected (s : World) : List Block := s.facts.filterMap Fact.selected?

/-- The jobs made so far, in order. -/
def jobs (s : World) : List PendingBlock := s.facts.filterMap Fact.job?

/-- The answers to queries for receipts so far, in order. -/
def answers (s : World) : List (BlockTx × Except CallError Receipt) :=
  s.facts.filterMap Fact.answer?

/-- The batches taken so far, in order. -/
def taken (s : World) : List ResolvedBlock := s.facts.filterMap Fact.taken?

/-- The judgements made so far, in order. -/
def judgements (s : World) : List Judgement := s.facts.filterMap Fact.judgement?

/-- The deposits of each batch judged so far, in order. -/
def concluded (s : World) : List DepositBlock := s.facts.filterMap Fact.concluded?

/-- The matched blocks sent so far, in order. -/
def sent (s : World) : List DepositBlock := s.facts.filterMap Fact.sent?

/-- Facts are only ever added. -/
theorem facts_prefix_step (s : World) (e : Event) : s.facts <+: (s.step e).facts := by
  unfold step
  split
  · exact List.prefix_append _ _
  · exact List.prefix_refl _

theorem facts_prefix_run (s : World) (events : List Event) : s.facts <+: (s.run events).facts := by
  induction events generalizing s with
  | nil => exact List.prefix_refl _
  | cons e events ih => exact (s.facts_prefix_step e).trans (ih _)

end World

end VaultWatch
