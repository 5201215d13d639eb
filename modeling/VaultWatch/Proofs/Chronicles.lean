import VaultWatch.Proofs.Calls
import VaultWatch.Proofs.Tallies

/-!
# The counters tell the truth

A manager counts as it goes: the transactions in matched blocks, the updates by their results, the
receipts that a chain's resolver got or did not get, and the dispatches by how they ended. Nothing
reads these counters back, so nothing would notice one that is wrong.

A chronicle carries, beside a manager, the record that the counters are to agree with: for each
chain what the tasks of its watcher have told, and the reports of the dispatches that named it. What
an act adds to the record and what it adds to the counters is found from different things: the facts
come from the states before and after a move, and the fates of candidates from the answers alone.

A move counts what it tells (`Watcher.counts_of_move?`), and all other acts but completed dispatches
keep the counters (`Manager.keeps_act`). So the books of a chronicle are kept along its run, and the
main statement is `Chronicle.truthful_run`.
-/

namespace VaultWatch

/-! ### A manager and its record -/

namespace Manager

/-- The act as it is when others leave the counters alone. -/
def Act.sparing (counters : Counters) : Act → Act
  | .elsewhere hub => .elsewhere { hub with counters }
  | a => a

/-- What a move of a chain's watcher tells, if it can be made. -/
def told (m : Manager) (chain : String) (move : Move) : List Fact :=
  match m.find? chain with
  | some w =>
    match w.move? m.hub move with
    | some (after, _) => w.facts m.hub after (.move move)
    | none => []
  | none => []

/-- What the tasks of a chain's watcher tell in an act. -/
def factsOf (m : Manager) (chain : String) : Act → List Fact
  | .move name move => if name = chain then m.told name move else []
  | _ => []

/-- The dispatch on a chain that an act completes. -/
def Act.reportOn (chain : String) : Act → List SubmissionReport
  | .dispatched name report => if name = chain then [report] else []
  | _ => []

end Manager

/-- A manager in the middle of a run. Beside it stands, for each chain, what the tasks of its
watcher have told and how the dispatches have ended that named it, oldest first. -/
structure Chronicle where
  manager : Manager
  facts : String → List Fact
  reports : String → List SubmissionReport

namespace Chronicle

/-- A manager without chains. All counters are zero. -/
def start (capacity : Nat) : Chronicle := ⟨.start capacity, fun _ => [], fun _ => []⟩

/-- The manager after an act, with what the act adds to the record. Nobody else counts. -/
def step (c : Chronicle) (a : Manager.Act) : Chronicle where
  manager := c.manager.act (a.sparing c.manager.hub.counters)
  facts chain := c.facts chain ++ c.manager.factsOf chain a
  reports chain := c.reports chain ++ a.reportOn chain

/-- The manager after some acts. -/
def run (c : Chronicle) (acts : List Manager.Act) : Chronicle := acts.foldl step c

/-- The matched blocks composed for a chain. -/
def composed (c : Chronicle) (chain : String) : List DepositBlock :=
  ((c.facts chain).filterMap Fact.concluded?).filter DepositBlock.isMatch

/-- The updates produced for a chain. -/
def notices (c : Chronicle) (chain : String) : List TrackNotice :=
  (c.facts chain).filterMap Fact.notice?

/-- The number of repeated attempts that the watcher of a chain makes at a receipt. -/
def maxRetry (c : Chronicle) (chain : String) : Nat :=
  ((c.manager.find? chain).map (·.settings.maxReceiptRetry)).getD 0

/-- What the answers have decided that the watcher of a chain has heard. -/
def settlement (c : Chronicle) (chain : String) : Settlement :=
  Settlement.start.hearAll (c.maxRetry chain) ((c.facts chain).filterMap Fact.answer?)

/-- The counters of a chain are what its record says. -/
structure Truthful (c : Chronicle) (chain : String) : Prop where
  /-- The transactions in matched blocks. -/
  matched : c.manager.hub.counters.matched.count chain =
    ((c.composed chain).map (·.txs.length)).sum
  /-- The updates with each result. -/
  trackUpdates : ∀ result, c.manager.hub.counters.trackUpdates.count (chain, result) =
    (c.notices chain).countP (·.result = result)
  /-- The candidates that got a receipt, and those that did not. -/
  receipts : ∀ fate, c.manager.hub.counters.receipts.count (chain, fate) =
    (c.settlement chain).fates.countP (receiptFate ·.2 = fate)
  /-- Every candidate whose resolution has finished is counted once. -/
  finished : c.manager.hub.counters.receipts.count (chain, .resolved) +
    c.manager.hub.counters.receipts.count (chain, .dropped) = (c.settlement chain).fates.length
  /-- The completed dispatches with each outcome. -/
  dispatches : ∀ fault, c.manager.hub.counters.dispatches.count (chain, fault) =
    (c.reports chain).countP (·.error = fault)
  /-- Every completed dispatch is counted once. -/
  dispatched : ((none :: DispatchFault.all.map some).map fun fault =>
    c.manager.hub.counters.dispatches.count (chain, fault)).sum = (c.reports chain).length
  /-- A dispatch that named the chain at any earlier moment goes on record when it is completed,
  whether the chain is running or not and whatever the nodes have answered. -/
  completes : ∀ (early : Manager) (request : Submission) (asked : List Exchange)
    (finish : Manager → SubmissionReport × Manager), request.chain = chain →
    (early.call (.dispatch request)).ComesTo asked finish → ∃ report,
      finish c.manager = (report, (c.step (.dispatched chain report)).manager) ∧
        (c.step (.dispatched chain report)).reports chain = c.reports chain ++ [report]

/-! ### The books -/

/-- What is kept along a run. -/
structure Books (c : Chronicle) : Prop where
  named : c.manager.Named
  absent : ∀ chain, c.manager.find? chain = none → c.facts chain = []
  heard : ∀ chain w, c.manager.find? chain = some w → w.resolver.Heard (c.settlement chain)
  matched : ∀ chain, c.manager.hub.counters.matched.count chain =
    (((c.facts chain).filterMap Fact.concluded?).map (·.txs.length)).sum
  trackUpdates : ∀ chain result, c.manager.hub.counters.trackUpdates.count (chain, result) =
    (c.notices chain).countP (·.result = result)
  receipts : ∀ chain fate, c.manager.hub.counters.receipts.count (chain, fate) =
    (c.settlement chain).fates.countP (receiptFate ·.2 = fate)
  dispatches : ∀ chain fault, c.manager.hub.counters.dispatches.count (chain, fault) =
    (c.reports chain).countP (·.error = fault)

end Chronicle

namespace Manager

variable {m m' : Manager} {chain other : String} {w w' : Watcher}

/-- Nothing is counted that adds up, and no watcher hears an answer; one that is added has not heard
any. -/
structure Keeps (m m' : Manager) : Prop where
  tallies : m'.hub.counters.tallies = m.hub.counters.tallies
  absent : ∀ chain, m'.find? chain = none → m.find? chain = none
  present : ∀ chain w', m'.find? chain = some w' →
    (∃ w, m.find? chain = some w ∧ w'.settings = w.settings ∧ w'.resolver = w.resolver) ∨
      (m.find? chain = none ∧ w'.resolver = .waiting)

theorem Keeps.of_watchers_eq (hwatchers : m'.watchers = m.watchers)
    (htallies : m'.hub.counters.tallies = m.hub.counters.tallies) : m.Keeps m' := by
  have hfind : ∀ chain, m'.find? chain = m.find? chain := fun chain => by
    rw [find?, find?, hwatchers]
  exact ⟨htallies, fun chain h => (hfind chain) ▸ h,
    fun chain w' h => .inl ⟨w', (hfind chain) ▸ h, rfl, rfl⟩⟩

theorem Keeps.put {hub : Hub} (hfind : m.find? chain = some w)
    (hsettings : w'.settings = w.settings) (hresolver : w'.resolver = w.resolver)
    (htallies : hub.counters.tallies = m.hub.counters.tallies) :
    m.Keeps { m.put chain w' with hub } := by
  have hself : (m.put chain w').find? chain = some w' := by
    rw [find?_put_self, hfind, Option.map_some]
  refine ⟨htallies, fun other h => ?_, fun other w'' h => ?_⟩
  · by_cases hother : other = chain
    · subst hother
      exact absurd (hself.symm.trans h) nofun
    · exact (find?_put_of_ne m w' hother).symm.trans h
  · by_cases hother : other = chain
    · subst hother
      obtain rfl : w' = w'' := Option.some.inj (hself.symm.trans h)
      exact .inl ⟨w, hfind, hsettings, hresolver⟩
    · exact .inl ⟨w'', (find?_put_of_ne m w' hother).symm.trans h, rfl, rfl⟩

theorem keeps_cancel (m : Manager) : m.Keeps m.cancel := by
  refine ⟨rfl, fun chain h => ?_, fun chain w' h => ?_⟩
  · exact Option.map_eq_none_iff.mp ((m.find?_cancel chain).symm.trans h)
  · obtain ⟨w, hfind, rfl⟩ := Option.map_eq_some_iff.mp ((m.find?_cancel chain).symm.trans h)
    exact .inl ⟨w, hfind, rfl, rfl⟩

theorem keeps_startChain (m : Manager) (settings : ChainPlan) (codec : Codec)
    (probes : List (String × Option Bool)) : m.Keeps (m.startChain settings codec probes).2 := by
  simp only [startChain]
  split
  · exact .of_watchers_eq rfl rfl
  · rename_i hnew
    split
    · exact .of_watchers_eq rfl rfl
    · split
      · exact .of_watchers_eq rfl rfl
      · refine ⟨rfl, fun other h => ?_, fun other w' h => ?_⟩
        · rw [find?_added] at h
          exact (Option.or_eq_none_iff.mp h).1
        · rw [find?_added] at h
          rcases Option.or_eq_some_iff.mp h with hold | ⟨hnone, hadded⟩
          · exact .inl ⟨w', hold, rfl, rfl⟩
          · obtain ⟨-, heq⟩ := Option.ite_none_right_eq_some.mp hadded
            cases heq
            exact .inr ⟨hnone, rfl⟩

/-- All acts but moves of tasks and completed dispatches keep the counters. -/
theorem keeps_act {a : Act} (hmove : ∀ chain move, a ≠ .move chain move)
    (hdispatched : ∀ chain report, a ≠ .dispatched chain report) :
    m.Keeps (m.act (a.sparing m.hub.counters)) := by
  cases a with
  | startChain settings codec probes => exact m.keeps_startChain settings codec probes
  | move chain move => exact absurd rfl (hmove chain move)
  | dispatched chain report => exact absurd rfl (hdispatched chain report)
  | track chain hash =>
    simp only [Act.sparing, act, track, watcher]
    cases hfind : m.find? chain with
    | none => exact .of_watchers_eq rfl rfl
    | some w => exact .put hfind rfl rfl rfl
  | moveVault chain address token =>
    simp only [Act.sparing, act, moveVault, watcher]
    cases hfind : m.find? chain with
    | none => exact .of_watchers_eq rfl rfl
    | some w =>
      simp only [Watcher.moveVault, Hub.writeVault]
      by_cases hserves : m.hub.serves .writeVault = true
      · rw [if_pos hserves]
        exact .put hfind rfl rfl rfl
      · rw [if_neg hserves]
        exact .put hfind rfl rfl rfl
  | switchVault chain address =>
    simp only [Act.sparing, act]
    cases hfind : m.find? chain with
    | none => exact .of_watchers_eq rfl rfl
    | some w => exact .put hfind rfl rfl rfl
  | heardGasPrice chain before answer =>
    simp only [Act.sparing, act, heardGasPrice, watcher]
    cases hfind : m.find? chain with
    | none => exact .of_watchers_eq rfl rfl
    | some w => exact .put hfind rfl rfl rfl
  | cancel => exact m.keeps_cancel
  | takeStreams | closeOutbound | drain | elsewhere _ => exact .of_watchers_eq rfl rfl

end Manager

namespace Chronicle

variable {c : Chronicle} {m : Manager}

theorem Books.keep (h : c.Books) (hnamed : m.Named) (hkeeps : c.manager.Keeps m) :
    Books ⟨m, c.facts, c.reports⟩ := by
  have hsettlement : ∀ chain, settlement ⟨m, c.facts, c.reports⟩ chain = c.settlement chain := by
    intro chain
    cases hfind : m.find? chain with
    | none =>
      rw [settlement, settlement, maxRetry, maxRetry, hfind, hkeeps.absent chain hfind]
    | some w' =>
      rcases hkeeps.present chain w' hfind with ⟨w, hold, hsettings, -⟩ | ⟨hnew, -⟩
      · rw [settlement, settlement, maxRetry, maxRetry, hfind, hold, Option.map_some,
          Option.map_some, hsettings]
      · rw [settlement, settlement, h.absent chain hnew]
        rfl
  obtain ⟨-, -, -, hreceipts, hmatched, hupdates, hdispatches⟩ := Counters.mk.inj hkeeps.tallies
  refine ⟨hnamed, fun chain hnone => h.absent chain (hkeeps.absent chain hnone),
    fun chain w' hfind => ?_, fun chain => ?_, fun chain result => ?_, fun chain fate => ?_,
    fun chain fault => ?_⟩
  · rw [hsettlement]
    rcases hkeeps.present chain w' hfind with ⟨w, hold, -, hresolver⟩ | ⟨hnew, hresolver⟩
    · rw [hresolver]
      exact h.heard chain w hold
    · rw [hresolver, settlement, h.absent chain hnew]
      exact .inr rfl
  · rw [hmatched]
    exact h.matched chain
  · rw [hupdates]
    exact h.trackUpdates chain result
  · rw [hsettlement, hreceipts]
    exact h.receipts chain fate
  · rw [hdispatches]
    exact h.dispatches chain fault

/-- A task of a chain's watcher has made a move that tells some facts. -/
def moved (c : Chronicle) (chain : String) (w : Watcher) (hub : Hub) (facts : List Fact) :
    Chronicle where
  manager := { c.manager.put chain w with hub }
  facts other := c.facts other ++ if chain = other then facts else []
  reports := c.reports

section Moved

variable {chain other : String} {w w' : Watcher} {hub : Hub} {facts : List Fact}

theorem find?_moved_self (hfind : c.manager.find? chain = some w) :
    (c.moved chain w' hub facts).manager.find? chain = some w' := by
  refine (c.manager.find?_put_self chain w').trans ?_
  rw [hfind, Option.map_some]

theorem find?_moved_of_ne (hne : other ≠ chain) :
    (c.moved chain w' hub facts).manager.find? other = c.manager.find? other :=
  c.manager.find?_put_of_ne w' hne

theorem facts_moved_self : (c.moved chain w' hub facts).facts chain = c.facts chain ++ facts := by
  simp only [moved, if_true]

theorem facts_moved_of_ne (hne : other ≠ chain) :
    (c.moved chain w' hub facts).facts other = c.facts other := by
  simp only [moved, hne.symm, if_false, List.append_nil]

theorem settlement_moved_self (hfind : c.manager.find? chain = some w)
    (hsettings : w'.settings = w.settings) :
    (c.moved chain w' hub facts).settlement chain =
      (c.settlement chain).hearAll w.settings.maxReceiptRetry (facts.filterMap Fact.answer?) := by
  rw [settlement, settlement, maxRetry, maxRetry, find?_moved_self hfind, hfind, facts_moved_self,
    Option.map_some, Option.map_some, hsettings, List.filterMap_append, Settlement.hearAll_append]
  rfl

theorem settlement_moved_of_ne (hne : other ≠ chain) :
    (c.moved chain w' hub facts).settlement other = c.settlement other := by
  rw [settlement, settlement, maxRetry, maxRetry, find?_moved_of_ne hne, facts_moved_of_ne hne]

/-- A move of a task adds to the counters of its chain what it adds to the record. -/
theorem Books.moved (h : c.Books) (hnamed : (c.moved chain w' hub facts).manager.Named)
    (hfind : c.manager.find? chain = some w) (hcounts : w.Counts c.manager.hub facts w' hub)
    (hsettings : w'.settings = w.settings) : (c.moved chain w' hub facts).Books := by
  obtain ⟨fates, hgrows, hheard⟩ := hcounts.grows
  obtain ⟨hafter, hfates⟩ := hheard (c.settlement chain) (h.heard chain w hfind)
  rw [h.named.chain_eq hfind] at hgrows
  refine ⟨hnamed, fun other hnone => ?_, fun other w'' hfind' => ?_, fun other => ?_,
    fun other result => ?_, fun other fate => ?_, fun other fault => ?_⟩
  · by_cases hother : other = chain
    · rw [hother, find?_moved_self hfind] at hnone
      cases hnone
    · rw [find?_moved_of_ne hother] at hnone
      rw [facts_moved_of_ne hother]
      exact h.absent other hnone
  · by_cases hother : other = chain
    · rw [hother, find?_moved_self hfind] at hfind'
      rw [hother, settlement_moved_self hfind hsettings, ← Option.some.inj hfind']
      exact hafter
    · rw [find?_moved_of_ne hother] at hfind'
      rw [settlement_moved_of_ne hother]
      exact h.heard other w'' hfind'
  · refine (hgrows.matched other).trans ?_
    by_cases hother : other = chain
    · rw [if_pos hother, hother, facts_moved_self, List.filterMap_append, List.map_append,
        List.sum_append, h.matched]
    · rw [if_neg hother, Nat.add_zero, facts_moved_of_ne hother, h.matched]
  · refine (hgrows.trackUpdates other result).trans ?_
    by_cases hother : other = chain
    · rw [if_pos hother, hother, notices, facts_moved_self, List.filterMap_append,
        List.countP_append, h.trackUpdates]
      rfl
    · rw [if_neg hother, Nat.add_zero, notices, facts_moved_of_ne hother, h.trackUpdates]
      rfl
  · refine (hgrows.receipts other fate).trans ?_
    by_cases hother : other = chain
    · have hcounted := congrArg (List.countP (· = fate)) hfates
      rw [List.countP_append, List.countP_map, List.countP_map] at hcounted
      rw [if_pos hother, hother, settlement_moved_self hfind hsettings, h.receipts]
      exact hcounted.symm
    · rw [if_neg hother, Nat.add_zero, settlement_moved_of_ne hother, h.receipts]
  · refine (congrArg (Series.count · (other, fault)) hgrows.dispatches).trans ?_
    exact h.dispatches other fault

end Moved

theorem Books.dispatched (h : c.Books) (chain : String) (report : SubmissionReport) :
    Books ⟨c.manager.dispatched chain report, c.facts,
      fun other => c.reports other ++ if chain = other then [report] else []⟩ := by
  refine ⟨h.named, h.absent, h.heard, h.matched, h.trackUpdates, h.receipts,
    fun other fault => ?_⟩
  have hcount := c.manager.hub.counters.dispatches.count_add_one chain other report.error fault
  refine hcount.trans ?_
  rw [h.dispatches, List.countP_append]
  by_cases hother : other = chain
  · rw [if_pos hother, if_pos hother.symm]
    rfl
  · rw [if_neg hother, if_neg (Ne.symm hother)]
    rfl

/-- A move of a task that can be made, and nothing otherwise. -/
theorem step_move (c : Chronicle) (chain : String) (move : Move) :
    c.step (.move chain move) = c ∨
      ∃ w w' hub, c.manager.find? chain = some w ∧
        w.move? c.manager.hub move = some (w', hub) ∧
        c.step (.move chain move) =
          c.moved chain w' hub (w.facts c.manager.hub w' (.move move)) := by
  have hstep : c.step (.move chain move) =
      ⟨(c.manager.move? chain move).getD c.manager,
        fun other => c.facts other ++ if chain = other then c.manager.told chain move else [],
        c.reports⟩ :=
    congrArg (Chronicle.mk _ _) (funext fun other => List.append_nil _)
  -- without a move nothing is told
  have hrest : c.manager.move? chain move = none → c.manager.told chain move = [] →
      c.step (.move chain move) = c := by
    intro hmove htold
    rw [hstep, hmove, htold]
    simp only [ite_self, List.append_nil]
    rfl
  cases hfind : c.manager.find? chain with
  | none =>
    left
    refine hrest ?_ ?_
    · simp only [Manager.move?, hfind]
      rfl
    · simp only [Manager.told, hfind]
  | some w =>
    cases hmove : w.move? c.manager.hub move with
    | none =>
      left
      refine hrest ?_ ?_
      · simp only [Manager.move?, hfind, Option.bind_eq_bind, Option.bind_some, hmove]
        rfl
      · simp only [Manager.told, hfind, hmove]
    | some after =>
      refine .inr ⟨w, after.1, after.2, rfl, hmove, ?_⟩
      rw [hstep]
      simp only [Manager.move?, Manager.told, hfind, Option.bind_eq_bind, Option.bind_some, hmove]
      rfl

theorem Books.step (h : c.Books) (a : Manager.Act) : (c.step a).Books := by
  have hnamed := Manager.named_act h.named (a.sparing c.manager.hub.counters)
  have hfacts : (fun chain => c.facts chain ++ []) = c.facts :=
    funext fun chain => List.append_nil _
  have hreports : (fun chain => c.reports chain ++ []) = c.reports :=
    funext fun chain => List.append_nil _
  cases a with
  | move chain move =>
    rcases c.step_move chain move with hnothing | ⟨w, w', hub, hfind, hmove, hmoved⟩
    · rw [hnothing]
      exact h
    · have hhappen : w.happen? c.manager.hub (.move move) = some (w', hub) := hmove
      have hsettings := (Watcher.occurs_of_happen? hhappen).settings_eq
      rw [hmoved]
      refine h.moved ?_ hfind (Watcher.counts_of_move? hmove) hsettings
      have hmanager := congrArg Chronicle.manager hmoved
      exact hmanager ▸ hnamed
  | dispatched chain report =>
    change Books ⟨_, fun chain => c.facts chain ++ [], _⟩
    rw [hfacts]
    exact h.dispatched chain report
  | _ =>
    change Books ⟨_, fun chain => c.facts chain ++ [], fun chain => c.reports chain ++ []⟩
    rw [hfacts, hreports]
    exact h.keep hnamed (c.manager.keeps_act nofun nofun)

theorem books_start (capacity : Nat) : (start capacity).Books := by
  have hnone : ∀ chain, (start capacity).manager.find? chain = none := fun _ => rfl
  have hsettlement : ∀ chain, (start capacity).settlement chain = .start := fun _ => rfl
  refine ⟨fun e he => absurd he List.not_mem_nil, fun _ _ => rfl, fun chain w hfind => ?_,
    fun _ => rfl, fun _ _ => rfl, fun chain fate => ?_, fun _ _ => rfl⟩
  · rw [hnone] at hfind
    cases hfind
  · rw [hsettlement]
    rfl

theorem books_run (capacity : Nat) (acts : List Manager.Act) :
    ((start capacity).run acts).Books := by
  have hstart := books_start capacity
  generalize start capacity = c at hstart
  induction acts generalizing c with
  | nil => exact hstart
  | cons a acts ih => exact ih (c.step a) (hstart.step a)

/-- The report that a dispatch is answered with is the one that goes on record. -/
theorem completes (c : Chronicle) {chain : String} {early : Manager} {request : Submission}
    {asked : List Exchange} {finish : Manager → SubmissionReport × Manager}
    (hchain : request.chain = chain)
    (h : (early.call (.dispatch request)).ComesTo asked finish) : ∃ report,
      finish c.manager = (report, (c.step (.dispatched chain report)).manager) ∧
        (c.step (.dispatched chain report)).reports chain = c.reports chain ++ [report] := by
  obtain ⟨_, report, _, -, -, hlast⟩ := h.of_bind
  cases hlast
  subst hchain
  refine ⟨report, rfl, ?_⟩
  simp only [step, Manager.Act.reportOn, if_true]

/-- **The counters tell the truth**, at every moment of every run of a manager and for every
chain. -/
theorem truthful_run (capacity : Nat) (acts : List Manager.Act) (chain : String) :
    ((start capacity).run acts).Truthful chain := by
  have hbooks := books_run capacity acts
  generalize (start capacity).run acts = c at hbooks
  refine ⟨?_, hbooks.trackUpdates chain, hbooks.receipts chain, ?_, hbooks.dispatches chain, ?_,
    fun early request asked finish hchain h => c.completes hchain h⟩
  · rw [hbooks.matched chain, composed, DepositBlock.sum_txs_filter]
  · have hall : ∀ fate : ReceiptFate, fate ∈ [ReceiptFate.resolved, .dropped] := by
      rintro (_ | _) <;> decide
    have hsum := sum_map_countP (fun f : BlockTx × Option Receipt => receiptFate f.2) (by decide)
      hall (c.settlement chain).fates
    rw [hbooks.receipts, hbooks.receipts, ← hsum]
    rfl
  · have hall : ∀ fault : Option DispatchFault, fault ∈ none :: DispatchFault.all.map some := by
      rintro (_ | _ | _) <;> decide
    simp only [hbooks.dispatches]
    exact sum_map_countP SubmissionReport.error (by decide) hall (c.reports chain)

end Chronicle

end VaultWatch
