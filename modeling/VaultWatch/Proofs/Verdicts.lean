import Mathlib.Data.List.Infix
import Mathlib.Data.List.Perm.Basic
import VaultWatch.Proofs.Observations
import VaultWatch.Proofs.Tracked.Recency

/-!
# Verdicts on a batch

The reporter judges the results of a batch one after the other, and each judgement may confirm the
transaction that it is about. Still all verdicts are decided by the watchlist with which the batch
began: `Watchlist.classify` says how, from that watchlist and the results in front. The main
statement is `World.classified_of_finishes`, which follows a batch from its first result until the
reporter waits again, whatever the other tasks do meanwhile: which updates and deposits come of it,
in which order, and what is known of the tracked transactions afterwards.

The induction is on the events. `World.Progress` says how far the batch has come; what carries it is
`Watchlist.judge_judgeAll`: a result judged after others gets the verdict of the first watchlist.
-/

namespace VaultWatch

/-! ### Confirming several transactions -/

/-- What is known of a transaction that was there, if it was seen or not. -/
def Wait.after (seen : Bool) (wait : Wait) : Wait := if seen then .confirmed else wait

theorem Wait.after_after (seen again : Bool) (wait : Wait) :
    (wait.after seen).after again = wait.after (seen || again) := by
  cases seen <;> cases again <;> rfl

namespace Tracked

/-- An entry after the transactions of some keys were seen. -/
def settle (seen : String → Bool) (e : String × Wait) : String × Wait :=
  (e.1, e.2.after (seen e.1))

variable (t : Tracked) (hash other : String)

/-- A confirmation confirms what is known under the key, and leaves all else as it is. -/
theorem find?_confirm : (t.confirm hash).2.find? other =
    (t.find? other).map (Wait.after (t.key hash == t.key other)) := by
  by_cases hkey : t.key hash = t.key other
  · have hfind : t.find? other = t.find? hash := by rw [find?, find?, hkey]
    have hafter : (t.confirm hash).2.find? other = (t.confirm hash).2.find? hash := by
      have hsame := key_eq_of_foldCase_eq (t.foldCase_confirm hash)
      rw [find?, find?, hsame, hkey]
    rw [hkey, beq_self_eq_true, hfind, hafter]
    cases hwait : t.find? hash with
    | none => rw [confirm_of_find?_eq_none t hash hwait, hwait, Option.map_none]
    | some wait =>
      rw [find?_confirm_self t hash hwait]
      rfl
  · rw [t.find?_confirm_of_ne (Ne.symm hkey), beq_eq_false_iff_ne.mpr hkey]
    exact Option.map_id'.symm

/-- What is not seen stays as it is. -/
theorem map_settle_eq_self {seen : String → Bool} {entries : List (String × Wait)}
    (h : ∀ e ∈ entries, seen e.1 = false) : entries.map (settle seen) = entries := by
  refine (List.map_congr_left fun e he => ?_).trans entries.map_id
  rw [settle, h e he]
  rfl

/-- An entry among entries with different keys, and the others. -/
theorem perm_cons_without {entries : List (String × Wait)} (hnodup : (entries.map (·.1)).Nodup)
    {e : String × Wait} (he : e ∈ entries) : entries.Perm (e :: without e.1 entries) := by
  have hothers : entries.erase e = without e.1 entries := by
    rw [(List.Nodup.of_map _ hnodup).erase_eq_filter]
    refine List.filter_congr fun other hother => ?_
    rw [Bool.eq_iff_iff, bne_iff_ne, bne_iff_ne, not_iff_not]
    exact ⟨congrArg Prod.fst, List.inj_on_of_nodup_map hnodup hother he⟩
  rw [← hothers]
  exact List.perm_cons_erase he

/-- A confirmation moves an entry, and changes no other. -/
theorem entries_confirm_perm (hnodup : t.keys.Nodup) :
    (t.confirm hash).2.entries.Perm (t.entries.map (settle (t.key hash == ·))) := by
  cases hfind : t.find? hash with
  | none =>
    have habsent := (t.find?_eq_none_iff hash).mp hfind
    have hsame : t.entries.map (settle (t.key hash == ·)) = t.entries :=
      map_settle_eq_self fun e he =>
        beq_eq_false_iff_ne.mpr fun heq => habsent (heq ▸ List.mem_map_of_mem he)
    rw [confirm_of_find?_eq_none t hash hfind, hsame]
  | some wait =>
    have hothers : (without (t.key hash) t.entries).map (settle (t.key hash == ·)) =
        without (t.key hash) t.entries :=
      map_settle_eq_self fun e he =>
        beq_eq_false_iff_ne.mpr (bne_iff_ne.mp (List.mem_filter.mp he).2).symm
    have hperm := (perm_cons_without hnodup (t.mem_of_find?_eq_some hash hfind)).map
      (settle (t.key hash == ·))
    rw [List.map_cons, hothers, settle, beq_self_eq_true] at hperm
    rw [confirm_of_find?_eq_some t hash hfind]
    exact hperm.symm

/-- A confirmation leaves the keys there, in another order. -/
theorem keys_confirm_perm (hnodup : t.keys.Nodup) : (t.confirm hash).2.keys.Perm t.keys := by
  have hperm := (t.entries_confirm_perm hash hnodup).map Prod.fst
  rw [List.map_map] at hperm
  exact hperm

end Tracked

/-! ### Judging several results -/

namespace Watchlist

/-- The watchlist after some results have been judged, one after the other. -/
def judgeAll (w : Watchlist) (results : List ResolvedTx) : Watchlist :=
  results.foldl (fun w result => (w.judge result).2) w

/-- Some result is about the transaction kept under a key. -/
def mentions (w : Watchlist) (results : List ResolvedTx) (key : String) : Bool :=
  results.any fun result => w.tracked.key result.tx.hash == key

/-- **The verdict on a result**, from the watchlist with which its batch began and the results in
front of it: an awaited transaction comes to its end where it occurs first, one that was awaited or
confirmed is passed over otherwise, and of any other the recipient decides. -/
def classify (w : Watchlist) (earlier : List ResolvedTx) (result : ResolvedTx) : Verdict :=
  match w.tracked.find? result.tx.hash with
  | some (.awaited _) =>
    if w.mentions earlier (w.tracked.key result.tx.hash) then .reported
    else .outcome (ending result.receipt)
  | some .confirmed => .reported
  | none =>
    match result.tx.recipient with
    | some recipient =>
      if w.vaultIs recipient then .deposit (observed result.tx recipient result.receipt)
      else .unrelated
    | none => .unrelated

/-- The verdicts on the results of a batch, in order. -/
def verdicts (w : Watchlist) (results : List ResolvedTx) : List Verdict :=
  results.mapIdx fun i result => w.classify (results.take i) result

variable (w : Watchlist) (results : List ResolvedTx) (result : ResolvedTx)

theorem judgeAll_cons : w.judgeAll (result :: results) = (w.judge result).2.judgeAll results := rfl

theorem judgeAll_concat :
    w.judgeAll (results ++ [result]) = ((w.judgeAll results).judge result).2 :=
  List.foldl_concat ..

theorem verdicts_concat :
    w.verdicts (results ++ [result]) = w.verdicts results ++ [w.classify results result] := by
  rw [verdicts, List.mapIdx_concat, List.take_left, verdicts]
  congr 1
  refine List.ext_getElem (by simp) fun i h _ => ?_
  have hi : i ≤ results.length := by simpa using Nat.le_of_lt h
  rw [List.getElem_mapIdx, List.getElem_mapIdx, List.take_append_of_le_length hi]

@[simp]
theorem length_verdicts : (w.verdicts results).length = results.length := List.length_mapIdx

/-- Judgements change entries only. -/
theorem judgeAll_frame : (w.judgeAll results).vault = w.vault ∧
    (w.judgeAll results).tracked.foldCase = w.tracked.foldCase ∧
      (w.judgeAll results).tracked.capacity = w.tracked.capacity := by
  induction results generalizing w with
  | nil => exact ⟨rfl, rfl, rfl⟩
  | cons result results ih =>
    obtain ⟨hvault, hcase, hcapacity⟩ := ih (w.judge result).2
    rw [judgeAll_cons, hvault, hcase, hcapacity, judge_snd]
    exact ⟨rfl, w.tracked.foldCase_confirm _, w.tracked.capacity_confirm _⟩

theorem key_judge : (w.judge result).2.tracked.key = w.tracked.key := by
  rw [judge_tracked]
  exact Tracked.key_eq_of_foldCase_eq (w.tracked.foldCase_confirm result.tx.hash)

theorem mentions_cons (key : String) : w.mentions (result :: results) key =
    (w.tracked.key result.tx.hash == key || (w.judge result).2.mentions results key) := by
  rw [mentions, mentions, List.any_cons, key_judge]

/-- What is known of a transaction after some results: it is confirmed if it was known and some
result is about it. -/
theorem find?_judgeAll (hash : String) : (w.judgeAll results).tracked.find? hash =
    (w.tracked.find? hash).map (Wait.after (w.mentions results (w.tracked.key hash))) := by
  induction results generalizing w with
  | nil => exact Option.map_id'.symm
  | cons result results ih =>
    rw [judgeAll_cons, ih, key_judge, judge_tracked, Tracked.find?_confirm, Option.map_map,
      mentions_cons]
    exact congrArg (Option.map · _) (funext fun wait => wait.after_after _ _)

/-- **The first watchlist decides.** -/
theorem judge_judgeAll (earlier : List ResolvedTx) :
    ((w.judgeAll earlier).judge result).1 = w.classify earlier result := by
  have hafter := w.find?_judgeAll earlier result.tx.hash
  cases hfind : w.tracked.find? result.tx.hash with
  | none =>
    have hvault : (w.judgeAll earlier).vaultIs = w.vaultIs := by
      obtain ⟨hvault, hcase, -⟩ := w.judgeAll_frame earlier
      funext address
      simp only [vaultIs, addressesAgree, hvault, hcase]
    rw [hfind, Option.map_none] at hafter
    rw [judge_of_unknown _ _ hafter, hvault, classify]
    cases result.tx.recipient <;> simp only [hfind]
  | some wait =>
    rw [hfind, Option.map_some] at hafter
    rw [classify, hfind]
    cases hseen : w.mentions earlier (w.tracked.key result.tx.hash) with
    | true =>
      rw [hseen] at hafter
      rw [judge_of_confirmed _ _ hafter]
      cases wait <;> rfl
    | false =>
      rw [hseen] at hafter
      cases wait with
      | awaited since => exact judge_of_awaited _ _ hafter
      | confirmed => exact judge_of_confirmed _ _ hafter

/-- Judgements move entries and confirm those that are mentioned; no entry comes or goes. -/
theorem entries_judgeAll_perm (hnodup : w.tracked.keys.Nodup) :
    (w.judgeAll results).tracked.entries.Perm
      (w.tracked.entries.map (Tracked.settle (w.mentions results))) := by
  induction results generalizing w with
  | nil =>
    have hnothing : w.tracked.entries.map (Tracked.settle (w.mentions [])) = w.tracked.entries :=
      Tracked.map_settle_eq_self fun e _ => rfl
    exact List.Perm.of_eq hnothing.symm
  | cons result results ih =>
    have hconfirm := w.tracked.entries_confirm_perm result.tx.hash hnodup
    have hkeys := w.tracked.keys_confirm_perm result.tx.hash hnodup
    rw [← judge_tracked] at hconfirm hkeys
    have hrest := ih (w.judge result).2 (hkeys.nodup_iff.mpr hnodup)
    rw [judgeAll_cons]
    refine (hrest.trans (hconfirm.map _)).trans (List.Perm.of_eq ?_)
    rw [List.map_map]
    refine List.map_congr_left fun e _ => Prod.ext rfl ?_
    rw [Function.comp_apply, Tracked.settle, Tracked.settle, Tracked.settle, Wait.after_after,
      mentions_cons]

end Watchlist

/-! ### A batch from beginning to end -/

/-- The event neither tracks a transaction, nor switches the vault, nor stops the tasks. -/
def Event.sparesWatch : Event → Bool
  | .track _ | .switchVault _ | .cancel => false
  | _ => true

namespace Watcher

/-- The updates for the results of a batch, in order. -/
def updatesFor (w : Watcher) (height : UInt64) (results : List ResolvedTx) : List TrackNotice :=
  (results.zip (w.watchlist.verdicts results)).filterMap fun p => w.updateFor height p.1.tx p.2

/-- What is left of a batch when some of its results are judged, and these are the rest. -/
def partOf (w : Watcher) (batch : ResolvedBlock) (done rest : List ResolvedTx) : PartBatch :=
  ⟨batch.height, batch.blockHash, rest, (w.watchlist.verdicts done).filterMap depositOf⟩

/-- The deposits of a batch as they are announced. -/
def depositsOf (w : Watcher) (batch : ResolvedBlock) : DepositBlock :=
  ⟨w.chain, batch.height, batch.blockHash,
    (w.watchlist.verdicts batch.results).filterMap depositOf⟩

variable {w w' : Watcher} {hub hub' : Hub} {event : Event} {facts : List Fact}

theorem updatesFor_concat (w : Watcher) (height : UInt64) (results : List ResolvedTx)
    (result : ResolvedTx) : w.updatesFor height (results ++ [result]) =
      w.updatesFor height results ++
        (w.updateFor height result.tx (w.watchlist.classify results result)).toList := by
  rw [updatesFor, w.watchlist.verdicts_concat, List.zip_append (by simp), List.filterMap_append]
  rfl

/-- While nobody calls or cancels, only the reporter changes what is looked for and what is told. -/
theorem Occurs.reports_or_aside (h : w.Occurs hub event facts w' hub')
    (hspares : event.sparesWatch = true) :
    w.Reports hub facts w' hub' ∨
      (w'.watchlist = w.watchlist ∧ w'.reporter = w.reporter ∧ w'.cancelled = w.cancelled ∧
        ∀ f ∈ facts, f.isAside = true ∧ f.notice? = none) := by
  cases h with
  | report h => exact .inl h
  | fetch h => cases h <;> exact .inr ⟨rfl, rfl, rfl, by simp [Fact.isAside, Fact.notice?]⟩
  | select h => cases h <;> exact .inr ⟨rfl, rfl, rfl, by simp [Fact.isAside, Fact.notice?]⟩
  | resolve h => cases h <;> exact .inr ⟨rfl, rfl, rfl, by simp [Fact.isAside, Fact.notice?]⟩
  | track | switchVault | cancel => cases hspares
  | refresh | heardGasPrice | elsewhere => exact .inr ⟨rfl, rfl, rfl, by simp⟩

end Watcher

namespace World

/-- The events bring the reporter to its next wait, and nobody calls or cancels meanwhile. -/
def Finishes (s : World) : List Event → Prop
  | [] => s.watcher.reporter.stage = .waiting
  | event :: events =>
    s.watcher.reporter.stage ≠ .waiting ∧ event.sparesWatch = true ∧
      (s.step event).Finishes events

instance decidableFinishes (s : World) : (events : List Event) → Decidable (s.Finishes events)
  | [] => inferInstanceAs (Decidable (_ = _))
  | event :: events =>
    have := decidableFinishes (s.step event) events
    inferInstanceAs (Decidable (_ ∧ _ ∧ _))

/-- What is known at a world when some results of a batch have been judged, the first of which was
judged at another. -/
structure Judged (s : World) (height : UInt64) (results : List ResolvedTx) (t : World) : Prop where
  settings_eq : t.watcher.settings = s.watcher.settings
  cancelled_eq : t.watcher.cancelled = s.watcher.cancelled
  watchlist_eq : t.watcher.watchlist = s.watcher.watchlist.judgeAll results
  verdicts : t.judgements.map Judgement.verdict =
    s.judgements.map Judgement.verdict ++ s.watcher.watchlist.verdicts results
  notices : t.notices = s.notices ++ s.watcher.updatesFor height results

/-- How far a batch has come that the reporter began at a world. A matched block that is `refused`
need not be sent. -/
inductive Progress (s : World) (batch : ResolvedBlock) (refused : Prop) (t : World) : Prop where
  | judging {done rest : List ResolvedTx} (hresults : batch.results = done ++ rest)
      (hjudged : s.Judged batch.height done t)
      (hstage : t.watcher.reporter.stage = .judging (s.watcher.partOf batch done rest))
      (hconcluded : t.concluded = s.concluded) (hsent : t.sent = s.sent)
  | announcing (hjudged : s.Judged batch.height batch.results t)
      (hstage : t.watcher.reporter.stage = .announcing (s.watcher.depositsOf batch))
      (hidle : t.watcher.reporter.outgoing = none)
      (hmatch : (s.watcher.depositsOf batch).isMatch = true)
      (hconcluded : t.concluded = s.concluded ++ [s.watcher.depositsOf batch])
      (hsent : t.sent = s.sent)
  | handled (hjudged : s.Judged batch.height batch.results t)
      (hstage : t.watcher.reporter.stage = .waiting)
      (hconcluded : t.concluded = s.concluded ++ [s.watcher.depositsOf batch])
      (hsent : t.sent = s.sent ++ [s.watcher.depositsOf batch].filter DepositBlock.isMatch ∨
        t.sent = s.sent ∧ refused)

variable {s t : World} {batch : ResolvedBlock} {refused : Prop} {w : Watcher} {hub : Hub}
  {facts : List Fact}

/-- What is known stays known as long as nothing is judged. -/
theorem Judged.keep {height : UInt64} {results : List ResolvedTx} (h : s.Judged height results t)
    (hsettings : w.settings = t.watcher.settings) (hcancelled : w.cancelled = t.watcher.cancelled)
    (hwatchlist : w.watchlist = t.watcher.watchlist)
    (hquiet : ∀ f ∈ facts, f.judgement? = none ∧ f.notice? = none) :
    s.Judged height results ⟨w, hub, t.facts ++ facts⟩ := by
  have hjudgements : facts.filterMap Fact.judgement? = [] :=
    List.filterMap_eq_nil_iff.mpr fun f hf => (hquiet f hf).1
  have hnotices : facts.filterMap Fact.notice? = [] :=
    List.filterMap_eq_nil_iff.mpr fun f hf => (hquiet f hf).2
  refine ⟨hsettings.trans h.settings_eq, hcancelled.trans h.cancelled_eq,
    hwatchlist.trans h.watchlist_eq, ?_, ?_⟩
  · rw [World.judgements, List.filterMap_append, hjudgements, List.append_nil]
    exact h.verdicts
  · rw [World.notices, List.filterMap_append, hnotices, List.append_nil]
    exact h.notices

/-- One more result is judged: the verdict is that of the watchlist with which the batch began. -/
theorem Judged.judge {result : ResolvedTx} {done rest : List ResolvedTx}
    (h : s.Judged batch.height done t) (hresults : batch.results = done ++ result :: rest)
    (hconcluded : t.concluded = s.concluded) (hsent : t.sent = s.sent) :
    let part := s.watcher.partOf batch done (result :: rest)
    s.Progress batch refused
      ⟨(t.watcher.judge t.hub part result rest).1, (t.watcher.judge t.hub part result rest).2,
        t.facts ++ (.judged t.watcher.watchlist part.height part.blockHash result ::
          ((t.watcher.updateFor part.height result.tx
            (t.watcher.watchlist.judge result).1).map Fact.noticed).toList)⟩ := by
  intro part
  have hverdict : (t.watcher.watchlist.judge result).1 =
      s.watcher.watchlist.classify done result := by
    rw [h.watchlist_eq, Watchlist.judge_judgeAll]
  have hupdate : t.watcher.updateFor batch.height result.tx =
      s.watcher.updateFor batch.height result.tx := by
    funext verdict
    simp only [Watcher.updateFor, Watcher.chain, h.settings_eq]
  have hquiet : ∀ update : Option TrackNotice, ∀ f ∈ (update.map Fact.noticed).toList,
      f.isAside = true := by
    rintro (_ | update) f hf
    · cases hf
    · rw [List.mem_singleton.mp hf]
      rfl
  generalize hfacts : t.watcher.updateFor part.height result.tx _ = update
  obtain ⟨-, hjudgement, hnone, hnothing⟩ := Fact.aside_readings (hquiet update)
  have hnotice : (update.map Fact.noticed).toList.filterMap Fact.notice? = update.toList := by
    cases update <;> rfl
  refine .judging (hresults.trans (List.append_cons ..)) ⟨h.settings_eq, h.cancelled_eq, ?_, ?_, ?_⟩
    ?_ ?_ ?_
  · rw [Watchlist.judgeAll_concat, ← h.watchlist_eq]
    rfl
  · rw [World.judgements, List.filterMap_append, List.filterMap_cons, hjudgement, List.map_append,
      Watchlist.verdicts_concat, ← List.append_assoc, ← h.verdicts, ← hverdict]
    rfl
  · rw [World.notices, List.filterMap_append, List.filterMap_cons, hnotice,
      Watcher.updatesFor_concat, ← List.append_assoc, ← h.notices, ← hupdate, ← hverdict]
    exact congrArg (t.notices ++ Option.toList ·) hfacts.symm
  · have hdeposits :
        part.deposits ++ (Watcher.depositOf (t.watcher.watchlist.judge result).1).toList =
          (s.watcher.watchlist.verdicts (done ++ [result])).filterMap Watcher.depositOf := by
      rw [Watchlist.verdicts_concat, ← hverdict, List.filterMap_append]
      rfl
    rw [Watcher.partOf, ← hdeposits]
    rfl
  · rw [World.concluded, List.filterMap_append, List.filterMap_cons, hnone, ← hconcluded]
    exact List.append_nil _
  · rw [World.sent, List.filterMap_append, List.filterMap_cons, hnothing, ← hsent]
    exact List.append_nil _

/-- The batch is concluded: its deposits, if there are any, are announced next. -/
theorem Judged.conclude (h : s.Judged batch.height batch.results t)
    (hidle : t.watcher.reporter.outgoing = none) (hconcluded : t.concluded = s.concluded)
    (hsent : t.sent = s.sent) :
    let part := s.watcher.partOf batch batch.results []
    s.Progress batch refused ⟨(t.watcher.conclude t.hub part).1, (t.watcher.conclude t.hub part).2,
      t.facts ++ [.concluded (part.matchedBlock t.watcher.chain)]⟩ := by
  intro part
  have hblock : part.matchedBlock t.watcher.chain = s.watcher.depositsOf batch := by
    rw [Watcher.chain, h.settings_eq]
    rfl
  have hconcluded' : (t.facts ++ [Fact.concluded (s.watcher.depositsOf batch)]).filterMap
      Fact.concluded? = s.concluded ++ [s.watcher.depositsOf batch] := by
    rw [List.filterMap_append, ← hconcluded]
    rfl
  have hsent' : (t.facts ++ [Fact.concluded (s.watcher.depositsOf batch)]).filterMap
      Fact.sent? = s.sent := by
    rw [List.filterMap_append, ← hsent]
    exact List.append_nil _
  have hquiet : ∀ f ∈ [Fact.concluded (s.watcher.depositsOf batch)],
      f.judgement? = none ∧ f.notice? = none := by simp [Fact.judgement?, Fact.notice?]
  have hmatch : (s.watcher.depositsOf batch).isMatch = !part.deposits.isEmpty := rfl
  rw [hblock, Watcher.conclude]
  cases hempty : part.deposits.isEmpty with
  | true =>
    rw [hempty] at hmatch
    rw [if_pos rfl]
    refine .handled (h.keep rfl rfl rfl hquiet) rfl hconcluded' (.inl ?_)
    rw [List.filter_singleton, hmatch]
    exact hsent'.trans (List.append_nil _).symm
  | false =>
    rw [hempty] at hmatch
    rw [if_neg Bool.false_ne_true]
    exact .announcing (h.keep rfl rfl rfl hquiet) (congrArg Reporter.Stage.announcing hblock) hidle
      hmatch hconcluded' hsent'

/-- While results are left, the reporter judges the first, or waits for an update to go out; with
none left it concludes the batch. -/
theorem Judged.reports {done rest : List ResolvedTx} (h : s.Judged batch.height done t)
    (hresults : batch.results = done ++ rest)
    (hstage : t.watcher.reporter.stage = .judging (s.watcher.partOf batch done rest))
    (hconcluded : t.concluded = s.concluded) (hsent : t.sent = s.sent)
    (hreports : t.watcher.Reports t.hub facts w hub) :
    s.Progress batch refused ⟨w, hub, t.facts ++ facts⟩ := by
  cases hreports with
  | judge hstage' hidle hrest =>
    obtain rfl := Reporter.Stage.judging.inj (hstage'.symm.trans hstage)
    obtain rfl : rest = _ := hrest
    exact h.judge hresults hconcluded hsent
  | conclude hstage' hidle hrest =>
    obtain rfl := Reporter.Stage.judging.inj (hstage'.symm.trans hstage)
    obtain rfl : rest = [] := hrest
    obtain rfl : batch.results = done := by rw [hresults, List.append_nil]
    exact h.conclude hidle hconcluded hsent
  | sendUpdate _ _ | loseUpdate _ _ =>
    rw [List.append_nil]
    exact .judging hresults ⟨h.settings_eq, h.cancelled_eq, h.watchlist_eq, h.verdicts, h.notices⟩
      hstage hconcluded hsent
  | begin hstage' _ | fail hstage' _ | take hstage' _ _ | sweep hstage' _ _ | giveUp hstage' _
  | endSweep hstage' _ | announce hstage' _ | loseBlock hstage' _ | stop hstage' _ =>
    rw [hstage] at hstage'
    cases hstage'

/-- A matched block is sent, or lost when nobody wants it any more. -/
theorem Judged.announce (h : s.Judged batch.height batch.results t)
    (hstage : t.watcher.reporter.stage = .announcing (s.watcher.depositsOf batch))
    (hidle : t.watcher.reporter.outgoing = none)
    (hmatch : (s.watcher.depositsOf batch).isMatch = true)
    (hconcluded : t.concluded = s.concluded ++ [s.watcher.depositsOf batch])
    (hsent : t.sent = s.sent)
    (hgone : s.watcher.cancelled = true ∨ t.hub.matched.isOpen = false → refused)
    (hreports : t.watcher.Reports t.hub facts w hub) :
    s.Progress batch refused ⟨w, hub, t.facts ++ facts⟩ := by
  cases hreports with
  | announce hstage' _ =>
    obtain rfl := Reporter.Stage.announcing.inj (hstage'.symm.trans hstage)
    refine .handled (h.keep rfl rfl rfl (by simp [Fact.judgement?, Fact.notice?])) rfl ?_ (.inl ?_)
    · rw [World.concluded, List.filterMap_append, ← hconcluded]
      exact List.append_nil _
    · rw [World.sent, List.filterMap_append, List.filter_singleton, hmatch, ← hsent]
      rfl
  | loseBlock _ hlost =>
    rw [List.append_nil]
    exact .handled ⟨h.settings_eq, h.cancelled_eq, h.watchlist_eq, h.verdicts, h.notices⟩ rfl
      hconcluded (.inr ⟨hsent, hgone (hlost.imp_left (h.cancelled_eq.symm.trans ·))⟩)
  | sendUpdate hupdate _ | loseUpdate hupdate _ =>
    rw [hidle] at hupdate
    cases hupdate
  | begin hstage' _ | fail hstage' _ | take hstage' _ _ | judge hstage' _ _
  | conclude hstage' _ _ | sweep hstage' _ _ | giveUp hstage' _ | endSweep hstage' _
  | stop hstage' _ =>
    rw [hstage] at hstage'
    cases hstage'

/-- Other tasks do not touch the batch. -/
theorem Progress.aside (h : s.Progress batch refused t)
    (hsettings : w.settings = t.watcher.settings) (hcancelled : w.cancelled = t.watcher.cancelled)
    (hwatchlist : w.watchlist = t.watcher.watchlist) (hreporter : w.reporter = t.watcher.reporter)
    (haside : ∀ f ∈ facts, f.isAside = true ∧ f.notice? = none) :
    s.Progress batch refused ⟨w, hub, t.facts ++ facts⟩ := by
  obtain ⟨-, hjudgements, hnone, hnothing⟩ := Fact.aside_readings fun f hf => (haside f hf).1
  have hquiet : ∀ f ∈ facts, f.judgement? = none ∧ f.notice? = none := fun f hf =>
    ⟨List.filterMap_eq_nil_iff.mp hjudgements f hf, (haside f hf).2⟩
  have hconcluded' : World.concluded ⟨w, hub, t.facts ++ facts⟩ = t.concluded := by
    rw [World.concluded, List.filterMap_append, hnone, List.append_nil]
    rfl
  have hsent' : World.sent ⟨w, hub, t.facts ++ facts⟩ = t.sent := by
    rw [World.sent, List.filterMap_append, hnothing, List.append_nil]
    rfl
  cases h with
  | judging hresults hjudged hstage hconcluded hsent =>
    exact .judging hresults (hjudged.keep hsettings hcancelled hwatchlist hquiet)
      (hreporter ▸ hstage) (hconcluded'.trans hconcluded) (hsent'.trans hsent)
  | announcing hjudged hstage hidle hmatch hconcluded hsent =>
    exact .announcing (hjudged.keep hsettings hcancelled hwatchlist hquiet)
      (hreporter ▸ hstage) (hreporter ▸ hidle) hmatch (hconcluded'.trans hconcluded)
      (hsent'.trans hsent)
  | handled hjudged hstage hconcluded hsent =>
    exact .handled (hjudged.keep hsettings hcancelled hwatchlist hquiet) (hreporter ▸ hstage)
      (hconcluded'.trans hconcluded) (hsent'.symm ▸ hsent)

theorem Progress.step {event : Event} (h : s.Progress batch refused t)
    (hspares : event.sparesWatch = true) (hbusy : t.watcher.reporter.stage ≠ .waiting)
    (hgone : s.watcher.cancelled = true ∨ t.hub.matched.isOpen = false → refused) :
    s.Progress batch refused (t.step event) := by
  unfold World.step
  split
  · rename_i w hub hhappen
    have hoccurs := Watcher.occurs_of_happen? hhappen
    rcases hoccurs.reports_or_aside hspares with
      hreports | ⟨hwatchlist, hreporter, hcancelled, haside⟩
    · cases h with
      | judging hresults hjudged hstage hconcluded hsent =>
        exact hjudged.reports hresults hstage hconcluded hsent hreports
      | announcing hjudged hstage hidle hmatch hconcluded hsent =>
        exact hjudged.announce hstage hidle hmatch hconcluded hsent hgone hreports
      | handled _ hstage _ _ => exact absurd hstage hbusy
    · exact h.aside hoccurs.settings_eq hcancelled hwatchlist hreporter haside
  · exact h

/-- Whatever happens until the reporter waits again, the batch makes progress. -/
theorem Progress.run {events : List Event} (h : s.Progress batch refused t)
    (hfinishes : t.Finishes events)
    (hgone : ∀ before, before <+: events →
      s.watcher.cancelled = true ∨ (t.run before).hub.matched.isOpen = false → refused) :
    s.Progress batch refused (t.run events) := by
  induction events generalizing t with
  | nil => exact h
  | cons event events ih =>
    obtain ⟨hbusy, hspares, hlater⟩ := hfinishes
    refine ih (h.step hspares hbusy (hgone [] List.nil_prefix)) hlater fun before hbefore => ?_
    exact hgone (event :: before) ((List.prefix_cons_inj event).mpr hbefore)

theorem Finishes.stage_eq {events : List Event} (h : s.Finishes events) :
    (s.run events).watcher.reporter.stage = .waiting := by
  induction events generalizing s with
  | nil => exact h
  | cons event events ih => exact ih h.2.2

/-- What a batch has led to when it is handled: each of its results is judged by the watchlist with
which the batch began. -/
structure Classified (s : World) (batch : ResolvedBlock) (events : List Event) : Prop where
  /-- The verdicts are those of the first watchlist. -/
  verdicts : (s.run events).judgements.map Judgement.verdict =
    s.judgements.map Judgement.verdict ++ s.watcher.watchlist.verdicts batch.results
  /-- There is one update for each wait that ended, in batch order, and no other. -/
  notices : (s.run events).notices = s.notices ++ s.watcher.updatesFor batch.height batch.results
  /-- The deposits are composed to one matched block, in batch order, if there are any. -/
  composed : (s.run events).composed =
    s.composed ++ [s.watcher.depositsOf batch].filter DepositBlock.isMatch
  /-- It is sent, unless the watcher was cancelled before or the reader of the stream is gone. -/
  sent : (s.run events).sent = s.sent ++ [s.watcher.depositsOf batch].filter DepositBlock.isMatch ∨
    (s.run events).sent = s.sent ∧ (s.watcher.cancelled = true ∨
      ∃ before, before <+: events ∧ (s.run before).hub.matched.isOpen = false)
  /-- What was known of a transaction is known afterwards, but it is confirmed if a result of the
  batch was about it. -/
  find?_eq : ∀ hash, (s.run events).watcher.watchlist.tracked.find? hash =
    (s.watcher.watchlist.tracked.find? hash).map
      (Wait.after
        (s.watcher.watchlist.mentions batch.results (s.watcher.watchlist.tracked.key hash)))
  /-- The entries are the same otherwise, in some order. -/
  entries_perm : s.watcher.watchlist.tracked.keys.Nodup →
    (s.run events).watcher.watchlist.tracked.entries.Perm
      (s.watcher.watchlist.tracked.entries.map
        (Tracked.settle (s.watcher.watchlist.mentions batch.results)))
  vault_eq : (s.run events).watcher.watchlist.vault = s.watcher.watchlist.vault
  foldCase_eq : (s.run events).watcher.watchlist.tracked.foldCase =
    s.watcher.watchlist.tracked.foldCase
  capacity_eq : (s.run events).watcher.watchlist.tracked.capacity =
    s.watcher.watchlist.tracked.capacity

/-- **A batch is handled by the watchlist with which it began.** -/
theorem classified_of_finishes (s : World) (batch : ResolvedBlock) (events : List Event)
    (hstage : s.watcher.reporter.stage = .judging (.start batch))
    (hfinishes : s.Finishes events) : s.Classified batch events := by
  have hnothing : s.Judged batch.height [] s :=
    ⟨rfl, rfl, rfl, (List.append_nil _).symm, (List.append_nil _).symm⟩
  have hbegun : s.Progress batch (s.watcher.cancelled = true ∨
      ∃ before, before <+: events ∧ (s.run before).hub.matched.isOpen = false) s :=
    .judging (List.nil_append _).symm hnothing hstage rfl rfl
  have hended := hbegun.run hfinishes fun before hbefore =>
    Or.imp_right fun hclosed => ⟨before, hbefore, hclosed⟩
  cases hended with
  | judging _ _ hstage' _ _ | announcing _ hstage' _ _ _ _ =>
    rw [hfinishes.stage_eq] at hstage'
    cases hstage'
  | handled hjudged _ hconcluded hsent =>
    obtain ⟨hvault, hcase, hcapacity⟩ := s.watcher.watchlist.judgeAll_frame batch.results
    have hwatchlist := hjudged.watchlist_eq
    refine ⟨hjudged.verdicts, hjudged.notices, ?_, hsent, fun hash => ?_, fun hnodup => ?_,
      ?_, ?_, ?_⟩
    · rw [composed, composed, hconcluded, List.filter_append]
    · rw [hwatchlist, Watchlist.find?_judgeAll]
    · rw [hwatchlist]
      exact s.watcher.watchlist.entries_judgeAll_perm batch.results hnodup
    · rw [hwatchlist, hvault]
    · rw [hwatchlist, hcase]
    · rw [hwatchlist, hcapacity]

/-- Three results: of a tracked transaction, of the same in another spelling that pays the vault,
and of a payment to the vault. -/
def spelledTwice : ResolvedBlock :=
  ⟨7, "0x03", [⟨{ payment "0x05" with hash := "0x0a", raw := [5, 10] },
      { paymentReceipt with success := false }⟩,
    ⟨{ payment "0x04" with hash := "0X0A" }, paymentReceipt⟩,
    ⟨{ payment "0x04" with raw := [4] }, paymentReceipt⟩]⟩

/-- The reporter has just taken this batch. -/
def spelledTwiceTaken : World :=
  (localWorld none "0x04").run <|
    [.move (.report .begin), .track "0x0A"] ++
      fetchBlock 7 ⟨7, "0x03", none, spelledTwice.results.map ResolvedTx.tx⟩ ++ selectBlock ++
      [.move (.resolve .take)] ++
      (spelledTwice.results.map fun r => .move (.resolve (.heard (.ok r.receipt)))) ++
      [.move (.resolve .emit), .move (.report .take)]

/-- The first result ends the wait, the second one is passed over, and the third is a deposit. -/
theorem classified_spelledTwice :
    let events : List Event := [.move (.report .judge), .move (.report .sendUpdate),
      .move (.report .judge), .move (.report .judge), .move (.report .conclude),
      .elsewhere { spelledTwiceTaken.hub with now := 1 }, .move (.report .announce)]
    spelledTwiceTaken.Classified spelledTwice events ∧
      (spelledTwiceTaken.run events).notices = [⟨"local", "0x0a", 7, [5, 10], .failed⟩] ∧
      (spelledTwiceTaken.run events).sent =
        [⟨"local", 7, "0x03", [⟨"0x01", [4], "0x02", "0x04", true⟩]⟩] :=
  ⟨classified_of_finishes spelledTwiceTaken spelledTwice _ (by decide +kernel) (by decide +kernel),
    by decide +kernel, by decide +kernel⟩

end World

end VaultWatch
