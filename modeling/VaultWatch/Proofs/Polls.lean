import Mathlib.Data.List.Basic
import Mathlib.Data.List.Induction
import VaultWatch.Proofs.Heights
import VaultWatch.Proofs.Nodes
import VaultWatch.Proofs.Passage

/-!
# Polls

Where the delivered blocks come from. A block that is being delivered was the answer to the last
poll, and the cursor has stood at the height of that poll ever since (`found_of_delivering`); so
every delivered block was found by a poll of the height that it was delivered for. When nodes only
answer with blocks of the height that they were asked for, the heights of the blocks themselves
follow one after the other from the head on, and the cursor counts them (`deliveries_run`). Heights
are 64-bit words; the count holds as long as it stays below the last of them.
-/

namespace VaultWatch

/-- Whoever answers the poll of a height with a block answers with one of this height. -/
def Nodes.Honest {σ : Type} (nodes : Nodes σ) : Prop :=
  ∀ height s url block, nodes.tells (.block height) s url = some (.ok block) →
    block.height = height

/-! ### Heights as numbers -/

/-- Heights that stay below the last one do not wrap around. -/
theorem toNat_heightsFrom {first : UInt64} {count : Nat}
    (hbelow : ∀ height ∈ heightsFrom first count, height.toNat < UInt64.size - 1) :
    (heightsFrom first count).map UInt64.toNat = List.range' first.toNat count ∧
      (first + UInt64.ofNat count).toNat = first.toNat + count := by
  induction count with
  | zero => exact ⟨rfl, congrArg UInt64.toNat (UInt64.add_zero first)⟩
  | succ count ih =>
    rw [heightsFrom_succ] at hbelow ⊢
    obtain ⟨hheights, hlast⟩ := ih fun height h => hbelow height (List.mem_append_left _ h)
    have hroom := hbelow _ (List.mem_append_right _ (List.mem_singleton_self _))
    rw [hlast] at hroom
    refine ⟨?_, ?_⟩
    · rw [List.map_append, hheights, List.map_singleton, hlast, List.range'_concat, Nat.one_mul]
    · rw [UInt64.ofNat_add, ← UInt64.add_assoc, UInt64.toNat_add, hlast]
      exact Nat.mod_eq_of_lt (Nat.add_lt_of_lt_sub hroom)

/-! ### Steps of the fetcher -/

/-- A fetcher that goes down instead of asking does not deliver. -/
theorem Fetcher.delivering_of_within {f : Fetcher} {deadline : Deadline} {block : Block}
    (h : (f.within deadline).stage = .delivering block) : f.stage = .delivering block := by
  rcases f.within_cases deadline with heq | ⟨-, heq⟩
  · rwa [heq] at h
  · rw [heq] at h
    cases h

namespace Watcher

variable {w w' : Watcher} {hub hub' : Hub}

/-- The cursor moves only when a head is told or a block delivered. -/
theorem Fetches.cursor_eq (h : w.Fetches hub [] w' hub') :
    w'.fetcher.cursor = w.fetcher.cursor := by
  cases h with
  | @heardBlock answer => cases answer <;> rfl
  | _ => rfl

/-- A block is delivered for the height at the cursor. -/
theorem Occurs.delivering_of_mem {event : Event} {facts : List Fact} {height : UInt64}
    {block : Block} (h : w.Occurs hub event facts w' hub')
    (hmem : Fact.delivered height block ∈ facts) :
    w.fetcher.stage = .delivering block ∧ height = w.fetcher.cursor := by
  rcases h.fetches_or with ⟨-, h⟩ | ⟨-, hnone⟩
  · cases h with
    | heardHead | failHead => cases List.mem_singleton.mp hmem
    | deliver hstage =>
      cases List.mem_singleton.mp hmem
      exact ⟨hstage, rfl⟩
    | _ => cases hmem
  · cases (hnone _ hmem).2

/-- Only a block that was just found gets the fetcher to deliver. -/
theorem delivering_of_fetch? {move : FetchMove} {block : Block}
    (h : w.fetch? hub move = some (w', hub')) (hstage : w'.fetcher.stage = .delivering block) :
    move = .heardBlock (.ok block) ∧ w.query? .fetch = some (.block w'.fetcher.cursor) := by
  cases move with
  | heardBlock answer =>
    simp only [fetch?] at h
    split at h
    · rename_i hasking
      cases h
      cases answer with
      | error e => cases hstage
      | ok found =>
        cases hstage
        refine ⟨rfl, ?_⟩
        rw [query?, Fetcher.query?, hasking]
        rfl
    · cases h
  | heardHead answer =>
    simp only [fetch?] at h
    split at h
    · cases h
      cases answer with
      | ok height => cases Fetcher.delivering_of_within hstage
      | error e => cases Fetcher.delivering_of_within hstage
    · cases h
  | deliver =>
    simp only [fetch?] at h
    split at h
    · obtain ⟨blocks, -, heq⟩ := Option.map_eq_some_iff.mp h
      cases heq
      cases hstage
    · cases h
  | abandon =>
    simp only [fetch?] at h
    split at h
    · split at h <;> cases h
      cases hstage
    · cases h
  | askHead | askBlock =>
    simp only [fetch?] at h
    split at h
    · split at h <;> cases h
      cases Fetcher.delivering_of_within hstage
    · cases h
  | cancel =>
    simp only [fetch?] at h
    split at h <;> cases h
    cases hstage

end Watcher

namespace World

/-- What gets the fetcher to deliver, or leaves it delivering, leaves the cursor where it is. -/
theorem step_delivering {s : World} {event : Event} {block : Block}
    (h : (s.step event).watcher.fetcher.stage = .delivering block) :
    s.watcher.fetcher.stage = .delivering block ∧
        (s.step event).watcher.fetcher.cursor = s.watcher.fetcher.cursor ∨
      event = .move (.fetch (.heardBlock (.ok block))) ∧
        s.watcher.query? .fetch = some (.block (s.step event).watcher.fetcher.cursor) := by
  unfold step at h ⊢
  split at h
  · rename_i w hub hhappen
    rcases (Watcher.occurs_of_happen? hhappen).fetches_or with ⟨⟨move, rfl⟩, -⟩ | ⟨hsame, -⟩
    · obtain ⟨rfl, hquery⟩ := Watcher.delivering_of_fetch? hhappen h
      exact .inr ⟨rfl, hquery⟩
    · exact .inl ⟨hsame ▸ h, congrArg Fetcher.cursor hsame⟩
  · exact .inl ⟨h, rfl⟩

/-- Everything but a head that is told and a block that is delivered leaves the cursor and the
delivered blocks as they are: an answer without a block, whatever the reason, and a delivery that is
cut off too. -/
theorem step_of_not_deliver (s : World) {event : Event}
    (hhead : ∀ height, event ≠ .move (.fetch (.heardHead (.ok height))))
    (hdeliver : event ≠ .move (.fetch .deliver)) :
    (s.step event).delivered = s.delivered ∧
      (s.step event).watcher.fetcher.cursor = s.watcher.fetcher.cursor := by
  unfold step
  split
  · rename_i w hub hhappen
    have hoccurs := Watcher.occurs_of_happen? hhappen
    rcases hoccurs.fetches_or with ⟨⟨move, rfl⟩, hfetches⟩ | ⟨hsame, hnone⟩
    · have hquiet : s.watcher.facts s.hub w (.move (.fetch move)) = [] := by
        cases move with
        | heardHead answer =>
          cases answer with
          | ok height => exact absurd rfl (hhead height)
          | error e => rfl
        | deliver => exact absurd rfl hdeliver
        | _ => rfl
      rw [hquiet] at hfetches ⊢
      exact ⟨by rw [delivered, List.append_nil, delivered], hfetches.cursor_eq⟩
    · refine ⟨?_, congrArg Fetcher.cursor hsame⟩
      have hdelivered : (s.watcher.facts s.hub w event).filterMap Fact.delivered? = [] := by
        refine List.filterMap_eq_nil_iff.mpr fun f hf => ?_
        cases f with
        | delivered height block => cases (hnone _ hf).2
        | _ => rfl
      rw [delivered, List.filterMap_append, hdelivered, List.append_nil, delivered]
  · exact ⟨rfl, rfl⟩

/-! ### Runs of a fetcher from its start on -/

/-- A watcher in any state but for its fetcher, which has not asked anything yet. -/
def fetching (w : Watcher) (cadence : Cadence) (hub : Hub) : World :=
  ⟨{ w with fetcher := .start cadence }, hub, []⟩

/-- A run answers each poll of a block with what a call to the nodes comes to. The pool is the one
that the call began with, which may have been refreshed since. -/
def PolledFrom (s : World) (nodes : Nodes (List Event)) (events : List Event) : Prop :=
  ∀ before answer later height,
    events = before ++ .move (.fetch (.heardBlock answer)) :: later →
    (s.run before).watcher.query? .fetch = some (.block height) →
    answer = (nodes.call (.block height) before).1

/-- A run has found a block by the poll of a height. -/
def Found (s : World) (events : List Event) (height : UInt64) (block : Block) : Prop :=
  ∃ before later, events = before ++ .move (.fetch (.heardBlock (.ok block))) :: later ∧
    (s.run before).watcher.query? .fetch = some (.block height)

/-- A healthy endpoint has answered the poll of a height with a block. -/
def FoundAt (s : World) (nodes : Nodes (List Event)) (events : List Event) (height : UInt64)
    (block : Block) : Prop :=
  ∃ before later url, events = before ++ .move (.fetch (.heardBlock (.ok block))) :: later ∧
    (s.run before).watcher.query? .fetch = some (.block height) ∧
    url ∈ (nodes.pool before).healthyUrls ∧
    nodes.tells (.block height) before url = some (.ok block)

variable {s : World} {nodes : Nodes (List Event)} {events : List Event} {height : UInt64}
  {block : Block}

theorem Found.append (h : s.Found events height block) (more : List Event) :
    s.Found (events ++ more) height block := by
  obtain ⟨before, later, rfl, hquery⟩ := h
  exact ⟨before, later ++ more, by rw [List.append_assoc, List.cons_append], hquery⟩

theorem Found.foundAt (h : s.Found events height block) (hpolled : s.PolledFrom nodes events) :
    s.FoundAt nodes events height block := by
  obtain ⟨before, later, hevents, hquery⟩ := h
  obtain ⟨url, hurl, htells⟩ :=
    Nodes.exists_of_call_eq_ok (hpolled before _ later height hevents hquery).symm
  exact ⟨before, later, url, hevents, hquery, hurl, htells⟩

theorem FoundAt.height_eq (h : s.FoundAt nodes events height block) (hhonest : nodes.Honest) :
    block.height = height := by
  obtain ⟨_, _, _, -, -, -, htells⟩ := h
  exact hhonest _ _ _ _ htells

variable {w : Watcher} {cadence : Cadence} {hub : Hub}

/-- A block that is being delivered was found by a poll of the height at the cursor. -/
theorem found_of_delivering
    (h : ((fetching w cadence hub).run events).watcher.fetcher.stage = .delivering block) :
    (fetching w cadence hub).Found events
      ((fetching w cadence hub).run events).watcher.fetcher.cursor block := by
  -- from the end on: the last event has found the block, or it was in hand before
  induction events using List.reverseRecOn with
  | nil => cases h
  | append_singleton events event ih =>
    rw [run_append, run_cons, run_nil] at h ⊢
    rcases step_delivering h with ⟨hdelivering, hcursor⟩ | ⟨rfl, hquery⟩
    · rw [hcursor]
      exact (ih hdelivering).append [event]
    · exact ⟨events, [], rfl, hquery⟩

/-- A delivered block was found by a poll of the height that it was delivered for. -/
theorem found_of_delivered
    (h : Fact.delivered height block ∈ ((fetching w cadence hub).run events).facts) :
    (fetching w cadence hub).Found events height block := by
  obtain ⟨past, rest, hfacts⟩ := List.append_of_mem h
  obtain ⟨before, event, later, made, after, _, _, rfl, -, hoccurs, -⟩ :=
    exists_moment hfacts (Nat.zero_le _)
  obtain ⟨hstage, rfl⟩ :=
    hoccurs.delivering_of_mem (List.mem_append_right made List.mem_cons_self)
  exact (found_of_delivering hstage).append _

/-- The blocks of honest nodes have the heights that they are delivered for. -/
theorem map_height_delivered (hpolled : (fetching w cadence hub).PolledFrom nodes events)
    (hhonest : nodes.Honest) :
    ((fetching w cadence hub).run events).delivered.map (·.height) =
      ((fetching w cadence hub).run events).heights := by
  rw [delivered, heights, List.map_filterMap]
  refine List.filterMap_congr fun f hf => ?_
  cases f with
  | delivered height block =>
    exact congrArg some (((found_of_delivered hf).foundAt hpolled).height_eq hhonest)
  | _ => rfl

/-- **Deliveries.** Whatever the nodes answer to the polls, as long as they answer with the blocks
they were asked for, and however answers, deliveries and everything else come: the heights of the
delivered blocks are those from the first head on that was told, without gap or repetition, the
cursor is that head and the number of delivered blocks, every delivered block was found by a poll of
its own height, and nothing but the delivery of a block moves the cursor once the head is known. -/
theorem deliveries_run (hpolled : (fetching w cadence hub).PolledFrom nodes events)
    (hhonest : nodes.Honest)
    (hbelow : ∀ block ∈ ((fetching w cadence hub).run events).delivered,
      block.height.toNat < UInt64.size - 1) :
    let s := (fetching w cadence hub).run events
    (s.heads = [] ∧ s.delivered = [] ∨
        ∃ first, s.heads = [first] ∧
          s.delivered.map (·.height.toNat) = List.range' first.toNat s.delivered.length ∧
          s.watcher.fetcher.cursor.toNat = first.toNat + s.delivered.length) ∧
      (∀ block ∈ s.delivered, (fetching w cadence hub).FoundAt nodes events block.height block) ∧
      ∀ event, (∀ height, event ≠ .move (.fetch (.heardHead (.ok height)))) →
        event ≠ .move (.fetch .deliver) →
        (s.step event).delivered = s.delivered ∧
          (s.step event).watcher.fetcher.cursor = s.watcher.fetcher.cursor := by
  intro s
  have hheights : s.delivered.map (·.height) = s.heights := map_height_delivered hpolled hhonest
  have hlength := s.length_delivered
  refine ⟨?_, fun block hmem => ?_, fun event => s.step_of_not_deliver⟩
  · have hstart : (fetching w cadence hub).watcher.fetcher.Stands [] [] := .untold trivial
    have hstands : s.watcher.fetcher.Stands s.heads s.heights := stands_run hstart events
    have hroom : ∀ height ∈ s.heights, height.toNat < UInt64.size - 1 := by
      rw [← hheights]
      exact List.forall_mem_map.mpr hbelow
    have hnumbers : s.delivered.map (·.height.toNat) = s.heights.map UInt64.toNat := by
      rw [← hheights, List.map_map]
      rfl
    rw [hnumbers, hlength]
    generalize s.heads = heads at hstands ⊢
    generalize s.heights = heights at hstands hroom hlength ⊢
    cases hstands with
    | untold _ => exact .inl ⟨rfl, List.eq_nil_of_length_eq_zero hlength⟩
    | @told first count _ hcursor =>
      obtain ⟨hrange, hlast⟩ := toNat_heightsFrom hroom
      rw [length_heightsFrom, hcursor]
      exact .inr ⟨first, rfl, hrange, hlast⟩
  · obtain ⟨fact, hfact, hblock⟩ := List.mem_filterMap.mp hmem
    cases fact with
    | delivered height found =>
      cases hblock
      have hfound := (found_of_delivered hfact).foundAt hpolled
      rwa [hfound.height_eq hhonest]
    | _ => cases hblock

/-- A block without transactions. -/
def emptyBlock (height : UInt64) : Block := ⟨height, "0x05", none, []⟩

/-- A node that has no block at first and every block after two events. -/
def lateNode : Nodes (List Event) :=
  .single fun
    | .block height, moment =>
      some (if moment.length < 2 then .error .notFound else .ok (emptyBlock height))
    | _, _ => none

theorem lateNode_honest : lateNode.Honest := by
  intro height moment url block htells
  have hanswer : (if moment.length < 2 then .error .notFound else .ok (emptyBlock height)) =
      (.ok block : Except CallError Block) := Option.some.inj htells
  split at hanswer <;> cases hanswer
  rfl

/-- The first poll comes too early, and the second one finds the block. -/
def missedPoll : List Event :=
  [.move (.fetch (.heardHead (.ok 7))), .move (.fetch (.heardBlock (.error .notFound))),
    .elsewhere { Hub.start 1 with now := 2000 }, .move (.fetch .askBlock),
    .move (.fetch (.heardBlock (.ok (emptyBlock 7)))), .move (.fetch .deliver)]

/-- The watcher of a configuration with one chain, before it polls. -/
def localFetching : World :=
  fetching (localWorld none "0x04").watcher (.start 1000 100 {}) (.start 1)

theorem missedPoll_polledFrom : localFetching.PolledFrom lateNode missedPoll := by
  intro before answer later height hevents hquery
  have hbefore : before = missedPoll.take before.length := by rw [hevents, List.take_left]
  have hanswer : missedPoll[before.length]? = some (.move (.fetch (.heardBlock answer))) := by
    rw [hevents, List.getElem?_append_right (Nat.le_refl _), Nat.sub_self]
    rfl
  generalize before.length = n at hbefore hanswer
  subst hbefore
  -- the second event and the fifth are answers to polls
  match n with
  | 0 | 2 | 3 | 5 => cases hanswer
  | 1 =>
    cases hanswer
    rfl
  | 4 =>
    cases hanswer
    obtain rfl : 7 = height := Query.block.inj (Option.some.inj hquery)
    rfl
  | n + 6 => cases hanswer

/-- A block that was missed once is delivered once. -/
theorem delivered_missedPoll :
    (localFetching.run missedPoll).delivered.map (·.height.toNat) = [7] ∧
      (localFetching.run missedPoll).watcher.fetcher.cursor.toNat = 8 := by
  have hdelivered : (localFetching.run missedPoll).delivered = [emptyBlock 7] := rfl
  have hhead : (localFetching.run missedPoll).heads = [7] := rfl
  have hbelow : ∀ block ∈ (localFetching.run missedPoll).delivered,
      block.height.toNat < UInt64.size - 1 := by
    rw [hdelivered]
    decide
  obtain ⟨⟨hnone, -⟩ | ⟨first, hfirst, hheights, hcursor⟩, -⟩ :=
    deliveries_run missedPoll_polledFrom lateNode_honest hbelow
  · cases hhead.symm.trans hnone
  · cases hhead.symm.trans hfirst
    exact ⟨hheights, hcursor⟩

end World

end VaultWatch
