import VaultWatch.Proofs.Step

/-!
# Heights

The fetcher asks for the chain's head until it is told, once, and from then on delivers the blocks
of one height after the other: none is left out and none comes twice, in whatever order answers,
misses and deliveries come. Heights are 64-bit words, and so is the sum in `heights_run`.
-/

namespace VaultWatch

/-- The heights from a first one on. -/
def heightsFrom (first : UInt64) (count : Nat) : List UInt64 :=
  (List.range count).map fun i => first + UInt64.ofNat i

theorem heightsFrom_succ (first : UInt64) (count : Nat) :
    heightsFrom first (count + 1) = heightsFrom first count ++ [first + UInt64.ofNat count] := by
  rw [heightsFrom, List.range_succ, List.map_append]
  rfl

@[simp]
theorem length_heightsFrom (first : UInt64) (count : Nat) :
    (heightsFrom first count).length = count := by
  rw [heightsFrom, List.length_map, List.length_range]

namespace Fetcher

/-- The fetcher has not been told the head yet, or has stopped before. -/
def isUntold (f : Fetcher) : Prop :=
  match f.stage with
  | .askingHead | .restingHead _ | .stopped => True
  | _ => False

/-- The fetcher has been told the head. -/
def isTold (f : Fetcher) : Prop :=
  match f.stage with
  | .askingHead | .restingHead _ => False
  | _ => True

/-- A fetcher that has not run yet asks for the head, or goes down. -/
theorem isUntold_start (cadence : Cadence) (deadline : Deadline) :
    ((start cadence).within deadline).isUntold := by
  obtain heq | ⟨-, heq⟩ := (start cadence).within_cases deadline
  · rw [heq]
    trivial
  · rw [heq]
    trivial

end Fetcher

/-- Where the fetcher stands, with the heights of heads told and of blocks delivered so far. -/
inductive Fetcher.Stands (f : Fetcher) : List UInt64 → List UInt64 → Prop where
  | untold (hstage : f.isUntold) : Stands f [] []
  | told {first : UInt64} {count : Nat} (hstage : f.isTold)
      (hcursor : f.cursor = first + UInt64.ofNat count) :
      Stands f [first] (heightsFrom first count)

namespace Watcher

/-- Every step of the fetcher takes it on. -/
theorem Fetches.stands {w w' : Watcher} {hub hub' : Hub} {facts : List Fact}
    {heads heights : List UInt64} (h : w.Fetches hub facts w' hub')
    (hs : w.fetcher.Stands heads heights) :
    w'.fetcher.Stands (heads ++ facts.filterMap Fact.head?)
      (heights ++ facts.filterMap Fact.height?) := by
  cases hs with
  | untold hstage =>
    unfold Fetcher.isUntold at hstage
    cases h with
    | @heardHead height _ | @failHead height _ _ =>
      change Fetcher.Stands _ [height] (heightsFrom height 0)
      exact .told trivial (UInt64.add_zero height).symm
    | missedHead _ => exact .untold trivial
    | askHead _ => exact .untold trivial
    | stop _ => exact .untold trivial
    | heardBlock h | deliver h _ | askBlock h =>
      rw [h] at hstage
      cases hstage
  | @told first count hstage hcursor =>
    unfold Fetcher.isTold at hstage
    cases h with
    | @heardBlock answer _ _ =>
      rw [List.filterMap_nil, List.append_nil, List.filterMap_nil, List.append_nil]
      cases answer <;> exact .told trivial hcursor
    | deliver _ _ =>
      simp only [Fact.head?, Fact.height?, List.filterMap_cons, List.filterMap_nil,
        List.append_nil, hcursor]
      rw [← heightsFrom_succ]
      refine .told trivial ?_
      change w.fetcher.cursor + 1 = _
      rw [hcursor, UInt64.ofNat_add, UInt64.add_assoc]
      rfl
    | askBlock _ | stop _ =>
      rw [List.filterMap_nil, List.append_nil, List.filterMap_nil, List.append_nil]
      exact .told trivial hcursor
    | heardHead h | failHead h _ | missedHead h | askHead h =>
      rw [h] at hstage
      cases hstage

/-- No other step concerns the fetcher. -/
theorem Occurs.fetches_or {w w' : Watcher} {hub hub' : Hub} {event : Event} {facts : List Fact}
    (h : w.Occurs hub event facts w' hub') :
    (∃ move, event = .move (.fetch move)) ∧ w.Fetches hub facts w' hub' ∨
      w'.fetcher = w.fetcher ∧ ∀ f ∈ facts, f.head? = none ∧ f.height? = none := by
  cases h with
  | fetch h => exact .inl ⟨⟨_, rfl⟩, h⟩
  | select h => cases h <;> exact .inr ⟨rfl, by simp [Fact.head?, Fact.height?]⟩
  | resolve h => cases h <;> exact .inr ⟨rfl, by simp [Fact.head?, Fact.height?]⟩
  | report h =>
    cases h with
    | conclude _ _ _ =>
      refine .inr ⟨?_, by simp [Fact.head?, Fact.height?]⟩
      unfold Watcher.conclude
      split <;> rfl
    | _ => exact .inr ⟨rfl, by simp [Fact.head?, Fact.height?]⟩
  | track => exact .inr ⟨rfl, by simp [Fact.head?, Fact.height?]⟩
  | _ => exact .inr ⟨rfl, by simp⟩

theorem Occurs.stands {w w' : Watcher} {hub hub' : Hub} {event : Event} {facts : List Fact}
    {heads heights : List UInt64} (h : w.Occurs hub event facts w' hub')
    (hs : w.fetcher.Stands heads heights) :
    w'.fetcher.Stands (heads ++ facts.filterMap Fact.head?)
      (heights ++ facts.filterMap Fact.height?) := by
  rcases h.fetches_or with ⟨-, h⟩ | ⟨hsame, hnone⟩
  · exact h.stands hs
  · rw [hsame, List.filterMap_eq_nil_iff.mpr fun f hf => (hnone f hf).1,
      List.filterMap_eq_nil_iff.mpr fun f hf => (hnone f hf).2, List.append_nil, List.append_nil]
    exact hs

end Watcher

namespace World

/-- The fetcher stands at every moment where it should. -/
theorem stands_run {s : World} (hs : s.watcher.fetcher.Stands s.heads s.heights)
    (events : List Event) :
    (s.run events).watcher.fetcher.Stands (s.run events).heads (s.run events).heights := by
  refine run_invariant (P := fun t => t.watcher.fetcher.Stands t.heads t.heights) s events hs ?_
  intro t e facts w hub ht hoccurs
  have hnext := hoccurs.stands ht
  rwa [heads, heights, ← List.filterMap_append, ← List.filterMap_append] at hnext

theorem length_delivered (s : World) : s.delivered.length = s.heights.length := by
  rw [delivered, heights, List.length_filterMap_eq_countP, List.length_filterMap_eq_countP]
  refine List.countP_congr fun f _ => ?_
  cases f <;> rfl

/-- **No height is left out and none comes twice**: at every moment of every run, the heights of the
blocks delivered so far are those from the head on that the fetcher was told, and nothing has been
delivered before it was. -/
theorem heights_run (settings : ChainPlan) (codec : Codec) (pool : Pool) (vault : Option String)
    (hub : Hub) (events : List Event) :
    let s := (World.start settings codec pool vault hub).run events
    s.heads = [] ∧ s.heights = [] ∨
      ∃ first, s.heads = [first] ∧ s.heights = heightsFrom first s.delivered.length := by
  intro s
  have hstart : (World.start settings codec pool vault hub).watcher.fetcher.Stands [] [] :=
    .untold (Fetcher.isUntold_start _ _)
  have hstands : s.watcher.fetcher.Stands s.heads s.heights := stands_run hstart events
  have hlength := s.length_delivered
  generalize s.heads = heads at hstands ⊢
  generalize s.heights = heights at hstands hlength ⊢
  cases hstands with
  | untold _ => exact .inl ⟨rfl, rfl⟩
  | @told first count _ _ =>
    rw [hlength, length_heightsFrom]
    exact .inr ⟨first, rfl, rfl⟩

end World

end VaultWatch
