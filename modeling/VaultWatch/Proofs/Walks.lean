import Mathlib.Data.List.Basic
import VaultWatch.Pool

/-!
# Walks

A call asks the healthy endpoints of a pool one after the other, in some order, until one of them
says something about the request. A `Stop` is an endpoint on the way together with its reply, which
may not come within the limit; a list of stops is a tour. `Turn.Leads` tells where a walk gets on a
tour, turn by turn, and at which stops it asks.

`Settled` is the rule that a call obeys, said of the tour alone: the first stop that does not leave
the request open decides, and when there is none the failure of the last stop is reported. The main
statement is `Pool.call_settled`: every call obeys the rule, asks nobody else, and comes to the same
answer by every tour on which all answers agree.
-/

namespace VaultWatch

variable {α : Type}

/-! ### Stops -/

/-- An outcome that leaves the request open: a failure that says nothing about it, after which the
next endpoint is asked. -/
def leavesOpen : Except CallError α → Bool
  | .ok _ => false
  | .error e => e.othersMayAnswer

/-- An endpoint on the way of a call, and its reply if it is asked and replies in time. -/
structure Stop (α : Type) where
  endpoint : Endpoint
  reply : Option (Except CallError α)

namespace Stop

/-- The address of the endpoint. -/
def url (s : Stop α) : String := s.endpoint.url

/-- What a call hears at a stop when it waits for so long. -/
def outcome (limit : Duration) (s : Stop α) : Except CallError α :=
  s.reply.getD (.error (.timeout s.url limit))

/-- The endpoint leaves the request open, so that a call goes on to the next stop. -/
def IsPassed (limit : Duration) (s : Stop α) : Prop := leavesOpen (s.outcome limit) = true

theorem IsPassed.exists_error {limit : Duration} {s : Stop α} (h : s.IsPassed limit) :
    ∃ e, s.outcome limit = .error e ∧ e.othersMayAnswer = true := by
  unfold IsPassed at h
  cases houtcome : s.outcome limit with
  | ok value =>
    rw [houtcome] at h
    cases h
  | error e =>
    rw [houtcome] at h
    exact ⟨e, rfl, h⟩

end Stop

/-! ### Turns -/

namespace Walk

/-- A turn leads on a tour to an outcome by asking at some stops. -/
inductive Turn.Leads (limit : Duration) :
    Turn α → List (Stop α) → List (Stop α) → Except CallError α → Prop where
  | ends (outcome : Except CallError α) (tour : List (Stop α)) :
      Leads limit (.ends outcome) tour [] outcome
  | asks {url : String} {walk : Walk} {stop : Stop α} {tour asked : List (Stop α)}
      {outcome : Except CallError α} (hurl : stop.url = url)
      (h : Leads limit (walk.heard (stop.outcome limit)) tour asked outcome) :
      Leads limit (.asks url walk) (stop :: tour) (stop :: asked) outcome

variable {limit : Duration} {chain : String} {last : Option CallError} {stop : Stop α}
  {tour asked : List (Stop α)} {outcome : Except CallError α}

/-- A turn leads to one outcome by one way. -/
theorem Turn.Leads.unique {turn : Turn α} {asked' : List (Stop α)}
    {outcome' : Except CallError α} (h : turn.Leads limit tour asked outcome)
    (h' : turn.Leads limit tour asked' outcome') : asked' = asked ∧ outcome' = outcome := by
  induction h generalizing asked' with
  | ends outcome tour =>
    cases h'
    exact ⟨rfl, rfl⟩
  | asks _ _ ih =>
    cases h' with
    | asks _ h' =>
      obtain ⟨rfl, rfl⟩ := ih h'
      exact ⟨rfl, rfl⟩

/-- The turn of a walk to the first stop of a tour. -/
theorem leads_next_cons
    (h : ((⟨chain, tour.map Stop.url, last⟩ : Walk).heard (stop.outcome limit)).Leads limit tour
      asked outcome) :
    (⟨chain, (stop :: tour).map Stop.url, last⟩ : Walk).next.Leads limit (stop :: tour)
      (stop :: asked) outcome :=
  .asks rfl h

/-- At a stop that leaves the request open the walk keeps the failure and goes on. -/
theorem heard_of_isPassed {e : CallError} (w : Walk) (hpassed : stop.IsPassed limit)
    (he : stop.outcome limit = .error e) :
    (w.heard (stop.outcome limit) : Turn α) = { w with last := some e }.next := by
  obtain ⟨e', he', hothers⟩ := hpassed.exists_error
  obtain rfl : e = e' := Except.error.inj (he.symm.trans he')
  rw [he, heard, if_pos hothers]

/-- At any other stop the walk ends with what it hears. -/
theorem heard_of_not_isPassed (w : Walk) (hstop : ¬ stop.IsPassed limit) :
    w.heard (stop.outcome limit) = .ends (stop.outcome limit) := by
  unfold Stop.IsPassed at hstop
  cases houtcome : stop.outcome limit with
  | ok value => rfl
  | error e =>
    rw [houtcome] at hstop
    exact if_neg hstop

/-- A walk ends at the first stop that does not leave the request open. -/
theorem leads_to_answer {before after : List (Stop α)} (hbefore : ∀ s ∈ before, s.IsPassed limit)
    (hstop : ¬ stop.IsPassed limit) :
    (⟨chain, (before ++ stop :: after).map Stop.url, last⟩ : Walk).next.Leads limit
      (before ++ stop :: after) (before ++ [stop]) (stop.outcome limit) := by
  induction before generalizing last with
  | nil =>
    refine leads_next_cons ?_
    rw [heard_of_not_isPassed _ hstop]
    exact .ends _ _
  | cons first before ih =>
    obtain ⟨hfirst, hbefore⟩ := List.forall_mem_cons.mp hbefore
    obtain ⟨e, he, -⟩ := hfirst.exists_error
    refine leads_next_cons ?_
    rw [heard_of_isPassed _ hfirst he]
    exact ih hbefore

/-- A walk that passes every stop ends with the failure of the last one. -/
theorem leads_to_end {before : List (Stop α)} {e : CallError}
    (hall : ∀ s ∈ before ++ [stop], s.IsPassed limit) (he : stop.outcome limit = .error e) :
    (⟨chain, (before ++ [stop]).map Stop.url, last⟩ : Walk).next.Leads limit (before ++ [stop])
      (before ++ [stop]) (.error (.everyEndpointFailed chain e)) := by
  induction before generalizing last with
  | nil =>
    have hstop : stop.IsPassed limit := hall stop List.mem_cons_self
    refine leads_next_cons ?_
    rw [heard_of_isPassed _ hstop he]
    exact .ends _ _
  | cons first before ih =>
    obtain ⟨hfirst, hall⟩ := List.forall_mem_cons.mp hall
    obtain ⟨e', he', -⟩ := hfirst.exists_error
    refine leads_next_cons ?_
    rw [heard_of_isPassed _ hfirst he']
    exact ih hall

/-! ### The rule -/

/-- The rule for a call on a tour: at which stops it asks, and what it comes to. -/
inductive Settled (chain : String) (limit : Duration) (tour : List (Stop α)) :
    List (Stop α) → Except CallError α → Prop where
  /-- The first stop that does not leave the request open decides. -/
  | answered {before after : List (Stop α)} {stop : Stop α} (htour : tour = before ++ stop :: after)
      (hbefore : ∀ s ∈ before, s.IsPassed limit) (hstop : ¬ stop.IsPassed limit) :
      Settled chain limit tour (before ++ [stop]) (stop.outcome limit)
  /-- Without such a stop the failure of the last one is reported. -/
  | failed {before : List (Stop α)} {stop : Stop α} {e : CallError}
      (htour : tour = before ++ [stop]) (hall : ∀ s ∈ tour, s.IsPassed limit)
      (he : stop.outcome limit = .error e) :
      Settled chain limit tour tour (.error (.everyEndpointFailed chain e))
  /-- Without any stop there is no failure to report. -/
  | deserted (htour : tour = []) : Settled chain limit tour [] (.error (.noHealthyEndpoint chain))

/-- Every tour is settled one way or the other. -/
theorem exists_settled (chain : String) (limit : Duration) (tour : List (Stop α)) :
    ∃ asked outcome, Settled chain limit tour asked outcome := by
  by_cases hall : ∀ s ∈ tour, s.IsPassed limit
  · rcases List.eq_nil_or_concat tour with rfl | ⟨before, stop, htour⟩
    · exact ⟨[], _, .deserted rfl⟩
    · rw [List.concat_eq_append] at htour
      have hlast : stop.IsPassed limit :=
        hall stop (htour ▸ List.mem_append_right before List.mem_cons_self)
      obtain ⟨e, he, -⟩ := hlast.exists_error
      exact ⟨tour, _, .failed htour hall he⟩
  · -- the stops that are passed at the head of the tour, and the one behind them
    classical
    obtain ⟨answering, hmem, hanswering⟩ : ∃ s ∈ tour, ¬ s.IsPassed limit := by
      simpa only [not_forall, exists_prop] using hall
    obtain ⟨stop, hfind⟩ : ∃ s, tour.find? (fun s => ¬ s.IsPassed limit) = some s :=
      Option.isSome_iff_exists.mp
        (List.find?_isSome.mpr ⟨answering, hmem, decide_eq_true hanswering⟩)
    obtain ⟨hstop, before, after, htour, hbefore⟩ := List.find?_eq_some_iff_append.mp hfind
    refine ⟨_, _, .answered htour (fun s hs => ?_) (of_decide_eq_true hstop)⟩
    simpa using hbefore s hs

/-- A walk follows the rule. -/
theorem Settled.leads (h : Settled chain limit tour asked outcome) :
    (start chain (tour.map Stop.url)).next.Leads limit tour asked outcome := by
  cases h with
  | answered htour hbefore hstop =>
    subst htour
    exact leads_to_answer hbefore hstop
  | failed htour hall he =>
    subst htour
    exact leads_to_end hall he
  | deserted htour =>
    subst htour
    exact .ends _ _

/-- A walk does nothing but follow the rule. -/
theorem leads_iff_settled :
    (start chain (tour.map Stop.url)).next.Leads limit tour asked outcome ↔
      Settled chain limit tour asked outcome := by
  refine ⟨fun h => ?_, Settled.leads⟩
  obtain ⟨asked', outcome', hsettled⟩ := exists_settled chain limit tour
  obtain ⟨rfl, rfl⟩ := h.unique hsettled.leads
  exact hsettled

/-- A call asks at the stops of its tour one after the other from the first on. -/
theorem Settled.asked_prefix (h : Settled chain limit tour asked outcome) : asked <+: tour := by
  cases h with
  | @answered before after stop htour _ _ =>
    exact ⟨after, by rw [htour, List.append_assoc, List.singleton_append]⟩
  | failed _ _ _ => exact List.prefix_refl tour
  | deserted _ => exact List.nil_prefix

/-- Only where no endpoint is healthy does a call report that none was there to be called. -/
theorem Settled.eq_noHealthyEndpoint_iff (h : Settled chain limit tour asked outcome) :
    outcome = .error (.noHealthyEndpoint chain) ↔ tour = [] := by
  cases h with
  | answered htour _ hstop =>
    have hne : tour ≠ [] := by
      rw [htour]
      exact List.append_ne_nil_of_right_ne_nil _ (List.cons_ne_nil _ _)
    refine iff_of_false (fun heq => hstop ?_) hne
    -- such a failure at a stop would have left the request open
    rw [Stop.IsPassed, heq]
    rfl
  | failed htour _ _ =>
    refine iff_of_false nofun ?_
    rw [htour]
    exact List.append_ne_nil_of_right_ne_nil _ (List.cons_ne_nil _ _)
  | deserted htour => exact iff_of_true rfl htour

/-- A tour on which all answers agree, and there is one, is settled by this answer. -/
theorem Settled.eq_of_agree {answer : Except CallError α}
    (h : Settled chain limit tour asked outcome) (hanswer : ∃ s ∈ tour, ¬ s.IsPassed limit)
    (hagree : ∀ s ∈ tour, ¬ s.IsPassed limit → s.outcome limit = answer) : outcome = answer := by
  cases h with
  | @answered before after stop htour _ hstop =>
    have hmem : stop ∈ tour := htour ▸ List.mem_append_right before List.mem_cons_self
    exact hagree stop hmem hstop
  | failed _ hall _ =>
    obtain ⟨s, hmem, hs⟩ := hanswer
    exact absurd (hall s hmem) hs
  | deserted htour =>
    obtain ⟨s, hmem, -⟩ := hanswer
    rw [htour] at hmem
    cases hmem

/-- When what is heard depends on the address alone, a walk asks and ends as `Walk.run` says. -/
theorem run_eq_of_leads {heardAt : String → Except CallError α}
    (hsame : ∀ s ∈ tour, s.outcome limit = heardAt s.url)
    (h : (⟨chain, tour.map Stop.url, last⟩ : Walk).next.Leads limit tour asked outcome) :
    run heardAt chain last (tour.map Stop.url) = (asked.map Stop.url, outcome) := by
  induction tour generalizing last asked with
  | nil =>
    cases h
    rfl
  | cons stop tour ih =>
    obtain ⟨hstop, hsame⟩ := List.forall_mem_cons.mp hsame
    cases h with
    | asks _ h =>
      by_cases hpassed : stop.IsPassed limit
      · obtain ⟨e, he, hothers⟩ := hpassed.exists_error
        rw [heard_of_isPassed _ hpassed he] at h
        rw [List.map_cons, run, ← hstop, he]
        simp only [hothers, if_true, ih hsame h, List.map_cons]
      · rw [heard_of_not_isPassed _ hpassed] at h
        cases h
        rw [List.map_cons, run, ← hstop]
        unfold Stop.IsPassed at hpassed
        cases houtcome : stop.outcome limit with
        | ok value => rfl
        | error e =>
          rw [houtcome] at hpassed
          exact if_neg hpassed

end Walk

/-! ### Calls -/

namespace Pool

variable {limit : Duration} {tour asked : List (Stop α)} {outcome : Except CallError α}

/-- The stops of a tour are the healthy endpoints of a pool in some order, each with any reply. -/
def IsTour (p : Pool) (tour : List (Stop α)) : Prop :=
  (tour.map (·.endpoint)).Perm (p.endpoints.filter (·.healthy))

/-- A call that takes a tour asks at some of its stops and comes to an outcome. -/
def Calls (p : Pool) (limit : Duration) (tour asked : List (Stop α))
    (outcome : Except CallError α) : Prop :=
  (Walk.start p.chain (tour.map Stop.url)).next.Leads limit tour asked outcome

/-- The stops of a tour are healthy endpoints of the pool. -/
theorem IsTour.healthy {p : Pool} (h : p.IsTour tour) {s : Stop α} (hs : s ∈ tour) :
    s.endpoint ∈ p.endpoints ∧ s.endpoint.healthy = true :=
  List.mem_filter.mp (h.subset (List.mem_map_of_mem hs))

/-- A tour is empty just when no endpoint is healthy. -/
theorem IsTour.eq_nil_iff {p : Pool} (h : p.IsTour tour) :
    tour = [] ↔ ∀ e ∈ p.endpoints, e.healthy = false := by
  have hlength : tour.length = (p.endpoints.filter (·.healthy)).length := by
    rw [← h.length_eq, List.length_map]
  rw [← List.length_eq_zero_iff, hlength, List.length_eq_zero_iff, List.filter_eq_nil_iff]
  simp only [Bool.not_eq_true]

/-- **The rule of calls.** Whatever endpoints a pool has, in whatever order a call takes the healthy
ones and however each of them replies: the call comes to an end, and in one way only. It obeys the
rule of `Walk.Settled`, and it asks at the stops of its tour from the first on, which are healthy
endpoints of the pool; it reports that there was none to be called exactly when no endpoint is
healthy. When all answers on a tour agree and there is one, every other order of the tour comes to
this answer, too. -/
theorem call_settled (p : Pool) (limit : Duration) (htour : p.IsTour tour) :
    (∃ asked outcome, ∀ asked' outcome',
        p.Calls limit tour asked' outcome' ↔ asked' = asked ∧ outcome' = outcome) ∧
      (∀ asked outcome, p.Calls limit tour asked outcome →
        Walk.Settled p.chain limit tour asked outcome ∧ asked <+: tour ∧
          (∀ s ∈ asked, s.endpoint ∈ p.endpoints ∧ s.endpoint.healthy = true) ∧
          (outcome = .error (.noHealthyEndpoint p.chain) ↔
            ∀ e ∈ p.endpoints, e.healthy = false) ∧
          ∀ behaviour : String → Option (Except CallError α),
            (∀ s ∈ tour, s.reply = behaviour s.url) →
            p.call limit (tour.map Stop.url) behaviour = (asked.map Stop.url, outcome)) ∧
      ∀ answer, (∃ s ∈ tour, ¬ s.IsPassed limit) →
        (∀ s ∈ tour, ¬ s.IsPassed limit → s.outcome limit = answer) →
        ∀ other, other.Perm tour → ∃ asked, p.Calls limit other asked answer := by
  refine ⟨?_, fun asked outcome hcalls => ?_, fun answer hanswer hagree other hperm => ?_⟩
  · obtain ⟨asked, outcome, hsettled⟩ := Walk.exists_settled p.chain limit tour
    refine ⟨asked, outcome, fun asked' outcome' => ⟨fun h => ?_, ?_⟩⟩
    · exact hsettled.leads.unique h
    · rintro ⟨rfl, rfl⟩
      exact hsettled.leads
  · have hsettled := Walk.leads_iff_settled.mp hcalls
    have hfront := hsettled.asked_prefix
    refine ⟨hsettled, hfront, fun s hs => htour.healthy (hfront.subset hs), ?_, ?_⟩
    · rw [hsettled.eq_noHealthyEndpoint_iff, htour.eq_nil_iff]
    · intro behaviour hsame
      refine Walk.run_eq_of_leads (fun s hs => ?_) hcalls
      rw [Stop.outcome, hsame s hs]
  · obtain ⟨asked, outcome, hsettled⟩ := Walk.exists_settled p.chain limit other
    have hanswer' : ∃ s ∈ other, ¬ s.IsPassed limit := by
      obtain ⟨s, hs, hpassed⟩ := hanswer
      exact ⟨s, hperm.symm.subset hs, hpassed⟩
    obtain rfl : outcome = answer :=
      hsettled.eq_of_agree hanswer' fun s hs => hagree s (hperm.subset hs)
    exact ⟨asked, hsettled.leads⟩

/-- Three endpoints, of which the second is not healthy. -/
def threeEndpoints : Pool :=
  ⟨"eth", ["http://a", "http://b", "http://c"],
    [⟨"http://a", true⟩, ⟨"http://b", false⟩, ⟨"http://c", true⟩]⟩

/-- The third endpoint comes first and does not reply in time; the first one says that there is
nothing yet. -/
def slowTour : List (Stop Nat) :=
  [⟨⟨"http://c", true⟩, none⟩, ⟨⟨"http://a", true⟩, some (.error .notFound)⟩]

/-- That there is nothing yet is an answer, whichever endpoint is asked first. -/
theorem notFound_on_slowTour :
    threeEndpoints.IsTour slowTour ∧
      ∃ asked, threeEndpoints.Calls (.ofMillis 1000) slowTour.reverse asked (.error .notFound) := by
  have htour : threeEndpoints.IsTour slowTour := List.Perm.swap _ _ _
  have hagree : ∀ s ∈ slowTour, ¬ s.IsPassed (.ofMillis 1000) →
      s.outcome (.ofMillis 1000) = .error .notFound := by
    unfold slowTour
    simp [Stop.IsPassed, Stop.outcome, leavesOpen, CallError.othersMayAnswer]
  obtain ⟨-, -, hagreed⟩ := threeEndpoints.call_settled (.ofMillis 1000) htour
  refine ⟨htour, hagreed _ ?_ hagree _ slowTour.reverse_perm⟩
  exact ⟨⟨⟨"http://a", true⟩, some (.error .notFound)⟩, by simp [slowTour], nofun⟩

end Pool

end VaultWatch
