import VaultWatch.Pool
import VaultWatch.Query

/-!
# Nodes at work

How queries come to their answers. A call walks the healthy endpoints of the pool as it stands at
that moment; the endpoints, the order of the walk and what each endpoint says may be different at
every call. `Nodes` puts all this together, so that a statement about every behaviour of a chain's
nodes is one about every `Nodes`. `Inquiry.exchanges` tells what a piece of work asked and was
answered, and `Inquiry.moments` when it asked.

Main statements: an answer of a call was given by a healthy endpoint (`Nodes.exists_of_call_eq_ok`),
and what all healthy endpoints say is the answer of the call (`Nodes.call_eq_ok`).
-/

namespace VaultWatch

/-! ### Walks -/

namespace Walk

variable {α : Type} {outcome : String → Except CallError α} {chain : String}
  {last : Option CallError} {order : List String} {value : α}

/-- An answer that a walk comes to was given by one of the endpoints. -/
theorem exists_of_run_eq_ok (h : (run outcome chain last order).2 = .ok value) :
    ∃ url ∈ order, outcome url = .ok value := by
  induction order generalizing last with
  | nil => cases h
  | cons url ahead ih =>
    rw [run] at h
    split at h
    · rename_i found hfound
      cases h
      exact ⟨url, List.mem_cons_self, hfound⟩
    · split at h
      · obtain ⟨other, hmem, hother⟩ := ih h
        exact ⟨other, List.mem_cons_of_mem url hmem, hother⟩
      · cases h

/-- A walk comes to what all endpoints say, if there is one. -/
theorem run_eq_ok_of_forall (hne : order ≠ []) (hall : ∀ url ∈ order, outcome url = .ok value) :
    (run outcome chain last order).2 = .ok value := by
  cases order with
  | nil => exact absurd rfl hne
  | cons url ahead => rw [run, hall url List.mem_cons_self]

end Walk

/-! ### Nodes -/

/-- The nodes of a chain as the engine finds them from moment to moment: the endpoint pool, how long
a call waits for one endpoint, the order in which it walks the healthy ones, what each endpoint
answers to a query if it answers in time, and the moment after a call. -/
structure Nodes (σ : Type) where
  pool : σ → Pool
  limit : σ → Duration
  order : Query → σ → List String
  order_perm : ∀ query s, (order query s).Perm (pool s).healthyUrls
  tells : (query : Query) → σ → String → Option query.Answer
  after : Query → σ → σ

namespace Nodes

/-- A chain with one endpoint, which is healthy and at which nothing changes. -/
def single {σ : Type} (tells : (query : Query) → σ → Option query.Answer) : Nodes σ where
  pool _ := ⟨"local", ["http://127.0.0.1"], [⟨"http://127.0.0.1", true⟩]⟩
  limit _ := .ofMillis 1000
  order _ _ := ["http://127.0.0.1"]
  order_perm _ _ := .refl _
  tells query s _ := tells query s
  after _ s := s

variable {σ : Type} (nodes : Nodes σ)

/-- What a call for a query comes to, and the moment after it. -/
def call (query : Query) (s : σ) : query.Answer × σ :=
  (((nodes.pool s).call (nodes.limit s) (nodes.order query s) (nodes.tells query s)).2,
    nodes.after query s)

variable {nodes} {query : Query} {s : σ} {reply : query.Reply}

/-- The answer of a call was given by a healthy endpoint. -/
theorem exists_of_call_eq_ok (h : (nodes.call query s).1 = .ok reply) :
    ∃ url ∈ (nodes.pool s).healthyUrls, nodes.tells query s url = some (.ok reply) := by
  obtain ⟨url, hmem, hurl⟩ := Walk.exists_of_run_eq_ok h
  refine ⟨url, (nodes.order_perm query s).subset hmem, ?_⟩
  cases htells : nodes.tells query s url with
  | none =>
    rw [htells] at hurl
    cases hurl
  | some answer =>
    rw [htells, Option.getD_some] at hurl
    rw [hurl]

/-- A call asks somebody when some endpoint is healthy. -/
theorem order_ne_nil (hhealthy : (nodes.pool s).isHealthy = true) : nodes.order query s ≠ [] := by
  intro hnil
  have hperm := nodes.order_perm query s
  rw [hnil] at hperm
  rw [Pool.isHealthy, Pool.healthyUrl?, List.nil_perm.mp hperm] at hhealthy
  cases hhealthy

/-- What all healthy endpoints say is the answer of the call, if there is one. -/
theorem call_eq_ok (hhealthy : (nodes.pool s).isHealthy = true)
    (hall : ∀ url ∈ (nodes.pool s).healthyUrls, nodes.tells query s url = some (.ok reply)) :
    (nodes.call query s).1 = .ok reply := by
  refine Walk.run_eq_ok_of_forall (order_ne_nil hhealthy) fun url hurl => ?_
  rw [hall url ((nodes.order_perm query s).subset hurl), Option.getD_some]

end Nodes

/-! ### Exchanges -/

/-- A query and the answer to it. -/
structure Exchange where
  query : Query
  answer : query.Answer

namespace Inquiry

variable {α β σ : Type}

/-- What a piece of work asks and is answered, in order. -/
def exchanges (answer : (q : Query) → σ → q.Answer × σ) : Inquiry α → σ → List Exchange
  | done _, _ => []
  | ask q next, s => ⟨q, (answer q s).1⟩ :: (next (answer q s).1).exchanges answer (answer q s).2

/-- The queries of a piece of work, each with the moment at which it is asked, in order. -/
def moments (answer : (q : Query) → σ → q.Answer × σ) : Inquiry α → σ → List (Query × σ)
  | done _, _ => []
  | ask q next, s => (q, s) :: (next (answer q s).1).moments answer (answer q s).2

/-- What is heard in an exchange is what is answered at the moment of its query. -/
theorem mem_exchanges_iff {answer : (q : Query) → σ → q.Answer × σ} {work : Inquiry α} {s : σ}
    {exchange : Exchange} :
    exchange ∈ work.exchanges answer s ↔
      ∃ moment, (exchange.query, moment) ∈ work.moments answer s ∧
        (answer exchange.query moment).1 = exchange.answer := by
  induction work generalizing s with
  | done result => simp [exchanges, moments]
  | ask q next ih =>
    simp only [exchanges, moments, List.mem_cons, ih]
    constructor
    · rintro (rfl | ⟨moment, hlater, hanswer⟩)
      · exact ⟨s, .inl rfl, rfl⟩
      · exact ⟨moment, .inr hlater, hanswer⟩
    · rintro ⟨moment, hfirst | hlater, hanswer⟩
      · obtain ⟨query, heard⟩ := exchange
        obtain ⟨rfl, rfl⟩ := Prod.mk.inj hfirst
        exact .inl (congrArg (Exchange.mk query) hanswer.symm)
      · exact .inr ⟨moment, hlater, hanswer⟩

/-- Every answer of an exchange was given at some moment. -/
theorem exists_of_mem_exchanges {answer : (q : Query) → σ → q.Answer × σ} {work : Inquiry α}
    {s : σ} {exchange : Exchange} (h : exchange ∈ work.exchanges answer s) :
    ∃ moment, (answer exchange.query moment).1 = exchange.answer := by
  obtain ⟨moment, -, hanswer⟩ := mem_exchanges_iff.mp h
  exact ⟨moment, hanswer⟩

/-- A piece of work comes to a result by some exchanges. -/
inductive ComesTo : Inquiry α → List Exchange → α → Prop where
  | done (result : α) : ComesTo (done result) [] result
  | ask {q : Query} {next : q.Answer → Inquiry α} {rest : List Exchange} {result : α}
      (answer : q.Answer) (h : ComesTo (next answer) rest result) :
      ComesTo (ask q next) (⟨q, answer⟩ :: rest) result

/-- Whatever answers there are, a piece of work comes to its result by its exchanges. -/
theorem comesTo_run (answer : (q : Query) → σ → q.Answer × σ) (work : Inquiry α) (s : σ) :
    work.ComesTo (work.exchanges answer s) (work.run answer s).2.1 := by
  induction work generalizing s with
  | done result => exact .done result
  | ask q next ih => exact .ask _ (ih _ _)

/-- Work in two parts comes to its result by the exchanges of both. -/
theorem ComesTo.of_bind {work : Inquiry α} {next : α → Inquiry β} {asked : List Exchange}
    {result : β} (h : (work >>= next).ComesTo asked result) :
    ∃ first between rest, asked = first ++ rest ∧ work.ComesTo first between ∧
      (next between).ComesTo rest result := by
  induction work generalizing asked with
  | done between => exact ⟨[], between, asked, rfl, .done between, h⟩
  | ask q rest ih =>
    cases h with
    | ask answer h =>
      obtain ⟨first, between, last, rfl, hfirst, hlast⟩ := ih answer h
      exact ⟨_, between, last, rfl, .ask answer hfirst, hlast⟩

end Inquiry

end VaultWatch
