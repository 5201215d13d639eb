import Mathlib.Data.List.Induction
import VaultWatch.Proofs.Managers
import VaultWatch.Proofs.Nodes
import VaultWatch.Proofs.Passage

/-!
# Gas prices

What a manager says about the fees of a chain without a fee market, when it is asked again and
again. Each request comes some time after the reply to the one before; if the nodes are asked for a
gas price, they take their time and answer what they like. `Manager.suggestions` collects these
answers.

What the chain's watcher keeps is told by the latest price among them (`Manager.remembers_run`): the
price, lowered to the cap, and the time at which it came; failures leave no trace. The main
statement `Manager.quoted_run` reads the replies off from this.
-/

namespace VaultWatch

/-! ### What is kept -/

namespace CachedPrice

/-- A price lowered to a cap, if there is one. -/
theorem capped_eq (g : CachedPrice) (price : Nat) :
    g.capped price = g.cap.elim price (min price) := by
  unfold capped
  cases g.cap <;> rfl

variable {g : CachedPrice} {now : Nat}

/-- A price that is kept is fresh until it has been kept for the refresh time. -/
theorem fresh?_of_cached {price since : Nat} (hcached : g.cached = some (price, since))
    (hsince : since ≤ now) :
    g.fresh? now = if since + g.refresh ≤ now then none else some price := by
  have hage : now - since < g.refresh ↔ ¬ since + g.refresh ≤ now := by omega
  simp only [fresh?, hcached, hage, ite_not]

theorem fresh?_of_cached_eq_none (hcached : g.cached = none) : g.fresh? now = none := by
  rw [fresh?, hcached]

/-- A failure is made up for by the price that is kept, and changes nothing. -/
theorem answered_error_of_cached {price since : Nat} (hcached : g.cached = some (price, since))
    (e : CallError) : g.answered g.kept? now (.error e) = (.ok price, g) := by
  simp only [answered, kept?, hcached, Option.map_some]

theorem answered_error_of_cached_eq_none (hcached : g.cached = none) (e : CallError) :
    g.answered g.kept? now (.error e) = (.error e, g) := by
  simp only [answered, kept?, hcached, Option.map_none]

end CachedPrice

namespace Manager

/-! ### Requests -/

/-- A request for a fee estimate. It is made so long after the one before it was answered; if the
nodes are asked for a gas price, they give this answer after so long. -/
structure PriceRequest where
  pause : Nat
  latency : Nat
  answer : Except CallError Nat

/-- How queries are answered while a request is served, and when. -/
def PriceRequest.tells (r : PriceRequest) : (query : Query) → (now : Nat) → query.Answer × Nat
  | .gasPrice, now => (r.answer, now + r.latency)
  | .height, now | .block _, now | .receipt _, now | .submit _, now | .find _, now
  | .nonce _, now | .balance _, now => (.error .notFound, now)

/-- What comes of a request: the queries asked, the reply, and the manager after it. -/
structure Quote where
  asked : List Query
  reply : Except ServiceError FeeQuote
  after : Manager

/-- The manager at another time. -/
def atTime (m : Manager) (now : Nat) : Manager := { m with hub := { m.hub with now } }

/-- Asks for a fee estimate of a chain and waits for the reply. -/
def quote (m : Manager) (chain : String) (r : PriceRequest) : Quote :=
  let asking := m.atTime (m.hub.now + r.pause)
  let (asked, finish, now) := (asking.fee chain).run r.tells asking.hub.now
  let (reply, after) := finish (asking.atTime now)
  ⟨asked, reply, after⟩

/-- The manager after some requests, one after another. -/
def quotes (m : Manager) (chain : String) (requests : List PriceRequest) : Manager :=
  requests.foldl (fun m r => (m.quote chain r).after) m

/-- What the nodes answered when they were asked for a gas price, and when. -/
structure Suggestion where
  answer : Except CallError Nat
  time : Nat

/-- What a request hears from the nodes: nothing if it does not ask. -/
def heard (m : Manager) (chain : String) (r : PriceRequest) : List Suggestion :=
  (m.quote chain r).asked.map fun _ => ⟨r.answer, (m.quote chain r).after.hub.now⟩

/-- What some requests hear from the nodes. -/
def suggestions (m : Manager) (chain : String) : List PriceRequest → List Suggestion
  | [] => []
  | r :: requests => m.heard chain r ++ (m.quote chain r).after.suggestions chain requests

/-- The latest price that the nodes suggested, with its time. -/
def lastPrice? (log : List Suggestion) : Option (Nat × Nat) :=
  (log.filterMap fun s => s.answer.toOption.map (·, s.time)).getLast?

variable {m : Manager} {chain : String} {refresh : Nat} {cap : Option Nat} {log : List Suggestion}
  {w : Watcher} {g : CachedPrice}

@[simp] theorem find?_atTime (m : Manager) (now : Nat) (chain : String) :
    (m.atTime now).find? chain = m.find? chain := rfl

/-- A watcher that is put in place of another is found later. -/
theorem find?_put_atTime (hfind : m.find? chain = some w) (now : Nat) (w' : Watcher) :
    ((m.atTime now).put chain w').find? chain = some w' := by
  rw [find?_put_self, find?_atTime, hfind, Option.map_some]

@[simp] theorem now_atTime (m : Manager) (now : Nat) : (m.atTime now).hub.now = now := rfl

theorem quotes_concat (m : Manager) (chain : String) (requests : List PriceRequest)
    (r : PriceRequest) :
    m.quotes chain (requests ++ [r]) = ((m.quotes chain requests).quote chain r).after := by
  rw [quotes, List.foldl_append]
  rfl

theorem suggestions_concat (m : Manager) (chain : String) (requests : List PriceRequest)
    (r : PriceRequest) :
    m.suggestions chain (requests ++ [r]) =
      m.suggestions chain requests ++ (m.quotes chain requests).heard chain r := by
  induction requests generalizing m with
  | nil => exact List.append_nil _
  | cons first requests ih =>
    rw [List.cons_append, suggestions, ih, suggestions, List.append_assoc]
    rfl

/-! ### One request -/

/-- While the kept price is fresh it is the reply, and the nodes are not asked. -/
theorem quote_of_fresh {r : PriceRequest} {price : Nat} (hfind : m.find? chain = some w)
    (hfees : w.fees = .legacy g) (hfresh : g.fresh? (m.hub.now + r.pause) = some price) :
    m.quote chain r = ⟨[], .ok (.legacy price), m.atTime (m.hub.now + r.pause)⟩ := by
  have hknown : w.knownFee? (m.hub.now + r.pause) = some (.legacy price) := by
    rw [Watcher.knownFee?, hfees, Fees.known?, hfresh, Option.map_some]
  have hfee : (m.atTime (m.hub.now + r.pause)).fee chain =
      .done fun later => (.ok (.legacy price), later) := by
    simp only [fee, watcher, find?_atTime, hfind, now_atTime, hknown]
  rw [quote, hfee]
  rfl

/-- Otherwise the nodes are asked, and what they answer decides. -/
theorem quote_of_stale {r : PriceRequest} (hfind : m.find? chain = some w)
    (hfees : w.fees = .legacy g) (hstale : g.fresh? (m.hub.now + r.pause) = none) :
    let later := m.hub.now + r.pause + r.latency
    let answered := g.answered g.kept? later r.answer
    m.quote chain r = ⟨[.gasPrice], (answered.1.map .legacy).mapError .call,
      (m.atTime later).put chain { w with fees := .legacy answered.2 }⟩ := by
  have hknown : w.knownFee? (m.hub.now + r.pause) = none := by
    rw [Watcher.knownFee?, hfees, Fees.known?, hstale, Option.map_none]
  have hfee : (m.atTime (m.hub.now + r.pause)).fee chain =
      .ask .gasPrice fun answer =>
        .done fun later => later.heardGasPrice chain g.kept? answer := by
    simp only [fee, watcher, find?_atTime, hfind, now_atTime, hknown, hfees]
    rfl
  have hheard (later : Manager) (hlater : later.find? chain = some w)
      (answer : Except CallError Nat) :
      let answered := g.answered g.kept? later.hub.now answer
      later.heardGasPrice chain g.kept? answer = ((answered.1.map .legacy).mapError .call,
        later.put chain { w with fees := .legacy answered.2 }) := by
    simp only [heardGasPrice, watcher, hlater, Watcher.heardGasPrice, hfees, Fees.answered]
  rw [quote, hfee]
  exact congrArg (fun result => (⟨[.gasPrice], result.1, result.2⟩ : Quote))
    (hheard (m.atTime (m.hub.now + r.pause + r.latency)) hfind r.answer)

/-- All that can come of a request to a chain that keeps a price in this way. -/
inductive Served (m : Manager) (chain : String) (r : PriceRequest) (w : Watcher) (g : CachedPrice) :
    Quote → Prop where
  /-- The kept price is fresh. -/
  | fresh {price since : Nat} (hcached : g.cached = some (price, since))
      (hfresh : ¬ since + g.refresh ≤ m.hub.now + r.pause) :
      Served m chain r w g ⟨[], .ok (.legacy price), m.atTime (m.hub.now + r.pause)⟩
  /-- There is no fresh price, and the nodes suggest one. -/
  | renewed {price : Nat}
      (hdue : ∀ kept since, g.cached = some (kept, since) → since + g.refresh ≤ m.hub.now + r.pause)
      (hanswer : r.answer = .ok price) :
      Served m chain r w g ⟨[.gasPrice], .ok (.legacy (g.capped price)),
        (m.atTime (m.hub.now + r.pause + r.latency)).put chain { w with
          fees := .legacy { g with
            cached := some (g.capped price, m.hub.now + r.pause + r.latency) } }⟩
  /-- The kept price is not fresh, and the nodes suggest none. -/
  | stale {price since : Nat} {e : CallError} (hcached : g.cached = some (price, since))
      (hdue : since + g.refresh ≤ m.hub.now + r.pause) (hanswer : r.answer = .error e) :
      Served m chain r w g ⟨[.gasPrice], .ok (.legacy price),
        (m.atTime (m.hub.now + r.pause + r.latency)).put chain { w with fees := .legacy g }⟩
  /-- No price is kept, and the nodes suggest none. -/
  | failed {e : CallError} (hcached : g.cached = none) (hanswer : r.answer = .error e) :
      Served m chain r w g ⟨[.gasPrice], .error (.call e),
        (m.atTime (m.hub.now + r.pause + r.latency)).put chain { w with fees := .legacy g }⟩

/-- Nothing else can come of a request. -/
theorem served_quote (hfind : m.find? chain = some w) (hfees : w.fees = .legacy g)
    (hpast : ∀ price since, g.cached = some (price, since) → since ≤ m.hub.now) (r : PriceRequest) :
    Served m chain r w g (m.quote chain r) := by
  cases hcached : g.cached with
  | none =>
    have hstale : g.fresh? (m.hub.now + r.pause) = none := g.fresh?_of_cached_eq_none hcached
    rw [quote_of_stale hfind hfees hstale]
    cases hanswer : r.answer with
    | ok price => exact .renewed (fun _ _ hkept => by cases hcached.symm.trans hkept) hanswer
    | error e =>
      rw [CachedPrice.answered_error_of_cached_eq_none hcached]
      exact .failed hcached hanswer
  | some kept =>
    obtain ⟨price, since⟩ := kept
    have hsince : since ≤ m.hub.now + r.pause := Nat.le_add_right_of_le (hpast price since hcached)
    have hfresh := CachedPrice.fresh?_of_cached hcached hsince
    by_cases hdue : since + g.refresh ≤ m.hub.now + r.pause
    · rw [if_pos hdue] at hfresh
      rw [quote_of_stale hfind hfees hfresh]
      cases hanswer : r.answer with
      | ok price =>
        refine .renewed (fun _ _ hkept => ?_) hanswer
        cases hcached.symm.trans hkept
        exact hdue
      | error e =>
        rw [CachedPrice.answered_error_of_cached hcached]
        exact .stale hcached hdue hanswer
    · rw [if_neg hdue] at hfresh
      rw [quote_of_fresh hfind hfees hfresh]
      exact .fresh hcached hdue

/-! ### Many requests -/

/-- A price with its time, the price lowered to a cap. -/
def lowered (cap : Option Nat) (suggested : Nat × Nat) : Nat × Nat :=
  (cap.elim suggested.1 (min suggested.1), suggested.2)

/-- A manager that keeps of a chain's gas prices what these suggestions leave: the latest one,
lowered to the cap. -/
structure Remembers (m : Manager) (chain : String) (refresh : Nat) (cap : Option Nat)
    (log : List Suggestion) : Prop where
  fees : ∃ w, m.find? chain = some w ∧
    w.fees = .legacy ⟨refresh, cap, (lastPrice? log).map (lowered cap)⟩
  past : ∀ last, lastPrice? log = some last → last.2 ≤ m.hub.now

theorem Remembers.served (h : m.Remembers chain refresh cap log) (r : PriceRequest) :
    ∃ w, m.find? chain = some w ∧
      w.fees = .legacy ⟨refresh, cap, (lastPrice? log).map (lowered cap)⟩ ∧
      Served m chain r w ⟨refresh, cap, (lastPrice? log).map (lowered cap)⟩ (m.quote chain r) := by
  obtain ⟨w, hfind, hfees⟩ := h.fees
  refine ⟨w, hfind, hfees, served_quote hfind hfees (fun price since hkept => ?_) r⟩
  obtain ⟨last, hlast, hlowered⟩ := Option.map_eq_some_iff.mp hkept
  have hsince : since = last.2 := (congrArg Prod.snd hlowered).symm
  rw [hsince]
  exact h.past last hlast

theorem lastPrice?_append_ok {s : Suggestion} {price : Nat} (hanswer : s.answer = .ok price) :
    lastPrice? (log ++ [s]) = some (price, s.time) := by
  rw [lastPrice?, List.filterMap_append]
  simp [hanswer, Except.toOption]

theorem lastPrice?_append_error {s : Suggestion} {e : CallError} (hanswer : s.answer = .error e) :
    lastPrice? (log ++ [s]) = lastPrice? log := by
  rw [lastPrice?, List.filterMap_append]
  simp [hanswer, Except.toOption, lastPrice?]

/-- There is no price as long as every suggestion is a failure. -/
theorem lastPrice?_eq_none_iff :
    lastPrice? log = none ↔ ∀ s ∈ log, ∀ price, s.answer ≠ .ok price := by
  rw [lastPrice?, List.getLast?_eq_none_iff, List.filterMap_eq_nil_iff]
  refine forall₂_congr fun s _ => ?_
  cases s.answer <;> simp [Except.toOption]

/-- One request keeps what its suggestion leaves. -/
theorem Remembers.quote (h : m.Remembers chain refresh cap log) (r : PriceRequest) :
    (m.quote chain r).after.Remembers chain refresh cap (log ++ m.heard chain r) := by
  obtain ⟨w, hfind, hfees, hserved⟩ := h.served r
  unfold heard
  generalize m.quote chain r = q at hserved
  cases hserved with
  | fresh _ _ =>
    rw [List.map_nil, List.append_nil]
    exact ⟨⟨w, hfind, hfees⟩, fun last hlast => Nat.le_add_right_of_le (h.past last hlast)⟩
  | renewed _ hanswer =>
    rw [List.map_singleton]
    refine ⟨⟨_, find?_put_atTime hfind _ _, ?_⟩, fun last hlast => ?_⟩
    · rw [lastPrice?_append_ok hanswer, Option.map_some, lowered, CachedPrice.capped_eq]
      rfl
    · rw [lastPrice?_append_ok hanswer] at hlast
      cases hlast
      exact Nat.le_refl _
  | stale _ _ hanswer | failed _ hanswer =>
    rw [List.map_singleton]
    refine ⟨⟨_, find?_put_atTime hfind _ _, ?_⟩, fun last hlast => ?_⟩
    · rw [lastPrice?_append_error hanswer]
    · rw [lastPrice?_append_error hanswer] at hlast
      have hpast := h.past last hlast
      exact Nat.le_add_right_of_le (Nat.le_add_right_of_le hpast)

/-- **Memory**: after any requests a manager keeps of a chain's gas prices what the answers of the
nodes leave, if there was nothing to keep before. -/
theorem remembers_run (hfind : m.find? chain = some w)
    (hfees : w.fees = .legacy (.empty refresh cap)) (requests : List PriceRequest) :
    (m.quotes chain requests).Remembers chain refresh cap (m.suggestions chain requests) := by
  induction requests using List.reverseRecOn with
  | nil => exact ⟨⟨w, hfind, hfees⟩, fun _ hlast => by cases hlast⟩
  | append_singleton requests r ih =>
    rw [quotes_concat, suggestions_concat]
    exact ih.quote r

/-! ### Replies -/

/-- What is kept after a request is what it is answered with; it fails if nothing is. -/
theorem Served.reply_eq {r : PriceRequest} {q : Quote} (h : Served m chain r w g q)
    (hfind : m.find? chain = some w) (hfees : w.fees = .legacy g) :
    ∃ w' g', q.after.find? chain = some w' ∧ w'.fees = .legacy g' ∧
      (∀ kept since, g'.cached = some (kept, since) → q.reply = .ok (.legacy kept)) ∧
      (g'.cached = none → ∃ e, q.reply = .error e) := by
  cases h with
  | fresh hcached _ =>
    refine ⟨w, g, hfind, hfees, fun kept since hkept => ?_, fun hnone => ?_⟩
    · cases hcached.symm.trans hkept
      rfl
    · cases hcached.symm.trans hnone
  | renewed _ _ =>
    refine ⟨_, _, find?_put_atTime hfind _ _, rfl, fun kept since hkept => ?_, fun hnone => ?_⟩
    · cases hkept
      rfl
    · cases hnone
  | stale hcached _ _ =>
    refine ⟨_, _, find?_put_atTime hfind _ _, rfl, fun kept since hkept => ?_, fun hnone => ?_⟩
    · cases hcached.symm.trans hkept
      rfl
    · cases hcached.symm.trans hnone
  | failed hcached _ =>
    refine ⟨_, _, find?_put_atTime hfind _ _, rfl, fun kept since hkept => ?_, fun _ => ⟨_, rfl⟩⟩
    cases hcached.symm.trans hkept

/-- A request asks the nodes, or a fresh price is kept. -/
theorem Served.asked_or {r : PriceRequest} {q : Quote} (h : Served m chain r w g q) :
    (q.asked = [.gasPrice] ∧ ∀ kept since, g.cached = some (kept, since) →
      since + g.refresh ≤ m.hub.now + r.pause) ∨
    (q.asked = [] ∧ ∃ kept since, g.cached = some (kept, since) ∧
      ¬ since + g.refresh ≤ m.hub.now + r.pause) := by
  cases h with
  | fresh hcached hfresh => exact .inr ⟨rfl, _, _, hcached, hfresh⟩
  | renewed hdue _ => exact .inl ⟨rfl, hdue⟩
  | stale hcached hdue _ =>
    refine .inl ⟨rfl, fun kept since hkept => ?_⟩
    cases hcached.symm.trans hkept
    exact hdue
  | failed hcached _ =>
    refine .inl ⟨rfl, fun kept since hkept => ?_⟩
    cases hcached.symm.trans hkept

/-- A failure of the nodes leaves the fees of the chain as they are. -/
theorem Served.fees_eq {r : PriceRequest} {q : Quote} {e : CallError} (h : Served m chain r w g q)
    (hanswer : r.answer = .error e) (hfind : m.find? chain = some w) (hfees : w.fees = .legacy g) :
    (q.after.find? chain).map (·.fees) = (m.find? chain).map (·.fees) := by
  cases h with
  | fresh _ _ => rfl
  | renewed _ hprice => cases hanswer.symm.trans hprice
  | stale _ _ _ | failed _ _ =>
    rw [find?_put_atTime hfind, hfind, Option.map_some, Option.map_some, hfees]

/-- A request, when the nodes have suggested these gas prices before it. -/
structure Quoted (m : Manager) (chain : String) (refresh : Nat) (cap : Option Nat)
    (past : List Suggestion) (r : PriceRequest) : Prop where
  /-- The nodes are asked for a gas price, if they are asked at all. -/
  asked : (m.quote chain r).asked = [.gasPrice] ∨ (m.quote chain r).asked = []
  /-- They are asked if they have not suggested any yet, or if the latest one has come the refresh
  time ago or longer. -/
  asked_iff : (m.quote chain r).asked = [.gasPrice] ↔
    ∀ price time, lastPrice? past = some (price, time) → time + refresh ≤ m.hub.now + r.pause
  /-- The request fails if they have only ever failed, up to and including now. -/
  error_iff : (∃ e, (m.quote chain r).reply = .error e) ↔
    ∀ s ∈ past ++ m.heard chain r, ∀ price, s.answer ≠ .ok price
  /-- Otherwise the reply is the latest gas price, lowered to the cap. -/
  ok : ∀ price time, lastPrice? (past ++ m.heard chain r) = some (price, time) →
    (m.quote chain r).reply = .ok (.legacy (cap.elim price (min price)))
  /-- No reply is above the cap. -/
  le_cap : ∀ price limit, (m.quote chain r).reply = .ok (.legacy price) → cap = some limit →
    price ≤ limit
  /-- A failure changes nothing of what the watcher knows about fees. -/
  kept : ∀ e, r.answer = .error e →
    ((m.quote chain r).after.find? chain).map (·.fees) = (m.find? chain).map (·.fees)

/-- The latest suggestion, up to and including now, tells the reply. -/
theorem Remembers.reply (h : m.Remembers chain refresh cap log) (r : PriceRequest) :
    (∀ price time, lastPrice? (log ++ m.heard chain r) = some (price, time) →
      (m.quote chain r).reply = .ok (.legacy (cap.elim price (min price)))) ∧
    (lastPrice? (log ++ m.heard chain r) = none → ∃ e, (m.quote chain r).reply = .error e) := by
  obtain ⟨w, hfind, hfees, hserved⟩ := h.served r
  obtain ⟨⟨w', hfind', hfees'⟩, -⟩ := h.quote r
  obtain ⟨w'', g', hfind'', hfees'', hsome, hnone⟩ := hserved.reply_eq hfind hfees
  obtain rfl : w' = w'' := Option.some.inj (hfind'.symm.trans hfind'')
  obtain rfl : _ = g' := Fees.legacy.inj (hfees'.symm.trans hfees'')
  exact ⟨fun price time hlast => hsome _ time (by rw [hlast]; rfl),
    fun hlast => hnone (by rw [hlast]; rfl)⟩

/-- The latest suggestion before now tells whether the nodes are asked. -/
theorem Remembers.asked_iff (h : m.Remembers chain refresh cap log) (r : PriceRequest) :
    (m.quote chain r).asked = [.gasPrice] ↔
      ∀ price time, lastPrice? log = some (price, time) → time + refresh ≤ m.hub.now + r.pause := by
  obtain ⟨w, -, -, hserved⟩ := h.served r
  rcases hserved.asked_or with ⟨hasked, hdue⟩ | ⟨hasked, kept, since, hcached, hfresh⟩
  · refine iff_of_true hasked fun price time hlast => hdue (cap.elim price (min price)) time ?_
    rw [hlast]
    rfl
  · refine iff_of_false (by rw [hasked]; decide) fun hdue => ?_
    obtain ⟨⟨price, time⟩, hlast, hlowered⟩ := Option.map_eq_some_iff.mp hcached
    obtain rfl : time = since := congrArg Prod.snd hlowered
    exact hfresh (hdue price time hlast)

theorem Remembers.quoted (h : m.Remembers chain refresh cap log) (r : PriceRequest) :
    m.Quoted chain refresh cap log r := by
  obtain ⟨w, hfind, hfees, hserved⟩ := h.served r
  obtain ⟨hok, herror⟩ := h.reply r
  refine ⟨hserved.asked_or.imp And.left And.left, h.asked_iff r, ?_, hok, ?_,
    fun e hanswer => hserved.fees_eq hanswer hfind hfees⟩
  · rw [← lastPrice?_eq_none_iff]
    refine ⟨fun ⟨e, hfails⟩ => ?_, herror⟩
    by_contra hsome
    obtain ⟨⟨price, time⟩, hlast⟩ := Option.ne_none_iff_exists'.mp hsome
    rw [hok price time hlast] at hfails
    cases hfails
  · intro price limit hsays hcap
    cases hlast : lastPrice? (log ++ m.heard chain r) with
    | none =>
      obtain ⟨e, hfails⟩ := herror hlast
      rw [hfails] at hsays
      cases hsays
    | some last =>
      rw [hok last.1 last.2 hlast, hcap] at hsays
      cases hsays
      exact Nat.min_le_right _ _

/-- **Gas prices**: a chain without a fee market has been asked for no estimate yet. Then, after any
requests one after another, a request asks the nodes exactly if they have not suggested a price yet
or the latest one has come the refresh time ago or longer; it fails exactly if they have only ever
failed; and otherwise the reply is the latest price, lowered to the cap. A failure changes
nothing. -/
theorem quoted_run (hfind : m.find? chain = some w) (hfees : w.fees = .legacy (.empty refresh cap))
    (requests : List PriceRequest) (r : PriceRequest) :
    (m.quotes chain requests).Quoted chain refresh cap (m.suggestions chain requests) r :=
  (remembers_run hfind hfees requests).quoted r

/-- The watcher of a chain without a fee market. Its gas price stays fresh for 60 milliseconds, and
none is said to be above 500. -/
def cappedWatcher : Watcher :=
  .start { localPlan none with gasPriceRefresh := 60, maxGasPrice := some 500 } Piped.codec
    (.unconnected "local" ["http://127.0.0.1"]) none

/-- A manager with this chain only. -/
def cappedManager : Manager := { start 1 with watchers := [("local", cappedWatcher)] }

/-- When a price above the cap is no longer fresh, the nodes are asked again; they fail, and the
reply is the cap all the same. -/
theorem quoted_despite_failure :
    let m := cappedManager.quotes "local" [⟨0, 5, .ok 900⟩]
    let r : PriceRequest := ⟨60, 5, .error .notFound⟩
    cappedManager.find? "local" = some cappedWatcher ∧
      cappedWatcher.fees = .legacy (.empty 60 (some 500)) ∧
      (m.quote "local" r).asked = [.gasPrice] ∧
      (m.quote "local" r).reply = .ok (.legacy 500) := by
  intro m r
  have hfind : cappedManager.find? "local" = some cappedWatcher := rfl
  have hfees : cappedWatcher.fees = .legacy (.empty 60 (some 500)) := rfl
  have hquoted := quoted_run hfind hfees [⟨0, 5, .ok 900⟩] r
  have hpast : lastPrice? (cappedManager.suggestions "local" [⟨0, 5, .ok 900⟩]) =
      some (900, 5) := rfl
  have hlast : lastPrice? (cappedManager.suggestions "local" [⟨0, 5, .ok 900⟩] ++
      m.heard "local" r) = some (900, 5) := rfl
  refine ⟨hfind, hfees, hquoted.asked_iff.mpr fun price time hlatest => ?_, hquoted.ok 900 5 hlast⟩
  cases hpast.symm.trans hlatest
  exact Nat.le_refl _

end Manager

end VaultWatch
