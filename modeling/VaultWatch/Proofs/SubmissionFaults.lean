import VaultWatch.Proofs.Dispatch

/-!
# Faults of submissions

How a failed submission comes to its category. The category is found in a node's words, whatever
their letter case (`DispatchFault.ofNodeText_eq_of_sameFold`), and wrappers for calls that failed on
every endpoint show through, however many there are (`CallError.innermostText_wrapped`). A call that
fails on its way through healthy endpoints fails with what it heard from the endpoint asked last, or
with this in one more wrapper (`Nodes.exists_last_asked`).

The main statement is `classified_by_cause`: a payload that no endpoint takes is reported with the
category of the failure at the endpoint asked last.
-/

namespace VaultWatch

/-! ### Wrappers and letter case -/

namespace CallError

/-- A failure in wrappers for chains of these names, the first one outermost. -/
def wrapped (chains : List String) (e : CallError) : CallError :=
  chains.foldr .everyEndpointFailed e

/-- A failure in other letter case: the words of a node may differ in the case of ASCII letters, and
such failures may be wrapped. -/
inductive SameWords : CallError → CallError → Prop where
  | refl (e : CallError) : SameWords e e
  | rpc (endpoint : String) {text text' : String} (htext : Ascii.sameFold text text' = true) :
      SameWords (.rpc endpoint text) (.rpc endpoint text')
  | rejected {text text' : String} (htext : Ascii.sameFold text text' = true) :
      SameWords (.rejected text) (.rejected text')
  | wrapped (chain : String) {e e' : CallError} (h : SameWords e e') :
      SameWords (.everyEndpointFailed chain e) (.everyEndpointFailed chain e')

theorem innermostText_wrapped (chains : List String) (e : CallError) :
    (wrapped chains e).innermostText = e.innermostText := by
  induction chains with
  | nil => rfl
  | cons chain chains ih => exact ih

theorem SameWords.sameFold {e e' : CallError} (h : e.SameWords e') :
    Ascii.sameFold e.innermostText e'.innermostText = true := by
  induction h with
  | refl e => exact beq_self_eq_true _
  | rpc _ htext => exact htext
  | rejected htext => exact htext
  | wrapped _ _ ih => exact ih

end CallError

namespace DispatchFault

/-- The category does not depend on letter case. -/
theorem ofNodeText_eq_of_sameFold {text text' : String} (h : Ascii.sameFold text text' = true) :
    ofNodeText text = ofNodeText text' := by
  have hsmall : text.toList.map Char.toLower = text'.toList.map Char.toLower :=
    String.ofList_injective (eq_of_beq h)
  rw [ofNodeText, ofNodeText, hsmall]

theorem ofSubmitError_wrapped (chains : List String) (e : CallError) :
    ofSubmitError (e.wrapped chains) = ofSubmitError e :=
  congrArg ofNodeText (e.innermostText_wrapped chains)

theorem ofSubmitError_eq_of_sameWords {e e' : CallError} (h : e.SameWords e') :
    ofSubmitError e = ofSubmitError e' :=
  ofNodeText_eq_of_sameFold h.sameFold

end DispatchFault

/-! ### The endpoint asked last -/

/-- What a call comes to when it has failed at an endpoint: this failure, or the same in a
wrapper. -/
inductive CallError.ComesOf (own : CallError) : CallError → Prop where
  | itself : ComesOf own own
  | inWrapper (chain : String) : ComesOf own (.everyEndpointFailed chain own)

theorem CallError.ComesOf.ofSubmitError_eq {own e : CallError} (h : own.ComesOf e) :
    DispatchFault.ofSubmitError e = DispatchFault.ofSubmitError own := by
  cases h with
  | itself => rfl
  | inWrapper chain => exact DispatchFault.ofSubmitError_everyEndpointFailed chain own

namespace Walk

variable {α : Type} {outcome : String → Except CallError α} {chain : String}
  {last : Option CallError} {order : List String} {e : CallError}

/-- A walk through some endpoints that fails has failed at the endpoint asked last. -/
theorem exists_last_asked (hne : order ≠ []) (h : (run outcome chain last order).2 = .error e) :
    ∃ url own, (run outcome chain last order).1.getLast? = some url ∧
      outcome url = .error own ∧ own.ComesOf e := by
  induction order generalizing last with
  | nil => exact absurd rfl hne
  | cons url ahead ih =>
    rw [run] at h ⊢
    cases hurl : outcome url with
    | ok value =>
      rw [hurl] at h
      cases h
    | error own =>
      simp only [hurl] at h ⊢
      by_cases hothers : own.othersMayAnswer = true
      · rw [if_pos hothers] at h ⊢
        cases ahead with
        | nil =>
          cases h
          exact ⟨url, own, rfl, hurl, .inWrapper chain⟩
        | cons next ahead =>
          -- This failure is kept for the case that nobody is ahead, so it is not told.
          obtain ⟨later, cause, hlast, hlater, hcomes⟩ := ih (List.cons_ne_nil _ _) h
          refine ⟨later, cause, ?_, hlater, hcomes⟩
          rw [List.getLast?_cons, hlast]
          rfl
      · rw [if_neg hothers] at h ⊢
        cases h
        exact ⟨url, e, rfl, hurl, .itself⟩

end Walk

namespace Nodes

variable {σ : Type} {nodes : Nodes σ} {query : Query} {s : σ} {e : CallError}

/-- The endpoints that a call asks, in order. -/
def asked (nodes : Nodes σ) (query : Query) (s : σ) : List String :=
  ((nodes.pool s).call (nodes.limit s) (nodes.order query s) (nodes.tells query s)).1

/-- What a call hears from an endpoint, which may be that its time is up. -/
def hears (nodes : Nodes σ) (query : Query) (s : σ) (url : String) : query.Answer :=
  (nodes.tells query s url).getD (.error (.timeout url (nodes.limit s)))

/-- A call that fails although some endpoint is healthy has failed at the endpoint asked last. -/
theorem exists_last_asked (hhealthy : (nodes.pool s).isHealthy = true)
    (h : (nodes.call query s).1 = .error e) :
    ∃ url own, (nodes.asked query s).getLast? = some url ∧
      nodes.hears query s url = .error own ∧ own.ComesOf e :=
  Walk.exists_last_asked (order_ne_nil hhealthy) h

end Nodes

/-! ### Dispatches -/

theorem mem_submissions_iff {asked : List Exchange} {payload : Bytes}
    {answer : Except CallError String} :
    (payload, answer) ∈ submissions asked ↔ ⟨.submit payload, answer⟩ ∈ asked := by
  rw [submissions, List.mem_filterMap]
  refine ⟨?_, fun h => ⟨_, h, rfl⟩⟩
  rintro ⟨⟨query, heard⟩, hmem, hread⟩
  cases query with
  | submit =>
    cases hread
    exact hmem
  | _ => cases hread

theorem mem_lookups_iff {asked : List Exchange} {hash : String} {answer : Except CallError Bool} :
    (hash, answer) ∈ lookups asked ↔ ⟨.find hash, answer⟩ ∈ asked := by
  rw [lookups, List.mem_filterMap]
  refine ⟨?_, fun h => ⟨_, h, rfl⟩⟩
  rintro ⟨⟨query, heard⟩, hmem, hread⟩
  cases query with
  | find =>
    cases hread
    exact hmem
  | _ => cases hread

/-- A payload is handed over at some moment, when an endpoint is healthy and no healthy endpoint
takes it, and its transaction is not found when it is looked for. -/
structure Nodes.Refuse {σ : Type} (nodes : Nodes σ) (asked : List (Query × σ)) (payload : Bytes)
    (moment : σ) : Prop where
  handed_over : (.submit payload, moment) ∈ asked
  isHealthy : (nodes.pool moment).isHealthy = true
  not_taken : ∀ url ∈ (nodes.pool moment).healthyUrls, ∀ hash,
    nodes.tells (.submit payload) moment url ≠ some (.ok hash)
  not_found : ∀ hash later, (.find hash, later) ∈ asked →
    (nodes.call (.find hash) later).1 ≠ .ok true

/-- A call for a payload that no healthy endpoint takes fails. -/
theorem Nodes.Refuse.exists_call_eq_error {σ : Type} {nodes : Nodes σ}
    {asked : List (Query × σ)} {payload : Bytes} {moment : σ}
    (h : nodes.Refuse asked payload moment) :
    ∃ e, (nodes.call (.submit payload) moment).1 = .error e := by
  cases hcall : (nodes.call (.submit payload) moment).1 with
  | error e => exact ⟨e, rfl⟩
  | ok hash =>
    obtain ⟨url, hmem, htells⟩ := Nodes.exists_of_call_eq_ok hcall
    exact absurd htells (h.not_taken url hmem hash)

namespace Dispatch

variable {codec : Codec} {checkBalance : Bool} {request : Submission} {asked : List Exchange}
  {report : SubmissionReport}

/-- A dispatch whose submission failed, and whose transaction is not found, reports the category of
this failure. -/
theorem Course.error_eq (h : Course codec checkBalance request asked report) {e : CallError}
    (hfailed : (request.rawTx, .error e) ∈ submissions asked)
    (hunknown : ∀ hash, (hash, .ok true) ∉ lookups asked) :
    report.success = false ∧ report.error = some (.ofSubmitError e) := by
  cases h with
  | unreadable | foreign | short => cases hfailed
  | sent _ _ hchecks =>
    rw [hchecks.submissions_append] at hfailed
    cases List.mem_singleton.mp hfailed
  | @known tx _ _ _ _ hchecks =>
    refine absurd ?_ (hunknown tx.hash)
    rw [hchecks.lookups_append]
    exact List.mem_singleton_self _
  | refused _ _ hchecks =>
    rw [hchecks.submissions_append] at hfailed
    cases List.mem_singleton.mp hfailed
    exact ⟨rfl, rfl⟩

end Dispatch

open Dispatch in
/-- **Faults are classified by their cause.** Wrappers change neither the innermost text of a
failure nor its category, and letter case does not change the category. So when some endpoint is
healthy, none takes a payload and its transaction is not found, the dispatch reports the category of
what was heard from the endpoint asked last. -/
theorem classified_by_cause :
    (∀ chains e, (CallError.wrapped chains e).innermostText = e.innermostText ∧
      DispatchFault.ofSubmitError (e.wrapped chains) = DispatchFault.ofSubmitError e) ∧
    (∀ e e' : CallError, e.SameWords e' →
      DispatchFault.ofSubmitError e = DispatchFault.ofSubmitError e') ∧
    ∀ {σ : Type} (nodes : Nodes σ) (codec : Codec) (checkBalance : Bool) (request : Submission)
      (s moment : σ),
      nodes.Refuse ((dispatch codec checkBalance request).moments nodes.call s) request.rawTx
        moment →
      ∃ url own, (nodes.asked (.submit request.rawTx) moment).getLast? = some url ∧
        nodes.hears (.submit request.rawTx) moment url = .error own ∧
        ((dispatch codec checkBalance request).run nodes.call s).2.1.success = false ∧
        ((dispatch codec checkBalance request).run nodes.call s).2.1.error =
          some (.ofSubmitError own) := by
  refine ⟨fun chains e => ?_, fun _ _ h => DispatchFault.ofSubmitError_eq_of_sameWords h, ?_⟩
  · exact ⟨e.innermostText_wrapped chains, DispatchFault.ofSubmitError_wrapped chains e⟩
  · intro σ nodes codec checkBalance request s moment h
    -- What the call came to is the failure at the endpoint asked last, perhaps in a wrapper, and
    -- the report has its category, which no wrapper changes.
    obtain ⟨e, hfailed⟩ := h.exists_call_eq_error
    obtain ⟨url, own, hlast, hheard, hcomes⟩ := Nodes.exists_last_asked h.isHealthy hfailed
    have hcourse := course_run codec checkBalance request nodes.call s
    obtain ⟨hfailure, herror⟩ := hcourse.error_eq
      (mem_submissions_iff.mpr (Inquiry.mem_exchanges_iff.mpr ⟨moment, h.handed_over, hfailed⟩))
      fun hash hknown => by
        obtain ⟨later, hasked, hfound⟩ := Inquiry.mem_exchanges_iff.mp (mem_lookups_iff.mp hknown)
        exact h.not_found hash later hasked hfound
    exact ⟨url, own, hlast, hheard, hfailure, by rw [herror, hcomes.ofSubmitError_eq]⟩

/-- Two endpoints. The first one asked does not answer in time; the other one has other nodes behind
it, which say that the nonce is too low, in letters of their own. -/
def refusing : Nodes Unit where
  pool _ := ⟨"local", ["http://a", "http://b"], [⟨"http://a", true⟩, ⟨"http://b", true⟩]⟩
  limit _ := .ofMillis 1000
  order _ _ := ["http://b", "http://a"]
  order_perm _ _ := .swap _ _ _
  tells
    | .submit _, _, url =>
      if url = "http://a" then
        some (.error (.everyEndpointFailed "behind" (.rejected "Nonce TOO low")))
      else none
    | .find _, _, _ => some (.ok false)
    | _, _, _ => none
  after _ s := s

open Dispatch in
/-- The payment is reported as one whose nonce is in conflict. -/
theorem nonceConflict_of_refusing :
    refusing.Refuse ((dispatch Piped.codec true payment).moments refusing.call ())
        payment.rawTx () ∧
      ((dispatch Piped.codec true payment).run refusing.call ()).2.1.error =
        some .nonceConflict := by
  have hrefuse : refusing.Refuse ((dispatch Piped.codec true payment).moments refusing.call ())
      payment.rawTx () := by
    refine ⟨by decide +kernel, rfl, fun url _ hash htold => ?_, fun hash _ _ => nofun⟩
    by_cases hurl : url = "http://a" <;> simp [refusing, hurl] at htold
  obtain ⟨url, own, hlast, hheard, -, herror⟩ :=
    classified_by_cause.2.2 refusing Piped.codec true payment () () hrefuse
  obtain rfl : "http://a" = url := Option.some.inj hlast
  obtain rfl : .everyEndpointFailed "behind" (.rejected "Nonce TOO low") = own :=
    Except.error.inj hheard
  exact ⟨hrefuse, herror⟩

end VaultWatch
