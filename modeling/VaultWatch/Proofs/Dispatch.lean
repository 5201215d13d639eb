import VaultWatch.Codec.Piped
import VaultWatch.Dispatch
import VaultWatch.Proofs.Nodes

/-!
# Decisions on dispatches

What becomes of a request, in all cases. `Course` lists the ways a dispatch can go, each with what
it asks, what it is answered and what it reports; whatever happens is on the list (`course_run`).
From this follows, for every codec and every behaviour of the nodes, when the payload is handed
over, when the dispatch is a success, and what the report says (`dispatch_decided`).

A payload whose transaction the nodes know already is reported as sent, unless the balance check is
on and the nodes tell a balance that is too small (`known_sent_iff`): by then the transaction may
have spent what the check looks for (`refused_although_known`).
-/

namespace VaultWatch

/-! ### Readings of exchanges -/

namespace Exchange

/-- The payload that was handed over, and the answer. -/
def submission? : Exchange → Option (Bytes × Except CallError String)
  | ⟨.submit payload, answer⟩ => some (payload, answer)
  | _ => none

/-- The address whose balance was asked for, and the answer. -/
def balance? : Exchange → Option (String × Except CallError Nat)
  | ⟨.balance address, answer⟩ => some (address, answer)
  | _ => none

/-- The transaction that was looked for, and the answer. -/
def lookup? : Exchange → Option (String × Except CallError Bool)
  | ⟨.find hash, answer⟩ => some (hash, answer)
  | _ => none

end Exchange

/-- The payloads handed over, each with its answer. -/
def submissions (asked : List Exchange) : List (Bytes × Except CallError String) :=
  asked.filterMap Exchange.submission?

/-- The addresses whose balances were asked for, each with the answer. -/
def balances (asked : List Exchange) : List (String × Except CallError Nat) :=
  asked.filterMap Exchange.balance?

/-- The transactions looked for, each with the answer. -/
def lookups (asked : List Exchange) : List (String × Except CallError Bool) :=
  asked.filterMap Exchange.lookup?

namespace Dispatch

/-! ### Conditions -/

/-- The key that came with a request, if one did, derives the address of the sender, up to the case
of ASCII letters. -/
def KeyMatches (codec : Codec) (request : Submission) (tx : DecodedTx) : Prop :=
  request.senderPubKey = none ∨ ∃ key address, request.senderPubKey = some key ∧
    codec.addressOfPubKey key = .ok address ∧ Ascii.sameFold address tx.sender = true

/-- The sender is known to have less than the value and the fee together, cut down to the largest
amount. -/
def Short (tx : DecodedTx) (asked : List Exchange) : Prop :=
  ∃ balance, (tx.sender, .ok balance) ∈ balances asked ∧
    balance < min (tx.value + tx.maxFeeCost) maxAmount

/-- The balance check lets a transaction pass: it is off, its query failed, or the sender has the
value and the fee together, cut down to the largest amount. -/
def Covered (checkBalance : Bool) (tx : DecodedTx) (asked : List Exchange) : Prop :=
  checkBalance = false ∨ (∃ e, (tx.sender, .error e) ∈ balances asked) ∨
    ∃ balance, (tx.sender, .ok balance) ∈ balances asked ∧
      min (tx.value + tx.maxFeeCost) maxAmount ≤ balance

/-- What has to hold for a payload to be handed over. -/
structure Admits (codec : Codec) (checkBalance : Bool) (request : Submission)
    (asked : List Exchange) (tx : DecodedTx) : Prop where
  read : codec.readSigned request.rawTx = .ok tx
  key : KeyMatches codec request tx
  covered : Covered checkBalance tx asked

/-- The payload has reached the chain under a hash: a node took it and told the hash, or the
submission failed, and the nodes know the transaction. -/
inductive Lands (codec : Codec) (request : Submission) (asked : List Exchange) :
    String → Prop where
  | taken {hash : String} (htaken : (request.rawTx, .ok hash) ∈ submissions asked) :
      Lands codec request asked hash
  | known {tx : DecodedTx} {e : CallError} (hread : codec.readSigned request.rawTx = .ok tx)
      (hfailed : (request.rawTx, .error e) ∈ submissions asked)
      (hknown : (tx.hash, .ok true) ∈ lookups asked) :
      Lands codec request asked tx.hash

/-- The step that stopped a dispatch, and the fault that this step reports. -/
inductive StoppedBy (codec : Codec) (checkBalance : Bool) (request : Submission)
    (asked : List Exchange) : DispatchFault → Prop where
  | reading {e : PayloadError} (hread : codec.readSigned request.rawTx = .error e) :
      StoppedBy codec checkBalance request asked .decode
  | key {tx : DecodedTx} (hread : codec.readSigned request.rawTx = .ok tx)
      (hkey : ¬ KeyMatches codec request tx) :
      StoppedBy codec checkBalance request asked .decode
  | balance {tx : DecodedTx} (hread : codec.readSigned request.rawTx = .ok tx)
      (hkey : KeyMatches codec request tx) (hcheck : checkBalance = true)
      (hshort : Short tx asked) :
      StoppedBy codec checkBalance request asked .insufficientBalance
  | submission {tx : DecodedTx} {e : CallError}
      (hadmits : Admits codec checkBalance request asked tx)
      (hfailed : (request.rawTx, .error e) ∈ submissions asked)
      (hunknown : (tx.hash, .ok true) ∉ lookups asked) :
      StoppedBy codec checkBalance request asked (.ofSubmitError e)

/-- A dispatch is decided right: whether the payload is handed over, whether this is a success, and
what the report says. -/
structure Decided (codec : Codec) (checkBalance : Bool) (request : Submission)
    (asked : List Exchange) (report : SubmissionReport) : Prop where
  /-- The sender's balance is asked for once, if the check is on and is reached. -/
  balance_asked : ∀ tx, codec.readSigned request.rawTx = .ok tx → KeyMatches codec request tx →
    checkBalance = true → ∃ answer, balances asked = [(tx.sender, answer)]
  /-- The payload is handed over, once and as it is, exactly if nothing stands against it. -/
  handed_over : (submissions asked).map (·.1) = [request.rawTx] ↔
    ∃ tx, Admits codec checkBalance request asked tx
  /-- Nothing at all is handed over otherwise. -/
  held_back : submissions asked = [] ↔ ¬ ∃ tx, Admits codec checkBalance request asked tx
  success_iff : report.success = true ↔ ∃ hash, Lands codec request asked hash
  success : report.success = true → ∃ tx hash, codec.readSigned request.rawTx = .ok tx ∧
    Lands codec request asked hash ∧ report = ⟨true, some hash, tx.deployedAddress, none⟩
  failure : report.success = false → ∃ fault, StoppedBy codec checkBalance request asked fault ∧
    report = ⟨false, (codec.readSigned request.rawTx).toOption.map (·.hash), none, some fault⟩

variable {codec : Codec} {checkBalance : Bool} {request : Submission} {tx : DecodedTx}
  {asked : List Exchange} {report : SubmissionReport}

theorem keyMatches_iff :
    KeyMatches codec request tx ↔ request.senderPubKey.all (ownsKey codec tx) = true := by
  unfold KeyMatches
  cases request.senderPubKey with
  | none => simp
  | some key =>
    simp only [Option.all_some, ownsKey, reduceCtorEq, Option.some.injEq, false_or]
    cases hkey : codec.addressOfPubKey key with
    | error e => simp [hkey]
    | ok address => simp [hkey]

/-! ### The ways a dispatch can go -/

/-- What the balance check of a transaction that passes asks. -/
inductive Checks (checkBalance : Bool) (tx : DecodedTx) : List Exchange → Prop where
  | off (hcheck : checkBalance = false) : Checks checkBalance tx []
  | failed {e : CallError} (hcheck : checkBalance = true) :
      Checks checkBalance tx [⟨.balance tx.sender, .error e⟩]
  | enough {balance : Nat} (hcheck : checkBalance = true) (henough : needed tx ≤ balance) :
      Checks checkBalance tx [⟨.balance tx.sender, .ok balance⟩]

/-- The ways a dispatch can go. -/
inductive Course (codec : Codec) (checkBalance : Bool) (request : Submission) :
    List Exchange → SubmissionReport → Prop where
  | unreadable {e : PayloadError} (hread : codec.readSigned request.rawTx = .error e) :
      Course codec checkBalance request [] (.failed none .decode)
  | foreign {tx : DecodedTx} (hread : codec.readSigned request.rawTx = .ok tx)
      (hkey : ¬ KeyMatches codec request tx) :
      Course codec checkBalance request [] (.failed (some tx.hash) .decode)
  | short {tx : DecodedTx} {balance : Nat} (hread : codec.readSigned request.rawTx = .ok tx)
      (hkey : KeyMatches codec request tx) (hcheck : checkBalance = true)
      (hshort : balance < needed tx) :
      Course codec checkBalance request [⟨.balance tx.sender, .ok balance⟩]
        (.failed (some tx.hash) .insufficientBalance)
  | sent {tx : DecodedTx} {checks : List Exchange} {hash : String}
      (hread : codec.readSigned request.rawTx = .ok tx) (hkey : KeyMatches codec request tx)
      (hchecks : Checks checkBalance tx checks) :
      Course codec checkBalance request (checks ++ [⟨.submit request.rawTx, .ok hash⟩])
        (.sent hash tx.deployedAddress)
  | known {tx : DecodedTx} {checks : List Exchange} {e : CallError}
      (hread : codec.readSigned request.rawTx = .ok tx) (hkey : KeyMatches codec request tx)
      (hchecks : Checks checkBalance tx checks) :
      Course codec checkBalance request
        (checks ++ [⟨.submit request.rawTx, .error e⟩, ⟨.find tx.hash, .ok true⟩])
        (.sent tx.hash tx.deployedAddress)
  | refused {tx : DecodedTx} {checks : List Exchange} {e : CallError}
      {found : Except CallError Bool} (hread : codec.readSigned request.rawTx = .ok tx)
      (hkey : KeyMatches codec request tx) (hchecks : Checks checkBalance tx checks)
      (hfound : found ≠ .ok true) :
      Course codec checkBalance request
        (checks ++ [⟨.submit request.rawTx, .error e⟩, ⟨.find tx.hash, found⟩])
        (.failed (some tx.hash) (.ofSubmitError e))

open Inquiry (ComesTo)

theorem isKnown_cases {hash : String} {known : Bool}
    (h : (isKnown hash).ComesTo asked known) :
    ∃ found : Except CallError Bool, asked = [⟨.find hash, found⟩] ∧
      (known = true ↔ found = .ok true) := by
  cases h with
  | ask found h =>
    cases found with
    | ok known =>
      cases h
      exact ⟨.ok known, rfl, by simp⟩
    | error e =>
      cases h
      exact ⟨.error e, rfl, by simp⟩

theorem affords_cases {passes : Bool} (h : (affords tx).ComesTo asked passes) :
    (passes = true ∧ Checks true tx asked) ∨
      (passes = false ∧ ∃ balance < needed tx, asked = [⟨.balance tx.sender, .ok balance⟩]) := by
  cases h with
  | ask answer h =>
    cases answer with
    | error e =>
      cases h
      exact .inl ⟨rfl, .failed rfl⟩
    | ok balance =>
      cases h
      by_cases henough : needed tx ≤ balance
      · exact .inl ⟨decide_eq_true henough, .enough rfl henough⟩
      · exact .inr ⟨decide_eq_false henough, balance, Nat.not_le.mp henough, rfl⟩

/-- A payload whose transaction has been checked is submitted in one of the last three ways. -/
theorem course_submit {checks : List Exchange} (hread : codec.readSigned request.rawTx = .ok tx)
    (hkey : KeyMatches codec request tx) (hchecks : Checks checkBalance tx checks)
    (h : (submit request.rawTx tx).ComesTo asked report) :
    Course codec checkBalance request (checks ++ asked) report := by
  cases h with
  | ask answer h =>
    cases answer with
    | ok hash =>
      cases h
      exact .sent hread hkey hchecks
    | error e =>
      -- before this counts as a failure, the transaction is looked for
      obtain ⟨first, known, rest, rfl, hfind, h⟩ := h.of_bind
      obtain ⟨found, rfl, hfound⟩ := isKnown_cases hfind
      cases known with
      | true =>
        cases h
        rw [hfound.mp rfl]
        exact .known hread hkey hchecks
      | false =>
        cases h
        exact .refused hread hkey hchecks fun hyes => by simpa using hfound.mpr hyes

/-- **Nothing else happens**: every dispatch goes one of the ways on the list. -/
theorem course_of_comesTo (h : (dispatch codec checkBalance request).ComesTo asked report) :
    Course codec checkBalance request asked report := by
  unfold dispatch checked at h
  cases hread : codec.readSigned request.rawTx with
  | error e =>
    simp only [hread] at h
    cases h
    exact .unreadable hread
  | ok tx =>
    simp only [hread] at h
    by_cases hkey : KeyMatches codec request tx
    · simp only [keyMatches_iff.mp hkey, if_true] at h
      cases checkBalance with
      | false =>
        have hdecides := course_submit hread hkey (.off rfl) h
        exact hdecides
      | true =>
        rw [if_pos rfl] at h
        obtain ⟨first, passes, rest, rfl, hbalance, hnext⟩ := h.of_bind
        obtain ⟨rfl, hchecks⟩ | ⟨rfl, balance, hshort, rfl⟩ := affords_cases hbalance
        · exact course_submit hread hkey hchecks hnext
        · rw [if_neg Bool.false_ne_true] at hnext
          cases hnext
          exact .short hread hkey rfl hshort
    · simp only [mt keyMatches_iff.mpr hkey] at h
      cases h
      exact .foreign hread hkey

theorem course_run {σ : Type} (codec : Codec) (checkBalance : Bool) (request : Submission)
    (answer : (q : Query) → σ → q.Answer × σ) (s : σ) :
    Course codec checkBalance request ((dispatch codec checkBalance request).exchanges answer s)
      ((dispatch codec checkBalance request).run answer s).2.1 :=
  course_of_comesTo (Inquiry.comesTo_run answer _ s)

/-! ### What follows for every dispatch -/

namespace Checks

variable {checks : List Exchange} (h : Checks checkBalance tx checks) (rest : List Exchange)
include h

theorem submissions_append : submissions (checks ++ rest) = submissions rest := by
  cases h <;> rfl

theorem lookups_append : lookups (checks ++ rest) = lookups rest := by
  cases h <;> rfl

theorem mem_submissions (payload : Bytes) (answer : Except CallError String) :
    (payload, answer) ∈ submissions (checks ++ ⟨.submit payload, answer⟩ :: rest) := by
  rw [h.submissions_append]
  exact List.mem_cons_self

theorem covered : Covered checkBalance tx (checks ++ rest) := by
  cases h with
  | off hcheck => exact .inl hcheck
  | failed => exact .inr (.inl ⟨_, List.mem_cons_self⟩)
  | enough _ henough => exact .inr (.inr ⟨_, List.mem_cons_self, henough⟩)

/-- The balance is asked for once if the check is on. -/
theorem balances_append (hcheck : checkBalance = true) :
    ∃ answer, balances (checks ++ rest) = (tx.sender, answer) :: balances rest := by
  cases h with
  | off hoff => cases hcheck.symm.trans hoff
  | failed => exact ⟨_, rfl⟩
  | enough => exact ⟨_, rfl⟩

end Checks

namespace Course

variable (h : Course codec checkBalance request asked report)
include h

/-- The payload is handed over once and as it is, or something stands against it and nothing is
handed over. -/
theorem handed_over_or_held_back :
    (∃ tx answer, Admits codec checkBalance request asked tx ∧
        submissions asked = [(request.rawTx, answer)]) ∨
      (¬ ∃ tx, Admits codec checkBalance request asked tx) ∧ submissions asked = [] := by
  cases h with
  | unreadable hread =>
    refine .inr ⟨?_, rfl⟩
    rintro ⟨tx, hadmits⟩
    cases hread.symm.trans hadmits.read
  | foreign hread hkey =>
    refine .inr ⟨?_, rfl⟩
    rintro ⟨tx, hadmits⟩
    cases hread.symm.trans hadmits.read
    exact hkey hadmits.key
  | short hread _ hcheck hshort =>
    refine .inr ⟨?_, rfl⟩
    rintro ⟨tx, hadmits⟩
    cases hread.symm.trans hadmits.read
    rcases hadmits.covered with hoff | ⟨e, hfailed⟩ | ⟨balance, htold, henough⟩
    · cases hcheck.symm.trans hoff
    · cases List.mem_singleton.mp hfailed
    · cases List.mem_singleton.mp htold
      exact absurd henough (Nat.not_le.mpr hshort)
  | sent hread hkey hchecks | known hread hkey hchecks | refused hread hkey hchecks =>
    exact .inl ⟨_, _, ⟨hread, hkey, hchecks.covered _⟩, hchecks.submissions_append _⟩

/-- A success tells the hash under which the payload has reached the chain. -/
theorem success (hsuccess : report.success = true) :
    ∃ tx hash, codec.readSigned request.rawTx = .ok tx ∧ Lands codec request asked hash ∧
      report = ⟨true, some hash, tx.deployedAddress, none⟩ := by
  cases h with
  | unreadable | foreign | short | refused => cases hsuccess
  | @sent tx checks hash hread _ hchecks =>
    exact ⟨tx, hash, hread, .taken (hchecks.mem_submissions [] _ _), rfl⟩
  | @known tx checks e hread _ hchecks =>
    refine ⟨tx, tx.hash, hread, .known hread (hchecks.mem_submissions _ _ _) ?_, rfl⟩
    rw [hchecks.lookups_append]
    exact List.mem_singleton_self _

/-- A failure is one of a payload that has not reached the chain. -/
theorem not_lands (hfailure : report.success = false) (hash : String) :
    ¬ Lands codec request asked hash := by
  rintro (htaken | ⟨hread', hfailed, hknown⟩)
  · cases h with
    | unreadable | foreign | short => cases htaken
    | sent | known => cases hfailure
    | refused _ _ hchecks =>
      rw [hchecks.submissions_append] at htaken
      cases List.mem_singleton.mp htaken
  · cases h with
    | unreadable | foreign | short => cases hfailed
    | sent | known => cases hfailure
    | refused hread _ hchecks hfound =>
      cases hread.symm.trans hread'
      rw [hchecks.lookups_append] at hknown
      cases List.mem_singleton.mp hknown
      exact hfound rfl

/-- A failure tells the step that stopped the dispatch, and the hash if there is one to tell. -/
theorem failure (hfailure : report.success = false) :
    ∃ fault, StoppedBy codec checkBalance request asked fault ∧
      report = ⟨false, (codec.readSigned request.rawTx).toOption.map (·.hash), none,
        some fault⟩ := by
  have hnot := h.not_lands hfailure
  cases h with
  | unreadable hread => exact ⟨.decode, .reading hread, by rw [hread]; rfl⟩
  | foreign hread hkey => exact ⟨.decode, .key hread hkey, by rw [hread]; rfl⟩
  | short hread hkey hcheck hshort =>
    exact ⟨.insufficientBalance, .balance hread hkey hcheck ⟨_, List.mem_cons_self, hshort⟩,
      by rw [hread]; rfl⟩
  | sent | known => cases hfailure
  | @refused tx checks e found hread hkey hchecks =>
    have hfailed : (request.rawTx, .error e) ∈
        submissions (checks ++ [⟨.submit request.rawTx, .error e⟩, ⟨.find tx.hash, found⟩]) :=
      hchecks.mem_submissions _ _ _
    exact ⟨.ofSubmitError e, .submission ⟨hread, hkey, hchecks.covered _⟩ hfailed
      fun hknown => hnot _ (.known hread hfailed hknown), by rw [hread]; rfl⟩

/-- The balance is asked for once if the check is on and is reached. -/
theorem balance_asked (hread : codec.readSigned request.rawTx = .ok tx)
    (hkey : KeyMatches codec request tx) (hcheck : checkBalance = true) :
    ∃ answer, balances asked = [(tx.sender, answer)] := by
  cases h with
  | unreadable hread' => cases hread'.symm.trans hread
  | foreign hread' hkey' =>
    cases hread'.symm.trans hread
    exact absurd hkey hkey'
  | short hread' =>
    cases hread'.symm.trans hread
    exact ⟨_, rfl⟩
  | sent hread' _ hchecks | known hread' _ hchecks | refused hread' _ hchecks =>
    cases hread'.symm.trans hread
    exact hchecks.balances_append _ hcheck

theorem decided : Decided codec checkBalance request asked report where
  balance_asked _ := h.balance_asked
  handed_over := by
    rcases h.handed_over_or_held_back with ⟨tx, answer, hadmits, hone⟩ | ⟨hnot, hnone⟩
    · exact iff_of_true (by rw [hone]; rfl) ⟨tx, hadmits⟩
    · exact iff_of_false (by rw [hnone]; exact (List.cons_ne_nil _ _).symm) hnot
  held_back := by
    rcases h.handed_over_or_held_back with ⟨tx, answer, hadmits, hone⟩ | ⟨hnot, hnone⟩
    · exact iff_of_false (by rw [hone]; exact List.cons_ne_nil _ _) fun hnot => hnot ⟨tx, hadmits⟩
    · exact iff_of_true hnone hnot
  success_iff := by
    refine ⟨fun hsuccess => ?_, fun ⟨hash, hlands⟩ => ?_⟩
    · obtain ⟨_, hash, -, hlands, -⟩ := h.success hsuccess
      exact ⟨hash, hlands⟩
    · exact eq_true_of_ne_false fun hfailure => h.not_lands hfailure hash hlands
  success := h.success
  failure := h.failure

end Course

theorem Checks.not_short {checks : List Exchange} (h : Checks checkBalance tx checks)
    {rest : List Exchange} (hrest : balances rest = []) : ¬ Short tx (checks ++ rest) := by
  rintro ⟨balance, htold, hshort⟩
  rw [balances, List.filterMap_append, ← balances, ← balances, hrest, List.append_nil] at htold
  cases h with
  | off => cases htold
  | failed => cases List.mem_singleton.mp htold
  | enough _ henough =>
    cases List.mem_singleton.mp htold
    exact absurd henough (Nat.not_le.mpr hshort)

/-- A transaction that is known whenever it is looked for is reported as sent unless the balance
falls short. -/
theorem Course.sent_or_short (h : Course codec checkBalance request asked report)
    (hread : codec.readSigned request.rawTx = .ok tx) (hkey : KeyMatches codec request tx)
    (hknown : ∀ found, ⟨.find tx.hash, found⟩ ∈ asked → found = .ok true) :
    (report.success = true ∧ ¬ Short tx asked) ∨
      (Short tx asked ∧ checkBalance = true ∧
        report = .failed (some tx.hash) .insufficientBalance) := by
  cases h with
  | unreadable hread' => cases hread'.symm.trans hread
  | foreign hread' hkey' =>
    cases hread'.symm.trans hread
    exact absurd hkey hkey'
  | short hread' _ hcheck hshort =>
    cases hread'.symm.trans hread
    exact .inr ⟨⟨_, List.mem_cons_self, hshort⟩, hcheck, rfl⟩
  | sent hread' _ hchecks | known hread' _ hchecks =>
    cases hread'.symm.trans hread
    exact .inl ⟨rfl, hchecks.not_short rfl⟩
  | refused hread' _ _ hfound =>
    cases hread'.symm.trans hread
    exact absurd (hknown _ (List.mem_append_right _ (List.mem_cons_of_mem _ List.mem_cons_self)))
      hfound

end Dispatch

/-- Some endpoint is healthy at every moment, and every endpoint that is says that it knows the
transaction. -/
structure Nodes.Know {σ : Type} (nodes : Nodes σ) (hash : String) : Prop where
  isHealthy : ∀ s, (nodes.pool s).isHealthy = true
  tells : ∀ s, ∀ url ∈ (nodes.pool s).healthyUrls, nodes.tells (.find hash) s url = some (.ok true)

namespace Dispatch

variable {σ : Type} {nodes : Nodes σ}

/-- **Submitting again.** A payload whose transaction the nodes know is reported as sent, whatever
they answer to the submission, unless the balance check is on and they tell a balance below what the
payload needs: this is a failure of its own, which nothing follows. -/
theorem known_sent_iff (hread : codec.readSigned request.rawTx = .ok tx)
    (hkey : KeyMatches codec request tx) (hknow : nodes.Know tx.hash) (s : σ) :
    (((dispatch codec checkBalance request).run nodes.call s).2.1.success = true ↔
        ¬ (checkBalance = true ∧
          Short tx ((dispatch codec checkBalance request).exchanges nodes.call s))) ∧
      (checkBalance = true →
        Short tx ((dispatch codec checkBalance request).exchanges nodes.call s) →
        ((dispatch codec checkBalance request).run nodes.call s).2.1 =
          ⟨false, some tx.hash, none, some .insufficientBalance⟩) := by
  have hknown : ∀ found, ⟨.find tx.hash, found⟩ ∈
      (dispatch codec checkBalance request).exchanges nodes.call s → found = .ok true := by
    intro found hmem
    obtain ⟨moment, hanswer⟩ := Inquiry.exists_of_mem_exchanges hmem
    exact hanswer.symm.trans (Nodes.call_eq_ok (hknow.isHealthy _) (hknow.tells _))
  rcases (course_run codec checkBalance request nodes.call s).sent_or_short hread hkey hknown with
    ⟨hsent, hnot⟩ | ⟨hshort, hcheck, hreport⟩
  · exact ⟨iff_of_true hsent fun hshort => hnot hshort.2, fun _ hshort => absurd hshort hnot⟩
  · rw [hreport]
    exact ⟨iff_of_false Bool.false_ne_true fun hnot => hnot ⟨hcheck, hshort⟩, fun _ _ => rfl⟩

/-- Ten for Bob, and a fee of five. -/
def payment : Submission := ⟨"local", "alice|bob|3|10|5".toList.map (UInt8.ofNat ·.toNat), none⟩

/-- The transaction of the payment. -/
def paymentTx : DecodedTx where
  hash := "0x616c6963657c626f627c337c31307c35"
  sender := "alice"
  recipient := some "bob"
  nonce := 3
  value := 10
  maxFeeCost := 5
  deployedAddress := none

/-- A node that knows every transaction, takes none and tells one balance for everybody. -/
def knowing (balance : Nat) : Nodes Unit :=
  .single fun
    | .find _, _ => some (.ok true)
    | .balance _, _ => some (.ok balance)
    | .submit _, _ => some (.error (.rejected "already known"))
    | _, _ => none

theorem knowing_know (balance : Nat) (hash : String) : (knowing balance).Know hash where
  isHealthy _ := rfl
  tells _ _ _ := rfl

theorem readSigned_payment : Piped.codec.readSigned payment.rawTx = .ok paymentTx := by
  have hread : (Piped.codec.readSigned payment.rawTx).toOption = some paymentTx := by
    decide +kernel
  generalize Piped.codec.readSigned payment.rawTx = outcome at hread ⊢
  cases outcome with
  | error e => cases hread
  | ok tx => exact congrArg _ (Option.some.inj hread)

/-- The payment is reported as sent when it is submitted again by one who still has enough. -/
theorem payment_sent_again :
    ((dispatch Piped.codec true payment).run (knowing 15).call ()).2.1.success = true := by
  refine (known_sent_iff readSigned_payment (.inl rfl) (knowing_know 15 _) ()).1.mpr ?_
  rintro ⟨-, balance, htold, hshort⟩
  rw [dispatch, checked, readSigned_payment] at htold
  cases List.mem_singleton.mp htold
  exact absurd hshort (by decide)

/-- **A payment that is on the chain is refused.** The nodes know the payment, and its sender has
spent all: it is reported as one that the sender cannot afford. -/
theorem refused_although_known :
    Piped.codec.readSigned payment.rawTx = .ok paymentTx ∧
      KeyMatches Piped.codec payment paymentTx ∧ (knowing 0).Know paymentTx.hash ∧
      ((dispatch Piped.codec true payment).run (knowing 0).call ()).2.1 =
        ⟨false, some paymentTx.hash, none, some .insufficientBalance⟩ :=
  ⟨readSigned_payment, .inl rfl, knowing_know 0 _, by decide +kernel⟩

end Dispatch

end VaultWatch
