import VaultWatch.Proofs.JsonText
import VaultWatch.Record.Wire

/-!
# Records read back

Every record that has a reader is read back from the text that is written for it, whatever its
fields hold. The text of a record is the text of a plain value, so that the reader of texts gives
the value back (`Json.IsPlain.parse?_render`); what is left for each record is that its own reader
finds its fields in this value. The main statement is `readBack_records`.
-/

namespace VaultWatch

namespace Json

/-! ### Fields -/

/-- Of members with different names at most one has a given name. -/
theorem membersNamed_keyed (name : String) {members : List (String × Json)}
    (hnodup : (members.map (·.1)).Nodup) :
    membersNamed name (keyed members) = (members.lookup name).toList := by
  induction members with
  | nil => rfl
  | cons m members ih =>
    obtain ⟨key, value⟩ := m
    rw [List.map_cons, List.nodup_cons] at hnodup
    have hrest := ih hnodup.2
    simp only [membersNamed, keyed, List.map_cons, List.filterMap_cons, Option.some.injEq,
      List.lookup_cons] at hrest ⊢
    by_cases h : key = name
    · subst h
      have hnone : members.lookup key = none := by
        rw [List.lookup_eq_none_iff]
        intro m hm
        have hne : key ≠ m.1 := fun heq => hnodup.1 (List.mem_map.mpr ⟨m, hm, heq.symm⟩)
        simpa using hne
      rw [hnone] at hrest
      simp [hrest]
    · have hother : (name == key) = false := by simpa using fun heq => h heq.symm
      simp [h, hother, hrest]

/-- The fields of a record with these very names are its members. -/
theorem fields?_record {names : List String} {members : List (String × Json)}
    (hnames : members.map (·.1) = names) (hnodup : names.Nodup) :
    (record members).fields? names = some fun name => members.lookup name := by
  subst hnames
  have hkeys : (keyed members).all (·.1.isSome) = true := by simp [keyed]
  have honce : ((members.map (·.1)).all fun name =>
      (membersNamed name (keyed members)).length ≤ 1) = true := by
    simp only [List.all_eq_true, decide_eq_true_eq]
    intro name _
    rw [membersNamed_keyed name hnodup]
    cases members.lookup name <;> simp
  have hhead : ∀ name, (membersNamed name (keyed members)).head? = members.lookup name := by
    intro name
    rw [membersNamed_keyed name hnodup]
    cases members.lookup name <;> rfl
  have hrecord : record members = .object (keyed members) := rfl
  simp only [hrecord, fields?, hkeys, honce, hhead, Bool.and_self, if_true]

end Json

/-! ### Parts of records -/

@[simp]
theorem bytesOfJson?_bytesJson (bytes : Bytes) : bytesOfJson? (bytesJson bytes) = some bytes :=
  Hex.ofField?_field bytes

@[simp]
theorem u64?_heightJson (height : UInt64) : (heightJson height).u64? = some height := by
  have hlt : height.toNat < UInt64.size := height.toNat_lt_size
  simp [heightJson, Json.ofNat, Json.u64?, hlt]

@[simp]
theorem Json.optional_null {α : Type} (read : Json → Option α) :
    Json.optional read (some .null) = some none := rfl

@[simp]
theorem Json.optional_ofText? (text : Option String) :
    Json.optional Json.text? (some (Json.ofText? text)) = some text := by
  cases text <;> rfl

/-! ### Readers -/

/-- An observed transaction is read back from its fields. -/
@[simp]
theorem Deposit.ofJson?_toJson (tx : Deposit) : Deposit.ofJson? tx.toJson = some tx := by
  have hfields : tx.toJson.fields? fieldNames = some fun name => List.lookup name _ :=
    Json.fields?_record rfl (by decide)
  simp [ofJson?, hfields, Json.required, List.lookup_cons, Json.text?, Json.bool?]

/-- A matched block is read back from its fields. -/
theorem DepositBlock.ofJson?_toJson (block : DepositBlock) :
    DepositBlock.ofJson? block.toJson = some block := by
  have hfields : block.toJson.fields? fieldNames = some fun name => List.lookup name _ :=
    Json.fields?_record rfl (by decide)
  have htxs : (block.txs.map Deposit.toJson).mapM Deposit.ofJson? = some block.txs := by
    have hread : Deposit.ofJson? ∘ Deposit.toJson = pure := funext Deposit.ofJson?_toJson
    rw [List.mapM_map, hread, List.mapM_pure, List.map_id']
    rfl
  simp [ofJson?, hfields, Json.required, List.lookup_cons, Json.text?, Json.items?, htxs]

@[simp]
theorem Ending.ofJson?_toJson (result : Ending) : Ending.ofJson? result.toJson = some result := by
  cases result <;> decide

/-- A track update is read back from its fields. -/
theorem TrackNotice.ofJson?_toJson (update : TrackNotice) :
    TrackNotice.ofJson? update.toJson = some update := by
  have hfields : update.toJson.fields? fieldNames = some fun name => List.lookup name _ :=
    Json.fields?_record rfl (by decide)
  simp [ofJson?, hfields, Json.required, List.lookup_cons, Json.text?]

@[simp]
theorem DispatchFault.ofJson?_toJson (fault : DispatchFault) :
    DispatchFault.ofJson? fault.toJson = some fault := by
  cases fault <;> decide

/-- A dispatch request is read back from its fields. -/
theorem Submission.ofJson?_toJson (request : Submission) :
    Submission.ofJson? request.toJson = some request := by
  have hfields : request.toJson.fields? fieldNames = some fun name => List.lookup name _ :=
    Json.fields?_record rfl (by decide)
  simp [ofJson?, hfields, Json.required, List.lookup_cons, Json.text?]

/-- A dispatch result is read back from its fields. -/
theorem SubmissionReport.ofJson?_toJson (result : SubmissionReport) :
    SubmissionReport.ofJson? result.toJson = some result := by
  have hfields : result.toJson.fields? fieldNames = some fun name => List.lookup name _ :=
    Json.fields?_record rfl (by decide)
  have hfault (fault : DispatchFault) :
      Json.optional DispatchFault.ofJson? (some fault.toJson) = some (some fault) := by
    change (DispatchFault.ofJson? fault.toJson).map some = _
    rw [DispatchFault.ofJson?_toJson, Option.map_some]
  obtain ⟨success, txHash, deployedAddress, error⟩ := result
  cases error with
  | none => simp [ofJson?, hfields, Json.required, List.lookup_cons, Json.bool?]
  | some fault => simp [ofJson?, hfields, Json.required, List.lookup_cons, Json.bool?, hfault]

/-! ### Texts -/

attribute [simp] Json.IsPlain.null Json.IsPlain.bool Json.IsPlain.string

@[simp]
theorem isPlain_bytesJson (bytes : Bytes) : (bytesJson bytes).IsPlain := .string _

@[simp]
theorem isPlain_heightJson (height : UInt64) : (heightJson height).IsPlain := .ofNat _

@[simp]
theorem Json.isPlain_ofText? (text : Option String) : (Json.ofText? text).IsPlain := by
  cases text with
  | none => exact .null
  | some value => exact .string value

@[simp]
theorem Deposit.isPlain_toJson (tx : Deposit) : tx.toJson.IsPlain :=
  .record (by simp)

theorem DepositBlock.isPlain_toJson (block : DepositBlock) : block.toJson.IsPlain := by
  have htxs : (Json.array (block.txs.map Deposit.toJson)).IsPlain := .array (by simp)
  exact .record (by simp [htxs])

@[simp]
theorem Ending.isPlain_toJson (result : Ending) : result.toJson.IsPlain := .string _

theorem TrackNotice.isPlain_toJson (update : TrackNotice) : update.toJson.IsPlain :=
  .record (by simp)

@[simp]
theorem DispatchFault.isPlain_toJson (fault : DispatchFault) : fault.toJson.IsPlain := .string _

theorem Submission.isPlain_toJson (request : Submission) : request.toJson.IsPlain :=
  .record (by simp)

theorem SubmissionReport.isPlain_toJson (result : SubmissionReport) : result.toJson.IsPlain := by
  refine .record ?_
  cases herror : result.error <;> simp

/-- A record is read back from its text, if its value is plain and its reader reads it back. -/
theorem readRecord_render {α : Type} {toJson : α → Json} {ofJson? : Json → Option α} {value : α}
    (hplain : (toJson value).IsPlain) (hread : ofJson? (toJson value) = some value) :
    readRecord ofJson? (toJson value).render = some value := by
  rw [readRecord, hplain.parse?_render, Option.bind_some, hread]

/-- Each record that has a reader is read back from the text that is written for it: observed
transactions, matched blocks, endings, track updates, dispatch requests, dispatch results and the
categories of dispatch faults. -/
theorem readBack_records :
    (∀ tx : Deposit, readRecord Deposit.ofJson? tx.toJson.render = some tx) ∧
    (∀ block : DepositBlock, readRecord DepositBlock.ofJson? block.toJson.render = some block) ∧
    (∀ result : Ending, readRecord Ending.ofJson? result.toJson.render = some result) ∧
    (∀ update : TrackNotice, readRecord TrackNotice.ofJson? update.toJson.render = some update) ∧
    (∀ request : Submission,
      readRecord Submission.ofJson? request.toJson.render = some request) ∧
    (∀ result : SubmissionReport,
      readRecord SubmissionReport.ofJson? result.toJson.render = some result) ∧
    ∀ fault : DispatchFault,
      readRecord DispatchFault.ofJson? fault.toJson.render = some fault :=
  ⟨fun tx => readRecord_render tx.isPlain_toJson tx.ofJson?_toJson,
    fun block => readRecord_render block.isPlain_toJson block.ofJson?_toJson,
    fun result => readRecord_render result.isPlain_toJson result.ofJson?_toJson,
    fun update => readRecord_render update.isPlain_toJson update.ofJson?_toJson,
    fun request => readRecord_render request.isPlain_toJson request.ofJson?_toJson,
    fun result => readRecord_render result.isPlain_toJson result.ofJson?_toJson,
    fun fault => readRecord_render fault.isPlain_toJson fault.ofJson?_toJson⟩

end VaultWatch
