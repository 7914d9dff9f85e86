import Remme.RpcApi.BatchStatus
import Remme.RpcApi.Proofs.Identifiers
import Remme.Shared.Proofs.Router
/-!
# Reports of a batch's status

What a producer puts into the queue is what the validator said of the first
batch that it was asked for.  The text that is hashed for such a report tells
the batch and the status apart, since no id has a dash.
-/

namespace Remme.RpcApi

open Remme.Lib Remme.Lib.Dialogue Remme.Protos Remme.Shared Remme.Tp

/-! ## Reports -/

/-- What one pass of a producer learns. -/
structure BatchReport where
  id : Str
  status : BatchStatus
  error : Option Str
  deriving DecidableEq

namespace BatchReport

def key (r : BatchReport) : Str × BatchStatus := (r.id, r.status)

def event (r : BatchReport) : Event where
  eventType := EventType.remmeBatchDelta.value
  attributes :=
    [("id".toList, .plain r.id), ("status".toList, .plain r.status.name)] ++
      r.error.toList.map fun error => ("error".toList, .plain error)

def value (r : BatchReport) : PyVal :=
  .object ([("id".toList, .text r.id), ("status".toList, .text r.status.name)] ++
    r.error.toList.map fun error => ("error".toList, .text error))

def hashText (r : BatchReport) : Str := "batch:".toList ++ (r.id ++ '-' :: r.status.name)

def evtHash {B : Type} (π : Platform B) (r : BatchReport) : Str :=
  π.sha256 (Text.encodeUtf8 r.hashText)

end BatchReport

/-- The message of the first transaction that is invalid, if it has one. -/
def ClientBatchStatus.error (batch : ClientBatchStatus) : Option Str :=
  match batch.invalidTransactions with
  | [] => none
  | transaction :: _ => if transaction.message = [] then none else some transaction.message

section Reported

variable {T τ : Type} [Preorder T] (answers : T → (q : Request τ) → Reply q → Prop)

/-- The validator was asked for the batches of the text, and has told this of the first one. -/
def Reported (now : T) (r : BatchReport) : Prop :=
  (∀ i ∈ splitCommas r.id, IsHexText 128 i) ∧
    ∃ m response batch rest, m ≤ now ∧
      answers m (.batchStatus (splitCommas r.id)) (.ok (some response)) ∧
      response.content = .array ((batch :: rest).map ClientBatchStatus.toDict) ∧
      r.status = batch.status ∧ r.error = batch.error

/-- The content of a status response is a list of messages. -/
def TellsStatuses : Prop :=
  ∀ m ids response, answers m (.batchStatus ids) (.ok (some response)) →
    ∃ statuses : List ClientBatchStatus,
      response.content = .array (statuses.map ClientBatchStatus.toDict)

end Reported

/-! ## From the response to the event -/

theorem getItem_message (transaction : InvalidTransaction) :
    getItem "message" (dropIdPrefixes (dropEmptyProps transaction.toDict)) =
      if transaction.message = [] then .error .keyError else .ok (.text transaction.message) := by
  obtain ⟨transactionId, message, extendedData⟩ := transaction
  unfold InvalidTransaction.toDict bytesValue
  cases transactionId <;> cases message <;> cases Text.base64 extendedData <;> rfl

theorem getItem_status (batch : ClientBatchStatus) :
    getItem "status" (dropIdPrefixes (dropEmptyProps batch.toDict)) =
      .ok (.text batch.status.name) := by
  obtain ⟨batchId, status, invalidTransactions⟩ := batch
  unfold ClientBatchStatus.toDict
  cases batchId <;> cases status <;> rfl

theorem getItem_invalidTransactions (batch : ClientBatchStatus) :
    getItem "invalid_transactions" (dropIdPrefixes (dropEmptyProps batch.toDict)) =
      .ok (dropIdPrefixes (dropEmptyProps
        (.array (batch.invalidTransactions.map InvalidTransaction.toDict)))) := by
  obtain ⟨batchId, status, invalidTransactions⟩ := batch
  unfold ClientBatchStatus.toDict
  cases batchId <;> cases status <;> rfl

theorem firstError_toDict (batch : ClientBatchStatus) :
    firstError (dropIdPrefixes (dropEmptyProps batch.toDict)) =
      .ok (batch.error.map .text) := by
  unfold firstError ClientBatchStatus.error
  rw [getItem_invalidTransactions]
  cases batch.invalidTransactions with
  | nil => rfl
  | cons transaction rest =>
      have hmessage := getItem_message transaction
      simp only [List.map_cons, dropEmptyProps, dropEmptyItems, dropIdPrefixes, dropIdItems,
        Bind.bind, Except.bind, getIndex, List.getElem?_cons_zero, hmessage]
      by_cases hempty : transaction.message = []
      · simp [hempty]
      · simp [hempty]

theorem batchMessage_statuses (batchId : Str) (batch : ClientBatchStatus)
    (rest : List ClientBatchStatus) :
    batchMessage batchId (dropIdPrefixes (dropEmptyProps
      (.array ((batch :: rest).map ClientBatchStatus.toDict)))) =
      .ok (.clientEvents [BatchReport.event ⟨batchId, batch.status, batch.error⟩]) := by
  unfold batchMessage
  change (getItem "status" (dropIdPrefixes (dropEmptyProps batch.toDict)) >>= _) = _
  rw [getItem_status]
  change (firstError (dropIdPrefixes (dropEmptyProps batch.toDict)) >>= _) = _
  rw [firstError_toDict]
  cases batch.error <;> rfl

section Poll

variable {T τ : Type} [Preorder T] {sdk : Sdk τ}
  {answers : T → (q : Request τ) → Reply q → Prop} {t t' : T}

theorem goes_listStatuses {batchId : Str} {envelope : Envelope PyVal} :
    Goes answers t (Router.listStatuses sdk [batchId]) (.ok envelope) t' ↔
      (∀ i ∈ splitCommas batchId, IsHexText 128 i) ∧ ∃ m response, t ≤ m ∧ m ≤ t' ∧
        answers m (.batchStatus (splitCommas batchId)) (.ok (some response)) ∧
        (sdk.statusEnum (.batchStatus (splitCommas batchId))).check response.status = .ok () ∧
        envelope = ⟨dropIdPrefixes (dropEmptyProps response.content), none⟩ := by
  have hnamed : namedIds [batchId] = splitCommas batchId := List.flatMap_singleton _ _
  unfold Router.listStatuses Router.listProps
  constructor
  · intro h
    obtain ⟨err, herr, -⟩ | ⟨filterIds, k, hids, hrest⟩ := goes_bind.mp h
    · cases herr
    · obtain ⟨hids, hk⟩ := goes_ofExcept.mp hids
      obtain ⟨hfilterIds, hvalid⟩ := getFilterIds_eq_ok.mp hids.symm
      rw [hnamed] at hfilterIds hvalid
      subst hfilterIds
      obtain ⟨y, hgoes, hy⟩ := goes_bind_pure.mp hrest
      cases y with
      | error err => cases hy
      | ok content =>
          cases hy
          obtain ⟨m, response, hle, hle', hanswer, hcheck, rfl⟩ := goes_handleResponse_ok.mp hgoes
          exact ⟨hvalid, m, response, hk.trans hle, hle', hanswer, hcheck, rfl⟩
  · rintro ⟨hvalid, m, response, hle, hle', hanswer, hcheck, rfl⟩
    have hids : getFilterIds (idQuery [batchId]) = .ok (splitCommas batchId) := by
      rw [getFilterIds_eq_ok, hnamed]
      exact ⟨rfl, hvalid⟩
    rw [hids, ofExcept_ok_bind]
    refine goes_bind_pure.mpr ⟨.ok response.content, ?_, rfl⟩
    exact goes_handleResponse_ok.mpr ⟨m, response, hle, hle', hanswer, hcheck, rfl⟩

/-- A pass ends without a message, or with what the content of a response gives. -/
theorem goes_produceCustomMsg {batchId : Str} {result : Except RequestError (Option StreamMessage)}
    (h : Goes answers t (produceCustomMsg sdk batchId) result t') :
    result = .ok none ∨
      (∀ i ∈ splitCommas batchId, IsHexText 128 i) ∧
        ∃ m response, t ≤ m ∧ m ≤ t' ∧
          answers m (.batchStatus (splitCommas batchId)) (.ok (some response)) ∧
          result = ((batchMessage batchId (dropIdPrefixes (dropEmptyProps response.content))).map
            some).mapError RequestError.raised := by
  unfold produceCustomMsg at h
  obtain ⟨err, -, herr⟩ | ⟨result', m, hresult, hrest⟩ := goes_bind.mp h
  · -- `list_statuses` raises nothing that is not caught
    obtain ⟨a, ha, -⟩ | ⟨e, k, -, hpure⟩ := goes_handle.mp herr
    · cases ha
    · cases (goes_pure.mp hpure).1
  · cases result' with
    | none => exact .inl (goes_pure.mp hrest).1
    | some envelope =>
        right
        obtain ⟨a, ha, hgoes⟩ | ⟨e, k, -, hpure⟩ := goes_handle.mp hresult
        · cases ha
          obtain ⟨y, hlist, hy⟩ := goes_bind_pure.mp hgoes
          cases y with
          | error err => cases hy
          | ok envelope' =>
              cases hy
              obtain ⟨hvalid, m', response, hle, hle', hanswer, -, rfl⟩ :=
                goes_listStatuses.mp hlist
              obtain ⟨hresult, hle''⟩ := goes_ofExcept.mp hrest
              exact ⟨hvalid, m', response, hle, hle'.trans hle'', hanswer, hresult⟩
        · cases (goes_pure.mp hpure).1

/-- What the validator tells of a batch is put into the queue. -/
theorem goes_of_answer {batchId : Str} (batch : ClientBatchStatus)
    (rest : List ClientBatchStatus) (hvalid : ∀ i ∈ splitCommas batchId, IsHexText 128 i)
    {response : Response (.batchStatus (splitCommas batchId))}
    (hanswer : answers t (.batchStatus (splitCommas batchId)) (.ok (some response)))
    (hcheck : (sdk.statusEnum (.batchStatus (splitCommas batchId))).check response.status = .ok ())
    (hcontent : response.content = .array ((batch :: rest).map ClientBatchStatus.toDict)) :
    Goes answers t (produceCustomMsg sdk batchId) (.ok (some (.clientEvents
      [BatchReport.event ⟨batchId, batch.status, batch.error⟩]))) t := by
  have hlist : Goes answers t (Router.listStatuses sdk [batchId])
      (.ok ⟨dropIdPrefixes (dropEmptyProps response.content), none⟩) t :=
    goes_listStatuses.mpr ⟨hvalid, t, response, le_rfl, le_rfl, hanswer, hcheck, rfl⟩
  refine goes_bind.mpr (.inr ⟨some ⟨dropIdPrefixes (dropEmptyProps response.content), none⟩, t,
    goes_handle.mpr (.inl ⟨_, rfl, ?_⟩), ?_⟩)
  · exact goes_bind_pure.mpr ⟨_, hlist, rfl⟩
  · refine goes_ofExcept.mpr ⟨?_, le_rfl⟩
    rw [hcontent, batchMessage_statuses]
    rfl

/-- Where the validator tells of a batch at all, the pass puts a report into the queue or
nothing. -/
theorem reported_of_poll (htells : TellsStatuses answers) {batchId : Str}
    {msg : Option StreamMessage}
    (h : Goes answers t (produceCustomMsg sdk batchId) (.ok msg) t') :
    msg = none ∨ ∃ r : BatchReport, Reported answers t' r ∧
      msg = some (.clientEvents [r.event]) := by
  obtain hnone | ⟨hvalid, m, response, -, hle, hanswer, hresult⟩ := goes_produceCustomMsg h
  · exact .inl (Except.ok.inj hnone)
  · obtain ⟨statuses, hcontent⟩ := htells m _ response hanswer
    rw [hcontent] at hresult
    cases statuses with
    | nil => cases hresult
    | cons batch rest =>
        rw [batchMessage_statuses] at hresult
        refine .inr ⟨⟨batchId, batch.status, batch.error⟩, ⟨hvalid, ?_⟩, ?_⟩
        · exact ⟨m, response, batch, rest, hle, hanswer, hcontent, rfl, rfl⟩
        · exact Except.ok.inj hresult

/-- Only a response without a single status makes the fetch raise. -/
theorem poll_raises (htells : TellsStatuses answers) {batchId : Str} {err : RequestError}
    (h : Goes answers t (produceCustomMsg sdk batchId) (.error err) t') :
    ∃ m response, t ≤ m ∧ m ≤ t' ∧
      answers m (.batchStatus (splitCommas batchId)) (.ok (some response)) ∧
      response.content = .array [] := by
  obtain hnone | ⟨hvalid, m, response, hle, hle', hanswer, hresult⟩ := goes_produceCustomMsg h
  · cases hnone
  · obtain ⟨statuses, hcontent⟩ := htells m _ response hanswer
    refine ⟨m, response, hle, hle', hanswer, ?_⟩
    rw [hcontent] at hresult ⊢
    cases statuses with
    | nil => rfl
    | cons batch rest =>
        rw [batchMessage_statuses] at hresult
        cases hresult

end Poll

/-! ## The hash of a report -/

namespace BatchReport

theorem parseAttributes_event (r : BatchReport) : parseAttributes r.event = r.value := by
  obtain ⟨id, status, error⟩ := r
  cases error <;> rfl

theorem evtHashText_value {B : Type} (π : Platform B) (r : BatchReport) :
    evtHashText π .batch r.value = .ok r.hashText := by
  have hjoin : ∀ x y : Str, List.intercalate "-".toList [x, y] = x ++ '-' :: y := by
    intro x y
    simp [List.intercalate]
  have htext : evtHashText π .batch r.value = .ok ("batch".toList ++ ':' ::
      List.intercalate "-".toList [r.id, r.status.name]) := by
    obtain ⟨id, status, error⟩ := r
    cases error <;> rfl
  rw [htext, hjoin]
  rfl

theorem prepareEvtHash_value {B : Type} (π : Platform B) (r : BatchReport) :
    prepareEvtHash π .batch r.value = .ok (r.evtHash π) := by
  unfold prepareEvtHash
  rw [evtHashText_value]
  rfl

theorem status_of_name {s s' : BatchStatus} (h : s.name = s'.name) : s = s' := by
  revert h
  cases s <;> cases s' <;> decide

theorem event_injective : Function.Injective event := by
  intro r r' h
  have hattributes := congrArg Event.attributes h
  obtain ⟨id, status, error⟩ := r
  obtain ⟨id', status', error'⟩ := r'
  simp only [event, List.cons_append, List.cons.injEq, Prod.mk.injEq, AttributeValue.plain.injEq,
    true_and, List.nil_append] at hattributes
  obtain ⟨rfl, hstatus, herror⟩ := hattributes
  cases status_of_name hstatus
  cases error <;> cases error' <;> simp at herror
  · rfl
  · rw [herror]

/-- Ids are hexadecimal digits and commas, so the first dash is the one between the parts. -/
theorem dash_not_mem {id : Str} (h : ∀ i ∈ splitCommas id, IsHexText 128 i) : '-' ∉ id := by
  intro hmem
  have hjoin : List.intercalate [','] (splitCommas id) = id := List.intercalate_splitOn ','
  rw [← hjoin] at hmem
  obtain hcomma | ⟨i, hi, hdash⟩ := Text.mem_of_mem_intercalate hmem
  · exact absurd hcomma (by decide)
  · exact absurd ((h i hi).2 '-' hdash) (by decide)

theorem hashText_injective {r r' : BatchReport} (hid : '-' ∉ r.id) (hid' : '-' ∉ r'.id)
    (h : r.hashText = r'.hashText) : r.key = r'.key := by
  obtain ⟨heq, hname⟩ := Text.append_cons_inj hid hid' (List.append_cancel_left h)
  exact Prod.ext heq (status_of_name hname)

end BatchReport

end Remme.RpcApi
