import Remme.RpcApi.Submissions
import Remme.RpcApi.Proofs.Gate
import Remme.Shared.Proofs.Router
/-!
# What becomes of a raw transaction

From the text of a request to the processor: the gate decodes it, the client
puts what it decoded into a batch of its own, unchanged, and the processor gets
past the form where it finds a method and a payload at all.  The answer is the
batch's id, whatever the validator says of the batch; the status has to be
asked for.
-/

namespace Remme.RpcApi

open Remme.Lib Remme.Lib.Dialogue Remme.Protos Remme.Shared Remme.Shared.Forms Remme.Tp
  Remme.Clients

section Requests

variable {T τ : Type} [Preorder T] {sdk : Sdk τ} {answers : T → (q : Request τ) → Reply q → Prop}
  {t t' m : T} {q : Request τ}

/-! ## One request -/

/-- Where the enumeration has no `NO_RESOURCE`, every response counts. -/
theorem goes_handleResponse_unchecked {content : Content q}
    (hunchecked : (sdk.statusEnum q).noResource = none) :
    Goes answers t (handleResponse sdk q) (.ok content) t' ↔
      ∃ m response, t ≤ m ∧ m ≤ t' ∧ answers m q (.ok (some response)) ∧
        content = response.content := by
  have hcheck : ∀ status, (sdk.statusEnum q).check status = .ok () := by
    intro status
    unfold StatusEnum.check
    rw [hunchecked]
  rw [goes_handleResponse_ok]
  simp only [hcheck, true_and]

theorem asks_submitBatches {batches : List (BatchMessage τ)} :
    Asks answers t (Router.submitBatches sdk batches) q m ↔ q = .batchSubmit batches ∧ t ≤ m :=
  asks_bind_pure.trans asks_handleResponse

theorem goes_submitBatches {batches : List (BatchMessage τ)} {envelope : Envelope Str}
    (hunchecked : (sdk.statusEnum (.batchSubmit batches)).noResource = none) :
    Goes answers t (Router.submitBatches sdk batches) (.ok envelope) t' ↔
      (∃ m response, t ≤ m ∧ m ≤ t' ∧ answers m (.batchSubmit batches) (.ok (some response))) ∧
        envelope = ⟨List.intercalate [','] (batches.map (·.headerSignature)), none⟩ := by
  unfold Router.submitBatches
  rw [goes_bind_pure]
  constructor
  · rintro ⟨y, hgoes, hy⟩
    cases y with
    | error err => cases hy
    | ok content =>
        obtain ⟨m, response, hle, hle', hanswer, -⟩ :=
          (goes_handleResponse_unchecked hunchecked).mp hgoes
        exact ⟨⟨m, response, hle, hle', hanswer⟩, Except.ok.inj hy⟩
  · rintro ⟨⟨m, response, hle, hle', hanswer⟩, rfl⟩
    exact ⟨.ok response.content, (goes_handleResponse_unchecked hunchecked).mpr
      ⟨m, response, hle, hle', hanswer, rfl⟩, rfl⟩

theorem asksAtMost_submitBatches (batches : List (BatchMessage τ)) :
    AsksAtMost 1 (Router.submitBatches sdk batches) :=
  (asksAtMost_handleResponse _).bind_pure _

/-! ## The status of a batch -/

theorem validateParam_idField {id : Str} :
    validateParam idField id = .ok () ↔ matchHex 128 id = true := by
  rw [← acceptsParam_pattern "Missed id" "Incorrect identifier." (by omega) id]
  unfold validateParam acceptsParam idField
  cases runValidators _ (FieldData.text id) with
  | error err => simp
  | ok messages =>
      cases messages with
      | nil => simp
      | cons message rest => simp

/-- The form sees to nothing that the router does not: a text of ids begins with one. -/
theorem matchHex_of_ids {id : Str} (h : ∀ i ∈ splitCommas id, IsHexText 128 i) :
    matchHex 128 id = true := by
  by_cases hcomma : ',' ∈ id
  · obtain ⟨first, rest, rfl, hfirst⟩ := List.eq_append_cons_of_mem hcomma
    have hid : IsHexText 128 first := by
      apply h
      unfold splitCommas
      rw [List.splitOn_append_cons_self, List.splitOn_eq_singleton hfirst]
      simp
    refine matchHex_iff.mpr (.inr ⟨?_, fun c hc => hid.2 c ?_⟩)
    · rw [List.length_append, List.length_cons, hid.1]
      omega
    · rwa [List.take_left' hid.1] at hc
  · have hid : IsHexText 128 id := by
      apply h
      unfold splitCommas
      rw [List.splitOn_eq_singleton hcomma]
      simp
    exact matchHex_iff.mpr (.inl hid)

/-- A status is asked for exactly if the text is an id, or ids with commas between them. -/
theorem asks_getBatchStatus {id : Str} :
    Asks answers t (getBatchStatus sdk id) q m ↔
      t ≤ m ∧ (∀ i ∈ splitCommas id, IsHexText 128 i) ∧ q = .batchStatus (splitCommas id) := by
  have hnamed : namedIds [id] = splitCommas id := List.flatMap_singleton _ _
  unfold getBatchStatus BasicClient.getBatchStatus Router.listStatuses Router.listProps
  rw [asks_ofExcept_bind]
  constructor
  · rintro ⟨u, -, hasks⟩
    obtain ⟨filterIds, hfilterIds, hasks⟩ := asks_ofExcept_bind.mp (asks_bind_ofExcept.mp hasks)
    obtain ⟨rfl, hvalid⟩ := getFilterIds_eq_ok.mp hfilterIds
    obtain ⟨rfl, hle⟩ := asks_handleResponse.mp (asks_bind_pure.mp hasks)
    rw [hnamed] at hvalid ⊢
    exact ⟨hle, hvalid, rfl⟩
  · rintro ⟨hle, hvalid, rfl⟩
    refine ⟨(), validateParam_idField.mpr (matchHex_of_ids hvalid), asks_bind_ofExcept.mpr ?_⟩
    refine asks_ofExcept_bind.mpr ⟨splitCommas id, ?_, ?_⟩
    · rw [getFilterIds_eq_ok, hnamed]
      exact ⟨rfl, hvalid⟩
    · exact asks_bind_pure.mpr (asks_handleResponse.mpr ⟨rfl, hle⟩)

theorem asksAtMost_getBatchStatus (id : Str) : AsksAtMost 1 (getBatchStatus sdk id) :=
  .ofExcept_bind (fun _ => AsksAtMost.bind_ofExcept
    (.ofExcept_bind (fun _ => (asksAtMost_handleResponse _).bind_pure _) _) _) _

end Requests

/-! ## The transaction on its way -/

section Submission

variable {B T : Type} [Preorder T] {π : Platform B} {σ : Sawtooth B} {sdk : Sdk (Transaction B)}
  {signer : BatchSigner} {answers : T → (q : Request (Transaction B)) → Reply q → Prop}
  {transaction : Transaction B} {data : Option Str}

theorem orRaise_bind_eq_ok {α β : Type} {o : Option α} {err : RpcError}
    {next : α → Except RpcError β} {b : β} :
    (orRaise o err >>= next) = .ok b ↔ ∃ a, o = some a ∧ next a = .ok b := by
  cases o with
  | none => simp [orRaise, Bind.bind, Except.bind]
  | some a => simp [orRaise, Bind.bind, Except.bind]

/-- What the gate forwards is what the request decodes to. -/
theorem decoded_of_sendRawTransaction (h : sendRawTransaction π σ data = .ok transaction) :
    ∃ text header payload family, data = some text ∧
      Decoded π σ text transaction header payload family := by
  unfold sendRawTransaction at h
  obtain ⟨text, htext, h⟩ := orRaise_bind_eq_ok.mp h
  obtain ⟨bytes, hbytes, h⟩ := orRaise_bind_eq_ok.mp h
  obtain ⟨trPb, htrPb, h⟩ := orRaise_bind_eq_ok.mp h
  obtain ⟨header, hheader, h⟩ := orRaise_bind_eq_ok.mp h
  obtain ⟨payload, hpayload, h⟩ := orRaise_bind_eq_ok.mp h
  simp only at h
  split_ifs at h with hkey
  · cases h
  obtain ⟨family, hfamily, h⟩ := orRaise_bind_eq_ok.mp h
  obtain ⟨u, -, h⟩ := bind_eq_ok.mp h
  cases h
  refine ⟨text, header, payload, family, htext, ?_, hheader, hpayload, hfamily⟩
  rw [hbytes]
  exact htrPb

/-- The processor finds no operation in the payload, or it runs the operation on every state. -/
def ReachesProcessor (π : Platform B) (family : Family) (signer : Str) (payload : B) : Prop :=
  (∃ err, decodeOperation π family payload = .error err) ∨
    ∃ op, decodeOperation π family payload = .ok op ∧ ∀ tz s,
      applyTransaction π tz family signer payload s =
        ((op.processor π tz signer).run s.get?).map fun u => (setState π s u, u)

theorem apply_of_formValid {op : Operation} {tz : TimeZone} {s : Dict Str B} {signer : Str}
    (h : op.FormValid) :
    op.apply π tz signer s = (op.processor π tz signer).run s.get? := by
  obtain ⟨result, hvalidate, hvalid⟩ := h
  unfold Operation.apply
  rw [hvalidate]
  simp [Bind.bind, Except.bind, hvalid]

theorem reachesProcessor_of_sendRawTransaction
    (h : sendRawTransaction π σ data = .ok transaction) :
    ∃ header family, σ.parseTransactionHeader transaction.header = some header ∧
      tpHandlers header.familyName = some family ∧
      ReachesProcessor π family header.signerPublicKey transaction.payload := by
  obtain ⟨text, header, payload, family, rfl, hdecoded⟩ := decoded_of_sendRawTransaction h
  obtain ⟨-, -, hform⟩ := (sendRawTransaction_eq_ok hdecoded).mp h
  refine ⟨header, family, hdecoded.header_eq, hdecoded.family_eq, ?_⟩
  cases hop : decodeOperation π family transaction.payload with
  | error err => exact .inl ⟨err, hop⟩
  | ok op =>
      have hvalid := hform op ((decodeOperation_eq_ok hdecoded.payload_eq).mp hop)
      refine .inr ⟨op, hop, fun tz s => ?_⟩
      unfold applyTransaction
      rw [hop]
      change (op.apply π tz header.signerPublicKey s >>= _) = _
      rw [apply_of_formValid hvalid]
      cases (op.processor π tz header.signerPublicKey).run s.get? <;> rfl

/-- The batch that the node makes of a transaction. -/
def batchOf (signer : BatchSigner) (transaction : Transaction B) : BatchMessage (Transaction B) :=
  let header : BatchHeader :=
    { signerPublicKey := signer.publicKey, transactionIds := [transaction.headerSignature] }
  { header := header, headerSignature := signer.sign header, transactions := [transaction] }

/-- The ids of the batches, joined by commas, are the id of the one batch. -/
theorem intercalate_signBatchList (transaction : Transaction B) :
    List.intercalate [','] ((signBatchList signer (·.headerSignature) [transaction]).map
      (·.headerSignature)) = (batchOf signer transaction).headerSignature :=
  List.intercalate_singleton

theorem mapError_eq_ok {ε ε' α : Type} {x : Except ε α} {f : ε → ε'} {a : α} :
    x.mapError f = .ok a ↔ x = .ok a := by
  cases x with
  | error err => simp [Except.mapError]
  | ok b => simp [Except.mapError]

theorem asks_submitRawTransaction {t m : T} {q : Request (Transaction B)} :
    Asks answers t (submitRawTransaction π σ sdk signer data) q m ↔
      t ≤ m ∧ ∃ transaction, sendRawTransaction π σ data = .ok transaction ∧
        q = .batchSubmit [batchOf signer transaction] := by
  unfold submitRawTransaction BasicClient.sendRawTransaction
  simp only [asks_ofExcept_bind, asks_bind_pure, asks_submitBatches, mapError_eq_ok]
  constructor
  · rintro ⟨transaction, hgate, rfl, hle⟩
    exact ⟨hle, transaction, hgate, rfl⟩
  · rintro ⟨hle, transaction, hgate, rfl⟩
    exact ⟨transaction, hgate, rfl, hle⟩

theorem asksAtMost_submitRawTransaction (data : Option Str) :
    AsksAtMost 1 (submitRawTransaction π σ sdk signer data) :=
  .ofExcept_bind (fun _ => (asksAtMost_submitBatches _).bind_pure _) _

/-- A request with a raw transaction puts one question at most to the validator, and puts one
exactly if the gate lets it through: for a batch with nothing but the transaction that the text
encodes; that transaction is not refused for its form.  The answer is the batch's id exactly if a
response came back, whatever its status; with the id the status of that batch can be asked for,
by one question. -/
theorem raw_transaction_submitted
    (hunchecked : ∀ batches, (sdk.statusEnum (.batchSubmit batches)).noResource = none)
    (data : Option Str) :
    (∀ transaction, sendRawTransaction π σ data = .ok transaction →
      ∃ header family, σ.parseTransactionHeader transaction.header = some header ∧
        tpHandlers header.familyName = some family ∧
        ReachesProcessor π family header.signerPublicKey transaction.payload) ∧
    AsksAtMost 1 (submitRawTransaction π σ sdk signer data) ∧
    (∀ t q m, Asks answers t (submitRawTransaction π σ sdk signer data) q m ↔
      t ≤ m ∧ ∃ transaction, sendRawTransaction π σ data = .ok transaction ∧
        q = .batchSubmit [batchOf signer transaction]) ∧
    (∀ t id t', Goes answers t (submitRawTransaction π σ sdk signer data) (.ok id) t' ↔
      ∃ transaction m response, sendRawTransaction π σ data = .ok transaction ∧ t ≤ m ∧ m ≤ t' ∧
        answers m (.batchSubmit [batchOf signer transaction]) (.ok (some response)) ∧
        id = (batchOf signer transaction).headerSignature) ∧
    ∀ id, AsksAtMost 1 (getBatchStatus sdk id) ∧
      ∀ t q m, Asks answers t (getBatchStatus sdk id) q m ↔
        t ≤ m ∧ (∀ i ∈ splitCommas id, IsHexText 128 i) ∧ q = .batchStatus (splitCommas id) := by
  refine ⟨fun _ => reachesProcessor_of_sendRawTransaction, asksAtMost_submitRawTransaction data,
    fun t q m => asks_submitRawTransaction, fun t id t' => ?_,
    fun id => ⟨asksAtMost_getBatchStatus id, fun t q m => asks_getBatchStatus⟩⟩
  unfold submitRawTransaction
  constructor
  · intro hgoes
    obtain ⟨err, herr, -⟩ | ⟨transaction, k, hgate, hgoes⟩ := goes_bind.mp hgoes
    · cases herr
    obtain ⟨hgate, hk⟩ := goes_ofExcept.mp hgate
    obtain ⟨y, hgoes, hid⟩ := goes_bind_pure.mp hgoes
    cases y with
    | error err => cases hid
    | ok envelope =>
        obtain ⟨⟨m, response, hle, hle', hanswer⟩, rfl⟩ :=
          (goes_submitBatches (hunchecked _)).mp hgoes
        exact ⟨transaction, m, response, mapError_eq_ok.mp hgate.symm, hk.trans hle, hle', hanswer,
          (Except.ok.inj hid).trans (intercalate_signBatchList transaction)⟩
  · rintro ⟨transaction, m, response, hgate, hle, hle', hanswer, rfl⟩
    refine goes_bind.mpr (.inr ⟨transaction, t,
      goes_ofExcept.mpr ⟨(mapError_eq_ok.mpr hgate).symm, le_rfl⟩, goes_bind_pure.mpr ?_⟩)
    refine ⟨.ok _, (goes_submitBatches (hunchecked _)).mpr
      ⟨⟨m, response, hle, hle', hanswer⟩, rfl⟩, ?_⟩
    exact congrArg Except.ok (intercalate_signBatchList transaction).symm

end Submission

/-! ## A batch that the validator finds invalid -/

namespace Sample

open Remme.Tp.Sample

/-- `ClientBatchSubmitResponse` has no `NO_RESOURCE` and no `NOT_READY`. -/
def submitSdk : Sdk (Transaction Data) where
  statusEnum := fun
    | .batchSubmit _ => { ok := 1, noResource := none, notReady := none }
    | _ => { ok := 1, noResource := some 5, notReady := some 3 }
  blockHeader := fun _ => none
  batchHeader := fun _ => none
  transactionHeader := fun _ => none

def nodeSigner : BatchSigner where
  publicKey := alice
  sign := fun _ => List.replicate 128 'a'

/-- `INVALID_BATCH` is 3. -/
def invalidBatch : ℕ → (q : Request (Transaction Data)) → Reply q → Prop
  | _, .batchSubmit _, reply => reply = .ok (some ⟨3, ()⟩)
  | _, _, _ => False

theorem sendRawTransaction_transfer :
    sendRawTransaction platform sawtooth (some (Text.base64 transferBytes)) = .ok transfer := by
  refine (sendRawTransaction_eq_ok transfer_decoded).mpr ⟨rfl, fun _ => by decide +kernel, ?_⟩
  intro op hop
  cases hop
  exact formValid_of_any (by decide +kernel)

theorem raw_transaction_submitted_invalidBatch :
    Goes invalidBatch 0
      (submitRawTransaction platform sawtooth submitSdk nodeSigner
        (some (Text.base64 transferBytes)))
      (.ok (List.replicate 128 'a')) 1 :=
  ((raw_transaction_submitted (fun _ => rfl) _).2.2.2.1 0 _ 1).mpr
    ⟨transfer, 0, ⟨3, ()⟩, sendRawTransaction_transfer, le_rfl, zero_le_one, rfl, rfl⟩

end Sample

end Remme.RpcApi
