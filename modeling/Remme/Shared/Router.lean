import Remme.Lib.Dialogue
import Remme.Lib.Dict
import Remme.Lib.Value
import Remme.RpcApi.Identifiers
/-!
# Requests to the validator

`Router` asks the validator and turns what it answers into dictionaries.  A
method is a program that asks, and not a function of the state: `fetch_state`
asks for a block first and for an entry below that block's state root then, and
the chain may grow in between.

The generated classes of the Sawtooth SDK are collected in `Sdk`.  Which members
a response's status enumeration has differs from class to class, and
`_handle_response` runs into an `AttributeError` where one is missing.
-/

namespace Remme.Shared

open Remme.Lib Remme.RpcApi

/-- The exceptions of `remme.shared.exceptions`, those of the JSON-RPC library that methods raise,
and the others. -/
inductive RequestError where
  | clientException (message : Str)
  | keyNotFound (message : Str)
  | validatorNotReady
  | resourceHeaderInvalid
  | invalidResourceId (message : Str)
  | countInvalid
  /-- `RpcInvalidParamsError` -/
  | invalidParams (message : Str)
  /-- `RpcGenericServerDefinedError` -/
  | genericServerDefined (errorCode : ℤ) (message : Str)
  | raised (err : PyError)
  deriving DecidableEq

/-! ## Controls of a list -/

/-- A float that `json.loads` returns; the infinities and `NaN` are among them. -/
inductive JsonFloat where
  | finite (q : ℚ)
  | infinity (isNegative : Bool)
  | nan

/-- A limit, as a JSON text, number or boolean. -/
inductive LimitParam where
  | text (s : Str)
  | number (n : ℤ)
  | boolean (b : Bool)
  | float (x : JsonFloat)

/-- `int(limit)`; a `ValueError` becomes a `CountInvalid`, the `OverflowError` of an infinity does
not. -/
def LimitParam.toInt : LimitParam → Except RequestError ℤ
  | .text s =>
      match Text.int 10 s with
      | some n => .ok n
      | none => .error .countInvalid
  | .number n => .ok n
  | .boolean b => .ok (if b then 1 else 0)
  | .float (.finite q) => .ok (q.num.tdiv q.den)
  | .float (.infinity _) => .error (.raised .overflowError)
  | .float .nan => .error .countInvalid

/-- The dictionary of `get_paging_controls`. -/
structure Controls where
  limit : Option ℤ
  start : Option Str

/-- `ClientPagingControls` -/
structure PagingControls where
  start : Option Str
  limit : Option ℕ

/-- `ClientSortControls` -/
structure SortControls where
  keys : List Str
  reverse : Bool

def getPagingControls (start : Option Str) (limit : Option LimitParam) :
    Except RequestError Controls :=
  match limit with
  | none => .ok ⟨none, start⟩
  | some limit => do
      let n ← limit.toInt
      if n ≤ 0 then .error .countInvalid else .ok ⟨some n, start⟩

/-- The limit is an `int32` field. -/
def makePagingMessage (controls : Controls) : Except RequestError PagingControls :=
  match controls.limit with
  | none => .ok ⟨controls.start, none⟩
  | some n =>
      if n < 2 ^ 31 then .ok ⟨controls.start, some n.toNat⟩
      else .error (.raised (.valueOutOfRange "limit"))

/-- `s.split(',')` -/
def splitCommas (s : Str) : List Str := s.splitOn ','

def getSortingMessage (reverse : Option Str) (key : Str) : List SortControls :=
  match reverse with
  | none => []
  | some reverse =>
      if Text.lower reverse = [] then [⟨splitCommas key, true⟩]
      else if Text.lower reverse ≠ "false".toList then [⟨splitCommas reverse, true⟩]
      else []

/-- `validate_id` -/
def checkId (resourceId : Str) : Except RequestError Unit :=
  match validateId resourceId with
  | .ok _ => .ok ()
  | .error err => .error (.invalidResourceId err.message)

def getHeadId (headId : Option Str) : Except RequestError (Option Str) :=
  match headId with
  | none => .ok none
  | some id => do
      checkId id
      pure (some id)

/-- `','.join(ids) if ids else None` -/
def idQuery : List Str → Option Str
  | [] => none
  | ids => some (List.intercalate [','] ids)

/-- `None` is the empty list of the request. -/
def getFilterIds (idQuery : Option Str) : Except RequestError (List Str) :=
  match idQuery with
  | none => .ok []
  | some query => do
      (splitCommas query).forM checkId
      pure (splitCommas query)

/-! ## Resources -/

structure BlockHeader where
  blockNum : ℕ
  previousBlockId : Str
  signerPublicKey : Str
  batchIds : List Str
  consensus : Str
  stateRootHash : Str

structure BatchHeader where
  signerPublicKey : Str
  transactionIds : List Str

structure TransactionHeaderDict where
  batcherPublicKey : Str
  dependencies : List Str
  familyName : Str
  familyVersion : Str
  inputs : List Str
  nonce : Str
  outputs : List Str
  payloadSha512 : Str
  signerPublicKey : Str

/-- The dictionary of a transaction, with the text of its header or with the header itself. -/
structure TransactionDict (H : Type) where
  header : H
  headerSignature : Str
  payload : Str

structure BatchDict (H G : Type) where
  header : H
  headerSignature : Str
  transactions : List (TransactionDict G)

structure BlockDict (K H G : Type) where
  header : K
  headerSignature : Str
  batches : List (BatchDict H G)

abbrev ExpandedTransaction := TransactionDict TransactionHeaderDict

abbrev ExpandedBatch := BatchDict BatchHeader TransactionHeaderDict

abbrev ExpandedBlock := BlockDict BlockHeader BatchHeader TransactionHeaderDict

/-! ## Questions and answers -/

/-- A batch of transactions `τ`. -/
structure BatchMessage (τ : Type) where
  header : BatchHeader
  headerSignature : Str
  transactions : List τ

/-- The requests of the client messages. -/
inductive Request (τ : Type) where
  | blockGetById (blockId : Str)
  | blockList (headId : Option Str) (blockIds : List Str) (sorting : List SortControls)
      (paging : PagingControls)
  | stateGet (stateRoot address : Str)
  | stateList (stateRoot : Str) (address : Option Str) (sorting : List SortControls)
      (paging : PagingControls)
  | batchGet (batchId : Str)
  | batchList (headId : Option Str) (batchIds : List Str) (sorting : List SortControls)
      (paging : PagingControls)
  | transactionGet (transactionId : Str)
  | transactionList (headId : Option Str) (transactionIds : List Str)
      (sorting : List SortControls) (paging : PagingControls)
  | receiptGet (transactionIds : List Str)
  | peersGet
  | batchSubmit (batches : List (BatchMessage τ))
  | batchStatus (batchIds : List Str)

/-- `ClientPagingResponse` -/
structure PagingResponse where
  next : Str
  start : Str
  limit : ℕ

/-- A response with a list; `paging` is a message field, absent where it was not set. -/
structure Page (ρ : Type) where
  resources : List ρ
  headId : Str
  paging : Option PagingResponse

/-- An entry of the state, with the base64 text of its data. -/
structure StateEntry where
  address : Str
  data : Str

variable {τ : Type}

/-- The dictionary of a response, without its status. -/
def Content : Request τ → Type
  | .blockGetById _ => Option (BlockDict Str Str Str)
  | .blockList .. => Page (BlockDict Str Str Str)
  | .stateGet .. => Str
  | .stateList .. => Page StateEntry
  | .batchGet _ => Option (BatchDict Str Str)
  | .batchList .. => Page (BatchDict Str Str)
  | .transactionGet _ => Option (TransactionDict Str)
  | .transactionList .. => Page (TransactionDict Str)
  | .receiptGet _ => PyVal
  | .peersGet => List Str
  | .batchSubmit _ => Unit
  | .batchStatus _ => PyVal

structure Response (q : Request τ) where
  status : ℕ
  content : Content q

/-- What `_handle_response` tells apart of the exceptions of `send`. -/
inductive SendException where
  | attributeError
  | validatorConnectionError (message : Str)
  | timeout
  | other

/-- What comes back for a request: an exception of `send`, a message that does not parse, or a
response. -/
abbrev Reply (q : Request τ) := Except SendException (Option (Response q))

variable (τ) in
abbrev Query := Dialogue (Request τ) Reply RequestError

/-- The numbers of the members of a status enumeration. -/
structure StatusEnum where
  ok : ℕ
  noResource : Option ℕ
  notReady : Option ℕ

/-- The classes of the Sawtooth SDK. -/
structure Sdk (τ : Type) where
  statusEnum : Request τ → StatusEnum
  blockHeader : Bytes → Option BlockHeader
  batchHeader : Bytes → Option BatchHeader
  transactionHeader : Bytes → Option TransactionHeaderDict

/-- `with suppress(AttributeError)`: a member that the enumeration has not got ends the checks. -/
def StatusEnum.check (enum : StatusEnum) (status : ℕ) : Except RequestError Unit :=
  match enum.noResource with
  | none => .ok ()
  | some noResource =>
      if status = noResource then .error (.keyNotFound "Resource not found".toList)
      else
        match enum.notReady with
        | none => .ok ()
        | some notReady =>
            if status = notReady then .error .validatorNotReady
            else if status ≠ enum.ok then .error (.clientException "Error occured".toList)
            else .ok ()

def sendError : SendException → RequestError
  | .attributeError =>
      .clientException "Failed to parse \"content\" string from validator".toList
  | .validatorConnectionError message =>
      .clientException ("Failed with ZMQ interaction: ".toList ++ message)
  | .timeout => .clientException "Validator connection timeout".toList
  | .other => .clientException "Unexpected validator error".toList

/-! ## Headers -/

def parseHeader {H : Type} (headerProto : Bytes → Option H) (header : Str) :
    Except RequestError H :=
  match (Text.b64decode header).bind headerProto with
  | some header => .ok header
  | none => .error .resourceHeaderInvalid

variable (sdk : Sdk τ)

def expandTransaction (transaction : TransactionDict Str) :
    Except RequestError ExpandedTransaction := do
  let header ← parseHeader sdk.transactionHeader transaction.header
  pure { transaction with header := header }

def expandBatch (batch : BatchDict Str Str) : Except RequestError ExpandedBatch := do
  let header ← parseHeader sdk.batchHeader batch.header
  let transactions ← batch.transactions.mapM (expandTransaction sdk)
  pure { batch with header := header, transactions := transactions }

def expandBlock (block : BlockDict Str Str Str) : Except RequestError ExpandedBlock := do
  let header ← parseHeader sdk.blockHeader block.header
  let batches ← block.batches.mapM (expandBatch sdk)
  pure { block with header := header, batches := batches }

/-! ## Properties of a resource -/

/-- `v == ''` -/
def isEmptyText : PyVal → Bool
  | .text s => s.isEmpty
  | _ => false

mutual
def dropEmptyProps : PyVal → PyVal
  | .array items => .array (dropEmptyItems items)
  | .object fields => .object (dropEmptyFields fields)
  | item => item
def dropEmptyItems : List PyVal → List PyVal
  | [] => []
  | i :: items => dropEmptyProps i :: dropEmptyItems items
def dropEmptyFields : List (Str × PyVal) → List (Str × PyVal)
  | [] => []
  | (k, v) :: fields =>
      if isEmptyText v then dropEmptyFields fields
      else (k, dropEmptyProps v) :: dropEmptyFields fields
end

/-- `'id' if k.endswith('id') else k` -/
def idKey (k : Str) : Str := if "id".toList <:+ k then "id".toList else k

mutual
/-- Keys that become one are one key of the new dictionary, where the first stood, with the
value of the last. -/
def dropIdPrefixes : PyVal → PyVal
  | .array items => .array (dropIdItems items)
  | .object fields => .object (Dict.ofList (dropIdFields fields)).entries
  | item => item
def dropIdItems : List PyVal → List PyVal
  | [] => []
  | i :: items => dropIdPrefixes i :: dropIdItems items
def dropIdFields : List (Str × PyVal) → List (Str × PyVal)
  | [] => []
  | (k, v) :: fields => (idKey k, dropIdPrefixes v) :: dropIdFields fields
end

/-! ## The router -/

/-- `_handle_response` -/
def handleResponse (q : Request τ) : Query τ (Content q) := do
  match ← Dialogue.question q with
  | .error exc => .ofExcept (.error (sendError exc))
  | .ok none => .ofExcept (.error (sendError .attributeError))
  | .ok (some response) => do
      .ofExcept ((sdk.statusEnum q).check response.status)
      pure response.content

/-- What the router wraps its data in. -/
structure Envelope (α : Type) where
  data : α
  head : Option Str
  deriving DecidableEq

structure Paging where
  limit : Option ℤ
  start : Option Str
  next : Str
  deriving DecidableEq

structure PagedEnvelope (α : Type) where
  data : List α
  head : Str
  paging : Paging

/-- `_wrap_paginated_response`.  The data may be a generator, which runs after the lookup. -/
def wrapPaginatedResponse {ρ α : Type} (response : Page ρ) (controls : Controls)
    (data : Except RequestError (List α)) (head : Option Str) :
    Except RequestError (PagedEnvelope α) :=
  match response.paging with
  | none => .error (.raised .keyError)
  | some pagingResponse => do
      let data ← data
      pure
        { data := data
          head := head.getD response.headId
          paging :=
            { limit := controls.limit, start := controls.start, next := pagingResponse.next } }

/-- `response[key]` of a message field. -/
def messageField {α : Type} (field : Option α) : Except RequestError α :=
  match field with
  | some a => .ok a
  | none => .error (.raised .keyError)

namespace Router

/-- `ClientPagingControls(limit=1)` -/
def firstOnly : PagingControls := ⟨none, some 1⟩

/-- `expand_block(resp['blocks'][0])` -/
def expandFirst (response : Page (BlockDict Str Str Str)) : Except RequestError ExpandedBlock :=
  match response.resources with
  | [] => .error (.raised .indexError)
  | block :: _ => expandBlock sdk block

/-- The block that `_head_to_root` asks for; the id that a caller names is not validated. -/
def headBlock (blockId : Option Str) : Query τ ExpandedBlock :=
  match blockId with
  | none | some [] => do
      let resp ← handleResponse sdk (.blockList none [] [] firstOnly)
      .ofExcept (expandFirst sdk resp)
  | some blockId => do
      let resp ← handleResponse sdk (.blockGetById blockId)
      .ofExcept ((messageField resp).bind (expandBlock sdk))

/-- `_head_to_root` -/
def headToRoot (blockId : Option Str) : Query τ (Str × Str) := do
  let block ← headBlock sdk blockId
  pure (block.headerSignature, block.header.stateRootHash)

def listState (address start : Option Str) (limit : Option LimitParam) (head reverse : Option Str) :
    Query τ (PagedEnvelope StateEntry) := do
  let pagingControls ← .ofExcept (getPagingControls start limit)
  let (head, root) ← headToRoot sdk head
  let paging ← .ofExcept (makePagingMessage pagingControls)
  let response ← handleResponse sdk
    (.stateList root address (getSortingMessage reverse "default".toList) paging)
  .ofExcept (wrapPaginatedResponse response pagingControls (.ok response.resources) (some head))

def fetchState (address : Str) (head : Option Str) : Query τ (Envelope Str) := do
  let (head, root) ← headToRoot sdk head
  let value ← handleResponse sdk (.stateGet root address)
  pure ⟨value, some head⟩

/-- What `list_blocks`, `list_batches` and `list_transactions` share: the checks of the
parameters, and the request. -/
def listResources {ρ : Type}
    (request : Option Str → List Str → List SortControls → PagingControls → Query τ (Page ρ))
    (key : Str) (ids : List Str) (start : Option Str) (limit : Option LimitParam)
    (head reverse : Option Str) : Query τ (Page ρ × Controls) := do
  let pagingControls ← .ofExcept (getPagingControls start limit)
  let headId ← .ofExcept (getHeadId head)
  let filterIds ← .ofExcept (getFilterIds (idQuery ids))
  let paging ← .ofExcept (makePagingMessage pagingControls)
  let response ← request headId filterIds (getSortingMessage reverse key) paging
  pure (response, pagingControls)

/-- A list of expanded resources, before the lookup of the page. -/
def wrapExpanded {ρ α : Type} (expand : ρ → Except RequestError α) (response : Page ρ)
    (controls : Controls) : Except RequestError (PagedEnvelope α) := do
  let data ← response.resources.mapM expand
  wrapPaginatedResponse response controls (.ok data) none

def listBlocks (blockIds : List Str) (start : Option Str) (limit : Option LimitParam)
    (head reverse : Option Str) : Query τ (PagedEnvelope ExpandedBlock) := do
  let (response, controls) ← listResources
    (fun headId ids sorting paging => handleResponse sdk (.blockList headId ids sorting paging))
    "block_num".toList blockIds start limit head reverse
  .ofExcept (wrapExpanded (expandBlock sdk) response controls)

def listBatches (batchIds : List Str) (start : Option Str) (limit : Option LimitParam)
    (head reverse : Option Str) : Query τ (PagedEnvelope ExpandedBatch) := do
  let (response, controls) ← listResources
    (fun headId ids sorting paging => handleResponse sdk (.batchList headId ids sorting paging))
    "default".toList batchIds start limit head reverse
  .ofExcept (wrapExpanded (expandBatch sdk) response controls)

/-- The generator of `list_transactions`, with its filter. -/
def transactionsOf (familyName : Option Str) (transactions : List (TransactionDict Str)) :
    Except RequestError (List ExpandedTransaction) := do
  let data ← transactions.mapM (expandTransaction sdk)
  pure (match familyName with
    | none => data
    | some familyName => data.filter fun t => t.header.familyName = familyName)

/-- The filter by family comes after the page: a page may hold fewer than its limit, or none. -/
def listTransactions (transactionIds : List Str) (start : Option Str) (limit : Option LimitParam)
    (head reverse familyName : Option Str) : Query τ (PagedEnvelope ExpandedTransaction) := do
  let (response, controls) ← listResources
    (fun headId ids sorting paging =>
      handleResponse sdk (.transactionList headId ids sorting paging))
    "default".toList transactionIds start limit head reverse
  .ofExcept (wrapPaginatedResponse response controls
    (transactionsOf sdk familyName response.resources) none)

/-- What `fetch_block`, `fetch_batch` and `fetch_transaction` share. -/
def fetchResource {ρ α : Type} (request : Str → Query τ (Option ρ))
    (expand : ρ → Except RequestError α) (id : Str) : Query τ (Envelope α) := do
  .ofExcept (checkId id)
  let response ← request id
  let resource ← .ofExcept (messageField response)
  let data ← .ofExcept (expand resource)
  pure ⟨data, none⟩

def fetchBlock (blockId : Str) : Query τ (Envelope ExpandedBlock) :=
  fetchResource (fun id => handleResponse sdk (.blockGetById id)) (expandBlock sdk) blockId

def fetchBatch (batchId : Str) : Query τ (Envelope ExpandedBatch) :=
  fetchResource (fun id => handleResponse sdk (.batchGet id)) (expandBatch sdk) batchId

def fetchTransaction (transactionId : Str) : Query τ (Envelope ExpandedTransaction) :=
  fetchResource (fun id => handleResponse sdk (.transactionGet id)) (expandTransaction sdk)
    transactionId

/-- What `list_receipts` and `list_statuses` share. -/
def listProps (request : List Str → Query τ PyVal) (ids : List Str) : Query τ (Envelope PyVal) := do
  let filterIds ← .ofExcept (getFilterIds (idQuery ids))
  let response ← request filterIds
  pure ⟨dropIdPrefixes (dropEmptyProps response), none⟩

def listReceipts (transactionIds : List Str) : Query τ (Envelope PyVal) :=
  listProps (fun ids => handleResponse sdk (.receiptGet ids)) transactionIds

def listStatuses (batchIds : List Str) : Query τ (Envelope PyVal) :=
  listProps (fun ids => handleResponse sdk (.batchStatus ids)) batchIds

def fetchPeers : Query τ (Envelope (List Str)) := do
  let peers ← handleResponse sdk .peersGet
  pure ⟨peers, none⟩

def submitBatches (batches : List (BatchMessage τ)) : Query τ (Envelope Str) := do
  let _ ← handleResponse sdk (.batchSubmit batches)
  pure ⟨List.intercalate [','] (batches.map (·.headerSignature)), none⟩

end Router

end Remme.Shared
