import Remme.RpcApi.Consumers
import Remme.Shared.Router
/-!
# Statuses of batches

The validator has no event for the status of a batch, so the node makes one of
its own: a producer asks for the status of the subscribed batch, and puts what
it is told into the websocket's queue as an event.  The consumers take it from
there like any event of the validator.

`BatchFeed` is an open websocket with all its consumers and producers.  Every
`subscribe` starts a consumer, one to 'batch' also a producer, and none of them
ends with an `unsubscribe`.
-/

namespace Remme.RpcApi

open Remme.Lib Remme.Protos Remme.Shared Remme.Tp

/-! ## The event of a status -/

/-- `_create_event_payload`; keys and values are text fields of the message. -/
def createEventPayload (attributes : List (Str × PyVal)) : Except PyError Event := do
  let attributes ← attributes.mapM fun attr =>
    match attr.2 with
    | .text value => .ok (attr.1, AttributeValue.plain value)
    | _ => .error .typeError
  pure { eventType := EventType.remmeBatchDelta.value, attributes := attributes }

/-- `data['invalid_transactions'][0]['message']`, where it is there. -/
def firstError (data : PyVal) : Except PyError (Option PyVal) :=
  let message : Except PyError PyVal := do
    let invalid ← getItem "invalid_transactions" data
    let first ← getIndex 0 invalid
    getItem "message" first
  match message with
  | .ok error => .ok (some error)
  | .error .keyError | .error .indexError => .ok none
  | .error err => .error err

/-- The message for the data that `list_statuses` gave. -/
def batchMessage (batchId : Str) (data : PyVal) : Except PyError StreamMessage := do
  let first ← getIndex 0 data
  let status ← getItem "status" first
  let error ← firstError first
  let evtResp ← createEventPayload
    ([("id".toList, .text batchId), ("status".toList, status)] ++
      error.toList.map fun error => ("error".toList, error))
  pure (.clientEvents [evtResp])

section Producer

variable {τ : Type} (sdk : Sdk τ)

/-- `produce_custom_msg`: what is put into the queue.  An exception of `list_statuses` is logged,
and nothing is put. -/
def produceCustomMsg (batchId : Str) : Query τ (Option StreamMessage) := do
  let result ← (do
    let result ← Router.listStatuses sdk [batchId]
    pure (some result) : Query τ (Option (Envelope PyVal))).handle fun _ => pure none
  match result with
  | none => pure none
  | some result =>
      .ofExcept (((batchMessage batchId result.data).map some).mapError RequestError.raised)

end Producer

/-! ## The tasks of a websocket -/

/-- Where a producer task stands between two of its steps. -/
inductive StatusProducer (T : Type) where
  | created
  /-- `asyncio.sleep(1)` -/
  | sleeping
  /-- `router.list_statuses([batch_id])`, asked since a moment, in a pass over a dictionary of
  `used` entries. -/
  | fetching (batchId : Str) (used : ℕ) (since : T)
  /-- Ended by an exception that nobody reads. -/
  | raised

/-- A websocket that is open, and the tasks on it. -/
structure BatchFeed (T : Type) where
  now : T
  consumers : Consumers
  producers : List (StatusProducer T)

/-- `len(subsevt)` -/
def WsState.subscriptions (ws : WsState) : ℕ :=
  ([EventName.blocks, .batch, .transfer, .atomicSwap].filter fun n => (ws.subsevt n).isSome).length

inductive FeedLabel where
  /-- A call, a message of the validator, or a step of a consumer. -/
  | consumers (action : ConsumerAction)
  /-- The producer begins a pass.  With `fetches` it suspends at the 'batch' entry; it does not
  where the id is refused before anything is sent. -/
  | pass (producer : ℕ) (fetches : Bool)
  /-- The fetch is over, and the producer has put a message into the queue or none.  With `again`
  the dictionary has one more 'batch' entry for the pass, as after an `unsubscribe` and a
  `subscribe`. -/
  | status (producer : ℕ) (msg : Option StreamMessage) (again : Bool)
  /-- `produce_custom_msg` raises. -/
  | fail (producer : ℕ)
  | tick

namespace BatchFeed

variable {T : Type} (s : BatchFeed T)

/-- A new websocket. -/
def init (now : T) : BatchFeed T where
  now := now
  consumers := .init
  producers := []

/-- The producer that `subscribe` creates. -/
def started : ConsumerAction → List (StatusProducer T)
  | .subscribe .batch _ => [.created]
  | _ => []

/-- The 'batch' entry of a pass. -/
def fetch : StatusProducer T :=
  match s.consumers.ws.subsevt .batch with
  | some subscription => .fetching subscription.validatedData s.consumers.ws.subscriptions s.now
  | none => .sleeping

/-- The pass up to the 'batch' entry or to its end. -/
def beginPass (fetches : Bool) : StatusProducer T := if fetches = true then s.fetch else .sleeping

/-- The iterator's `__next__`, and the pass from there on. -/
def nextEntry (used : ℕ) (again : Bool) : StatusProducer T :=
  if used ≠ s.consumers.ws.subscriptions then
    -- `RuntimeError: dictionary changed size during iteration`
    .raised
  else s.beginPass again

/-- `stream.route_msg(msg)` -/
def route (msg : Option StreamMessage) : Consumers :=
  { s.consumers with queue := s.consumers.queue ++ msg.toList }

end BatchFeed

section Feed

variable {B τ T : Type} [Preorder T] (π : Platform B) (sdk : Sdk τ)
  (answers : T → (q : Request τ) → Reply q → Prop)

inductive FeedStep : BatchFeed T → FeedLabel → BatchFeed T → Prop
  | consumers {s : BatchFeed T} {action : ConsumerAction} {consumers : Consumers}
      (hother : ∀ msg, action = .arrive msg → ∀ evt ∈ msg.events,
        evt.eventType ≠ EventType.remmeBatchDelta.value)
      (hstep : s.consumers.step π action = some consumers) :
      FeedStep s (.consumers action)
        { s with consumers := consumers, producers := s.producers ++ BatchFeed.started action }
  | pass {s : BatchFeed T} {producer : ℕ} {fetches : Bool}
      (hposition : s.producers[producer]? = some .created ∨
        s.producers[producer]? = some .sleeping) :
      FeedStep s (.pass producer fetches)
        { s with producers := s.producers.set producer (s.beginPass fetches) }
  | status {s : BatchFeed T} {producer used : ℕ} {batchId : Str} {since : T}
      {msg : Option StreamMessage} {again : Bool}
      (hposition : s.producers[producer]? = some (.fetching batchId used since))
      (hgoes : Dialogue.Goes answers since (produceCustomMsg sdk batchId) (.ok msg) s.now) :
      FeedStep s (.status producer msg again)
        { s with
          consumers := s.route msg
          producers := s.producers.set producer (s.nextEntry used again) }
  | fail {s : BatchFeed T} {producer used : ℕ} {batchId : Str} {since : T} {err : RequestError}
      (hposition : s.producers[producer]? = some (.fetching batchId used since))
      (hgoes : Dialogue.Goes answers since (produceCustomMsg sdk batchId) (.error err) s.now) :
      FeedStep s (.fail producer) { s with producers := s.producers.set producer .raised }
  | tick {s : BatchFeed T} {moment : T} (hle : s.now ≤ moment) :
      FeedStep s .tick { s with now := moment }

end Feed

/-! ## What the validator tells of a batch -/

/-- `ClientBatchStatus.Status` -/
inductive BatchStatus where
  | statusUnset | committed | invalid | pending | unknown
  deriving DecidableEq

def BatchStatus.name : BatchStatus → Str
  | statusUnset => "STATUS_UNSET".toList
  | committed => "COMMITTED".toList
  | invalid => "INVALID".toList
  | pending => "PENDING".toList
  | unknown => "UNKNOWN".toList

/-- `ClientBatchStatus.InvalidTransaction` -/
structure InvalidTransaction where
  transactionId : Str
  message : Str
  extendedData : Bytes
  deriving DecidableEq

structure ClientBatchStatus where
  batchId : Str
  status : BatchStatus
  invalidTransactions : List InvalidTransaction
  deriving DecidableEq

/-- `message_to_dict` -/
def InvalidTransaction.toDict (transaction : InvalidTransaction) : PyVal :=
  .object
    [("transaction_id".toList, .text transaction.transactionId),
     ("message".toList, .text transaction.message),
     ("extended_data".toList, bytesValue transaction.extendedData)]

/-- `message_to_dict` -/
def ClientBatchStatus.toDict (batch : ClientBatchStatus) : PyVal :=
  .object
    [("batch_id".toList, .text batch.batchId),
     ("status".toList, .text batch.status.name),
     ("invalid_transactions".toList,
       .array (batch.invalidTransactions.map InvalidTransaction.toDict))]

end Remme.RpcApi
