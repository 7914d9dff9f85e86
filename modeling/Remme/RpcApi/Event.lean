import Remme.Tp.Event
import Remme.Clients.BlockInfo
/-!
# Websocket notifications

The handlers of the four subscribable events, and `_process_msg`: an event of
the validator is parsed, turned into the response of each subscription it is
for, and sent unless the hash of an equal response was sent on the websocket
before.
-/

namespace Remme.RpcApi

open Remme.Lib Remme.Protos Remme.Shared Remme.Tp

/-! ## Python values -/

/-- `value[key]` -/
def getItem (key : String) (value : PyVal) : Except PyError PyVal :=
  match value with
  | .object _ =>
      match value.get? key.toList with
      | some v => .ok v
      | none => .error .keyError
  | _ => .error .typeError

/-- `value[i]` -/
def getIndex (i : ℕ) (value : PyVal) : Except PyError PyVal :=
  match value with
  | .array items =>
      match items[i]? with
      | some v => .ok v
      | none => .error .indexError
  | .object _ => .error .keyError
  | _ => .error .typeError

/-- `float(value)` of a balance, which is the decimal text of an unsigned integer. -/
def pyFloat : PyVal → Except PyError Double
  | .text s =>
      if s ≠ [] ∧ s.all Char.isDigit then .ok (.ofNat (Nat.ofDigitChars 10 s 0))
      else .error .valueError
  | _ => .error .typeError

/-- `value == s` -/
def isText (s : Str) : PyVal → Bool
  | .text t => t = s
  | _ => false

/-! ## Event handlers -/

/-- The keys of `EVENT_HANDLERS`. -/
inductive EventName where
  | blocks | batch | transfer | atomicSwap
  deriving DecidableEq

namespace EventName

/-- `NAME` -/
def name : EventName → Str
  | blocks => "blocks".toList
  | batch => "batch".toList
  | transfer => "transfer".toList
  | atomicSwap => "atomic_swap".toList

/-- `EVENTS` -/
def events : EventName → List EventType
  | blocks => [.sawtoothBlockCommit]
  | batch => [.remmeBatchDelta]
  | transfer => [.accountTransfer]
  | atomicSwap => [.swapInit, .swapClose, .swapApprove, .swapExpire, .swapSetSecretLock,
      .sawtoothBlockCommit]

def hashKeys : EventName → List String
  | blocks => ["id"]
  | batch => ["id", "status"]
  | transfer => ["from", "to"]
  | atomicSwap => ["swap_id", "state"]

/-- What `validate` returns: nothing, the batch, the address, or the block and the swap. -/
def ValidatedData : EventName → Type
  | blocks => Unit
  | batch => Str
  | transfer => Str
  | atomicSwap => Option Str × Option Str

end EventName

/-- `SAWTOOTH_TO_REMME_EVENT`; a set in the code, here in the order of registration. -/
def sawtoothToRemmeEvent (eventType : Str) : List EventName :=
  [EventName.blocks, .batch, .transfer, .atomicSwap].filter fun n =>
    eventType ∈ n.events.map (·.value)

/-- The attributes as a dictionary; a later one of the same key replaces an earlier one. -/
def parseAttributes (evt : Event) : PyVal :=
  .object (Dict.ofList (evt.attributes.map fun attr =>
    (attr.1, match attr.2 with
      | .plain s => .text s
      | .dumped v => v))).entries

/-- `json.loads` of the first attribute `entities_changed`. -/
def parseEntities (evt : Event) : Except PyError (Option PyVal) :=
  match evt.attributes.find? fun attr => attr.1 = "entities_changed".toList with
  | none => .ok none
  | some (_, .dumped v) => .ok (some v)
  | some (_, .plain _) => .error .valueError

def parseEvt (n : EventName) (evt : Event) : Except PyError (Option PyVal) :=
  match n with
  | .blocks | .batch => .ok (some (parseAttributes evt))
  | .transfer | .atomicSwap => parseEntities evt

def partyResponse (party : PyVal) : Except PyError PyVal := do
  let address ← getItem "address" party
  let balance ← getItem "balance" party
  let balance ← pyFloat balance
  pure (.object [("address".toList, address), ("balance".toList, .float balance)])

def prepareTransferResponse (state : PyVal) (address : Str) : Except PyError (Option PyVal) := do
  let sender ← getIndex 0 state
  let receiver ← getIndex 1 state
  let senderAddress ← getItem "address" sender
  let receiverAddress ← getItem "address" receiver
  if isText address senderAddress || isText address receiverAddress then
    let sender ← partyResponse sender
    let receiver ← partyResponse receiver
    pure (some (.object [("from".toList, sender), ("to".toList, receiver)]))
  else
    pure none

/-- `next(filter(lambda el: el['type'] == 'AtomicSwapInfo', state))` -/
def findSwapInfo : List PyVal → Except PyError PyVal
  | [] => .error .stopIteration
  | el :: rest => do
      let type ← getItem "type" el
      if isText "AtomicSwapInfo".toList type then pure el else findSwapInfo rest

def deleteKey (key : Str) : PyVal → PyVal
  | .object fields => .object (fields.filter fun field => field.1 ≠ key)
  | v => v

def prepareSwapResponse (state : PyVal) (id : Option Str) : Except PyError (Option PyVal) := do
  let entities ← match state with
    | .array items => .ok items
    | _ => .error .typeError
  let swapInfo ← findSwapInfo entities
  let isOther ← match id with
    | none | some [] => .ok false
    | some id => do
        let swapId ← getItem "swap_id" swapInfo
        pure (!isText id swapId)
  if isOther then
    pure none
  else
    pure (some (deleteKey "type".toList swapInfo))

/-- A block's index is one less than its number. -/
def prepareBlockResponse (getBlockInfo : ℤ → Except PyError BlockInfo) (state : PyVal) :
    Except PyError (Option PyVal) := do
  let blockNum ← match ← getItem "block_num" state with
    | .text s =>
        match Text.int 10 s with
        | some n => .ok n
        | none => .error .valueError
    | _ => .error .typeError
  let blockInformation ← getBlockInfo (blockNum - 1)
  pure (some (.object
    [("id".toList, (state.get? "block_id".toList).getD .none),
     ("timestamp".toList, .number blockInformation.timestamp.toNat)]))

variable {B : Type} (π : Platform B) (getBlockInfo : ℤ → Except PyError BlockInfo)

def prepareResponse (n : EventName) (state : PyVal) (validatedData : n.ValidatedData) :
    Except PyError (Option PyVal) :=
  match n, validatedData with
  | .blocks, _ => prepareBlockResponse getBlockInfo state
  | .batch, _ => .ok (some state)
  | .transfer, address => prepareTransferResponse state address
  | .atomicSwap, (_, id) => prepareSwapResponse state id

/-- `'-'.join(str(response[key]) for key in cls.hash_keys())`, after the name. -/
def evtHashText (n : EventName) (response : PyVal) : Except PyError Str := do
  let values ← n.hashKeys.mapM fun key => getItem key response
  pure (n.name ++ ':' :: List.intercalate "-".toList (values.map (PyVal.str π.isPrintable)))

def prepareEvtHash (n : EventName) (response : PyVal) : Except PyError Str := do
  let hstr ← evtHashText π n response
  pure (π.sha256 (Text.encodeUtf8 hstr))

/-! ## Processing messages -/

structure Subscription (n : EventName) where
  msgId : PyVal
  validatedData : n.ValidatedData

structure Notification where
  msgId : PyVal
  eventType : EventName
  attributes : PyVal

/-- What the server keeps for a websocket, and what it has sent on it. -/
structure WsState where
  subsevt : (n : EventName) → Option (Subscription n)
  /-- `_evthashes[ws]`; absent once the connection is gone. -/
  evthashes : Option (List Str)
  sent : List Notification

/-- The response to send for an event, with its hash; `none` where the event is skipped. -/
def prepareNotification (n : EventName) (subscription : Subscription n) (evt : Event) :
    Except PyError (Option (PyVal × Str)) := do
  match ← parseEvt n evt with
  | none => pure none
  | some updatedState =>
      if updatedState.isFalsy then return none
      match ← prepareResponse getBlockInfo n updatedState subscription.validatedData with
      | none => pure none
      | some response =>
          if response.isFalsy then return none
          let evthash ← prepareEvtHash π n response
          pure (some (response, evthash))

/-- The body of the loop over the names of an event. -/
def processName (evt : Event) (n : EventName) : EStateM PyError WsState Unit := fun ws =>
  match ws.subsevt n, ws.evthashes with
  | none, _ => .ok () ws
  | some _, none =>
      -- `del subsevt[evt_name]`
      .ok () { ws with subsevt := Function.update ws.subsevt n none }
  | some subscription, some evthashes =>
      match prepareNotification π getBlockInfo n subscription evt with
      | .error err => .error err ws
      | .ok none => .ok () ws
      | .ok (some (response, evthash)) =>
          if evthash ∈ evthashes then .ok () ws
          else .ok ()
            { ws with
              evthashes := some (evthash :: evthashes)
              sent := ws.sent ++ [⟨subscription.msgId, n, response⟩] }

def processEvent (evt : Event) : EStateM PyError WsState Unit :=
  (sawtoothToRemmeEvent evt.eventType).forM (processName π getBlockInfo evt)

/-- A message of the stream: a list of events, or a message of another type. -/
inductive StreamMessage where
  | clientEvents (events : List Event)
  | other

def StreamMessage.events : StreamMessage → List Event
  | clientEvents events => events
  | other => []

/-- `_process_msg` -/
def processMsg (msg : StreamMessage) : EStateM PyError WsState Unit :=
  match msg with
  | .other => pure ()
  | .clientEvents events => events.forM (processEvent π getBlockInfo)

/-- `_consumer`, as long as the stream delivers. -/
def consume (stream : List StreamMessage) : EStateM PyError WsState Unit :=
  stream.forM (processMsg π getBlockInfo)

end Remme.RpcApi
