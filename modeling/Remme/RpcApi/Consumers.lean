import Remme.RpcApi.Event
import Remme.Lib.Run
/-!
# The consumer tasks of a websocket

Every successful `subscribe` starts one more `_consumer` task, and all of them
take messages from one queue and share one set of hashes.  A task gives way
only where it awaits: for the next message, for a block's information, and for
the end of a send.  A step of the machine runs one task from one await to the
next, or is a call or an arrival in between.  The hash is added to the set only
after the send.
-/

namespace Remme.RpcApi

open Remme.Lib Remme.Protos Remme.Shared Remme.Tp

/-! ## Preparing a response -/

/-- `int(state['block_num']) - 1` -/
def blockIndex (state : PyVal) : Except PyError ℤ := do
  let blockNum ← match ← getItem "block_num" state with
    | .text s =>
        match Text.int 10 s with
        | some n => .ok n
        | none => .error .valueError
    | _ => .error .typeError
  pure (blockNum - 1)

def blockResponse (state : PyVal) (blockInformation : BlockInfo) : PyVal :=
  .object
    [("id".toList, (state.get? "block_id".toList).getD .none),
     ("timestamp".toList, .number blockInformation.timestamp.toNat)]

/-- What `prepare_response` comes to at its first await: the block to fetch, or the response. -/
inductive Prepared where
  | fetch (index : ℤ)
  | response (response : Option PyVal)

def startResponse (n : EventName) (state : PyVal) (validatedData : n.ValidatedData) :
    Except PyError Prepared :=
  match n, validatedData with
  | .blocks, _ => (blockIndex state).map .fetch
  | .batch, _ => .ok (.response (some state))
  | .transfer, address => (prepareTransferResponse state address).map .response
  | .atomicSwap, (_, id) => (prepareSwapResponse state id).map .response

/-- The synchronous `prepareResponse` is the fetch between the two halves. -/
theorem prepareResponse_eq (getBlockInfo : ℤ → Except PyError BlockInfo) (n : EventName)
    (state : PyVal) (validatedData : n.ValidatedData) :
    prepareResponse getBlockInfo n state validatedData =
      (startResponse n state validatedData >>= fun
        | .fetch index => (getBlockInfo index).map fun information =>
            some (blockResponse state information)
        | .response response => .ok response) := by
  match n, validatedData with
  | .blocks, _ =>
      unfold prepareResponse prepareBlockResponse startResponse blockIndex
      cases getItem "block_num" state with
      | error err => rfl
      | ok value =>
          cases value with
          | text text =>
              cases hint : Text.int 10 text with
              | none => simp [hint, bind, Except.bind, Except.map]
              | some blockNum =>
                  simp only [hint, bind, Except.bind, pure, Except.pure, Except.map]
                  cases getBlockInfo (blockNum - 1) <;> rfl
          | _ => rfl
  | .batch, _ => rfl
  | .transfer, address =>
      change prepareTransferResponse state address = _
      cases hresponse : prepareTransferResponse state address <;>
        simp [startResponse, hresponse, bind, Except.bind, Except.map]
  | .atomicSwap, (_, id) =>
      change prepareSwapResponse state id = _
      cases hresponse : prepareSwapResponse state id <;>
        simp [startResponse, hresponse, bind, Except.bind, Except.map]

/-! ## Tasks -/

/-- The events of a message that are left to process, each for one name. -/
abbrev Work := List (Event × EventName)

def StreamMessage.work (msg : StreamMessage) : Work :=
  msg.events.flatMap fun evt => (sawtoothToRemmeEvent evt.eventType).map (evt, ·)

/-- Where a consumer task awaits. -/
inductive Position where
  | receiving
  /-- The block's information; the state and the message id were read before. -/
  | fetching (msgId : PyVal) (state : PyVal) (index : ℤ) (rest : Work)
  /-- The end of a send, after which the hash is added. -/
  | sending (evthash : Str) (rest : Work)
  | raised (err : PyError)

variable {B : Type} (π : Platform B)

/-- A response is sent if it is not empty and its hash is not among those of the websocket. -/
def toSend (ws : WsState) (n : EventName) (msgId : PyVal) (response : Option PyVal) :
    Except PyError (Option (Notification × Str)) :=
  match response with
  | none => .ok none
  | some response =>
      if response.isFalsy then .ok none
      else do
        let evthash ← prepareEvtHash π n response
        match ws.evthashes with
        | none => .error .keyError
        | some evthashes =>
            pure (if evthash ∈ evthashes then none
              else some (⟨msgId, n, response⟩, evthash))

/-- A task after it ran: the websocket, where it awaits, and the hash of the send it began. -/
structure Progress where
  ws : WsState
  position : Position
  began : Option Str

def Progress.send (ws : WsState) (notification : Notification) (evthash : Str) (rest : Work) :
    Progress :=
  { ws := { ws with sent := ws.sent ++ [notification] }
    position := .sending evthash rest
    began := some evthash }

def Progress.fail (ws : WsState) (err : PyError) : Progress :=
  { ws := ws, position := .raised err, began := none }

/-- The end of the loop body: send the response, or go on with the next name. -/
def offer (ws : WsState) (n : EventName) (msgId : PyVal) (response : Option PyVal) (rest : Work)
    (next : Progress) : Progress :=
  match toSend π ws n msgId response with
  | .error err => .fail ws err
  | .ok none => next
  | .ok (some (notification, evthash)) => .send ws notification evthash rest

/-- `_process_msg` from the next name on, up to the next await. -/
def advance (ws : WsState) : Work → Progress
  | [] => { ws := ws, position := .receiving, began := none }
  | (evt, n) :: rest =>
      match ws.subsevt n, ws.evthashes with
      | none, _ => advance ws rest
      | some _, none => advance { ws with subsevt := Function.update ws.subsevt n none } rest
      | some subscription, some _ =>
          match parseEvt n evt with
          | .error err => .fail ws err
          | .ok none => advance ws rest
          | .ok (some state) =>
              if state.isFalsy then advance ws rest
              else match startResponse n state subscription.validatedData with
                | .error err => .fail ws err
                | .ok (.fetch index) =>
                    { ws := ws
                      position := .fetching subscription.msgId state index rest
                      began := none }
                | .ok (.response response) =>
                    offer π ws n subscription.msgId response rest (advance ws rest)

/-- A task goes on with the block's information; only `blocks` fetches. -/
def resumeFetch (ws : WsState) (msgId state : PyVal) (rest : Work)
    (information : Except PyError BlockInfo) : Progress :=
  match information with
  | .error err => .fail ws err
  | .ok information =>
      offer π ws .blocks msgId (some (blockResponse state information)) rest (advance π ws rest)

/-- `request.rpc._evthashes[ws].add(evthash)`, and on with the rest. -/
def resumeSend (ws : WsState) (evthash : Str) (rest : Work) : Progress :=
  match ws.evthashes with
  | none => .fail ws .keyError
  | some evthashes => advance π { ws with evthashes := some (evthash :: evthashes) } rest

/-! ## The machine -/

/-- An open websocket, its queue and its consumer tasks. -/
structure Consumers where
  ws : WsState
  queue : List StreamMessage
  tasks : List Position
  /-- The hashes of the sends so far, in order. -/
  sends : List Str

/-- A new websocket. -/
def Consumers.init : Consumers where
  ws := { subsevt := fun _ => none, evthashes := none, sent := [] }
  queue := []
  tasks := []
  sends := []

inductive ConsumerAction where
  /-- A `subscribe` succeeds. -/
  | subscribe (n : EventName) (subscription : Subscription n)
  | unsubscribe (n : EventName)
  | arrive (msg : StreamMessage)
  /-- A task takes the next message. -/
  | receive (task : ℕ)
  | fetched (task : ℕ) (information : Except PyError BlockInfo)
  | sent (task : ℕ)

namespace Consumers

/-- The run of the task that an action lets go on, and the queue after it. -/
def progress (s : Consumers) : ConsumerAction → Option (ℕ × List StreamMessage × Progress)
  | .receive task =>
      match s.tasks[task]?, s.queue with
      | some .receiving, msg :: queue => some (task, queue, advance π s.ws msg.work)
      | _, _ => none
  | .fetched task information =>
      match s.tasks[task]? with
      | some (.fetching msgId state _ rest) =>
          some (task, s.queue, resumeFetch π s.ws msgId state rest information)
      | _ => none
  | .sent task =>
      match s.tasks[task]? with
      | some (.sending evthash rest) => some (task, s.queue, resumeSend π s.ws evthash rest)
      | _ => none
  | _ => none

/-- One step; `none` where the action is not enabled. -/
def step (s : Consumers) (action : ConsumerAction) : Option Consumers :=
  match action with
  | .subscribe n subscription =>
      match s.ws.subsevt n with
      | some _ => none
      | none => some
          { s with
            ws := { s.ws with
              subsevt := Function.update s.ws.subsevt n (some subscription)
              evthashes := some (s.ws.evthashes.getD []) }
            tasks := s.tasks ++ [.receiving] }
  | .unsubscribe n =>
      match s.ws.subsevt n with
      | none => none
      | some _ => some
          { s with ws := { s.ws with subsevt := Function.update s.ws.subsevt n none } }
  | .arrive msg => some { s with queue := s.queue ++ [msg] }
  | _ =>
      (s.progress π action).map fun (task, queue, progress) =>
        { ws := progress.ws
          queue := queue
          tasks := s.tasks.set task progress.position
          sends := s.sends ++ progress.began.toList }

end Consumers

end Remme.RpcApi
