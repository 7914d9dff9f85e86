import Remme.Lib.Text
import Remme.Lib.Run
import Mathlib.Logic.Function.Basic
/-!
# The connection to the validator

`Connection` sends requests to the validator and routes what comes back: a
message whose correlation id is expected resolves the future of its `send`, any
other goes to the incoming queue.  The receiver, the `send` calls and `close`
interleave at every await.  A step of the machine runs one of them from one
await to the next; ZMQ decides what a write does, and the timers when they
expire.

A call of `send` is known by its correlation id, since `uuid4` draws a new one
for each call.
-/

namespace Remme.Shared.Messaging

open Remme.Lib

/-- The `Message` of the validator. -/
structure Message where
  messageType : ℕ
  correlationId : Str
  content : Bytes
  deriving DecidableEq

/-- A future of `_futures`. -/
inductive ReplyFuture where
  | pending
  | result (msg : Message)
  /-- `set_exception(DisconnectError())` -/
  | failed
  | cancelled
  deriving DecidableEq

/-- `set_result`; the `InvalidStateError` of a future that is done is only logged. -/
def ReplyFuture.setResult (msg : Message) : ReplyFuture → ReplyFuture
  | .pending => .result msg
  | future => future

/-- `set_exception`, of a future that is not done. -/
def ReplyFuture.setException : ReplyFuture → ReplyFuture
  | .pending => .failed
  | future => future

inductive SendError where
  | disconnectError
  | sendBackoffTimeoutError
  /-- `asyncio.TimeoutError` -/
  | timeoutError
  /-- Any other exception of `write`. -/
  | writeError
  deriving DecidableEq

/-- What `self._socket.write` does. -/
inductive WriteResult where
  | ok
  /-- `zmq.error.Again` -/
  | again
  | raised
  deriving DecidableEq

/-- Where a call of `send` awaits, or how it ended. -/
inductive SendPosition where
  /-- `asyncio.sleep` of `do_backoff` -/
  | sleeping (numRetries : ℕ)
  /-- `asyncio.wait_for`; `expired` once its timer has run. -/
  | awaiting (expired : Bool)
  /-- `wait_for` has cancelled the future and is about to raise, from Python 3.7 on after one
  more await. -/
  | cancelling
  | returned (msg : Message)
  | raised (err : SendError)
  deriving DecidableEq

def maxRetries : ℕ := 3

/-- `do_backoff`, up to its sleep. -/
def doBackoff (numRetries : ℕ) : SendPosition :=
  if numRetries = maxRetries then .raised .sendBackoffTimeoutError else .sleeping (numRetries + 1)

/-- One round of the loop of `send`. -/
def attempt (numRetries : ℕ) : WriteResult → SendPosition
  | .ok => .awaiting false
  | .again => doBackoff numRetries
  | .raised => .raised .writeError

structure SendCall where
  timeout : Option ℕ
  position : SendPosition
  deriving DecidableEq

structure Connection where
  /-- `_futures` -/
  futures : Str → Option ReplyFuture
  /-- `_queue`, oldest message first. -/
  queue : List Message
  /-- The calls of `send`, by correlation id. -/
  sends : Str → Option SendCall
  /-- What the calls of `receive` returned, in this order. -/
  received : List Message

inductive ConnectionAction where
  /-- A call of `send`, up to its first await. -/
  | send (correlationId : Str) (timeout : Option ℕ) (result : WriteResult)
  /-- The sleep between two attempts ends. -/
  | wake (correlationId : Str) (result : WriteResult)
  /-- `route_msg` -/
  | arrive (msg : Message)
  /-- The timer of `wait_for` runs. -/
  | expire (correlationId : Str)
  /-- `wait_for` goes on. -/
  | resume (correlationId : Str)
  /-- A call of `receive` takes a message. -/
  | receive
  | close
  deriving DecidableEq

namespace Connection

variable (s : Connection)

def init : Connection where
  futures := fun _ => none
  queue := []
  sends := fun _ => none
  received := []

def expectReply (correlationId : Str) : Connection :=
  { s with futures := Function.update s.futures correlationId (some .pending) }

def pushIncoming (msg : Message) : Connection := { s with queue := s.queue ++ [msg] }

/-- `_set_reply` -/
def setReply (correlationId : Str) (msg : Message) : Connection :=
  { s with
    futures := Function.update s.futures correlationId
      ((s.futures correlationId).map (·.setResult msg)) }

def routeMsg (msg : Message) : Connection :=
  if (s.futures msg.correlationId).isSome then s.setReply msg.correlationId msg
  else s.pushIncoming msg

/-- `fail_all(DisconnectError())` -/
def failAll : Connection :=
  { s with futures := fun correlationId => (s.futures correlationId).map (·.setException) }

def moveTo (correlationId : Str) (position : SendPosition) : Connection :=
  { s with
    sends := Function.update s.sends correlationId
      ((s.sends correlationId).map fun call => { call with position := position }) }

/-- The `finally` of `await_reply` deletes the future. -/
def finish (correlationId : Str) (position : SendPosition) : Connection :=
  { s.moveTo correlationId position with
    futures := Function.update s.futures correlationId none }

/-- `fut.cancel()` of `wait_for`. -/
def cancel (correlationId : Str) : Connection :=
  { s.moveTo correlationId .cancelling with
    futures := Function.update s.futures correlationId (some .cancelled) }

/-- `wait_for` goes on once its future is done or its timer has run. -/
def resume (correlationId : Str) : Option Connection :=
  match s.sends correlationId, s.futures correlationId with
  | some ⟨_, .awaiting _⟩, some (.result msg) => some (s.finish correlationId (.returned msg))
  | some ⟨_, .awaiting _⟩, some .failed => some (s.finish correlationId (.raised .disconnectError))
  | some ⟨_, .awaiting true⟩, some .pending => some (s.cancel correlationId)
  | some ⟨_, .cancelling⟩, _ => some (s.finish correlationId (.raised .timeoutError))
  | _, _ => none

/-- One step; `none` where the action is not enabled. -/
def step (action : ConnectionAction) : Option Connection :=
  match action with
  | .send correlationId timeout result =>
      if s.sends correlationId = none then
        some
          { s.expectReply correlationId with
            sends := Function.update s.sends correlationId (some ⟨timeout, attempt 0 result⟩) }
      else none
  | .wake correlationId result =>
      match s.sends correlationId with
      | some ⟨_, .sleeping numRetries⟩ =>
          some (s.moveTo correlationId (attempt numRetries result))
      | _ => none
  | .arrive msg => some (s.routeMsg msg)
  | .expire correlationId =>
      match s.sends correlationId with
      | some ⟨some _, .awaiting false⟩ => some (s.moveTo correlationId (.awaiting true))
      | _ => none
  | .resume correlationId => s.resume correlationId
  | .receive =>
      match s.queue with
      | [] => none
      | msg :: queue => some { s with queue := queue, received := s.received ++ [msg] }
  | .close => some s.failAll

end Connection

/-! ## Cancelled calls -/

/-- The connection, with the calls of `send` that ended by `CancelledError`. -/
structure Calls where
  connection : Connection
  cancelled : Str → Bool

inductive CallAction where
  | act (action : ConnectionAction)
  /-- The task of the call is cancelled where it awaits. -/
  | cancelTask (correlationId : Str)

/-- The call that goes on with an action. -/
def ConnectionAction.caller : ConnectionAction → Option Str
  | .wake correlationId _ => some correlationId
  | .expire correlationId => some correlationId
  | .resume correlationId => some correlationId
  | _ => none

namespace Calls

variable (s : Calls)

def init : Calls where
  connection := .init
  cancelled := fun _ => false

/-- `CancelledError` at an await of `send`: the loop lets it pass, and so does `await_reply`,
after its `finally`. -/
def cancelTask (correlationId : Str) : Option Calls :=
  let cancelled := Function.update s.cancelled correlationId true
  match s.connection.sends correlationId with
  | some ⟨_, .sleeping _⟩ => some { s with cancelled := cancelled }
  | some ⟨_, .awaiting _⟩ | some ⟨_, .cancelling⟩ =>
      some
        { connection :=
            { s.connection with
              futures := Function.update s.connection.futures correlationId none }
          cancelled := cancelled }
  | _ => none

/-- One step; `none` where the action is not enabled. -/
def step (action : CallAction) : Option Calls :=
  match action with
  | .act action =>
      if action.caller.any s.cancelled = true then none
      else (s.connection.step action).map fun connection => { s with connection := connection }
  | .cancelTask correlationId =>
      if s.cancelled correlationId = true then none else s.cancelTask correlationId

end Calls

end Remme.Shared.Messaging
