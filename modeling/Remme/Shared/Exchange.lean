import Remme.Shared.Messaging
import Remme.Shared.Router
/-!
# Conversations over one connection

The tasks of a node share a connection.  Each runs its program up to the next
request, awaits `send`, and goes on with what `send` returned or raised; in
between the other tasks run, the validator answers in any order and at any
time, and messages are delayed, repeated or lost.  `close` ends the receiver and
closes the socket, and no node opens a connection twice: from then on nothing
comes in.
-/

namespace Remme.Shared

open Remme.Lib Remme.Shared.Messaging

/-- The timeout of a request, in seconds. -/
def zmqConnectionTimeout : ℕ := 30

/-- Where a task stands: it runs, it awaits `send`, or it is over. -/
inductive Task (τ α : Type) where
  | ready (program : Query τ α)
  | waiting (correlationId : Str) (q : Request τ) (next : Reply q → Query τ α)
  | ended (result : Except RequestError α)

structure Exchange (T τ α : Type) where
  now : T
  calls : Calls
  /-- The requests of the calls of `send`, with the moments of the calls. -/
  requests : Str → Option (T × Request τ)
  /-- The replies of the validator that can still arrive. -/
  replies : List Message
  /-- `close` has cancelled the receiver and closed the socket. -/
  isClosed : Bool
  tasks : List (Task τ α)

inductive ExchangeLabel (T τ α : Type) where
  | start (program : Query τ α)
  /-- The task calls `send`. -/
  | ask (task : ℕ) (correlationId : Str) (result : WriteResult)
  /-- The call of `send` is over, and the task goes on. -/
  | goOn (task : ℕ)
  | finish (task : ℕ)
  /-- The validator answers a request. -/
  | answer (msg : Message)
  /-- A reply arrives. -/
  | deliver (msg : Message)
  /-- A message comes that is no reply: one that the validator sends by itself, or one that a
  producer of the node routes, also after `close`. -/
  | notice (msg : Message)
  /-- A step of the connection that sends nothing and brings nothing. -/
  | act (action : CallAction)
  | tick (moment : T)

/-- The exceptions of `send`, as `_handle_response` tells them apart: the others of `messaging.py`
are no `ValidatorConnectionError`. -/
def Messaging.SendError.toException : SendError → SendException
  | .timeoutError => .timeout
  | .disconnectError | .sendBackoffTimeoutError | .writeError => .other

section Step

variable {T τ α : Type} [Preorder T]
  /- `ParseFromString` and `message_to_dict` of a response; `none` is the `DecodeError`. -/
  (parse : (q : Request τ) → Bytes → Option (Response q))
  /- How the validator may respond to a request at a moment. -/
  (responds : T → Request τ → Bytes → Prop)

/-- What a call of `send` that is over makes of a request. -/
def replyOf (q : Request τ) : SendPosition → Option (Reply q)
  | .returned msg => some (.ok (parse q msg.content))
  | .raised err => some (.error err.toException)
  | _ => none

/-- Actions of the connection that come about by themselves. -/
def Messaging.CallAction.IsInner : CallAction → Prop
  | .act (.send ..) => False
  | .act (.arrive _) => False
  | _ => True

def Messaging.CallAction.closes : CallAction → Bool
  | .act .close => true
  | _ => false

inductive ExchangeStep : Exchange T τ α → ExchangeLabel T τ α → Exchange T τ α → Prop
  | start {s : Exchange T τ α} {program : Query τ α} :
      ExchangeStep s (.start program) { s with tasks := s.tasks ++ [.ready program] }
  | ask {s : Exchange T τ α} {task : ℕ} {q : Request τ} {next : Reply q → Query τ α}
      {correlationId : Str} {result : WriteResult} {calls : Calls}
      (htask : s.tasks[task]? = some (.ready (.ask q next)))
      (hcalls : s.calls.step (.act (.send correlationId (some zmqConnectionTimeout) result)) =
        some calls) :
      ExchangeStep s (.ask task correlationId result)
        { s with
          calls := calls
          requests := Function.update s.requests correlationId (some (s.now, q))
          tasks := s.tasks.set task (.waiting correlationId q next) }
  | goOn {s : Exchange T τ α} {task : ℕ} {correlationId : Str} {q : Request τ}
      {next : Reply q → Query τ α} {call : SendCall} {reply : Reply q}
      (htask : s.tasks[task]? = some (.waiting correlationId q next))
      (hcall : s.calls.connection.sends correlationId = some call)
      (hreply : replyOf parse q call.position = some reply) :
      ExchangeStep s (.goOn task) { s with tasks := s.tasks.set task (.ready (next reply)) }
  | finish {s : Exchange T τ α} {task : ℕ} {result : Except RequestError α}
      (htask : s.tasks[task]? = some (.ready (.done result))) :
      ExchangeStep s (.finish task) { s with tasks := s.tasks.set task (.ended result) }
  | answer {s : Exchange T τ α} {msg : Message} {t : T} {q : Request τ}
      (hrequest : s.requests msg.correlationId = some (t, q))
      (hresponds : responds s.now q msg.content) :
      ExchangeStep s (.answer msg) { s with replies := msg :: s.replies }
  | deliver {s : Exchange T τ α} {msg : Message} {calls : Calls} (hopen : s.isClosed = false)
      (hmsg : msg ∈ s.replies)
      (hcalls : s.calls.step (.act (.arrive msg)) = some calls) :
      ExchangeStep s (.deliver msg) { s with calls := calls }
  | notice {s : Exchange T τ α} {msg : Message} {calls : Calls}
      (hmsg : s.requests msg.correlationId = none)
      (hcalls : s.calls.step (.act (.arrive msg)) = some calls) :
      ExchangeStep s (.notice msg) { s with calls := calls }
  | act {s : Exchange T τ α} {action : CallAction} {calls : Calls} (hinner : action.IsInner)
      (hcalls : s.calls.step action = some calls) :
      ExchangeStep s (.act action)
        { s with calls := calls, isClosed := s.isClosed || action.closes }
  | tick {s : Exchange T τ α} {moment : T} (hle : s.now ≤ moment) :
      ExchangeStep s (.tick moment) { s with now := moment }

/-- Nothing has happened yet. -/
def Exchange.init (now : T) : Exchange T τ α where
  now := now
  calls := .init
  requests := fun _ => none
  replies := []
  isClosed := false
  tasks := []

/-- How a request may come back: with the validator's response, unless the connection is closed, or
with an exception of `send`, whatever the validator does. -/
def wireAnswers (isClosed : Bool) (m : T) (q : Request τ) : Reply q → Prop
  | .ok response => isClosed = false ∧ ∃ content, responds m q content ∧ parse q content = response
  | .error exc => ∃ err : SendError, exc = err.toException

/-- How a request may come back over the connection as it stands. -/
def Exchange.answers (s : Exchange T τ α) : T → (q : Request τ) → Reply q → Prop :=
  wireAnswers parse responds s.isClosed

end Step

end Remme.Shared
