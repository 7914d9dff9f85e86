import Remme.RpcApi.Event
import Remme.Lib.Run
/-!
# Subscriptions of many websockets

Every request of a websocket is handled in a task of its own.  `subscribe` and
`unsubscribe` hold the global `event_lock`; `subscribe` awaits the validator
twice while it holds it.  `register` cleans the two tables up when a websocket
closes, whatever its tasks await at that time.  A step of the machine runs one
task from one await to the next, or is a message of the validator, a new
request, or the opening or closing of a websocket.
-/

namespace Remme.RpcApi

open Remme.Lib Remme.Shared

/-- A websocket: not yet there, with its stream, or after the `finally` of `register`. -/
inductive WsStatus where
  | absent | registered | closed
  deriving DecidableEq

/-- The parameters of a request, as far as they are read before its first await. -/
inductive SubscriptionRequest where
  /-- `none` is an event that is missing or has no handler; `validated` is the `from_block`
  that `validate` returns, or what it raises. -/
  | subscribe (eventType : Option EventName) (validated : Except PyError (Option Str))
  /-- `none` is a missing event type. -/
  | unsubscribe (eventType : Option EventName)

/-- How `list_blocks` comes back: with the head, or with an exception such as a timeout. -/
inductive ListReply where
  | head | raised
  deriving DecidableEq

/-- How the subscribe request comes back; all but `ok` end in an exception. -/
inductive SubscribeReply where
  | ok | unknownBlock | otherStatus | unexpectedType | raised
  deriving DecidableEq

/-- Where a request task awaits; a reply is there before its task goes on. -/
inductive RequestPosition where
  | created
  /-- `async with event_lock` -/
  | locking
  /-- `router.list_blocks(limit=1)` -/
  | listing (reply : Option ListReply)
  /-- `ws.stream.send(...)` -/
  | subscribing (reply : Option SubscribeReply)
  | ended
  deriving DecidableEq

structure RequestTask where
  ws : ℕ
  request : SubscriptionRequest
  position : RequestPosition

/-- The tables of `JsonRpc`, the lock, and the tasks. -/
structure Sessions where
  status : ℕ → WsStatus
  /-- `_subsevt`: the events of each websocket that has an entry. -/
  subsevt : ℕ → Option (List EventName)
  /-- The keys of `_evthashes`. -/
  evthashes : ℕ → Bool
  /-- The task that holds `event_lock`. -/
  lock : Option ℕ
  tasks : List RequestTask

def Sessions.init : Sessions where
  status := fun _ => .absent
  subsevt := fun _ => none
  evthashes := fun _ => false
  lock := none
  tasks := []

inductive SessionAction where
  | open (ws : ℕ)
  | request (ws : ℕ) (request : SubscriptionRequest)
  /-- The task runs up to the lock. -/
  | start (task : ℕ)
  /-- The task gets the lock. -/
  | acquire (task : ℕ)
  | listed (task : ℕ) (reply : ListReply)
  | replied (task : ℕ) (reply : SubscribeReply)
  /-- The task goes on with its reply. -/
  | resume (task : ℕ)
  | close (ws : ℕ)

namespace Sessions

variable (s : Sessions)

def moveTo (task : ℕ) (position : RequestPosition) : Sessions :=
  { s with tasks := s.tasks.modify task fun t => { t with position := position } }

/-- The task ends, and with it its hold of the lock. -/
def finish (task : ℕ) : Sessions := { s.moveTo task .ended with lock := none }

/-- The task awaits with the lock held. -/
def hold (task : ℕ) (position : RequestPosition) : Sessions :=
  { s.moveTo task position with lock := some task }

/-- `request.rpc._subsevt.setdefault(ws, {})` -/
def setdefault (ws : ℕ) : Sessions :=
  { s with subsevt := Function.update s.subsevt ws (some ((s.subsevt ws).getD [])) }

/-- `subscribe` from the lock to its first await. -/
def subscribe (task ws : ℕ) (eventType : EventName)
    (validated : Except PyError (Option Str)) : Sessions :=
  let s := s.setdefault ws
  if eventType ∈ (s.subsevt ws).getD [] then s.finish task
  else if s.status ws ≠ .registered then
    -- `ws.stream` is gone: `AttributeError`
    s.finish task
  else match validated with
    | .error _ => s.finish task
    | .ok none => s.hold task (.listing none)
    | .ok (some []) => s.hold task (.listing none)
    | .ok (some _) => s.hold task (.subscribing none)

/-- `unsubscribe` from the lock on. -/
def unsubscribe (task ws : ℕ) (eventType : EventName) : Sessions :=
  { s.finish task with
    subsevt := Function.update s.subsevt ws ((s.subsevt ws).map (·.erase eventType)) }

/-- `subscribe` after the validator agreed; the dictionary that it got with the lock is the
websocket's entry, unless that was deleted since. -/
def agree (task ws : ℕ) (eventType : EventName) : Sessions :=
  { s.finish task with
    evthashes := Function.update s.evthashes ws true
    subsevt := Function.update s.subsevt ws ((s.subsevt ws).map (eventType :: ·)) }

/-- `fail_all(DisconnectError())` on the stream of a websocket. -/
def disconnect (ws : ℕ) (t : RequestTask) : RequestTask :=
  if t.ws = ws then
    match t.position with
    | .listing none => { t with position := .listing (some .raised) }
    | .subscribing none => { t with position := .subscribing (some .raised) }
    | _ => t
  else t

/-- One step; `none` where the action is not enabled. -/
def step (action : SessionAction) : Option Sessions :=
  match action with
  | .open ws =>
      if s.status ws = .absent then
        some { s with status := Function.update s.status ws .registered }
      else none
  | .request ws request =>
      if s.status ws = .registered then
        some { s with tasks := s.tasks ++ [⟨ws, request, .created⟩] }
      else none
  | .start task =>
      match s.tasks[task]? with
      | some ⟨_, .subscribe none _, .created⟩ => some (s.moveTo task .ended)
      | some ⟨_, .unsubscribe none, .created⟩ => some (s.moveTo task .ended)
      | some ⟨_, _, .created⟩ => some (s.moveTo task .locking)
      | _ => none
  | .acquire task =>
      match s.lock, s.tasks[task]? with
      | none, some ⟨ws, .subscribe (some eventType) validated, .locking⟩ =>
          some (s.subscribe task ws eventType validated)
      | none, some ⟨ws, .unsubscribe (some eventType), .locking⟩ =>
          some (s.unsubscribe task ws eventType)
      | _, _ => none
  | .listed task reply =>
      match s.tasks[task]? with
      | some ⟨_, _, .listing none⟩ => some (s.moveTo task (.listing (some reply)))
      | _ => none
  | .replied task reply =>
      match s.tasks[task]? with
      | some ⟨_, _, .subscribing none⟩ => some (s.moveTo task (.subscribing (some reply)))
      | _ => none
  | .resume task =>
      match s.tasks[task]? with
      | some ⟨ws, _, .listing (some .head)⟩ =>
          -- `ws.stream` is read again for the subscribe request.
          some (if s.status ws = .registered then s.hold task (.subscribing none)
            else s.finish task)
      | some ⟨_, _, .listing (some .raised)⟩ => some (s.finish task)
      | some ⟨ws, .subscribe (some eventType) _, .subscribing (some .ok)⟩ =>
          some (s.agree task ws eventType)
      | some ⟨_, _, .subscribing (some _)⟩ => some (s.finish task)
      | _ => none
  | .close ws =>
      if s.status ws = .registered then
        some
          { s with
            status := Function.update s.status ws .closed
            subsevt := Function.update s.subsevt ws none
            evthashes := Function.update s.evthashes ws false
            tasks := s.tasks.map (disconnect ws) }
      else none

end Sessions

end Remme.RpcApi
