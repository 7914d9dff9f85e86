import Remme.RpcApi.Producers
/-!
# What the validator is subscribed to

A subscribe request replaces the whole subscription of its connection, so each
one names all the events that the websocket should get: those of its table at
the time its task got the lock, and the new one.  The validator takes requests
of a connection in the order they were written, at any later time, also after
the task stopped waiting for the reply; a request can be lost on the way.
-/

namespace Remme.RpcApi

open Remme.Lib Remme.Shared Remme.Tp

/-- A subscribe request on its way, with the task that wrote it. -/
structure SubscribeMessage where
  task : ℕ
  subscriptions : List EventType

/-- `_prepare_events` -/
def prepareEvents (eventTypes : List EventName) : List EventType :=
  eventTypes.flatMap EventName.events

/-- The sessions, the local variables of their tasks, the connections and the validator. -/
structure Subscriptions where
  sessions : Sessions
  /-- `event_types` of each task. -/
  eventTypes : ℕ → List EventName
  /-- The requests written on the connection of a websocket and not yet taken, oldest first. -/
  inFlight : ℕ → List SubscribeMessage
  /-- The subscription that the validator has for the connection. -/
  subscribed : ℕ → List EventType
  /-- The tasks whose requests the validator took. -/
  taken : ℕ → Bool

def Subscriptions.init : Subscriptions where
  sessions := .init
  eventTypes := fun _ => []
  inFlight := fun _ => []
  subscribed := fun _ => []
  taken := fun _ => false

inductive SubscriptionAction where
  | session (action : SessionAction)
  /-- The validator takes the oldest request of the connection. -/
  | take (ws : ℕ)
  /-- A request is not delivered, or is refused without a change. -/
  | lose (ws index : ℕ)

namespace Subscriptions

variable (s : Subscriptions)

/-- `event_types = set(subsevt.keys()); event_types.add(event_type)`, by the task that gets the
lock. -/
def computed (action : SessionAction) : ℕ → List EventName :=
  match action with
  | .acquire task =>
      match s.sessions.tasks[task]? with
      | some ⟨ws, .subscribe (some eventType) _, _⟩ =>
          Function.update s.eventTypes task (eventType :: s.sessions.events ws)
      | _ => s.eventTypes
  | _ => s.eventTypes

/-- The request that a task writes as it comes to await its reply. -/
def asks (sessions : Sessions) (action : SessionAction) : Option (ℕ × SubscribeMessage) :=
  match action with
  | .acquire task | .resume task =>
      match sessions.tasks[task]? with
      | some ⟨ws, _, .subscribing none⟩ =>
          some (ws, ⟨task, prepareEvents (s.computed action task)⟩)
      | _ => none
  | _ => none

def write (ws : ℕ) (message : SubscribeMessage) : ℕ → List SubscribeMessage :=
  Function.update s.inFlight ws (s.inFlight ws ++ [message])

/-- A reply that agrees comes after the validator took the request. -/
def enabled : SessionAction → Bool
  | .replied task .ok => s.taken task
  | _ => true

/-- One step; `none` where the action is not enabled. -/
def step (action : SubscriptionAction) : Option Subscriptions :=
  match action with
  | .session action =>
      if s.enabled action = true then
        (s.sessions.step action).map fun sessions =>
          { s with
            sessions := sessions
            eventTypes := s.computed action
            inFlight := match s.asks sessions action with
              | some (ws, message) => s.write ws message
              | none => s.inFlight }
      else none
  | .take ws =>
      match s.inFlight ws with
      | [] => none
      | message :: rest => some
          { s with
            inFlight := Function.update s.inFlight ws rest
            subscribed := Function.update s.subscribed ws message.subscriptions
            taken := Function.update s.taken message.task true }
  | .lose ws index => some
      { s with inFlight := Function.update s.inFlight ws ((s.inFlight ws).eraseIdx index) }

end Subscriptions

end Remme.RpcApi
