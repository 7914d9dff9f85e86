import Remme.RpcApi.Sessions
/-!
# Producers of batch statuses

A `subscribe` to 'batch' starts a producer task.  Each pass of a producer walks
over the websocket's dictionary of subscriptions, the very one that `subscribe`
and `unsubscribe` change, and awaits the validator at the 'batch' entry, the
only one whose handler suspends.  The iterator of the dictionary keeps the
size it began with, and compares it whenever it is asked for the next entry.
-/

namespace Remme.RpcApi

open Remme.Lib Remme.Shared

/-- Where a producer task stands between two of its steps. -/
inductive ProducerPosition where
  | created
  /-- `asyncio.sleep(1)` -/
  | sleeping
  /-- `router.list_statuses([batch_id])`, in a pass over a dictionary of `used` entries. -/
  | fetching (used : ℕ)
  /-- Ended by an exception that nobody reads. -/
  | raised
  /-- Ended since `ws.closed`. -/
  | ended
  deriving DecidableEq

structure ProducerTask where
  ws : ℕ
  position : ProducerPosition
  deriving DecidableEq

/-- The sessions, `ws.closed`, and the producer tasks. -/
structure Producers where
  sessions : Sessions
  wsClosed : ℕ → Bool
  producers : List ProducerTask

def Producers.init : Producers where
  sessions := .init
  wsClosed := fun _ => false
  producers := []

inductive ProducerAction where
  | session (action : SessionAction)
  /-- `ws.closed` becomes true. -/
  | closing (ws : ℕ)
  /-- The producer begins a pass.  With `fetches` it suspends at the 'batch' entry; it does not
  where the id is refused before anything is sent. -/
  | pass (producer : ℕ) (fetches : Bool)
  /-- The status or an exception came, and the iterator is asked for the next entry.  With
  `again` that, or a later one, is 'batch', as after an `unsubscribe` and a `subscribe`;
  `detached` is the size of a dictionary that the clean-up took out of the table. -/
  | resume (producer : ℕ) (detached : ℕ) (again : Bool)

/-- `request.rpc._subsevt.get(ws, {})` -/
def Sessions.events (s : Sessions) (ws : ℕ) : List EventName := (s.subsevt ws).getD []

namespace Producers

variable (s : Producers)

def moveTo (producer : ℕ) (position : ProducerPosition) : Producers :=
  { s with producers := s.producers.modify producer fun p => { p with position := position } }

/-- The producer that `subscribe` creates once the validator agreed. -/
def started : SessionAction → List ProducerTask
  | .resume task =>
      match s.sessions.tasks[task]? with
      | some ⟨ws, .subscribe (some .batch) _, .subscribing (some .ok)⟩ => [⟨ws, .created⟩]
      | _ => []
  | _ => []

/-- `while not ws.closed`, and the pass up to the 'batch' entry or to its end. -/
def beginPass (ws : ℕ) (fetches : Bool) : ProducerPosition :=
  if s.wsClosed ws = true then .ended
  else if fetches = true ∧ .batch ∈ s.sessions.events ws then
    .fetching (s.sessions.events ws).length
  else .sleeping

/-- The iterator's `__next__`, and the pass from there on. -/
def nextEntry (ws used detached : ℕ) (again : Bool) : ProducerPosition :=
  let size :=
    if s.sessions.status ws = .closed then detached else (s.sessions.events ws).length
  if used ≠ size then
    -- `RuntimeError: dictionary changed size during iteration`
    .raised
  else if again = true then .fetching used
  else .sleeping

/-- One step; `none` where the action is not enabled. -/
def step (action : ProducerAction) : Option Producers :=
  match action with
  | .session action =>
      match s.sessions.step action with
      | some sessions =>
          some { s with sessions := sessions, producers := s.producers ++ s.started action }
      | none => none
  | .closing ws => some { s with wsClosed := Function.update s.wsClosed ws true }
  | .pass producer fetches =>
      match s.producers[producer]? with
      | some ⟨ws, .created⟩ =>
          -- `stream = ws.stream`, which the clean-up deletes
          some (s.moveTo producer
            (if s.sessions.status ws = .closed then .raised else s.beginPass ws fetches))
      | some ⟨ws, .sleeping⟩ => some (s.moveTo producer (s.beginPass ws fetches))
      | _ => none
  | .resume producer detached again =>
      match s.producers[producer]? with
      | some ⟨ws, .fetching used⟩ =>
          some (s.moveTo producer (s.nextEntry ws used detached again))
      | _ => none

end Producers

end Remme.RpcApi
