import Remme.Tp.Handler
import Remme.Lib.ReadCache
import Remme.Lib.Run
/-!
# The cached context

`CacheContextService` while one transaction is processed.  `apply` preloads the
declared inputs; then the processor holds any number of generators over lists of
addresses and message classes, asks them for items in any order, may drop one
at any item, and changes the messages it was given.  The replies of the
validator's `get_state` are labels of the steps.
-/

namespace Remme.Tp

open Remme.Lib Remme.Protos Remme.Shared

variable {B M α : Type}

/-- The exceptions of `Context.get_state`. -/
inductive ContextException where
  | authorizationException | internalError | futureTimeoutError

/-- The entries that `get_state` returns: addresses with their data. -/
abbrev StateReply (B : Type) := Except ContextException (List (Str × Option B))

/-- The exceptions that the clauses around `ParseFromString` tell apart. -/
inductive ParseException where
  /-- `google.protobuf.text_format.ParseError` -/
  | parseError
  /-- `google.protobuf.message.DecodeError` -/
  | decodeError

/-- `pb_class().ParseFromString(data)` -/
abbrev PbClass (B M : Type) := B → Except ParseException M

/-- The class of a codec, with its messages among those of the transaction. -/
def PbClass.ofCodec (codec : Codec B α) (wrap : α → M) : PbClass B M := fun data =>
  match codec.parseFromString data with
  | some pb => .ok (wrap pb)
  | none => .error .decodeError

namespace CacheContextService

/-- `preload_state`; an exception of `get_state` leaves it. -/
def preloadState (storage : Dict Str (Option B)) :
    StateReply B → Except ContextException (Dict Str (Option B))
  | .ok entries => .ok (storage.setAll entries)
  | .error e => .error e

def noAccess (address : Str) : PyError :=
  .internalError s!"Address \"{String.ofList address}\" does not have access to data"

/-- What is yielded for the data of an address. -/
def decode (pbClass : PbClass B M) : Option B → Except PyError (Option M)
  | none => .ok none
  | some data =>
      match pbClass data with
      | .ok pb => .ok (some pb)
      | .error .parseError => .error (.internalError "Failed to deserialize data")
      -- `except Exception as e: logger.exception(e); yield None`
      | .error .decodeError => .ok none

/-- One round of `get_cached_data`: the storage after it, and what it yields or raises. -/
def getCachedData (storage : Dict Str (Option B)) (address : Str) (pbClass : PbClass B M)
    (reply : StateReply B) : Dict Str (Option B) × Except PyError (Option M) :=
  let (storage, data) := ReadCache.read noAccess storage address reply
  (storage, data.bind (decode pbClass))

/-- The read without the service: one `get_state`, then the decoding. -/
def directRead (address : Str) (pbClass : PbClass B M) (reply : StateReply B) :
    Except PyError (Option M) :=
  (ReadCache.reply? noAccess address reply).bind (decode pbClass)

end CacheContextService

/-! ## The reads of a transaction -/

/-- An item that a generator was asked for, and what it gave. -/
structure CachedRead (B M : Type) where
  address : Str
  pbClass : PbClass B M
  result : Except PyError (Option M)

/-- The service and what the processor holds of it. -/
structure ReadState (B M : Type) where
  storage : Dict Str (Option B)
  /-- The resolvers that each generator has still to visit. -/
  generators : List (List (Str × PbClass B M)) := []
  /-- The messages handed out, as the processor left them. -/
  messages : List M := []
  reads : List (CachedRead B M) := []

inductive ReadAction (B M : Type) where
  /-- `get_multiple_data(context, resolvers)`; `get_data` has one resolver. -/
  | getMultipleData (resolvers : List (Str × PbClass B M))
  /-- `next` on a generator, with the reply to its `get_state`, if it asks. -/
  | next (generator : ℕ) (reply : StateReply B)
  /-- An assignment to a message that was handed out. -/
  | mutate (message : ℕ) (value : M)

namespace ReadState

open CacheContextService

def next (s : ReadState B M) (generator : ℕ) (reply : StateReply B) : Option (ReadState B M) :=
  match s.generators[generator]? with
  | none => none
  -- `StopIteration`
  | some [] => some s
  | some ((address, pbClass) :: resolvers) =>
      let (storage, result) := getCachedData s.storage address pbClass reply
      -- A generator that raised is finished; every message is a new object.
      let (resolvers, messages) := match result with
        | .ok pb => (resolvers, s.messages ++ pb.toList)
        | .error _ => ([], s.messages)
      some
        { storage
          generators := s.generators.set generator resolvers
          messages
          reads := s.reads ++ [⟨address, pbClass, result⟩] }

def act (s : ReadState B M) : ReadAction B M → Option (ReadState B M)
  | .getMultipleData resolvers => some { s with generators := s.generators ++ [resolvers] }
  | .next generator reply => s.next generator reply
  | .mutate message value => some { s with messages := s.messages.set message value }

/-- The address that the next round of a generator asks the validator for. -/
def asked (s : ReadState B M) (generator : ℕ) : Option Str :=
  match s.generators[generator]? with
  | some ((address, _) :: _) => if (s.storage.get? address).isSome then none else some address
  | _ => none

/-- The replies are those that the validator can give. -/
def Lawful (ctx : Str → Option B) (readable : Str → Prop) (s : ReadState B M) :
    ReadAction B M → Prop
  | .next generator reply =>
      ∀ address, s.asked generator = some address → Answers ctx readable [address] reply
  | _ => True

def Step (ctx : Str → Option B) (readable : Str → Prop) (s : ReadState B M)
    (action : ReadAction B M) (s' : ReadState B M) : Prop :=
  s.Lawful ctx readable action ∧ s.act action = some s'

end ReadState

end Remme.Tp
