import Remme.Tp.Event
/-!
# The handlers' tables and `apply`

Each handler registers its methods in a table: the class of the payload, the
form, the processor and the event.  `BasicHandler.apply` is written over one row
of that table, with everything it asks of the transaction context in order: the
preload of the declared inputs, the reads of the processor that the cache does
not answer, the write and the event.
-/

namespace Remme.Tp

open Remme.Lib Remme.Protos Remme.Shared Remme.Shared.Forms

/-- A row of `get_state_processor()`. -/
structure MethodEntry (B : Type) where
  Payload : Type
  pbClass : Codec B Payload
  /-- `pb_class.__name__` -/
  pbClassName : String
  processor : Str → Payload → Processor B (Dict Str Message)
  emitEvent : Option EventType := none
  validator : Payload → Except PyError FormResult

section Tables

variable {B : Type} (π : Platform B) (tz : TimeZone)

def accountEntry : AccountMethod → MethodEntry B
  | .transfer =>
      { Payload := TransferPayload
        pbClass := π.pb.transferPayload
        pbClassName := "TransferPayload"
        processor := transfer π
        emitEvent := some .accountTransfer
        validator := transferPayloadForm }
  | .genesis =>
      { Payload := GenesisPayload
        pbClass := π.pb.genesisPayload
        pbClassName := "GenesisPayload"
        processor := genesis π
        validator := genesisPayloadForm }

def atomicSwapEntry : AtomicSwapMethod → MethodEntry B
  | .init =>
      { Payload := AtomicSwapInitPayload
        pbClass := π.pb.atomicSwapInitPayload
        pbClassName := "AtomicSwapInitPayload"
        processor := swapInit π
        emitEvent := some .swapInit
        validator := atomicSwapInitPayloadForm }
  | .approve =>
      { Payload := AtomicSwapApprovePayload
        pbClass := π.pb.atomicSwapApprovePayload
        pbClassName := "AtomicSwapApprovePayload"
        processor := swapApprove π
        emitEvent := some .swapApprove
        validator := atomicSwapApprovePayloadForm }
  | .expire =>
      { Payload := AtomicSwapExpirePayload
        pbClass := π.pb.atomicSwapExpirePayload
        pbClassName := "AtomicSwapExpirePayload"
        processor := swapExpire π tz
        emitEvent := some .swapExpire
        validator := atomicSwapExpirePayloadForm }
  | .setSecretLock =>
      { Payload := AtomicSwapSetSecretLockPayload
        pbClass := π.pb.atomicSwapSetSecretLockPayload
        pbClassName := "AtomicSwapSetSecretLockPayload"
        processor := fun _ => swapSetLock π
        emitEvent := some .swapSetSecretLock
        validator := atomicSwapSetSecretLockPayloadForm }
  | .close =>
      { Payload := AtomicSwapClosePayload
        pbClass := π.pb.atomicSwapClosePayload
        pbClassName := "AtomicSwapClosePayload"
        processor := fun _ => swapClose π
        emitEvent := some .swapClose
        validator := atomicSwapClosePayloadForm }

def pubKeyEntry : PubKeyMethod → MethodEntry B
  | .store =>
      { Payload := NewPubKeyPayload
        pbClass := π.pb.newPubKeyPayload
        pbClassName := "NewPubKeyPayload"
        processor := storePubKey π tz
        validator := newPublicKeyPayloadForm true }
  | .revoke =>
      { Payload := RevokePubKeyPayload
        pbClass := π.pb.revokePubKeyPayload
        pbClassName := "RevokePubKeyPayload"
        processor := revokePubKey π
        validator := revokePubKeyPayloadForm }
  | .storeAndPay =>
      { Payload := NewPubKeyStoreAndPayPayload
        pbClass := π.pb.newPubKeyStoreAndPayPayload
        pbClassName := "NewPubKeyStoreAndPayPayload"
        processor := storePublicKeyForOther π tz
        validator := newPubKeyStoreAndPayPayloadForm }

/-- `get_state_processor()`; a method that is not a key of the table is a `KeyError`. -/
def getStateProcessor (family : Family) (method : ℕ) : Option (MethodEntry B) :=
  match family with
  | .account => (π.pb.accountMethod method).map (accountEntry π)
  | .atomicSwap => (π.pb.atomicSwapMethod method).map (atomicSwapEntry π tz)
  | .pubKey => (π.pb.pubKeyMethod method).map (pubKeyEntry π tz)

end Tables

/-! ## Calls to the context -/

/-- What a handler asks of `sawtooth_sdk.processor.context.Context`. -/
inductive ContextCall (B : Type) where
  | getState (addresses : List Str)
  | setState (entries : Dict Str B)
  | addEvent (event : Event)

/-- The calls that `apply` made, in order, and the exception it ended with. -/
structure Outcome (B : Type) where
  calls : List (ContextCall B)
  error : Option PyError

/-- `TpProcessRequest`, with the fields of its header that `apply` reads. -/
structure TpProcessRequest (B : Type) where
  inputs : List Str
  signerPublicKey : Str
  payload : B
  signature : Str

variable {B : Type}

def Outcome.raised (err : PyError) : Outcome B := ⟨[], some err⟩

/-- `list(filter(lambda a: len(a) == 70, addresses))` -/
def preloaded (inputs : List Str) : List Str := inputs.filter fun a => a.length = 70

/-- The calls of `get_cached_data`: an address whose data is in the cache is not asked again,
and one without data is never put there. -/
def cachedReads (context : Str → Option B) : (storage reads : List Str) → List (ContextCall B)
  | _, [] => []
  | storage, address :: rest =>
      if address ∈ storage then cachedReads context storage rest
      else .getState [address] ::
        cachedReads context (if (context address).isSome then address :: storage else storage) rest

/-- All calls that read the state: the preload, then the processor's. -/
def stateReads (context : Str → Option B) (inputs reads : List Str) : List (ContextCall B) :=
  .getState (preloaded inputs) ::
    cachedReads context ((preloaded inputs).filter fun a => (context a).isSome) reads

variable (π : Platform B) (tz : TimeZone)

/-- `apply` from the form on, with the row registered for the method. -/
def MethodEntry.process (entry : MethodEntry B) (transaction : TpProcessRequest B)
    (dataPb : entry.Payload) (context : Str → Option B) : Outcome B :=
  match entry.validator dataPb with
  | .error err => .raised err
  | .ok validator =>
      if validator.isValid = false then
        let detailed := (FormErrors.nested validator.errors).render
        .raised (.invalidTransaction
          s!"Invalid protobuf data of \"{entry.pbClassName}\", detailed: {detailed}")
      else
        let processor := entry.processor transaction.signerPublicKey dataPb
        let reads := stateReads context transaction.inputs (processor.reads context)
        match processor.run context with
        | .error err => ⟨reads, some err⟩
        | .ok updatedState =>
            let event := entry.emitEvent.map fun eventType =>
              { eventType := eventType.value
                attributes := getEventAttributes updatedState transaction.signature }
            ⟨reads ++ .setState (updatedState.mapVals π.pb.serialize) ::
              (event.map .addEvent).toList, none⟩

/-- `BasicHandler.apply` -/
def BasicHandler.apply (family : Family) (transaction : TpProcessRequest B)
    (context : Str → Option B) : Outcome B :=
  match π.pb.transactionPayload.parseFromString transaction.payload with
  | none => .raised (.invalidTransaction "Cannot decode transaction payload.")
  | some transactionPayload =>
      match getStateProcessor π tz family transactionPayload.method with
      | none => .raised (.invalidTransaction
          s!"Invalid account method value ({transactionPayload.method}) has been set.")
      | some entry =>
          -- The `try` around this `ParseFromString` catches `KeyError`, not `DecodeError`.
          match entry.pbClass.parseFromString transactionPayload.data with
          | none => .raised .decodeError
          | some dataPb => entry.process π transaction dataPb context

end Remme.Tp
