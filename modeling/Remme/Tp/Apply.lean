import Remme.Tp.AtomicSwap
import Remme.Tp.PubKey
import Remme.Shared.Forms
/-!
# Applying a transaction

`BasicHandler.apply`: decode the envelope, look the method up in the family's
table, decode its payload, validate the form, run the processor against the
state and write what it returns.  `Operation` is a decoded payload together
with the method it was sent for; `Operation.apply` is the part of `apply` from
the form on.
-/

namespace Remme.Tp

open Remme.Lib Remme.Protos Remme.Shared Remme.Shared.Forms

/-- A decoded transaction of one of the ten registered methods. -/
inductive Operation where
  | transfer (payload : TransferPayload)
  | genesis (payload : GenesisPayload)
  | swapInit (payload : AtomicSwapInitPayload)
  | swapApprove (payload : AtomicSwapApprovePayload)
  | swapExpire (payload : AtomicSwapExpirePayload)
  | swapSetLock (payload : AtomicSwapSetSecretLockPayload)
  | swapClose (payload : AtomicSwapClosePayload)
  | store (payload : NewPubKeyPayload)
  | revoke (payload : RevokePubKeyPayload)
  | storeAndPay (payload : NewPubKeyStoreAndPayPayload)
  deriving DecidableEq

namespace Operation

/-- `PB_CLASS`, by name. -/
def pbClass : Operation → String
  | transfer _ => "TransferPayload"
  | genesis _ => "GenesisPayload"
  | swapInit _ => "AtomicSwapInitPayload"
  | swapApprove _ => "AtomicSwapApprovePayload"
  | swapExpire _ => "AtomicSwapExpirePayload"
  | swapSetLock _ => "AtomicSwapSetSecretLockPayload"
  | swapClose _ => "AtomicSwapClosePayload"
  | store _ => "NewPubKeyPayload"
  | revoke _ => "RevokePubKeyPayload"
  | storeAndPay _ => "NewPubKeyStoreAndPayPayload"

/-- `VALIDATOR` -/
def validate : Operation → Except PyError FormResult
  | transfer pb => transferPayloadForm pb
  | genesis pb => genesisPayloadForm pb
  | swapInit pb => atomicSwapInitPayloadForm pb
  | swapApprove pb => atomicSwapApprovePayloadForm pb
  | swapExpire pb => atomicSwapExpirePayloadForm pb
  | swapSetLock pb => atomicSwapSetSecretLockPayloadForm pb
  | swapClose pb => atomicSwapClosePayloadForm pb
  | store pb => newPublicKeyPayloadForm true pb
  | revoke pb => revokePubKeyPayloadForm pb
  | storeAndPay pb => newPubKeyStoreAndPayPayloadForm pb

variable {B : Type} (π : Platform B) (tz : TimeZone)

/-- `PROCESSOR` -/
def processor (signer : Str) : Operation → Processor B (Dict Str Message)
  | transfer pb => Tp.transfer π signer pb
  | genesis pb => Tp.genesis π signer pb
  | swapInit pb => Tp.swapInit π signer pb
  | swapApprove pb => Tp.swapApprove π signer pb
  | swapExpire pb => Tp.swapExpire π tz signer pb
  | swapSetLock pb => Tp.swapSetLock π pb
  | swapClose pb => Tp.swapClose π pb
  | store pb => storePubKey π tz signer pb
  | revoke pb => revokePubKey π signer pb
  | storeAndPay pb => storePublicKeyForOther π tz signer pb

/-- The messages that an accepted transaction writes. -/
def apply (signer : Str) (op : Operation) (state : Dict Str B) :
    Except PyError (Dict Str Message) := do
  let result ← op.validate
  if result.isValid = false then
    let detailed := (FormErrors.nested result.errors).render
    .error (.invalidTransaction
      s!"Invalid protobuf data of \"{op.pbClass}\", detailed: {detailed}")
  (op.processor π tz signer).run state.get?

end Operation

variable {B : Type} (π : Platform B) (tz : TimeZone)

/-- `context.set_state({k: v.SerializeToString() for k, v in updated_state.items()})` -/
def setState (state : Dict Str B) (updatedState : Dict Str Message) : Dict Str B :=
  state.update (updatedState.mapVals π.pb.serialize)

/-- `get_state_processor()[method]`: how the payload of a registered method is decoded. -/
def stateProcessor (family : Family) (method : ℕ) : Option (B → Option Operation) :=
  match family with
  | .account => (π.pb.accountMethod method).map fun
      | .transfer => fun data => (π.pb.transferPayload.parseFromString data).map .transfer
      | .genesis => fun data => (π.pb.genesisPayload.parseFromString data).map .genesis
  | .atomicSwap => (π.pb.atomicSwapMethod method).map fun
      | .init => fun data => (π.pb.atomicSwapInitPayload.parseFromString data).map .swapInit
      | .approve => fun data =>
          (π.pb.atomicSwapApprovePayload.parseFromString data).map .swapApprove
      | .expire => fun data => (π.pb.atomicSwapExpirePayload.parseFromString data).map .swapExpire
      | .setSecretLock => fun data =>
          (π.pb.atomicSwapSetSecretLockPayload.parseFromString data).map .swapSetLock
      | .close => fun data => (π.pb.atomicSwapClosePayload.parseFromString data).map .swapClose
  | .pubKey => (π.pb.pubKeyMethod method).map fun
      | .store => fun data => (π.pb.newPubKeyPayload.parseFromString data).map .store
      | .revoke => fun data => (π.pb.revokePubKeyPayload.parseFromString data).map .revoke
      | .storeAndPay => fun data =>
          (π.pb.newPubKeyStoreAndPayPayload.parseFromString data).map .storeAndPay

/-- The decode and dispatch stage of `apply`. -/
def decodeOperation (family : Family) (payload : B) : Except PyError Operation :=
  match π.pb.transactionPayload.parseFromString payload with
  | none => .error (.invalidTransaction "Cannot decode transaction payload.")
  | some transactionPayload =>
      match stateProcessor π family transactionPayload.method with
      | none => .error (.invalidTransaction
          s!"Invalid account method value ({transactionPayload.method}) has been set.")
      | some parse =>
          -- The `try` around the payload's `ParseFromString` catches `KeyError` only.
          match parse transactionPayload.data with
          | none => .error .decodeError
          | some op => .ok op

/-- `BasicHandler.apply`: the state after the transaction and the messages it wrote. -/
def applyTransaction (family : Family) (signerPublicKey : Str) (payload : B)
    (state : Dict Str B) : Except PyError (Dict Str B × Dict Str Message) := do
  let op ← decodeOperation π family payload
  let updatedState ← op.apply π tz signerPublicKey state
  pure (setState π state updatedState, updatedState)

end Remme.Tp
