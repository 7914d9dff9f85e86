import Remme.Tp.Apply
/-!
# Submitting a transaction

`send_raw_transaction` decodes the request's `data`, checks the signer's key and
the form of the payload, and hands the transaction to the validator's client.
The checks are a second implementation of the first half of
`BasicHandler.apply`.
-/

namespace Remme.RpcApi

open Remme.Lib Remme.Protos Remme.Shared Remme.Tp

/-- `sawtooth_sdk.protobuf.transaction_pb2.Transaction` -/
structure Transaction (B : Type) where
  header : B
  headerSignature : Str
  payload : B

/-- The fields of `TransactionHeader` that the method reads. -/
structure TransactionHeader where
  signerPublicKey : Str
  familyName : Str

/-- The classes of the Sawtooth SDK, over the byte strings that the platform parses. -/
structure Sawtooth (B : Type) where
  ofBytes : Bytes → B
  parseTransaction : B → Option (Transaction B)
  parseTransactionHeader : B → Option TransactionHeader

/-- What the server answers instead of a result. -/
inductive RpcError where
  | invalidParams (message : String)
  | genericServerDefined (errorCode : ℤ) (message : String)
  /-- An exception that the method does not catch. -/
  | internal (err : PyError)

/-- The errors that the method raises itself. -/
def serverDefinedError (message : String) : RpcError := .genericServerDefined (-32050) message

def orRaise {α : Type} (o : Option α) (err : RpcError) : Except RpcError α :=
  match o with
  | some a => .ok a
  | none => .error err

/-- `TP_HANDLERS` -/
def tpHandlers (familyName : Str) : Option Family :=
  [Family.account, .pubKey, .atomicSwap].find? fun family => family.familyName = familyName

variable {B : Type} (π : Platform B) (σ : Sawtooth B)

/-- The payload whose form is loaded; `None` for an unknown method and for data that does not
parse. -/
def getProtoValidator (currentHandler : Family) (trPayloadPb : TransactionPayload B) :
    Option Operation :=
  match stateProcessor π currentHandler trPayloadPb.method with
  | none => none
  | some parse => parse trPayloadPb.data

/-- `if prefix in ('02', '03') and len(public_key) != 64` -/
def isInvalidKey (signerPublicKey : Str) : Bool :=
  (signerPublicKey.take 2 = "02".toList || signerPublicKey.take 2 = "03".toList) &&
    (signerPublicKey.drop 2).length ≠ 64

/-- `if validator and not validator.validate()` -/
def checkForm : Option Operation → Except RpcError Unit
  | none => .ok ()
  | some op =>
      match op.validate with
      | .error err => .error (.internal err)
      | .ok result =>
          if result.isValid then .ok ()
          else .error (serverDefinedError s!"Invalid \"{op.pbClass}\" structure")

/-- `send_raw_transaction`, up to the transaction that it submits.  `ProtoForm` has no fields
and takes `data` for a parameter of its own, so that the decorator lets the request pass. -/
def sendRawTransaction (data : Option Str) : Except RpcError (Transaction B) := do
  let data ← orRaise data (.invalidParams "Missed data")
  let transaction ← orRaise (Text.b64decode data)
    (serverDefinedError "Decode payload of tranasaction failed")
  let trPb ← orRaise (σ.parseTransaction (σ.ofBytes transaction))
    (serverDefinedError "Failed to parse transaction proto")
  let trHeadPb ← orRaise (σ.parseTransactionHeader trPb.header)
    (serverDefinedError "Failed to parse transaction head proto")
  let trPayloadPb ← orRaise (π.pb.transactionPayload.parseFromString trPb.payload)
    (serverDefinedError "Failed to parse transaction payload proto")
  if isInvalidKey trHeadPb.signerPublicKey then
    .error (serverDefinedError "Signer public key format is not valid")
  let handler ← orRaise (tpHandlers trHeadPb.familyName)
    (serverDefinedError "Validation handler not set for this method")
  checkForm (getProtoValidator π handler trPayloadPb)
  pure trPb

end Remme.RpcApi
