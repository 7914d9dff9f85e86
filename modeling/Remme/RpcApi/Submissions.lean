import Remme.Clients.Submissions
import Remme.RpcApi.Identifiers
import Remme.RpcApi.Transaction
/-!
# Submitting, and asking for the status

`send_raw_transaction` with the request behind its gate, and `get_batch_status`
with the form in front of its request.
-/

namespace Remme.RpcApi

open Remme.Lib Remme.Protos Remme.Shared Remme.Shared.Forms Remme.Tp Remme.Clients

def RpcError.toRequestError : RpcError → RequestError
  | .invalidParams message => .invalidParams message.toList
  | .genericServerDefined errorCode message => .genericServerDefined errorCode message.toList
  | .internal err => .raised err

/-- `validate_params` for a form of one text: the first message of the field. -/
def validateParam (validators : List Validator) (param : Str) : Except RequestError Unit :=
  match runValidators validators (.text param) with
  | .error err => .error (.raised err)
  | .ok [] => .ok ()
  | .ok (message :: _) => .error (.invalidParams message.toList)

section Transaction

variable {B : Type} (π : Platform B) (σ : Sawtooth B) (sdk : Sdk (Transaction B))
  (signer : BatchSigner)

/-- `send_raw_transaction`; the gate is `sendRawTransaction`. -/
def submitRawTransaction (data : Option Str) : Query (Transaction B) Str := do
  let trPb ← .ofExcept ((sendRawTransaction π σ data).mapError RpcError.toRequestError)
  let response ← BasicClient.sendRawTransaction sdk signer (·.headerSignature) trPb
  pure response.data

end Transaction

def getBatchStatus {τ : Type} (sdk : Sdk τ) (id : Str) : Query τ PyVal := do
  .ofExcept (validateParam idField id)
  BasicClient.getBatchStatus sdk id

end Remme.RpcApi
