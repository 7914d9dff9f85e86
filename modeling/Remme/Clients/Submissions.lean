import Remme.Clients.Reads
import Remme.RpcApi.Event
/-!
# Sending batches

A client signs its transaction, puts it alone into a batch that it signs too,
and submits the batch.  `send_raw_transaction` does the second half for a
transaction that somebody else signed.
-/

namespace Remme.Clients

open Remme.Lib Remme.Protos Remme.Shared Remme.Tp

/-- The client's key, and its signatures over batch headers. -/
structure BatchSigner where
  publicKey : Str
  sign : BatchHeader → Str

section Batches

variable {τ : Type} (sdk : Sdk τ) (signer : BatchSigner) (headerSignature : τ → Str)

/-- `_sign_batch_list` -/
def signBatchList (transactions : List τ) : List (BatchMessage τ) :=
  let header : BatchHeader :=
    { signerPublicKey := signer.publicKey
      transactionIds := transactions.map headerSignature }
  [{ header := header, headerSignature := signer.sign header, transactions := transactions }]

def BasicClient.sendRawTransaction (transactionPb : τ) : Query τ (Envelope Str) :=
  Router.submitBatches sdk (signBatchList signer headerSignature [transactionPb])

end Batches

/-- `_send_transaction`, for the transaction that one of the clients builds. -/
def BasicClient.sendTransaction {B : Type} (sdk : Sdk (ClientTransaction B)) (signer : BatchSigner)
    (transaction : Except PyError (ClientTransaction B)) :
    Query (ClientTransaction B) (Envelope Str) := do
  let transaction ← .ofExcept (transaction.mapError .raised)
  Router.submitBatches sdk (signBatchList signer (·.headerSignature) [transaction])

/-- `get_batch_status` -/
def BasicClient.getBatchStatus {τ : Type} (sdk : Sdk τ) (batchId : Str) : Query τ PyVal := do
  let result ← Router.listStatuses sdk [batchId]
  .ofExcept (do
    let first ← (RpcApi.getIndex 0 result.data).mapError RequestError.raised
    (RpcApi.getItem "status" first).mapError RequestError.raised)

end Remme.Clients
