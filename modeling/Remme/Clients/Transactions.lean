import Remme.Tp.Handler
/-!
# The transactions that clients build

`AccountClient.transfer`, the `AtomicSwapClient.swap_*` methods and the genesis
script list the addresses of a transaction by hand.  The validator then lets the
processor read below the declared inputs and write below the declared outputs.
-/

namespace Remme.Clients

open Remme.Lib Remme.Protos Remme.Shared Remme.Settings Remme.Tp Remme.Clients.BlockInfo

/-- The numbers of the generated method enumerations, `AccountMethod.TRANSFER` and so on. -/
structure MethodNumbers {B : Type} (pb : Protobuf B) where
  account : AccountMethod → ℕ
  atomicSwap : AtomicSwapMethod → ℕ
  accountMethod_account : ∀ method, pb.accountMethod (account method) = some method
  atomicSwapMethod_atomicSwap : ∀ method, pb.atomicSwapMethod (atomicSwap method) = some method

/-- A signed transaction: what of its header the validator and the handler read, and its
payload. -/
structure ClientTransaction (B : Type) where
  family : Family
  signerPublicKey : Str
  inputs : List Str
  outputs : List Str
  payload : B
  headerSignature : Str

/-- The request that the validator makes of a transaction. -/
def ClientTransaction.request {B : Type} (t : ClientTransaction B) : TpProcessRequest B :=
  { inputs := t.inputs
    signerPublicKey := t.signerPublicKey
    payload := t.payload
    signature := t.headerSignature }

/-- The client's key, and its signatures over headers. -/
structure Signer (B : Type) where
  publicKey : Str
  sign : (inputs outputs : List Str) → B → Str

section Client

variable {B : Type} (π : Platform B) (numbers : MethodNumbers π.pb) (signer : Signer B)

/-- `get_user_address` -/
def getUserAddress : Except PyError Str :=
  makeAddressFromData π .account (Text.encodeUtf8 signer.publicKey)

/-- `make_batch_list`, for the one transaction of the batch. -/
def makeBatchList (family : Family) (payloadPb : TransactionPayload B)
    (addressesInput addressesOutput : List Str) : ClientTransaction B :=
  let payload := π.pb.transactionPayload.serializeToString payloadPb
  { family := family
    signerPublicKey := signer.publicKey
    inputs := addressesInput
    outputs := addressesOutput
    payload := payload
    headerSignature := signer.sign addressesInput addressesOutput payload }

/-! ## Accounts -/

/-- `AccountClient.transfer` -/
def AccountClient.transfer (addressTo : Str) (value : UInt64) :
    Except PyError (ClientTransaction B) := do
  let userAddress ← getUserAddress π signer
  let addressesInput := [addressTo, userAddress]
  let addressesOutput := addressesInput
  let transfer : TransferPayload := { addressTo := addressTo, value := value }
  pure (makeBatchList π signer .account
    ⟨numbers.account .transfer, π.pb.transferPayload.serializeToString transfer⟩
    addressesInput addressesOutput)

/-- The main program of `remme.genesis`, which writes no batch with the economy off. -/
def genesisBatch (economyEnabled : Bool) (tokenSupply : UInt64) :
    Except PyError (Option (ClientTransaction B)) :=
  if economyEnabled then do
    let _zeroAddress ← makeAddress π .account (List.replicate 64 '0')
    let targetAddress ← makeAddressFromData π .account (Text.encodeUtf8 signer.publicKey)
    let addressesInput := [genesisAddress]
    let addressesOutput := [genesisAddress, targetAddress]
    let genesis : GenesisPayload := { totalSupply := tokenSupply }
    pure (some (makeBatchList π signer .account
      ⟨numbers.account .genesis, π.pb.genesisPayload.serializeToString genesis⟩
      addressesInput addressesOutput))
  else
    pure none

/-! ## Swaps -/

namespace AtomicSwapClient

def swapInit (swapInitPayload : AtomicSwapInitPayload) : Except PyError (ClientTransaction B) := do
  let swapAddress ← makeAddressFromData π .atomicSwap (Text.encodeUtf8 swapInitPayload.swapId)
  let userAddress ← getUserAddress π signer
  let addressesInput := [swapAddress, userAddress, makeSettingsKey π settingsSwapCommission,
    zeroAddress, configAddress, blockInfoNamespace]
  let addressesOutput := [swapAddress, userAddress, zeroAddress]
  pure (makeBatchList π signer .atomicSwap
    ⟨numbers.atomicSwap .init, π.pb.atomicSwapInitPayload.serializeToString swapInitPayload⟩
    addressesInput addressesOutput)

def swapApprove (swapApprovePayload : AtomicSwapApprovePayload) :
    Except PyError (ClientTransaction B) := do
  let swapAddress ← makeAddressFromData π .atomicSwap (Text.encodeUtf8 swapApprovePayload.swapId)
  let userAddress ← getUserAddress π signer
  let addressesInput := [swapAddress, userAddress]
  let addressesOutput := [swapAddress]
  pure (makeBatchList π signer .atomicSwap
    ⟨numbers.atomicSwap .approve,
      π.pb.atomicSwapApprovePayload.serializeToString swapApprovePayload⟩
    addressesInput addressesOutput)

def swapExpire (swapExpirePayload : AtomicSwapExpirePayload) :
    Except PyError (ClientTransaction B) := do
  let swapAddress ← makeAddressFromData π .atomicSwap (Text.encodeUtf8 swapExpirePayload.swapId)
  let userAddress ← getUserAddress π signer
  let addressesInput := [swapAddress, userAddress, configAddress, blockInfoNamespace]
  let addressesOutput := [swapAddress, userAddress]
  pure (makeBatchList π signer .atomicSwap
    ⟨numbers.atomicSwap .expire, π.pb.atomicSwapExpirePayload.serializeToString swapExpirePayload⟩
    addressesInput addressesOutput)

def swapSetSecretLock (swapSetSecretLockPayload : AtomicSwapSetSecretLockPayload) :
    Except PyError (ClientTransaction B) := do
  let swapAddress ← makeAddressFromData π .atomicSwap
    (Text.encodeUtf8 swapSetSecretLockPayload.swapId)
  let userAddress ← getUserAddress π signer
  let addressesInput := [swapAddress, userAddress]
  let addressesOutput := [swapAddress]
  pure (makeBatchList π signer .atomicSwap
    ⟨numbers.atomicSwap .setSecretLock,
      π.pb.atomicSwapSetSecretLockPayload.serializeToString swapSetSecretLockPayload⟩
    addressesInput addressesOutput)

def swapClose (swapClosePayload : AtomicSwapClosePayload) (receiverAddress : Str) :
    Except PyError (ClientTransaction B) := do
  let swapAddress ← makeAddressFromData π .atomicSwap (Text.encodeUtf8 swapClosePayload.swapId)
  let userAddress ← getUserAddress π signer
  let addressesInput := [swapAddress, zeroAddress, receiverAddress, userAddress]
  let addressesOutput := addressesInput
  pure (makeBatchList π signer .atomicSwap
    ⟨numbers.atomicSwap .close, π.pb.atomicSwapClosePayload.serializeToString swapClosePayload⟩
    addressesInput addressesOutput)

end AtomicSwapClient

end Client

end Remme.Clients
