import Remme.Tp.Account
/-!
# The public key handler

`_store_pub_key` registers a key for the signer, `_store_public_key_for_other`
for an owner who signed the payload while the signer pays, `_revoke_pub_key`
marks a record as revoked.  The registered addresses are also listed in the
owner's account.
-/

namespace Remme.Tp

open Remme.Lib Remme.Protos Remme.Shared Remme.Settings

/-- `timedelta(365)`, in seconds. -/
def pubKeyMaxValidity : ℤ := 365 * 86400

def pubKeyStorePrice : UInt64 := 10

/-- A key's processor: the key it carries, and whether it verifies the payload's signature. -/
structure PubKeyProcessor where
  getPublicKey : Bytes
  verify : Except PyError Bool

variable {B : Type} (π : Platform B)

/-- An undeclared algorithm or padding raises inside the `try`, so it reads as `False`. -/
def rsaProcessor (payload : NewPubKeyPayload) (key : Bytes) (padding : Padding) :
    PubKeyProcessor where
  getPublicKey := key
  verify :=
    match π.loadDerPublicKey key, padding, payload.hashingAlgorithm with
    | .valueError, _, _ => .error (.invalidTransaction
        "Cannot deserialize the provided public key. Check if it is in DER format.")
    | .unsupportedAlgorithm, _, _ => .error .unsupportedAlgorithm
    | .loaded, .undeclared _, _ => .ok false
    | .loaded, _, .undeclared _ => .ok false
    | .loaded, padding, algorithm => .ok (π.rsaVerify key payload.entityHashSignature
        payload.entityHash padding algorithm)

def ecdsaProcessor (payload : NewPubKeyPayload) (key : Bytes) : PubKeyProcessor where
  getPublicKey := key
  verify :=
    match payload.hashingAlgorithm with
    | .undeclared _ => .ok false
    | algorithm =>
        .ok (π.ecdsaVerify key payload.entityHashSignature payload.entityHash algorithm)

def ed25519Processor (payload : NewPubKeyPayload) (key : Bytes) : PubKeyProcessor where
  getPublicKey := key
  verify :=
    match payload.hashingAlgorithm with
    | .undeclared _ => .ok false
    | algorithm =>
        .ok (π.ed25519Verify key payload.entityHashSignature payload.entityHash algorithm)

/-- `detect_processor_cls`, with the class applied to the payload. -/
def detectProcessorCls (payload : NewPubKeyPayload) : Configuration → PubKeyProcessor
  | .rsa key padding => rsaProcessor π payload key padding
  | .ecdsa key _ => ecdsaProcessor π payload key
  | .ed25519 key => ed25519Processor π payload key

/-- `True` when the validity does not exceed the maximum, whatever the name says. -/
def isPublicKeyValidityExceeded (tz : TimeZone) (validFrom validTo : UInt32) :
    Except PyError Bool := do
  let validFrom ← fromtimestamp tz validFrom.toNat
  let validTo ← fromtimestamp tz validTo.toNat
  pure (!decide (validTo - validFrom > pubKeyMaxValidity))

def chargeTokensForStoring (addressFrom addressTo : Str) : Processor B (Dict Str Account) := do
  .raiseIf (zeroAddress = addressFrom) (.invalidTransaction
    "Transactions from zero address is used only for internal purposes.")
  transferFromAddress π addressFrom { addressTo := addressTo, value := pubKeyStorePrice }

def chargeForStoring (addressFrom : Str) : Processor B (Option (Dict Str Account)) := do
  let setting ← getSettingValue π "remme.economy_enabled".toList (some "true".toList)
  let isEconomyEnabled ← .orRaise setting .attributeError
  if Text.lower isEconomyEnabled = "true".toList then
    let transferState ← chargeTokensForStoring π addressFrom zeroAddress
    pure (some transferState)
  else
    pure none

def getPublicKeyProcessor (transactionPayload : NewPubKeyPayload) :
    Processor B PubKeyProcessor := do
  let confPayload ← .orRaise transactionPayload.configuration
    (.invalidTransaction "Configuration for public key not set")
  pure (detectProcessorCls π transactionPayload confPayload)

def storePublicKeyToAccount (publicKeyToStoreAddress : Str) (account : Account) : Account :=
  if publicKeyToStoreAddress ∈ account.pubKeys then account
  else { account with pubKeys := account.pubKeys ++ [publicKeyToStoreAddress] }

def storePubKey (tz : TimeZone) (signerPubkey : Str) (transactionPayload : NewPubKeyPayload) :
    Processor B (Dict Str Message) := do
  let processor ← getPublicKeyProcessor π transactionPayload
  let verified ← .ofExcept processor.verify
  .raiseIf (verified = false) (.invalidTransaction "Invalid signature")
  let publicKeyToStoreAddress ← .ofExcept
    (makeAddressFromData π .pubKey processor.getPublicKey)
  let senderAccountAddress ← .ofExcept
    (makeAddressFromData π .account (Text.encodeUtf8 signerPubkey))
  let stored ← getData π.pb.pubKeyStorage publicKeyToStoreAddress
  let senderAccount ← getData π.pb.account senderAccountAddress
  .raiseIf stored.isSome (.invalidTransaction "This public key is already registered.")
  let senderAccount := senderAccount.getD {}
  let valid ← .ofExcept
    (isPublicKeyValidityExceeded tz transactionPayload.validFrom transactionPayload.validTo)
  .raiseIf (valid = false)
    (.invalidTransaction "The public key validity exceeds the maximum value.")
  let publicKeyInformation : PubKeyStorage :=
    { owner := signerPubkey, payload := transactionPayload, isRevoked := false }
  let state := Dict.ofList [(senderAccountAddress, .account senderAccount),
    (publicKeyToStoreAddress, .pubKeyStorage publicKeyInformation)]
  let chargingState ← chargeForStoring π senderAccountAddress
  let chargingState := chargingState.getD .empty
  let state := state.update (chargingState.mapVals .account)
  -- After the update the sender's entry is the charged account, where there is one.
  let senderAccount := (chargingState.get? senderAccountAddress).getD senderAccount
  let senderAccount := storePublicKeyToAccount publicKeyToStoreAddress senderAccount
  pure (state.set senderAccountAddress (.account senderAccount))

def storePublicKeyForOther (tz : TimeZone) (signerPubkey : Str)
    (transactionPayload : NewPubKeyStoreAndPayPayload) : Processor B (Dict Str Message) := do
  let newPublicKeyPayload := transactionPayload.pubKeyPayload.getD {}
  let ownerPublicKeyAsHex := Text.bytesHex transactionPayload.ownerPublicKey
  .raiseIf (π.secp256k1FromHex ownerPublicKeyAsHex = false) .parseError
  .raiseIf (π.secp256k1Verify (Text.bytesHex transactionPayload.signatureByOwner)
      (π.pb.newPubKeyPayload.serializeToString newPublicKeyPayload) ownerPublicKeyAsHex = false)
    (.invalidTransaction "Public key owner's signature is invalid.")
  let processor ← getPublicKeyProcessor π newPublicKeyPayload
  let verified ← .ofExcept processor.verify
  .raiseIf (verified = false) (.invalidTransaction "Payed public key has invalid signature.")
  let publicKeyToStoreAddress ← .ofExcept
    (makeAddressFromData π .pubKey processor.getPublicKey)
  let publicKeyToStoreOwnerAddress ← .ofExcept
    (makeAddressFromData π .account (Text.encodeUtf8 ownerPublicKeyAsHex))
  let payerForStoringAddress ← .ofExcept
    (makeAddressFromData π .account (Text.encodeUtf8 signerPubkey))
  let stored ← getData π.pb.pubKeyStorage publicKeyToStoreAddress
  let ownerAccount ← getData π.pb.account publicKeyToStoreOwnerAddress
  let payerAccount ← getData π.pb.account payerForStoringAddress
  .raiseIf stored.isSome (.invalidTransaction "This public key is already registered.")
  let ownerAccount := ownerAccount.getD {}
  let payerAccount := payerAccount.getD {}
  let valid ← .ofExcept
    (isPublicKeyValidityExceeded tz newPublicKeyPayload.validFrom newPublicKeyPayload.validTo)
  .raiseIf (valid = false)
    (.invalidTransaction "The public key validity exceeds the maximum value.")
  let publicKeyInformation : PubKeyStorage :=
    { owner := ownerPublicKeyAsHex, payload := newPublicKeyPayload, isRevoked := false }
  let state := Dict.ofList [(publicKeyToStoreOwnerAddress, .account ownerAccount),
    (payerForStoringAddress, .account payerAccount),
    (publicKeyToStoreAddress, .pubKeyStorage publicKeyInformation)]
  let chargingState ← chargeForStoring π payerForStoringAddress
  let state := state.update ((chargingState.getD .empty).mapVals .account)
  -- The key goes to the owner's account as it was read, not as it was charged.
  let ownerAccount := storePublicKeyToAccount publicKeyToStoreAddress ownerAccount
  pure (state.set publicKeyToStoreOwnerAddress (.account ownerAccount))

def revokePubKey (signerPubkey : Str) (revokePubKeyPayload : RevokePubKeyPayload) :
    Processor B (Dict Str Message) := do
  let publicKeyInformation ← getData π.pb.pubKeyStorage revokePubKeyPayload.address
  let publicKeyInformation ← .orRaise publicKeyInformation
    (.invalidTransaction "No public key is presented in chain.")
  .raiseIf (signerPubkey ≠ publicKeyInformation.owner)
    (.invalidTransaction "Only owner can revoke the public key.")
  .raiseIf publicKeyInformation.isRevoked
    (.invalidTransaction "The public key is already revoked.")
  let publicKeyInformation := { publicKeyInformation with isRevoked := true }
  pure (.ofList [(revokePubKeyPayload.address, .pubKeyStorage publicKeyInformation)])

end Remme.Tp
