import Remme.Tp.Account
import Remme.Clients.BlockInfo
/-!
# The atomic swap handler

A swap is opened by `_swap_init`, which takes the amount and a commission from
the signer; the amount then exists only inside the swap record until
`_swap_close` credits the receiver or `_swap_expire` returns it to the sender.
-/

namespace Remme.Tp

open Remme.Lib Remme.Protos Remme.Shared Remme.Settings Remme.Clients.BlockInfo

/-- Hours. -/
def initiatorTimeLock : ℕ := 24

def nonInitiatorTimeLock : ℕ := 48

def timeLock (isInitiator : Bool) : ℕ :=
  if isInitiator then initiatorTimeLock else nonInitiatorTimeLock

/-- `state in NOT_PERMITTED_TO_CHANGE_SWAP_STATUSES` -/
def notPermittedToChange (state : SwapState) : Bool :=
  state = .closed || state = .expired

variable {B : Type} (π : Platform B)

def notInitiated (swapIdentifier : Str) : PyError :=
  .invalidTransaction
    s!"Atomic swap was not initiated for identifier {String.ofList swapIdentifier}!"

def closedOrExpired (swapIdentifier : Str) : PyError :=
  .invalidTransaction
    s!"No operations can be done upon the swap: {String.ofList swapIdentifier} as it is already closed or expired."

def getLatestBlockInfo : Processor B BlockInfo := do
  let blockInfoConfig ← getData π.pb.blockInfoConfig configAddress
  let blockInfoConfig ← .orRaise blockInfoConfig (.invalidTransaction "Block config not found.")
  let latestBlock := blockInfoConfig.latestBlock.toNat
  let blockInfo ← getData π.pb.blockInfo (createBlockAddress latestBlock)
  .orRaise blockInfo (.invalidTransaction s!"Block {latestBlock + 1} not found.")

def swapInit (signerPubkey : Str) (swapInitPayload : AtomicSwapInitPayload) :
    Processor B (Dict Str Message) := do
  let addressSwapInfoIsStoredBy ← .ofExcept
    (makeAddressFromData π .atomicSwap (Text.encodeUtf8 swapInitPayload.swapId))
  let stored ← getData π.pb.atomicSwapInfo addressSwapInfoIsStoredBy
  .raiseIf stored.isSome (.invalidTransaction
    "Atomic swap ID has already been taken, please use a different one.")
  let blockInfo ← getLatestBlockInfo π
  let createdAt ← .ofExcept (uint32Field "created_at" blockInfo.timestamp.toNat)
  let senderAddress ← .ofExcept
    (makeAddressFromData π .account (Text.encodeUtf8 signerPubkey))
  let swapInformation : AtomicSwapInfo :=
    { swapId := swapInitPayload.swapId
      state := .opened
      amount := swapInitPayload.amount
      createdAt := createdAt
      secretLock := swapInitPayload.secretLockBySolicitor
      emailAddressEncryptedOptional := swapInitPayload.emailAddressEncryptedByInitiator
      senderAddress := senderAddress
      senderAddressNonLocal := swapInitPayload.senderAddressNonLocal
      receiverAddress := swapInitPayload.receiverAddress
      isInitiator := swapInitPayload.secretLockBySolicitor.isEmpty }
  let setting ← getSettingValue π settingsSwapCommission none
  -- `int(None)` is a `TypeError`, `int` of a text that is no integer a `ValueError`.
  let setting ← .orRaise setting .typeError
  let commissionAmount ← .orRaise (Text.int 10 setting) .valueError
  .raiseIf (commissionAmount < 0) (.invalidTransaction "Wrong commission address.")
  let swapTotalAmount := swapInformation.amount.toNat + commissionAmount
  let account ← getData π.pb.account senderAddress
  let account := account.getD {}
  .raiseIf (account.balance.toNat < swapTotalAmount) (.invalidTransaction
    s!"Not enough balance to perform the transaction in the amount (with a commission) {swapTotalAmount}.")
  let value ← .ofExcept (uint64Field "value" commissionAmount)
  let transferState ← transferFromAddress π senderAddress
    { addressTo := zeroAddress, value := value }
  let senderAccount ← .orRaise (transferState.get? senderAddress) .attributeError
  let balance ← .ofExcept
    (uint64Field "balance" (senderAccount.balance.toNat - swapInformation.amount.toNat))
  -- The account in the transfer's dictionary is changed in place.
  let transferState := transferState.set senderAddress { senderAccount with balance := balance }
  pure ((Dict.ofList [(addressSwapInfoIsStoredBy, .atomicSwapInfo swapInformation)]).update
    (transferState.mapVals .account))

/-- The record that every operation on an opened swap starts from. -/
def getSwap (swapIdentifier : Str) : Processor B (Str × AtomicSwapInfo) := do
  let addressSwapInfoIsStoredBy ← .ofExcept
    (makeAddressFromData π .atomicSwap (Text.encodeUtf8 swapIdentifier))
  let swapInformation ← getData π.pb.atomicSwapInfo addressSwapInfoIsStoredBy
  let swapInformation ← .orRaise swapInformation (notInitiated swapIdentifier)
  .raiseIf (notPermittedToChange swapInformation.state) (closedOrExpired swapIdentifier)
  pure (addressSwapInfoIsStoredBy, swapInformation)

def swapSetLock (swapSetLockPayload : AtomicSwapSetSecretLockPayload) :
    Processor B (Dict Str Message) := do
  let (addressSwapInfoIsStoredBy, swapInformation) ← getSwap π swapSetLockPayload.swapId
  .raiseIf (swapInformation.secretLock ≠ []) (.invalidTransaction
    s!"Secret lock is already added for {String.ofList swapInformation.swapId}.")
  let swapInformation :=
    { swapInformation with
      secretLock := swapSetLockPayload.secretLock, state := .secretLockProvided }
  pure (.ofList [(addressSwapInfoIsStoredBy, .atomicSwapInfo swapInformation)])

def swapApprove (signerPubkey : Str) (swapApprovePayload : AtomicSwapApprovePayload) :
    Processor B (Dict Str Message) := do
  let signerAddress ← .ofExcept
    (makeAddressFromData π .account (Text.encodeUtf8 signerPubkey))
  let (addressSwapInfoIsStoredBy, swapInformation) ← getSwap π swapApprovePayload.swapId
  .raiseIf (¬swapInformation.isInitiator ∨ swapInformation.senderAddress ≠ signerAddress)
    (.invalidTransaction
      "Only transaction initiator (Alice) may approve the swap, once Bob provided a secret lock.")
  .raiseIf (swapInformation.secretLock = [])
    (.invalidTransaction "Secret lock is needed for Bob to provide a secret key.")
  .raiseIf (swapInformation.state ≠ .secretLockProvided) (.invalidTransaction
    s!"Swap identifier {String.ofList swapInformation.swapId} is already closed.")
  let swapInformation := { swapInformation with state := .approved }
  pure (.ofList [(addressSwapInfoIsStoredBy, .atomicSwapInfo swapInformation)])

def swapExpire (tz : TimeZone) (signerPubkey : Str)
    (swapExpirePayload : AtomicSwapExpirePayload) : Processor B (Dict Str Message) := do
  let (addressSwapInfoIsStoredBy, swapInformation) ← getSwap π swapExpirePayload.swapId
  let signerAddress ← .ofExcept
    (makeAddressFromData π .account (Text.encodeUtf8 signerPubkey))
  .raiseIf (signerAddress ≠ swapInformation.senderAddress)
    (.invalidTransaction "Signer is not the one who opened the swap.")
  let block ← getLatestBlockInfo π
  let blockTime ← .ofExcept (fromtimestamp tz block.timestamp.toNat)
  let createdAt ← .ofExcept (fromtimestamp tz swapInformation.createdAt.toNat)
  let initiatorName := if swapInformation.isInitiator then "initiator" else "non initiator"
  let hours := timeLock swapInformation.isInitiator
  let deadline ← .ofExcept (addTimedelta createdAt (hours * 3600 : ℕ))
  .raiseIf (blockTime < deadline) (.invalidTransaction
    s!"Swap {initiatorName} needs to wait {hours} hours since timestamp {swapInformation.createdAt} to withdraw.")
  let account ← getData π.pb.account swapInformation.senderAddress
  let account := account.getD {}
  let balance ← .ofExcept
    (uint64Field "balance" (account.balance.toNat + swapInformation.amount.toNat))
  let swapInformation := { swapInformation with state := .expired }
  pure (.ofList [(addressSwapInfoIsStoredBy, .atomicSwapInfo swapInformation),
    (swapInformation.senderAddress, .account { account with balance := balance })])

def swapClose (swapClosePayload : AtomicSwapClosePayload) :
    Processor B (Dict Str Message) := do
  let (addressSwapInfoIsStoredBy, swapInformation) ← getSwap π swapClosePayload.swapId
  .raiseIf (swapInformation.secretLock = [])
    (.invalidTransaction "Secret lock is required to close the swap.")
  let hashed ← .ofExcept (web3Hash π swapClosePayload.secretKey)
  .raiseIf (hashed ≠ swapInformation.secretLock)
    (.invalidTransaction "Secret key doesn't match specified secret lock.")
  .raiseIf (swapInformation.isInitiator ∧ swapInformation.state ≠ .approved)
    (.invalidTransaction "Transaction cannot be closed before it's approved.")
  let account ← getData π.pb.account swapInformation.receiverAddress
  let account := account.getD {}
  let balance ← .ofExcept
    (uint64Field "balance" (account.balance.toNat + swapInformation.amount.toNat))
  let swapInformation :=
    { swapInformation with secretKey := swapClosePayload.secretKey, state := .closed }
  pure (.ofList [(addressSwapInfoIsStoredBy, .atomicSwapInfo swapInformation),
    (swapInformation.receiverAddress, .account { account with balance := balance })])

end Remme.Tp
