import Remme.Tp.Basic
import Remme.Settings
import Remme.Lib.Dict
/-!
# The account handler

`_genesis` issues the supply, `_transfer` moves tokens from the signer.  Both
return a dictionary of the messages to write, in the order the code builds it.
-/

namespace Remme.Tp

open Remme.Lib Remme.Protos Remme.Shared Remme.Settings

variable {B : Type} (π : Platform B)

def genesis (pubKey : Str) (genesisPayload : GenesisPayload) :
    Processor B (Dict Str Message) := do
  let signerKey ← .ofExcept (makeAddressFromData π .account (Text.encodeUtf8 pubKey))
  let stored ← getData π.pb.genesisStatus genesisAddress
  -- A stored status that is false is written back as it is.
  let genesisStatus := stored.getD { status := true }
  .raiseIf (stored.any (·.status)) (.invalidTransaction "Genesis is already initialized.")
  let account : Account := { balance := genesisPayload.totalSupply }
  pure (.ofList [(signerKey, .account account), (genesisAddress, .genesisStatus genesisStatus)])

def transferFromAddress (addressFrom : Str) (transferPayload : TransferPayload) :
    Processor B (Dict Str Account) := do
  .raiseIf (transferPayload.value = 0)
    (.invalidTransaction "Could not transfer with zero amount.")
  .raiseIf (¬Family.account.familyPrefix π <+: transferPayload.addressTo ∧
      transferPayload.addressTo ≠ zeroAddress)
    (.invalidTransaction "Receiver address has to be of an account type.")
  .raiseIf (addressFrom = transferPayload.addressTo)
    (.invalidTransaction "Account cannot send tokens to itself.")
  let signerAccount ← getData π.pb.account addressFrom
  let receiverAccount ← getData π.pb.account transferPayload.addressTo
  let signerAccount := signerAccount.getD {}
  let receiverAccount := receiverAccount.getD {}
  .raiseIf (signerAccount.balance < transferPayload.value)
    (.invalidTransaction
      s!"Not enough transferable balance. Sender's current balance: {signerAccount.balance}.")
  let credited ← .ofExcept
    (uint64Field "balance" (receiverAccount.balance.toNat + transferPayload.value.toNat))
  let debited ← .ofExcept
    (uint64Field "balance" (signerAccount.balance.toNat - transferPayload.value.toNat))
  pure (.ofList [(addressFrom, { signerAccount with balance := debited }),
    (transferPayload.addressTo, { receiverAccount with balance := credited })])

def transfer (publicKey : Str) (transferPayload : TransferPayload) :
    Processor B (Dict Str Message) := do
  let address ← .ofExcept (makeAddressFromData π .account (Text.encodeUtf8 publicKey))
  let state ← transferFromAddress π address transferPayload
  pure (state.mapVals .account)

end Remme.Tp
