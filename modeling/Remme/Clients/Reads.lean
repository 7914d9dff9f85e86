import Remme.Clients.BlockPages
import Remme.Clients.Transactions
import Remme.Shared.Router
/-!
# What clients read of the state

`get_value` fetches an entry through the router, and the clients parse it as the
message they expect there.  `get_blocks_info` reads once for the configuration
and once for each block of a page; `Remme.Clients.BlockPages` is the same
method on a state that stands still.
-/

namespace Remme.Clients

open Remme.Lib Remme.Protos Remme.Shared Remme.Settings Remme.Tp Remme.Clients.BlockInfo

/-- `except KeyNotFound` -/
def exceptKeyNotFound {τ α : Type} (x : Query τ α) (handler : Query τ α) : Query τ α :=
  x.handle fun err =>
    match err with
    | .keyNotFound _ => handler
    | err => .ofExcept (.error err)

section Client

-- `ofBytes` makes a byte string of the platform.
variable {B τ : Type} (π : Platform B) (sdk : Sdk τ) (ofBytes : Bytes → B)

/-- `base64.b64decode(data)`; `binascii.Error` is a `ValueError`. -/
def b64decodeAs (data : Str) : Except RequestError B :=
  match Text.b64decode data with
  | some data => .ok (ofBytes data)
  | none => .error (.raised .valueError)

/-- `get_value` -/
def getStateValue (address : Str) : Query τ B := do
  let result ← Router.fetchState sdk address none
  .ofExcept (b64decodeAs ofBytes result.data)

/-- `message.ParseFromString(data)` -/
def parseAs {α : Type} (pbClass : Codec B α) (data : B) : Except RequestError α :=
  match pbClass.parseFromString data with
  | some message => .ok message
  | none => .error (.raised .decodeError)

def getMessage {α : Type} (pbClass : Codec B α) (address : Str) : Query τ α := do
  let data ← getStateValue sdk ofBytes address
  .ofExcept (parseAs pbClass data)

/-! ## Accounts, swaps and keys -/

def AccountClient.getAccount (address : Str) : Query τ Account :=
  getMessage sdk ofBytes π.pb.account address

def AccountClient.getPubKeys (address : Str) : Query τ (List Str) :=
  exceptKeyNotFound
    (do
      let account ← AccountClient.getAccount π sdk ofBytes address
      pure account.pubKeys)
    (pure [])

def AccountClient.getBalance (address : Str) : Query τ ℕ :=
  exceptKeyNotFound
    (do
      let account ← AccountClient.getAccount π sdk ofBytes address
      pure account.balance.toNat)
    (pure 0)

def AtomicSwapClient.swapGet (swapId : Str) : Query τ AtomicSwapInfo := do
  let swapAddress ← .ofExcept
    ((makeAddressFromData π .atomicSwap (Text.encodeUtf8 swapId)).mapError .raised)
  getMessage sdk ofBytes π.pb.atomicSwapInfo swapAddress

def PubKeyClient.getStatus (address : Str) : Query τ PubKeyStorage :=
  getMessage sdk ofBytes π.pb.pubKeyStorage address

/-- `get_setting_value`, the value of the first entry. -/
def BasicClient.getSettingValue (key : Str) : Query τ Str := do
  let setting ← getMessage sdk ofBytes π.pb.setting (makeSettingsKey π key)
  match setting.entries.head? with
  | some entry => pure entry.value
  | none => .ofExcept (.error (.raised .indexError))

/-! ## Blocks -/

namespace BlockInfoClient

def getBlockInfo (blockNum : ℤ) : Query τ BlockInfo :=
  getMessage sdk ofBytes π.pb.blockInfo (createBlockAddressOfInt blockNum)

def getBlockInfoConfig : Query τ BlockInfoConfig :=
  getMessage sdk ofBytes π.pb.blockInfoConfig configAddress

/-- Start and limit with their defaults; `except Exception` gives up. -/
def withDefaults (start limit : ℤ) : Query τ (Option (ℤ × ℤ)) :=
  if start ≠ 0 ∧ limit ≠ 0 then pure (some (start, limit))
  else
    (do
      let config ← getBlockInfoConfig π sdk ofBytes
      let start := if start = 0 then (config.latestBlock.toNat : ℤ) + 1 else start
      let limit := if limit = 0 then start - config.oldestBlock.toNat + 1 else limit
      pure (some (start, limit))).handle fun _ => pure none

/-- The loop of `get_blocks_info`: each block is read at a time of its own. -/
def collectBlocks : List ℤ → Query τ (List BlockRecord)
  | [] => pure []
  | i :: rest => do
      let record ← exceptKeyNotFound
        (do
          let bi ← getBlockInfo π sdk ofBytes i
          pure (some (interpretBlockInfo bi)))
        (pure none)
      let blocks ← collectBlocks rest
      pure (record.toList ++ blocks)

def getBlocksInfo (start limit : ℤ) : Query τ (List BlockRecord) := do
  match ← withDefaults π sdk ofBytes start limit with
  | none => pure []
  | some (start, limit) => do
      let limit := if limit - start > 0 then start else limit
      let blocks ← collectBlocks π sdk ofBytes (pyRange (start - limit) start)
      pure blocks.reverse

end BlockInfoClient

end Client

end Remme.Clients
