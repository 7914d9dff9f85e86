import Remme.Clients.Reads
import Remme.Tp.Event
/-!
# Methods that read the state

The methods of `account`, `pkc`, `atomic_swap` and `block_info` ask a client
for one record and shape it for the caller.  A missing record is an answer of
its own: no tokens and no keys for an account, and a `KeyNotFound` with the
method's text for a swap or a key.
-/

namespace Remme.RpcApi

open Remme.Lib Remme.Protos Remme.Shared Remme.Tp Remme.Clients

variable {B τ : Type} (π : Platform B) (sdk : Sdk τ) (ofBytes : Bytes → B)

def getBalance (publicKeyAddress : Str) : Query τ ℕ :=
  AccountClient.getBalance π sdk ofBytes publicKeyAddress

def getPublicKeysList (publicKeyAddress : Str) : Query τ (List Str) :=
  AccountClient.getPubKeys π sdk ofBytes publicKeyAddress

/-- `json.loads(MessageToJson(swap_info))` -/
def swapInfoDict (swapInfo : AtomicSwapInfo) : PyVal :=
  .object (fromProtoToDict (.atomicSwapInfo swapInfo))

def swapNotFound (swapId : Str) : RequestError :=
  .keyNotFound ("Atomic swap with id \"".toList ++ swapId ++ "\" not found".toList)

def getAtomicSwapInfo (swapId : Str) : Query τ PyVal := do
  let swapInfo ← exceptKeyNotFound (AtomicSwapClient.swapGet π sdk ofBytes swapId)
    (.ofExcept (.error (swapNotFound swapId)))
  pure (swapInfoDict swapInfo)

/-- `WhichOneof('configuration')` -/
def configurationName : Configuration → Str
  | .rsa .. => "rsa".toList
  | .ecdsa .. => "ecdsa".toList
  | .ed25519 _ => "ed25519".toList

/-- `b.decode('utf-8')` -/
def decodeUtf8 (b : Bytes) : Option Str :=
  (String.fromUTF8? ⟨b.toArray⟩).map (·.toList)

/-- What `get_public_key_info` makes of a record at the time `now`.  `ByteSize()` is zero for the
payload with no field set, and `getattr` raises a `TypeError` where no configuration is. -/
def publicKeyInfo (now : ℚ) (pubKeyData : PubKeyStorage) : Except RequestError PyVal :=
  if pubKeyData.payload = {} then .error (.keyNotFound [])
  else
    match pubKeyData.payload.configuration, decodeUtf8 pubKeyData.payload.entityHash with
    | none, _ => .error (.raised .typeError)
    | some _, none => .error (.raised .valueError)
    | some configuration, some entityHash =>
        let validFrom := pubKeyData.payload.validFrom.toNat
        let validTo := pubKeyData.payload.validTo.toNat
        .ok (.object
          [("is_revoked".toList, .boolean pubKeyData.isRevoked),
           ("owner_public_key".toList, .text pubKeyData.owner),
           ("type".toList, .text (configurationName configuration)),
           ("is_valid".toList, .boolean
             (!pubKeyData.isRevoked && validFrom < now && now < validTo)),
           ("valid_from".toList, .number validFrom),
           ("valid_to".toList, .number validTo),
           ("public_key".toList, .text (Text.bytesHex configuration.key)),
           ("entity_hash".toList, .text entityHash),
           ("entity_hash_signature".toList,
             .text (Text.bytesHex pubKeyData.payload.entityHashSignature))])

def keyInfoNotFound : RequestError := .keyNotFound "Public key info not found".toList

def getPublicKeyInfo (now : ℚ) (publicKeyAddress : Str) : Query τ PyVal :=
  exceptKeyNotFound
    (do
      let pubKeyData ← PubKeyClient.getStatus π sdk ofBytes publicKeyAddress
      .ofExcept (publicKeyInfo now pubKeyData))
    (.ofExcept (.error keyInfoNotFound))

def getBlockNumber : Query τ ℕ :=
  exceptKeyNotFound
    (do
      let blockConfig ← BlockInfoClient.getBlockInfoConfig π sdk ofBytes
      pure (blockConfig.latestBlock.toNat + 1))
    (pure 0)

/-- `get_blocks`; a `KeyNotFound` of a block is caught inside. -/
def getBlocks (start limit : ℤ) : Query τ (List BlockInfo.BlockRecord) :=
  exceptKeyNotFound (BlockInfoClient.getBlocksInfo π sdk ofBytes start limit)
    (.ofExcept (.error (.keyNotFound "Blocks not found".toList)))

end Remme.RpcApi
