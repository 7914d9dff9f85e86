import Remme.Tp.Apply
import Remme.Lib.Value
/-!
# The events of accepted transactions

The end of `BasicHandler.apply`: a method registered with an event name emits
the messages it wrote as JSON, one object for each entry of the dictionary and
in its order, together with the transaction's signature.
-/

namespace Remme.Tp

open Remme.Lib Remme.Protos Remme.Shared

/-- `Events` -/
inductive EventType where
  | swapInit | swapClose | swapApprove | swapExpire | swapSetSecretLock
  | accountTransfer
  | sawtoothBlockCommit | remmeBatchDelta
  deriving DecidableEq

def EventType.value : EventType → Str
  | swapInit => "atomic-swap/init".toList
  | swapClose => "atomic-swap/close".toList
  | swapApprove => "atomic-swap/approve".toList
  | swapExpire => "atomic-swap/expire".toList
  | swapSetSecretLock => "atomic-swap/set-secret-lock".toList
  | accountTransfer => "account/transfer".toList
  | sawtoothBlockCommit => "sawtooth/block-commit".toList
  | remmeBatchDelta => "remme/batch-status".toList

/-- `EMIT_EVENT` -/
def Operation.emitEvent : Operation → Option EventType
  | transfer _ => some .accountTransfer
  | swapInit _ => some .swapInit
  | swapApprove _ => some .swapApprove
  | swapExpire _ => some .swapExpire
  | swapSetLock _ => some .swapSetSecretLock
  | swapClose _ => some .swapClose
  | _ => none

/-! ## Messages as dictionaries -/

def swapStateName : SwapState → Str
  | .opened => "OPENED".toList
  | .secretLockProvided => "SECRET_LOCK_PROVIDED".toList
  | .approved => "APPROVED".toList
  | .closed => "CLOSED".toList
  | .expired => "EXPIRED".toList

def hashingAlgorithmValue : HashingAlgorithm → PyVal
  | .sha256 => .text "SHA256".toList
  | .sha512 => .text "SHA512".toList
  | .undeclared number => .number number

def paddingValue : Padding → PyVal
  | .pss => .text "PSS".toList
  | .pkcs1v15 => .text "PKCS1v15".toList
  | .undeclared number => .number number

def ellipticCurveValue : EllipticCurve → PyVal
  | .secp256k1 => .text "SECP256k1".toList
  | .undeclared number => .number number

def uint64Value (n : UInt64) : PyVal := .text (Nat.toDigits 10 n.toNat)

def uint32Value (n : UInt32) : PyVal := .number n.toNat

def bytesValue (b : Bytes) : PyVal := .text (Text.base64 b)

/-- Only the member of the oneof that is set. -/
def configurationFields : Option Configuration → List (Str × PyVal)
  | none => []
  | some (.rsa key padding) => [("rsa".toList, .object
      [("key".toList, bytesValue key), ("padding".toList, paddingValue padding)])]
  | some (.ecdsa key ec) => [("ecdsa".toList, .object
      [("key".toList, bytesValue key), ("ec".toList, ellipticCurveValue ec)])]
  | some (.ed25519 key) => [("ed25519".toList, .object [("key".toList, bytesValue key)])]

/-- `from_proto_to_dict`: an unsigned 64-bit field is written as text. -/
def fromProtoToDict : Message → List (Str × PyVal)
  | .account m =>
      [("balance".toList, uint64Value m.balance),
       ("pub_keys".toList, .array (m.pubKeys.map .text))]
  | .genesisStatus m => [("status".toList, .boolean m.status)]
  | .atomicSwapInfo m =>
      [("swap_id".toList, .text m.swapId),
       ("state".toList, .text (swapStateName m.state)),
       ("amount".toList, uint64Value m.amount),
       ("created_at".toList, uint32Value m.createdAt),
       ("secret_lock".toList, .text m.secretLock),
       ("secret_key".toList, .text m.secretKey),
       ("email_address_encrypted_optional".toList, .text m.emailAddressEncryptedOptional),
       ("sender_address".toList, .text m.senderAddress),
       ("sender_address_non_local".toList, .text m.senderAddressNonLocal),
       ("receiver_address".toList, .text m.receiverAddress),
       ("is_initiator".toList, .boolean m.isInitiator)]
  | .pubKeyStorage m =>
      [("owner".toList, .text m.owner),
       ("payload".toList, .object
         ([("entity_hash".toList, bytesValue m.payload.entityHash),
           ("entity_hash_signature".toList, bytesValue m.payload.entityHashSignature),
           ("valid_from".toList, uint32Value m.payload.validFrom),
           ("valid_to".toList, uint32Value m.payload.validTo),
           ("hashing_algorithm".toList, hashingAlgorithmValue m.payload.hashingAlgorithm)] ++
          configurationFields m.payload.configuration)),
       ("is_revoked".toList, .boolean m.isRevoked)]

/-- `value.__class__.__name__` -/
def className : Message → Str
  | .account _ => "Account".toList
  | .genesisStatus _ => "GenesisStatus".toList
  | .atomicSwapInfo _ => "AtomicSwapInfo".toList
  | .pubKeyStorage _ => "PubKeyStorage".toList

/-! ## Event attributes -/

/-- The value of an attribute: a text, or the text of a value that was written by `json.dumps`. -/
inductive AttributeValue where
  | plain (s : Str)
  | dumped (v : PyVal)

/-- `sawtooth_sdk.protobuf.events_pb2.Event` -/
structure Event where
  eventType : Str
  attributes : List (Str × AttributeValue)

def entityChanged (address : Str) (value : Message) : PyVal :=
  .object ((Dict.ofList
    [("address".toList, .text address), ("type".toList, .text (className value))]).update
      (.ofList (fromProtoToDict value))).entries

def getEventAttributes (updatedState : Dict Str Message) (headerSignature : Str) :
    List (Str × AttributeValue) :=
  [("entities_changed".toList, .dumped (.array
     (updatedState.entries.map fun entry => entityChanged entry.1 entry.2))),
   ("header_signature".toList, .plain headerSignature)]

/-- The event of an accepted transaction, where its method emits one. -/
def emittedEvent (op : Operation) (updatedState : Dict Str Message) (headerSignature : Str) :
    Option Event :=
  op.emitEvent.map fun eventType =>
    { eventType := eventType.value
      attributes := getEventAttributes updatedState headerSignature }

end Remme.Tp
