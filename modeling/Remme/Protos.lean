import Remme.Lib.Text
/-!
# Protobuf messages

The messages the node stores and receives, and the generated classes that
serialize and parse them.  The generated classes are not part of the
repository, so they enter as a parameter: one `Codec` for each class, with the
round trip every protobuf class has.  Nothing is assumed of parsing the bytes
of one class as another, except where `Protobuf.NoForeignOwner` is named.
-/

namespace Remme.Protos

open Remme.Lib

/-! ## State messages -/

structure Account where
  balance : UInt64 := 0
  pubKeys : List Str := []
  deriving DecidableEq

structure GenesisStatus where
  status : Bool := false
  deriving DecidableEq

/-- `AtomicSwapInfo.State` -/
inductive SwapState where
  | opened | secretLockProvided | approved | closed | expired
  deriving DecidableEq

structure AtomicSwapInfo where
  swapId : Str := []
  state : SwapState := .opened
  amount : UInt64 := 0
  createdAt : UInt32 := 0
  secretLock : Str := []
  secretKey : Str := []
  emailAddressEncryptedOptional : Str := []
  senderAddress : Str := []
  senderAddressNonLocal : Str := []
  receiverAddress : Str := []
  isInitiator : Bool := false
  deriving DecidableEq

/-- Enumerations are open on the wire: a number without a name stays a number. -/
inductive HashingAlgorithm where
  | sha256 | sha512 | undeclared (number : ℤ)
  deriving DecidableEq

inductive Padding where
  | pss | pkcs1v15 | undeclared (number : ℤ)
  deriving DecidableEq

inductive EllipticCurve where
  | secp256k1 | undeclared (number : ℤ)
  deriving DecidableEq

/-- The `configuration` oneof of `NewPubKeyPayload`. -/
inductive Configuration where
  | rsa (key : Bytes) (padding : Padding)
  | ecdsa (key : Bytes) (ec : EllipticCurve)
  | ed25519 (key : Bytes)
  deriving DecidableEq

def Configuration.key : Configuration → Bytes
  | rsa key _ => key
  | ecdsa key _ => key
  | ed25519 key => key

structure NewPubKeyPayload where
  entityHash : Bytes := []
  entityHashSignature : Bytes := []
  validFrom : UInt32 := 0
  validTo : UInt32 := 0
  hashingAlgorithm : HashingAlgorithm := .sha256
  configuration : Option Configuration := none
  deriving DecidableEq

structure PubKeyStorage where
  owner : Str := []
  payload : NewPubKeyPayload := {}
  isRevoked : Bool := false
  deriving DecidableEq

structure SettingEntry where
  key : Str := []
  value : Str := []
  deriving DecidableEq

structure Setting where
  entries : List SettingEntry := []
  deriving DecidableEq

structure BlockInfoConfig where
  latestBlock : UInt64 := 0
  oldestBlock : UInt64 := 0
  deriving DecidableEq

structure BlockInfo where
  blockNum : UInt64 := 0
  previousBlockId : Str := []
  signerPublicKey : Str := []
  headerSignature : Str := []
  timestamp : UInt64 := 0
  deriving DecidableEq

/-! ## Transaction payloads -/

structure TransferPayload where
  addressTo : Str := []
  value : UInt64 := 0
  deriving DecidableEq

structure GenesisPayload where
  totalSupply : UInt64 := 0
  deriving DecidableEq

structure AtomicSwapInitPayload where
  receiverAddress : Str := []
  senderAddressNonLocal : Str := []
  amount : UInt64 := 0
  swapId : Str := []
  secretLockBySolicitor : Str := []
  emailAddressEncryptedByInitiator : Str := []
  createdAt : UInt32 := 0
  deriving DecidableEq

structure AtomicSwapApprovePayload where
  swapId : Str := []
  deriving DecidableEq

structure AtomicSwapExpirePayload where
  swapId : Str := []
  deriving DecidableEq

structure AtomicSwapSetSecretLockPayload where
  swapId : Str := []
  secretLock : Str := []
  deriving DecidableEq

structure AtomicSwapClosePayload where
  swapId : Str := []
  secretKey : Str := []
  deriving DecidableEq

structure RevokePubKeyPayload where
  address : Str := []
  deriving DecidableEq

/-- A nested message that is not set reads as its default. -/
structure NewPubKeyStoreAndPayPayload where
  pubKeyPayload : Option NewPubKeyPayload := none
  ownerPublicKey : Bytes := []
  signatureByOwner : Bytes := []
  deriving DecidableEq

/-- `owner_public_key.hex()` -/
def NewPubKeyStoreAndPayPayload.owner (payload : NewPubKeyStoreAndPayPayload) : Str :=
  Text.bytesHex payload.ownerPublicKey

/-- The envelope of every payload: a method number of the family, and the payload's bytes. -/
structure TransactionPayload (B : Type) where
  method : ℕ
  data : B

inductive AccountMethod where
  | transfer | genesis
  deriving DecidableEq

inductive AtomicSwapMethod where
  | init | approve | expire | setSecretLock | close
  deriving DecidableEq

inductive PubKeyMethod where
  | store | revoke | storeAndPay
  deriving DecidableEq

/-! ## Generated classes -/

/-- `SerializeToString` and `ParseFromString` of one class over byte strings `B`;
`none` is the `DecodeError`. -/
structure Codec (B α : Type) where
  serializeToString : α → B
  parseFromString : B → Option α
  parse_serialize : ∀ m, parseFromString (serializeToString m) = some m

attribute [simp] Codec.parse_serialize

/-- The generated modules: a codec for each class, and the numbers of the method enumerations. -/
structure Protobuf (B : Type) where
  account : Codec B Account
  genesisStatus : Codec B GenesisStatus
  atomicSwapInfo : Codec B AtomicSwapInfo
  pubKeyStorage : Codec B PubKeyStorage
  setting : Codec B Setting
  blockInfoConfig : Codec B BlockInfoConfig
  blockInfo : Codec B BlockInfo
  transactionPayload : Codec B (TransactionPayload B)
  transferPayload : Codec B TransferPayload
  genesisPayload : Codec B GenesisPayload
  atomicSwapInitPayload : Codec B AtomicSwapInitPayload
  atomicSwapApprovePayload : Codec B AtomicSwapApprovePayload
  atomicSwapExpirePayload : Codec B AtomicSwapExpirePayload
  atomicSwapSetSecretLockPayload : Codec B AtomicSwapSetSecretLockPayload
  atomicSwapClosePayload : Codec B AtomicSwapClosePayload
  newPubKeyPayload : Codec B NewPubKeyPayload
  revokePubKeyPayload : Codec B RevokePubKeyPayload
  newPubKeyStoreAndPayPayload : Codec B NewPubKeyStoreAndPayPayload
  accountMethod : ℕ → Option AccountMethod
  atomicSwapMethod : ℕ → Option AtomicSwapMethod
  pubKeyMethod : ℕ → Option PubKeyMethod

/-- A message that a handler writes to the state. -/
inductive Message where
  | account (m : Account)
  | genesisStatus (m : GenesisStatus)
  | atomicSwapInfo (m : AtomicSwapInfo)
  | pubKeyStorage (m : PubKeyStorage)
  deriving DecidableEq

inductive MessageClass where
  | account | genesisStatus | atomicSwapInfo | pubKeyStorage
  deriving DecidableEq

def Message.messageClass : Message → MessageClass
  | .account _ => .account
  | .genesisStatus _ => .genesisStatus
  | .atomicSwapInfo _ => .atomicSwapInfo
  | .pubKeyStorage _ => .pubKeyStorage

def Protobuf.serialize {B : Type} (pb : Protobuf B) : Message → B
  | .account m => pb.account.serializeToString m
  | .genesisStatus m => pb.genesisStatus.serializeToString m
  | .atomicSwapInfo m => pb.atomicSwapInfo.serializeToString m
  | .pubKeyStorage m => pb.pubKeyStorage.serializeToString m

/-- A message that the settings or the block-info family writes. -/
inductive EnvironmentRecord where
  | setting (m : Setting)
  | blockInfoConfig (m : BlockInfoConfig)
  | blockInfo (m : BlockInfo)

def Protobuf.serializeEnvironment {B : Type} (pb : Protobuf B) : EnvironmentRecord → B
  | .setting m => pb.setting.serializeToString m
  | .blockInfoConfig m => pb.blockInfoConfig.serializeToString m
  | .blockInfo m => pb.blockInfo.serializeToString m

def Protobuf.IsEnvironmentData {B : Type} (pb : Protobuf B) (d : B) : Prop :=
  ∃ record, d = pb.serializeEnvironment record

/-- A public key as the validator hands it on: a non-empty hexadecimal text. -/
def IsPublicKey (key : Str) : Prop := key ≠ [] ∧ ∀ c ∈ key, Text.isHex c

-- Named, since the instance for a statement about every character would search all of Unicode.
instance : DecidablePred IsPublicKey := fun key =>
  @instDecidableAnd _ _ inferInstance (List.decidableBAll _ key)

/-- The bytes of another class never parse as a `PubKeyStorage` owned by a public key:
`owner` is field 1 with a length-delimited wire type, and field 1 is a varint in the other
state classes and a nested message, whose bytes are no hexadecimal text, in `Setting`. -/
structure Protobuf.NoForeignOwner {B : Type} (pb : Protobuf B) : Prop where
  account : ∀ m r, pb.pubKeyStorage.parseFromString (pb.account.serializeToString m) = some r →
    ¬IsPublicKey r.owner
  genesisStatus : ∀ m r,
    pb.pubKeyStorage.parseFromString (pb.genesisStatus.serializeToString m) = some r →
      ¬IsPublicKey r.owner
  atomicSwapInfo : ∀ m r,
    pb.pubKeyStorage.parseFromString (pb.atomicSwapInfo.serializeToString m) = some r →
      ¬IsPublicKey r.owner
  environment : ∀ d r, pb.IsEnvironmentData d →
    pb.pubKeyStorage.parseFromString d = some r → ¬IsPublicKey r.owner

end Remme.Protos
