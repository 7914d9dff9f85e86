import Remme.Tp.Apply
import Remme.Lib.Run
/-!
# The ledger as a transition system

The state is a finite map from addresses to bytes.  A transaction step is one
accepted transaction of the three handlers, by any signer; an environment step
is whatever the settings and block-info families do between two transactions.
-/

namespace Remme.Tp

open Remme.Lib Remme.Protos Remme.Shared Remme.Settings Remme.Clients.BlockInfo

variable {B : Type} (π : Platform B)

/-! ## Addresses by kind of record -/

def IsAccountAddress (a : Str) : Prop :=
  Family.account.familyPrefix π <+: a ∨ a = zeroAddress

def IsSwapAddress (a : Str) : Prop := Family.atomicSwap.familyPrefix π <+: a

def IsPubKeyAddress (a : Str) : Prop := Family.pubKey.familyPrefix π <+: a

/-- The addresses of settings and of block-info records. -/
def IsEnvironmentAddress (a : Str) : Prop :=
  (settingsNamespace <+: a ∨ blockInfoFamilyNamespace <+: a) ∧
    a ≠ zeroAddress ∧ a ≠ genesisAddress

instance : DecidablePred (IsAccountAddress π) := fun _ =>
  inferInstanceAs (Decidable (_ ∨ _))

instance : DecidablePred (IsSwapAddress π) := fun a =>
  inferInstanceAs (Decidable (_ <+: a))

instance : DecidablePred (IsPubKeyAddress π) := fun a =>
  inferInstanceAs (Decidable (_ <+: a))

instance : DecidablePred IsEnvironmentAddress := fun _ =>
  inferInstanceAs (Decidable (_ ∧ _))

/-- The address of a signer's account. -/
def accountAddress (publicKey : Str) : Str :=
  Family.account.address π (Text.encodeUtf8 publicKey)

def swapAddress (swapId : Str) : Str :=
  Family.atomicSwap.address π (Text.encodeUtf8 swapId)

def pubKeyAddress (key : Bytes) : Str := Family.pubKey.address π key

/-! ## What an address holds -/

section Views

variable (ctx : Str → Option B)

def accountAt (a : Str) : Option Account := (ctx a).bind π.pb.account.parseFromString

def swapAt (a : Str) : Option AtomicSwapInfo := (ctx a).bind π.pb.atomicSwapInfo.parseFromString

def pubKeyAt (a : Str) : Option PubKeyStorage := (ctx a).bind π.pb.pubKeyStorage.parseFromString

def genesisStatusAt (a : Str) : Option GenesisStatus :=
  (ctx a).bind π.pb.genesisStatus.parseFromString

def balanceAt (a : Str) : ℕ := ((accountAt π ctx a).getD {}).balance.toNat

def pubKeysAt (a : Str) : List Str := ((accountAt π ctx a).getD {}).pubKeys

def latestBlock : Option BlockInfo :=
  ((ctx configAddress).bind π.pb.blockInfoConfig.parseFromString).bind fun config =>
    (ctx (createBlockAddress config.latestBlock.toNat)).bind π.pb.blockInfo.parseFromString

def settingValue (key : Str) (defaultValue : Option Str) : Option Str :=
  let setting := ((ctx (makeSettingsKey π key)).bind π.pb.setting.parseFromString).getD {}
  ((setting.entries.find? fun entry => key = entry.key).map (·.value)).or defaultValue

def commission : Option ℤ := (settingValue π ctx settingsSwapCommission none).bind (Text.int 10)

def economyEnabled : Bool :=
  (settingValue π ctx "remme.economy_enabled".toList (some "true".toList)).any fun value =>
    Text.lower value = "true".toList

end Views

/-! ## Steps and runs -/

/-- What happened in a step: an accepted transaction with the messages it wrote, or a
change of the environment. -/
inductive Label where
  | transaction (signer : Str) (op : Operation) (updatedState : Dict Str Message)
  | environment

/-- Settings and block-info entries may become anything that their families write. -/
def EnvironmentChange (s s' : Dict Str B) : Prop :=
  ∀ a, s'.get? a ≠ s.get? a →
    IsEnvironmentAddress a ∧ ∀ d, s'.get? a = some d → π.pb.IsEnvironmentData d

/-- One step of the ledger on a node with time-zone rule `tz`.  The validator hands on only
transactions whose signature it verified against the signer's public key. -/
inductive Step (tz : TimeZone) : Dict Str B → Label → Dict Str B → Prop
  | transaction {s : Dict Str B} {signer : Str} {op : Operation} {u : Dict Str Message}
      (hsigner : IsPublicKey signer) (haccepted : op.apply π tz signer s = .ok u) :
      Step tz s (.transaction signer op u) (setState π s u)
  | environment {s s' : Dict Str B} (hchange : EnvironmentChange π s s') :
      Step tz s .environment s'

/-- A run of the ledger from the empty store. -/
abbrev LedgerRun (tz : TimeZone) (ts : List (Transition (Dict Str B) Label))
    (s : Dict Str B) : Prop :=
  Run (Step π tz) Dict.empty ts s

/-- The label opens a swap only towards an address of the account family. -/
def Label.ReceiverIsAccount : Label → Prop
  | .transaction _ (.swapInit payload) _ =>
      Family.account.familyPrefix π <+: payload.receiverAddress
  | _ => True

end Remme.Tp
