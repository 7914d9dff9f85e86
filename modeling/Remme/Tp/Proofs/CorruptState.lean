import Remme.Tp.Proofs.CacheContext
import Remme.Tp.Proofs.SwapInit
/-!
# Corrupt data reads as no data

The clause that raises `Failed to deserialize data` is for the `ParseError` of
`text_format`; `ParseFromString` raises `DecodeError`, which goes to the last
clause and yields `None`.  So a processor cannot tell a record that does not
decode from one that was never written, and does what it does without it.
-/

namespace Remme.Tp

open Remme.Lib Remme.Protos Remme.Shared Remme.Settings CacheContextService

/-! ## States that decode alike -/

section Alike

variable {B α : Type} {π : Platform B} {tz : TimeZone} {ctx ctx' : Str → Option B}

def DecodesAlike (ctx ctx' : Str → Option B) (codec : Codec B α) : Prop :=
  ∀ a, (ctx a).bind codec.parseFromString = (ctx' a).bind codec.parseFromString

/-- Every class of the state decodes alike at every address. -/
structure StatesAlike (π : Platform B) (ctx ctx' : Str → Option B) : Prop where
  account : DecodesAlike ctx ctx' π.pb.account
  genesisStatus : DecodesAlike ctx ctx' π.pb.genesisStatus
  atomicSwapInfo : DecodesAlike ctx ctx' π.pb.atomicSwapInfo
  pubKeyStorage : DecodesAlike ctx ctx' π.pb.pubKeyStorage
  setting : DecodesAlike ctx ctx' π.pb.setting
  blockInfoConfig : DecodesAlike ctx ctx' π.pb.blockInfoConfig
  blockInfo : DecodesAlike ctx ctx' π.pb.blockInfo

namespace StatesAlike

variable (h : StatesAlike π ctx ctx')
include h

theorem run_genesis (signer : Str) (payload : GenesisPayload) :
    (genesis π signer payload).run ctx = (genesis π signer payload).run ctx' := by
  simp only [genesis, StoreM.run_bind, StoreM.run_ofExcept, run_getData, StoreM.run_raiseIf,
    StoreM.run_pure, h.genesisStatus _]

theorem run_transferFromAddress (addressFrom : Str) (payload : TransferPayload) :
    (transferFromAddress π addressFrom payload).run ctx =
      (transferFromAddress π addressFrom payload).run ctx' := by
  simp only [transferFromAddress, StoreM.run_bind, StoreM.run_ofExcept, run_getData,
    StoreM.run_raiseIf, StoreM.run_pure, h.account _]

theorem run_transfer (signer : Str) (payload : TransferPayload) :
    (transfer π signer payload).run ctx = (transfer π signer payload).run ctx' := by
  simp only [transfer, StoreM.run_bind, StoreM.run_ofExcept, StoreM.run_pure,
    h.run_transferFromAddress]

theorem run_getLatestBlockInfo :
    (getLatestBlockInfo π).run ctx = (getLatestBlockInfo π).run ctx' := by
  simp only [getLatestBlockInfo, StoreM.run_bind, run_getData, StoreM.run_orRaise,
    h.blockInfoConfig _, h.blockInfo _]

theorem run_getSettingValue (key : Str) (defaultValue : Option Str) :
    (getSettingValue π key defaultValue).run ctx =
      (getSettingValue π key defaultValue).run ctx' := by
  simp only [getSettingValue, getSettingEntry, StoreM.run_bind, run_getData,
    StoreM.run_pure, h.setting _]

theorem run_swapInit (signer : Str) (payload : AtomicSwapInitPayload) :
    (swapInit π signer payload).run ctx = (swapInit π signer payload).run ctx' := by
  simp only [swapInit, StoreM.run_bind, StoreM.run_ofExcept, run_getData, StoreM.run_raiseIf,
    StoreM.run_orRaise, StoreM.run_pure, h.account _, h.atomicSwapInfo _, h.run_getLatestBlockInfo,
    h.run_getSettingValue, h.run_transferFromAddress]

theorem run_getSwap (swapId : Str) : (getSwap π swapId).run ctx = (getSwap π swapId).run ctx' := by
  simp only [getSwap, StoreM.run_bind, StoreM.run_ofExcept, run_getData, StoreM.run_raiseIf,
    StoreM.run_orRaise, StoreM.run_pure, h.atomicSwapInfo _]

theorem run_swapSetLock (payload : AtomicSwapSetSecretLockPayload) :
    (swapSetLock π payload).run ctx = (swapSetLock π payload).run ctx' := by
  simp only [swapSetLock, StoreM.run_bind, StoreM.run_raiseIf, StoreM.run_pure, h.run_getSwap]

theorem run_swapApprove (signer : Str) (payload : AtomicSwapApprovePayload) :
    (swapApprove π signer payload).run ctx = (swapApprove π signer payload).run ctx' := by
  simp only [swapApprove, StoreM.run_bind, StoreM.run_ofExcept, StoreM.run_raiseIf,
    StoreM.run_pure, h.run_getSwap]

theorem run_swapExpire (signer : Str) (payload : AtomicSwapExpirePayload) :
    (swapExpire π tz signer payload).run ctx = (swapExpire π tz signer payload).run ctx' := by
  simp only [swapExpire, StoreM.run_bind, StoreM.run_ofExcept, run_getData, StoreM.run_raiseIf,
    StoreM.run_pure, h.account _, h.run_getLatestBlockInfo, h.run_getSwap]

theorem run_swapClose (payload : AtomicSwapClosePayload) :
    (swapClose π payload).run ctx = (swapClose π payload).run ctx' := by
  simp only [swapClose, StoreM.run_bind, StoreM.run_ofExcept, run_getData, StoreM.run_raiseIf,
    StoreM.run_pure, h.account _, h.run_getSwap]

theorem run_chargeForStoring (addressFrom : Str) :
    (chargeForStoring π addressFrom).run ctx = (chargeForStoring π addressFrom).run ctx' := by
  simp only [chargeForStoring, chargeTokensForStoring, StoreM.run_bind, StoreM.run_orRaise,
    StoreM.run_raiseIf, StoreM.run_pure, h.run_getSettingValue, h.run_transferFromAddress,
    apply_ite (StoreM.run ctx), apply_ite (StoreM.run ctx')]

theorem run_storePubKey (signer : Str) (payload : NewPubKeyPayload) :
    (storePubKey π tz signer payload).run ctx = (storePubKey π tz signer payload).run ctx' := by
  simp only [storePubKey, getPublicKeyProcessor, StoreM.run_bind, StoreM.run_ofExcept,
    run_getData, StoreM.run_raiseIf, StoreM.run_orRaise, StoreM.run_pure, h.account _,
    h.pubKeyStorage _, h.run_chargeForStoring]

theorem run_storePublicKeyForOther (signer : Str) (payload : NewPubKeyStoreAndPayPayload) :
    (storePublicKeyForOther π tz signer payload).run ctx =
      (storePublicKeyForOther π tz signer payload).run ctx' := by
  simp only [storePublicKeyForOther, getPublicKeyProcessor, StoreM.run_bind,
    StoreM.run_ofExcept, run_getData, StoreM.run_raiseIf, StoreM.run_orRaise, StoreM.run_pure,
    h.account _, h.pubKeyStorage _, h.run_chargeForStoring]

theorem run_revokePubKey (signer : Str) (payload : RevokePubKeyPayload) :
    (revokePubKey π signer payload).run ctx = (revokePubKey π signer payload).run ctx' := by
  simp only [revokePubKey, StoreM.run_bind, run_getData, StoreM.run_raiseIf,
    StoreM.run_orRaise, StoreM.run_pure, h.pubKeyStorage _]

/-- An operation cannot tell two states apart that decode alike. -/
theorem run_processor (signer : Str) (op : Operation) :
    (op.processor π tz signer).run ctx = (op.processor π tz signer).run ctx' := by
  cases op with
  | transfer payload => exact h.run_transfer signer payload
  | genesis payload => exact h.run_genesis signer payload
  | swapInit payload => exact h.run_swapInit signer payload
  | swapApprove payload => exact h.run_swapApprove signer payload
  | swapExpire payload => exact h.run_swapExpire signer payload
  | swapSetLock payload => exact h.run_swapSetLock payload
  | swapClose payload => exact h.run_swapClose payload
  | store payload => exact h.run_storePubKey signer payload
  | revoke payload => exact h.run_revokePubKey signer payload
  | storeAndPay payload => exact h.run_storePublicKeyForOther signer payload

end StatesAlike

/-! ## Corrupt records -/

/-- Bytes that no class of the state decodes. -/
structure Malformed (pb : Protobuf B) (data : B) : Prop where
  account : pb.account.parseFromString data = none
  genesisStatus : pb.genesisStatus.parseFromString data = none
  atomicSwapInfo : pb.atomicSwapInfo.parseFromString data = none
  pubKeyStorage : pb.pubKeyStorage.parseFromString data = none
  setting : pb.setting.parseFromString data = none
  blockInfoConfig : pb.blockInfoConfig.parseFromString data = none
  blockInfo : pb.blockInfo.parseFromString data = none

theorem decodesAlike_of_absent {codec : Codec B α} {address : Str} {data : B}
    (hdata : ctx address = some data) (hparse : codec.parseFromString data = none)
    (habsent : ctx' address = none) (hrest : ∀ a, a ≠ address → ctx' a = ctx a) :
    DecodesAlike ctx ctx' codec := by
  intro a
  by_cases ha : a = address
  · rw [ha, hdata, habsent, Option.bind_some, hparse, Option.bind_none]
  · rw [hrest a ha]

/-- A state with malformed bytes at an address decodes as the state without them. -/
theorem Malformed.statesAlike {address : Str} {data : B} (hdata : ctx address = some data)
    (h : Malformed π.pb data) (habsent : ctx' address = none)
    (hrest : ∀ a, a ≠ address → ctx' a = ctx a) : StatesAlike π ctx ctx' where
  account := decodesAlike_of_absent hdata h.account habsent hrest
  genesisStatus := decodesAlike_of_absent hdata h.genesisStatus habsent hrest
  atomicSwapInfo := decodesAlike_of_absent hdata h.atomicSwapInfo habsent hrest
  pubKeyStorage := decodesAlike_of_absent hdata h.pubKeyStorage habsent hrest
  setting := decodesAlike_of_absent hdata h.setting habsent hrest
  blockInfoConfig := decodesAlike_of_absent hdata h.blockInfoConfig habsent hrest
  blockInfo := decodesAlike_of_absent hdata h.blockInfo habsent hrest

theorem Malformed.apply_eq {state state' : Dict Str B} {address : Str} {data : B}
    (hdata : state.get? address = some data) (h : Malformed π.pb data)
    (habsent : state'.get? address = none)
    (hrest : ∀ a, a ≠ address → state'.get? a = state.get? a) (signer : Str) (op : Operation) :
    op.apply π tz signer state = op.apply π tz signer state' := by
  have hrun : (op.processor π tz signer).run state.get? =
      (op.processor π tz signer).run state'.get? :=
    (h.statesAlike hdata habsent hrest).run_processor signer op
  simp only [Operation.apply, hrun]

end Alike

section Service

variable {B M : Type} {ctx : Str → Option B} {readable : Str → Prop} {address : Str}
  {pbClass : PbClass B M} {reply : StateReply B} {data : B}

/-- A direct read of bytes that do not decode: denied, or nothing. -/
theorem directRead_corrupt [DecidablePred readable]
    (hreply : Answers ctx readable [address] reply) (hdata : ctx address = some data)
    (hparse : pbClass data = .error .decodeError) :
    directRead address pbClass reply =
      if readable address then .ok none else .error (noAccess address) := by
  rw [directRead, hreply.reply?_eq noAccess, hdata]
  split_ifs with hreadable
  · simp only [Except.bind, decode, hparse]
  · rfl

/-- What the validator can reply to a request for one address. -/
theorem exists_answers (ctx : Str → Option B) (readable : Str → Prop) (address : Str) :
    ∃ reply : StateReply B, Answers ctx readable [address] reply := by
  by_cases hreadable : readable address
  · exact ⟨_, .of_all (List.forall_mem_singleton.mpr hreadable)⟩
  · exact ⟨.error .authorizationException, .of_denied hreadable⟩

/-- The service refuses bytes that do not decode. -/
def Refused (r : CachedRead B M) : Prop :=
  (∃ message, r.result = .error (.internalError message)) ∧ r.result ≠ .ok none

theorem ReadState.Transparent.refused_iff {r : CachedRead B M}
    (h : ReadState.Transparent ctx readable r) (hdata : ctx r.address = some data)
    (hparse : r.pbClass data = .error .decodeError) : Refused r ↔ ¬readable r.address := by
  classical
  obtain ⟨reply, hreply⟩ := exists_answers ctx readable r.address
  have hresult : r.result = if readable r.address then .ok none else .error (noAccess r.address) :=
    (h reply hreply).trans (directRead_corrupt hreply hdata hparse)
  unfold Refused
  rw [hresult]
  by_cases hreadable : readable r.address
  · simp [hreadable]
  · simp [hreadable, noAccess]

/-- A read of bytes that do not decode is refused only where the validator denies the address,
and every operation does on malformed bytes what it does on no bytes. -/
theorem corrupt_reads_as_absent (π : Platform B) (tz : TimeZone) {inputs : List Str}
    (hinputs : ∀ a ∈ preloaded inputs, readable a)
    (hpreload : Answers ctx readable (preloaded inputs) reply) :
    (∃ storage, preloadState .empty reply = .ok storage ∧
      ∀ (ts : List (Transition (ReadState B M) (ReadAction B M))) (s : ReadState B M),
        Run (ReadState.Step ctx readable) { storage } ts s →
          ∀ r ∈ s.reads, ∀ data, ctx r.address = some data →
            r.pbClass data = .error .decodeError → (Refused r ↔ ¬readable r.address)) ∧
    ∀ (op : Operation) (signer : Str) (state state' : Dict Str B) (address : Str) (data : B),
      state.get? address = some data → Malformed π.pb data → state'.get? address = none →
        (∀ a, a ≠ address → state'.get? a = state.get? a) →
          op.apply π tz signer state = op.apply π tz signer state' := by
  refine ⟨?_, fun op signer state state' address data hdata hmalformed habsent hrest =>
    hmalformed.apply_eq hdata habsent hrest signer op⟩
  obtain ⟨storage, hstorage, hvalid⟩ :=
    preloadState_valid hinputs ReadCache.valid_empty hpreload
  refine ⟨storage, hstorage, fun ts s hrun r hr data hdata hparse => ?_⟩
  exact (ReadState.sound_of_run hvalid hrun).reads r hr |>.refused_iff hdata hparse

end Service

namespace Sample

/-- No message of any class. -/
def corruptBytes : Data := .raw [0xff]

/-- A funded signer, and a swap record that does not decode. -/
def corruptState : Dict Str Data :=
  (storeBeforeInit "10".toList).set (swapAddress platform swapId) corruptBytes

def swapInfoClass : PbClass Data Message := .ofCodec protobuf.atomicSwapInfo .atomicSwapInfo

theorem corruptState_swap :
    corruptState.get? (swapAddress platform swapId) = some corruptBytes :=
  Dict.get?_set_self _ _ _

theorem corruptBytes_malformed : Malformed platform.pb corruptBytes where
  account := rfl
  genesisStatus := rfl
  atomicSwapInfo := rfl
  pubKeyStorage := rfl
  setting := rfl
  blockInfoConfig := rfl
  blockInfo := rfl

theorem swapInit_accepted_on_corrupt : ∃ updated,
    (Operation.swapInit initPayload).apply platform utc alice corruptState = .ok updated ∧
      (updated.get? (swapAddress platform swapId)).isSome = true := by
  have hupdated : ((Operation.swapInit initPayload).apply platform utc alice
      corruptState).toOption.any
        (fun updated => (updated.get? (swapAddress platform swapId)).isSome) = true := by
    decide +kernel
  obtain ⟨updated, happly, hwritten⟩ := (Option.any_eq_true _ _).mp hupdated
  exact ⟨updated, eq_ok_of_toOption happly, hwritten⟩

/-- The declared prefix of the swaps. -/
def swapsReadable (address : Str) : Prop := "78173b".toList <+: address

theorem swapAddress_readable :
    ∀ a ∈ preloaded [swapAddress platform swapId], swapsReadable a := by
  intro a ha
  apply List.isPrefixOf_iff_prefix.mp
  revert a ha
  decide +kernel

theorem swapAddress_preloaded :
    preloaded [swapAddress platform swapId] = [swapAddress platform swapId] := by decide +kernel

end Sample

/-- INIT with the id of a swap whose record does not decode: the read yields `None`, and the
record is overwritten. -/
theorem corrupt_swap_overwritten :
    Sample.corruptState.get? (swapAddress Sample.platform Sample.swapId) =
        some Sample.corruptBytes ∧
      Sample.swapInfoClass Sample.corruptBytes = .error .decodeError ∧
      (getCachedData .empty (swapAddress Sample.platform Sample.swapId) Sample.swapInfoClass
        (.ok [(swapAddress Sample.platform Sample.swapId, some Sample.corruptBytes)])).2 =
          .ok none ∧
      ∃ updated, (Operation.swapInit Sample.initPayload).apply Sample.platform Sample.utc
          Sample.alice Sample.corruptState = .ok updated ∧
        (updated.get? (swapAddress Sample.platform Sample.swapId)).isSome = true :=
  ⟨Sample.corruptState_swap, rfl, rfl, Sample.swapInit_accepted_on_corrupt⟩

/-- The record is read and not refused, and INIT does what it does for a fresh id. -/
theorem corrupt_swap_as_absent :
    (∃ (storage : Dict Str (Option Sample.Data))
        (ts : List (Transition (ReadState Sample.Data Message) (ReadAction Sample.Data Message)))
        (s : ReadState Sample.Data Message),
      Run (ReadState.Step Sample.corruptState.get? Sample.swapsReadable) { storage } ts s ∧
        ∃ r ∈ s.reads, r.address = swapAddress Sample.platform Sample.swapId ∧ ¬Refused r) ∧
      (Operation.swapInit Sample.initPayload).apply Sample.platform Sample.utc Sample.alice
          Sample.corruptState =
        (Operation.swapInit Sample.initPayload).apply Sample.platform Sample.utc Sample.alice
          (Sample.storeBeforeInit "10".toList) := by
  have hreadable := Sample.swapAddress_readable
  have hpreload : Answers Sample.corruptState.get? Sample.swapsReadable
      (preloaded [swapAddress Sample.platform Sample.swapId]) (_ : StateReply Sample.Data) :=
    .of_all hreadable
  obtain ⟨⟨storage, -, hrefused⟩, hsame⟩ :=
    corrupt_reads_as_absent (M := Message) Sample.platform Sample.utc hreadable hpreload
  rw [Sample.swapAddress_preloaded] at hreadable hpreload
  obtain ⟨ts, s, hrun, hreads⟩ :=
    ReadState.exists_getData_run storage Sample.swapInfoClass hpreload
  obtain ⟨r, hr, haddress, hclass⟩ : ∃ r ∈ s.reads,
      r.address = swapAddress Sample.platform Sample.swapId ∧ r.pbClass = Sample.swapInfoClass := by
    rw [hreads]
    exact ⟨_, List.mem_singleton_self _, rfl, rfl⟩
  have hdata : Sample.corruptState.get? r.address = some Sample.corruptBytes := by
    rw [haddress]
    exact Sample.corruptState_swap
  have hparse : r.pbClass Sample.corruptBytes = .error .decodeError := by
    rw [hclass]
    rfl
  have hread : Sample.swapsReadable r.address := by
    rw [haddress]
    exact List.forall_mem_singleton.mp hreadable
  have hnot : ¬Refused r := fun hrefuses =>
    (hrefused ts s hrun r hr Sample.corruptBytes hdata hparse).mp hrefuses hread
  constructor
  · exact ⟨storage, ts, s, hrun, r, hr, haddress, hnot⟩
  · apply hsame _ _ _ _ (swapAddress Sample.platform Sample.swapId) Sample.corruptBytes
      Sample.corruptState_swap Sample.corruptBytes_malformed
    · have hfresh : ((Sample.storeBeforeInit "10".toList).get?
          (swapAddress Sample.platform Sample.swapId)).isNone = true := by decide +kernel
      exact Option.isNone_iff_eq_none.mp hfresh
    · intro a ha
      exact (Dict.get?_set_of_ne _ _ (Ne.symm ha)).symm

end Remme.Tp
