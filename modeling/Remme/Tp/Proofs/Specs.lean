import Remme.Tp.Proofs.Addresses
/-!
# One specification for each processor

For every processor: it returns `u` exactly when its guards hold, and then `u`
is the dictionary the code builds.  Later proofs use these equivalences and
never unfold a processor.
-/

namespace Remme.Tp

open Remme.Lib Remme.Protos Remme.Shared Remme.Settings Remme.Clients.BlockInfo

variable {B : Type} {π : Platform B} {tz : TimeZone} {ctx : Str → Option B}

/-! ## Addresses and reads -/

theorem makeAddressFromData_account (publicKey : Str) :
    makeAddressFromData π .account (Text.encodeUtf8 publicKey) =
      .ok (accountAddress π publicKey) :=
  makeAddressFromData_eq π _ _

theorem makeAddressFromData_atomicSwap (swapId : Str) :
    makeAddressFromData π .atomicSwap (Text.encodeUtf8 swapId) = .ok (swapAddress π swapId) :=
  makeAddressFromData_eq π _ _

theorem makeAddressFromData_pubKey (key : Bytes) :
    makeAddressFromData π .pubKey key = .ok (pubKeyAddress π key) :=
  makeAddressFromData_eq π _ _

theorem run_getAccount (a : Str) :
    (getData π.pb.account a).run ctx = .ok (accountAt π ctx a) := rfl

theorem run_getSwapInfo (a : Str) :
    (getData π.pb.atomicSwapInfo a).run ctx = .ok (swapAt π ctx a) := rfl

theorem run_getPubKey (a : Str) :
    (getData π.pb.pubKeyStorage a).run ctx = .ok (pubKeyAt π ctx a) := rfl

theorem run_getGenesisStatus (a : Str) :
    (getData π.pb.genesisStatus a).run ctx = .ok (genesisStatusAt π ctx a) := rfl

theorem balance_eq_balanceAt (a : Str) :
    ((accountAt π ctx a).getD {}).balance.toNat = balanceAt π ctx a := rfl

theorem run_getLatestBlockInfo {block : BlockInfo} :
    (getLatestBlockInfo π).run ctx = .ok block ↔ latestBlock π ctx = some block := by
  simp only [getLatestBlockInfo, latestBlock, StoreM.run_bind_eq_ok, run_getData,
    StoreM.run_orRaise_eq_ok, Except.ok.injEq, exists_eq_left', Option.bind_eq_some_iff]

theorem run_getSettingValue (key : Str) (defaultValue : Option Str) :
    (getSettingValue π key defaultValue).run ctx = .ok (settingValue π ctx key defaultValue) :=
  rfl

/-! ## Accounts -/

theorem genesis_spec {signer : Str} {payload : GenesisPayload} {u : Dict Str Message} :
    (genesis π signer payload).run ctx = .ok u ↔
      ¬(genesisStatusAt π ctx genesisAddress).any (·.status) ∧
      u = .ofList
        [(accountAddress π signer, .account { balance := payload.totalSupply }),
         (genesisAddress,
           .genesisStatus ((genesisStatusAt π ctx genesisAddress).getD { status := true }))] := by
  simp only [genesis, StoreM.run_bind_eq_ok, StoreM.run_raiseIf_eq_ok, run_getGenesisStatus,
    StoreM.run_ofExcept, StoreM.run_pure, makeAddressFromData_account, Except.ok.injEq,
    exists_eq_left', exists_const]
  constructor
  · rintro ⟨hstatus, rfl⟩
    exact ⟨hstatus, rfl⟩
  · rintro ⟨hstatus, rfl⟩
    exact ⟨hstatus, rfl⟩

theorem transferFromAddress_spec {addressFrom : Str} {payload : TransferPayload}
    {u : Dict Str Account} :
    (transferFromAddress π addressFrom payload).run ctx = .ok u ↔
      payload.value ≠ 0 ∧ IsAccountAddress π payload.addressTo ∧ addressFrom ≠ payload.addressTo ∧
      ∃ debited credited : UInt64,
        debited.toNat + payload.value.toNat = balanceAt π ctx addressFrom ∧
        credited.toNat = balanceAt π ctx payload.addressTo + payload.value.toNat ∧
        u = .ofList
          [(addressFrom, { (accountAt π ctx addressFrom).getD {} with balance := debited }),
           (payload.addressTo,
             { (accountAt π ctx payload.addressTo).getD {} with balance := credited })] := by
  simp only [transferFromAddress, StoreM.run_bind_eq_ok, StoreM.run_raiseIf_eq_ok, run_getAccount,
    balance_eq_balanceAt, StoreM.run_ofExcept, StoreM.run_pure, Except.ok.injEq, exists_eq_left',
    exists_const, uint64Field_eq_ok, UInt64.lt_iff_toNat_lt]
  simp only [IsAccountAddress]
  constructor
  · rintro ⟨hvalue, hto, hne, hle, credited, hcredited, debited, hdebited, rfl⟩
    exact ⟨hvalue, by tauto, hne, debited, credited, by omega, by omega, rfl⟩
  · rintro ⟨hvalue, hto, hne, debited, credited, hdebited, hcredited, rfl⟩
    exact ⟨hvalue, by tauto, hne, by omega, credited, by omega, debited, by omega, rfl⟩

theorem transfer_spec {signer : Str} {payload : TransferPayload} {u : Dict Str Message} :
    (transfer π signer payload).run ctx = .ok u ↔
      ∃ accounts, (transferFromAddress π (accountAddress π signer) payload).run ctx =
        .ok accounts ∧ u = accounts.mapVals .account := by
  simp only [transfer, StoreM.run_bind_eq_ok, StoreM.run_ofExcept, StoreM.run_pure,
    makeAddressFromData_account, Except.ok.injEq, exists_eq_left']
  constructor
  · rintro ⟨accounts, haccounts, rfl⟩
    exact ⟨accounts, haccounts, rfl⟩
  · rintro ⟨accounts, haccounts, rfl⟩
    exact ⟨accounts, haccounts, rfl⟩

/-! ## Swaps -/

theorem getSwap_spec {swapId a : Str} {swap : AtomicSwapInfo} :
    (getSwap π swapId).run ctx = .ok (a, swap) ↔
      a = swapAddress π swapId ∧ swapAt π ctx (swapAddress π swapId) = some swap ∧
        notPermittedToChange swap.state = false := by
  simp only [getSwap, StoreM.run_bind_eq_ok, StoreM.run_raiseIf_eq_ok, run_getSwapInfo,
    StoreM.run_ofExcept, StoreM.run_pure, StoreM.run_orRaise_eq_ok, makeAddressFromData_atomicSwap,
    Except.ok.injEq, exists_eq_left', exists_const, Bool.not_eq_true, Prod.mk.injEq]
  constructor
  · rintro ⟨swap', hswap, hstate, rfl, rfl⟩
    exact ⟨rfl, hswap, hstate⟩
  · rintro ⟨rfl, hswap, hstate⟩
    exact ⟨swap, hswap, hstate, rfl, rfl⟩

/-- The record that `_swap_init` writes. -/
def openedSwap (π : Platform B) (signer : Str) (payload : AtomicSwapInitPayload)
    (createdAt : UInt32) : AtomicSwapInfo :=
  { swapId := payload.swapId
    state := .opened
    amount := payload.amount
    createdAt := createdAt
    secretLock := payload.secretLockBySolicitor
    emailAddressEncryptedOptional := payload.emailAddressEncryptedByInitiator
    senderAddress := accountAddress π signer
    senderAddressNonLocal := payload.senderAddressNonLocal
    receiverAddress := payload.receiverAddress
    isInitiator := payload.secretLockBySolicitor.isEmpty }

theorem get?_ofList_fst {κ ν : Type} [DecidableEq κ] {a b : κ} (h : a ≠ b) (x y : ν) :
    (Dict.ofList [(a, x), (b, y)]).get? a = some x := by
  simp [Dict.ofList, Dict.setAll, Dict.get?_set, h.symm]

theorem initUpdates_eq {swap sender zero : Str} (hsz : sender ≠ zero) (hws : swap ≠ sender)
    (hwz : swap ≠ zero) (info : AtomicSwapInfo) (x y z : Account) :
    (Dict.ofList [(swap, .atomicSwapInfo info)]).update
        (((Dict.ofList [(sender, x), (zero, y)]).set sender z).mapVals Message.account) =
      .ofList [(swap, .atomicSwapInfo info), (sender, .account z), (zero, .account y)] := by
  ext1
  simp [Dict.ofList, Dict.update, Dict.setAll, Dict.set, Dict.assign, Dict.empty, Dict.mapVals,
    hsz, hws, hwz]

theorem swapInit_spec {signer : Str} {payload : AtomicSwapInitPayload} {u : Dict Str Message} :
    (swapInit π signer payload).run ctx = .ok u ↔
      swapAt π ctx (swapAddress π payload.swapId) = none ∧
      ∃ block, ∃ createdAt : UInt32, ∃ c : ℕ, ∃ debited credited : UInt64,
        latestBlock π ctx = some block ∧ createdAt.toNat = block.timestamp.toNat ∧
        commission π ctx = some (c : ℤ) ∧ 0 < c ∧
        debited.toNat + payload.amount.toNat + c = balanceAt π ctx (accountAddress π signer) ∧
        credited.toNat = balanceAt π ctx zeroAddress + c ∧
        u = .ofList
          [(swapAddress π payload.swapId,
             .atomicSwapInfo (openedSwap π signer payload createdAt)),
           (accountAddress π signer, .account
             { (accountAt π ctx (accountAddress π signer)).getD {} with balance := debited }),
           (zeroAddress, .account
             { (accountAt π ctx zeroAddress).getD {} with balance := credited })] := by
  have hsz : accountAddress π signer ≠ zeroAddress := accountAddress_ne_zeroAddress signer
  have hws : swapAddress π payload.swapId ≠ accountAddress π signer :=
    (isSwapAddress_swapAddress π _).ne_account (isAccountAddress_accountAddress π _)
  have hwz : swapAddress π payload.swapId ≠ zeroAddress :=
    (isSwapAddress_swapAddress π _).ne_account (isAccountAddress_zeroAddress π)
  simp only [swapInit, StoreM.run_bind_eq_ok, StoreM.run_raiseIf_eq_ok, StoreM.run_pure,
    StoreM.run_ofExcept, StoreM.run_orRaise_eq_ok, makeAddressFromData_account,
    makeAddressFromData_atomicSwap, run_getSwapInfo, run_getAccount, balance_eq_balanceAt,
    run_getLatestBlockInfo, run_getSettingValue, transferFromAddress_spec, uint64Field_eq_ok,
    uint32Field_eq_ok, Except.ok.injEq, exists_const, exists_eq_left', Bool.not_eq_true,
    Option.isSome_eq_false_iff, Option.isNone_iff_eq_none]
  constructor
  · rintro ⟨hfree, block, hblock, createdAt, hcreated, setting, hsetting, c, hc, -, -, value,
      hvalue, ts, ⟨hvalue0, -, -, debited, credited, hdebited, hcredited, rfl⟩, sender, hget,
      balance, hbalance, rfl⟩
    rw [get?_ofList_fst hsz] at hget
    cases hget
    refine ⟨hfree, block, createdAt, value.toNat, balance, credited, hblock, by omega, ?_,
      uint64_ne_zero_iff.mp hvalue0, ?_, hcredited, initUpdates_eq hsz hws hwz _ _ _ _⟩
    · simp [commission, hsetting, hc, hvalue]
    · simp only at hbalance
      omega
  · rintro ⟨hfree, block, createdAt, c, debited, credited, hblock, hcreated, hcommission, hpos,
      hdebited, hcredited, rfl⟩
    obtain ⟨setting, hsetting, hc⟩ := Option.bind_eq_some_iff.mp hcommission
    have hlt : balanceAt π ctx (accountAddress π signer) < 2 ^ 64 := UInt64.toNat_lt _
    obtain ⟨value, hvalue⟩ := exists_uint64 (n := c) (by omega)
    obtain ⟨charged, hcharged⟩ := exists_uint64 (n := debited.toNat + payload.amount.toNat)
      (by omega)
    refine ⟨hfree, block, hblock, createdAt, by omega, setting, hsetting, c, hc, by omega, ?_,
      value, by omega, _, ⟨uint64_ne_zero_iff.mpr (by omega), isAccountAddress_zeroAddress π, hsz,
        charged, credited, ?_, by omega, rfl⟩, _, get?_ofList_fst hsz _ _, debited, ?_,
      initUpdates_eq hsz hws hwz _ _ _ _⟩
    · omega
    · omega
    · simp only
      omega

theorem swapSetLock_spec {payload : AtomicSwapSetSecretLockPayload} {u : Dict Str Message} :
    (swapSetLock π payload).run ctx = .ok u ↔
      ∃ swap, swapAt π ctx (swapAddress π payload.swapId) = some swap ∧
        notPermittedToChange swap.state = false ∧ swap.secretLock = [] ∧
        u = .ofList [(swapAddress π payload.swapId, .atomicSwapInfo
          { swap with secretLock := payload.secretLock, state := .secretLockProvided })] := by
  simp only [swapSetLock, StoreM.run_bind_eq_ok, StoreM.run_raiseIf_eq_ok, StoreM.run_pure,
    getSwap_spec, Except.ok.injEq, exists_const, Prod.exists, ne_eq, not_not]
  constructor
  · rintro ⟨a, swap, ⟨rfl, hswap, hstate⟩, hlock, rfl⟩
    exact ⟨swap, hswap, hstate, hlock, rfl⟩
  · rintro ⟨swap, hswap, hstate, hlock, rfl⟩
    exact ⟨_, swap, ⟨rfl, hswap, hstate⟩, hlock, rfl⟩

theorem swapApprove_spec {signer : Str} {payload : AtomicSwapApprovePayload}
    {u : Dict Str Message} :
    (swapApprove π signer payload).run ctx = .ok u ↔
      ∃ swap, swapAt π ctx (swapAddress π payload.swapId) = some swap ∧
        swap.state = .secretLockProvided ∧ swap.isInitiator = true ∧
        swap.senderAddress = accountAddress π signer ∧ swap.secretLock ≠ [] ∧
        u = .ofList [(swapAddress π payload.swapId, .atomicSwapInfo
          { swap with state := .approved })] := by
  simp only [swapApprove, StoreM.run_bind_eq_ok, StoreM.run_raiseIf_eq_ok, StoreM.run_pure,
    StoreM.run_ofExcept, makeAddressFromData_account, getSwap_spec, Except.ok.injEq, exists_const,
    exists_eq_left', Prod.exists, ne_eq, not_not, not_or]
  constructor
  · rintro ⟨a, swap, ⟨rfl, hswap, -⟩, ⟨hinit, hsender⟩, hlock, hstate, rfl⟩
    exact ⟨swap, hswap, hstate, hinit, hsender, hlock, rfl⟩
  · rintro ⟨swap, hswap, hstate, hinit, hsender, hlock, rfl⟩
    exact ⟨_, swap, ⟨rfl, hswap, by simp [notPermittedToChange, hstate]⟩, ⟨hinit, hsender⟩, hlock,
      hstate, rfl⟩

/-- The withdrawal check of `_swap_expire` on a node with rule `tz`: the local times exist
and the block is not before the deadline. -/
def Withdrawable (tz : TimeZone) (swap : AtomicSwapInfo) (block : BlockInfo) : Prop :=
  ∃ blockTime createdAt deadline,
    fromtimestamp tz block.timestamp.toNat = .ok blockTime ∧
    fromtimestamp tz swap.createdAt.toNat = .ok createdAt ∧
    addTimedelta createdAt (timeLock swap.isInitiator * 3600 : ℕ) = .ok deadline ∧
    deadline ≤ blockTime

theorem swapExpire_spec {signer : Str} {payload : AtomicSwapExpirePayload}
    {u : Dict Str Message} :
    (swapExpire π tz signer payload).run ctx = .ok u ↔
      ∃ swap block, ∃ balance : UInt64,
        swapAt π ctx (swapAddress π payload.swapId) = some swap ∧
        notPermittedToChange swap.state = false ∧
        swap.senderAddress = accountAddress π signer ∧
        latestBlock π ctx = some block ∧ Withdrawable tz swap block ∧
        balance.toNat = balanceAt π ctx (accountAddress π signer) + swap.amount.toNat ∧
        u = .ofList
          [(swapAddress π payload.swapId, .atomicSwapInfo { swap with state := .expired }),
           (accountAddress π signer, .account
             { (accountAt π ctx (accountAddress π signer)).getD {} with balance := balance })] := by
  simp only [swapExpire, StoreM.run_bind_eq_ok, StoreM.run_raiseIf_eq_ok, StoreM.run_pure,
    StoreM.run_ofExcept, makeAddressFromData_account, getSwap_spec, run_getLatestBlockInfo,
    run_getAccount, balance_eq_balanceAt, uint64Field_eq_ok, Except.ok.injEq, exists_const,
    exists_eq_left', Prod.exists, ne_eq, not_not, not_lt]
  constructor
  · rintro ⟨a, swap, ⟨rfl, hswap, hstate⟩, hsender, block, hblock, bt, hbt, ca, hca, dl, hdl, hle,
      balance, hbalance, rfl⟩
    have hsender' : swap.senderAddress = accountAddress π signer := hsender.symm
    refine ⟨swap, block, balance, hswap, hstate, hsender', hblock,
      ⟨bt, ca, dl, hbt, hca, hdl, hle⟩, ?_, ?_⟩
    · rw [hsender'] at hbalance
      omega
    · rw [hsender']
  · rintro ⟨swap, block, balance, hswap, hstate, hsender, hblock, ⟨bt, ca, dl, hbt, hca, hdl, hle⟩,
      hbalance, rfl⟩
    refine ⟨_, swap, ⟨rfl, hswap, hstate⟩, hsender.symm, block, hblock, bt, hbt, ca, hca, dl, hdl,
      hle, balance, ?_, ?_⟩
    · rw [hsender]
      omega
    · rw [hsender]

theorem swapClose_spec {payload : AtomicSwapClosePayload} {u : Dict Str Message} :
    (swapClose π payload).run ctx = .ok u ↔
      ∃ swap, ∃ balance : UInt64,
        swapAt π ctx (swapAddress π payload.swapId) = some swap ∧
        notPermittedToChange swap.state = false ∧ swap.secretLock ≠ [] ∧
        web3Hash π payload.secretKey = .ok swap.secretLock ∧
        (swap.isInitiator = true → swap.state = .approved) ∧
        balance.toNat = balanceAt π ctx swap.receiverAddress + swap.amount.toNat ∧
        u = .ofList
          [(swapAddress π payload.swapId, .atomicSwapInfo
             { swap with secretKey := payload.secretKey, state := .closed }),
           (swap.receiverAddress, .account
             { (accountAt π ctx swap.receiverAddress).getD {} with balance := balance })] := by
  simp only [swapClose, StoreM.run_bind_eq_ok, StoreM.run_raiseIf_eq_ok, StoreM.run_pure,
    StoreM.run_ofExcept, getSwap_spec, run_getAccount, balance_eq_balanceAt, uint64Field_eq_ok,
    Except.ok.injEq, exists_const, exists_eq_left', Prod.exists, ne_eq, not_not, not_and]
  constructor
  · rintro ⟨a, swap, ⟨rfl, hswap, hstate⟩, hlock, hashed, hhash, heq, happroved, balance, hbalance,
      rfl⟩
    refine ⟨swap, balance, hswap, hstate, hlock, heq ▸ hhash, happroved, ?_, rfl⟩
    omega
  · rintro ⟨swap, balance, hswap, hstate, hlock, hhash, happroved, hbalance, rfl⟩
    refine ⟨_, swap, ⟨rfl, hswap, hstate⟩, hlock, _, hhash, rfl, happroved, balance, ?_, rfl⟩
    omega

/-! ## Public keys -/

/-- The validity check on a node with rule `tz`: both local times exist and their difference is
not above the maximum. -/
def InValidity (tz : TimeZone) (validFrom validTo : UInt32) : Prop :=
  ∃ x y, fromtimestamp tz validFrom.toNat = .ok x ∧ fromtimestamp tz validTo.toNat = .ok y ∧
    y - x ≤ pubKeyMaxValidity

theorem isPublicKeyValidityExceeded_eq_true {validFrom validTo : UInt32} :
    isPublicKeyValidityExceeded tz validFrom validTo = .ok true ↔
      InValidity tz validFrom validTo := by
  have hpure : ∀ x y : ℤ, (pure (!decide (y - x > pubKeyMaxValidity)) : Except PyError Bool) =
      .ok true ↔ y - x ≤ pubKeyMaxValidity := by
    intro x y
    rw [show (pure (!decide (y - x > pubKeyMaxValidity)) : Except PyError Bool) =
      .ok (!decide (y - x > pubKeyMaxValidity)) from rfl, Except.ok.injEq]
    simp
  simp only [isPublicKeyValidityExceeded, Forms.bind_eq_ok, hpure]
  constructor
  · rintro ⟨x, hx, y, hy, hle⟩
    exact ⟨x, y, hx, hy, hle⟩
  · rintro ⟨x, y, hx, hy, hle⟩
    exact ⟨x, hx, y, hy, hle⟩

/-- What both ways of registering a key ask of its payload: a configuration, a signature that
verifies, an address that is still free, and a validity of at most the maximum. -/
structure Registrable (π : Platform B) (tz : TimeZone) (ctx : Str → Option B)
    (payload : NewPubKeyPayload) (configuration : Configuration) : Prop where
  isSet : payload.configuration = some configuration
  verifies : (detectProcessorCls π payload configuration).verify = .ok true
  isFree : pubKeyAt π ctx (pubKeyAddress π configuration.key) = none
  inValidity : InValidity tz payload.validFrom payload.validTo

theorem getPublicKey_detectProcessorCls (payload : NewPubKeyPayload)
    (configuration : Configuration) :
    (detectProcessorCls π payload configuration).getPublicKey = configuration.key := by
  cases configuration <;> rfl

theorem run_getPublicKeyProcessor {payload : NewPubKeyPayload} {processor : PubKeyProcessor} :
    (getPublicKeyProcessor π payload).run ctx = .ok processor ↔
      ∃ configuration, payload.configuration = some configuration ∧
        processor = detectProcessorCls π payload configuration := by
  simp only [getPublicKeyProcessor, StoreM.run_bind_eq_ok, StoreM.run_orRaise_eq_ok,
    StoreM.run_pure, Except.ok.injEq, eq_comm (b := processor)]

theorem storePublicKeyToAccount_balance (p : Str) (m : Account) :
    (storePublicKeyToAccount p m).balance = m.balance := by
  unfold storePublicKeyToAccount
  split <;> rfl

/-- The transfer of the price of a key to the zero address. -/
def Charged (π : Platform B) (ctx : Str → Option B) (addressFrom : Str)
    (accounts : Dict Str Account) : Prop :=
  ∃ debited credited : UInt64,
    debited.toNat + 10 = balanceAt π ctx addressFrom ∧
    credited.toNat = balanceAt π ctx zeroAddress + 10 ∧
    accounts = .ofList
      [(addressFrom, { (accountAt π ctx addressFrom).getD {} with balance := debited }),
       (zeroAddress, { (accountAt π ctx zeroAddress).getD {} with balance := credited })]

/-- What `_charge_for_storing` returns. -/
def ChargeOutcome (π : Platform B) (ctx : Str → Option B) (addressFrom : Str) :
    Option (Dict Str Account) → Prop
  | none => economyEnabled π ctx = false
  | some accounts => economyEnabled π ctx = true ∧ Charged π ctx addressFrom accounts

theorem chargeTokensForStoring_spec {addressFrom : Str} {accounts : Dict Str Account}
    (hne : addressFrom ≠ zeroAddress) :
    (chargeTokensForStoring π addressFrom zeroAddress).run ctx = .ok accounts ↔
      Charged π ctx addressFrom accounts := by
  have hprice : pubKeyStorePrice.toNat = 10 := rfl
  have hnonzero : pubKeyStorePrice ≠ 0 := by decide
  simp only [chargeTokensForStoring, StoreM.run_bind_eq_ok, StoreM.run_raiseIf_eq_ok,
    exists_const, transferFromAddress_spec, hprice, Charged]
  constructor
  · rintro ⟨-, -, -, -, hrest⟩
    exact hrest
  · intro hrest
    exact ⟨Ne.symm hne, hnonzero, isAccountAddress_zeroAddress π, hne, hrest⟩

theorem settingValue_default (π : Platform B) (ctx : Str → Option B) (key value : Str) :
    ∃ v, settingValue π ctx key (some value) = some v := by
  unfold settingValue
  generalize ((ctx (makeSettingsKey π key)).bind π.pb.setting.parseFromString).getD {} = setting
  cases hfind : setting.entries.find? fun entry => key = entry.key with
  | none => exact ⟨value, by simp [hfind]⟩
  | some entry => exact ⟨entry.value, by simp [hfind]⟩

theorem chargeForStoring_spec {addressFrom : Str} {charged : Option (Dict Str Account)}
    (hne : addressFrom ≠ zeroAddress) :
    (chargeForStoring π addressFrom).run ctx = .ok charged ↔
      ChargeOutcome π ctx addressFrom charged := by
  obtain ⟨value, hvalue⟩ := settingValue_default π ctx
    "remme.economy_enabled".toList "true".toList
  have heconomy : economyEnabled π ctx = decide (Text.lower value = "true".toList) := by
    unfold economyEnabled
    rw [hvalue]
    rfl
  simp only [chargeForStoring, StoreM.run_bind_eq_ok, run_getSettingValue, hvalue,
    StoreM.run_orRaise_eq_ok, Except.ok.injEq, exists_eq_left', Option.some.injEq]
  by_cases htrue : Text.lower value = "true".toList
  · have hon : economyEnabled π ctx = true := by rw [heconomy, decide_eq_true htrue]
    simp only [if_pos htrue, StoreM.run_bind_eq_ok, StoreM.run_pure, Except.ok.injEq,
      chargeTokensForStoring_spec hne]
    cases charged with
    | none => simp [ChargeOutcome, hon]
    | some accounts => simp [ChargeOutcome, hon]
  · have hoff : economyEnabled π ctx = false := by rw [heconomy, decide_eq_false htrue]
    simp only [if_neg htrue, StoreM.run_pure, Except.ok.injEq]
    cases charged with
    | none => simp [ChargeOutcome, hoff]
    | some accounts => simp [ChargeOutcome, hoff]

/-- The owner's signature over the serialized key payload verifies. -/
def OwnerSigned (π : Platform B) (payload : NewPubKeyStoreAndPayPayload) : Prop :=
  π.secp256k1FromHex payload.owner = true ∧
    π.secp256k1Verify (Text.bytesHex payload.signatureByOwner)
      (π.pb.newPubKeyPayload.serializeToString (payload.pubKeyPayload.getD {})) payload.owner =
        true

theorem storePubKey_spec {signer : Str} {payload : NewPubKeyPayload} {u : Dict Str Message} :
    (storePubKey π tz signer payload).run ctx = .ok u ↔
      ∃ configuration charged, Registrable π tz ctx payload configuration ∧
        ChargeOutcome π ctx (accountAddress π signer) charged ∧
        u = ((Dict.ofList
            [(accountAddress π signer,
               .account ((accountAt π ctx (accountAddress π signer)).getD {})),
             (pubKeyAddress π configuration.key, .pubKeyStorage
               { owner := signer, payload := payload, isRevoked := false })]).update
            ((charged.getD .empty).mapVals .account)).set (accountAddress π signer)
          (.account (storePublicKeyToAccount (pubKeyAddress π configuration.key)
            (((charged.getD .empty).get? (accountAddress π signer)).getD
              ((accountAt π ctx (accountAddress π signer)).getD {})))) := by
  simp only [storePubKey, StoreM.run_bind_eq_ok, StoreM.run_raiseIf_eq_ok, StoreM.run_pure,
    StoreM.run_ofExcept, run_getPublicKeyProcessor, makeAddressFromData_pubKey,
    makeAddressFromData_account, run_getPubKey, run_getAccount,
    chargeForStoring_spec (accountAddress_ne_zeroAddress signer), Except.ok.injEq, exists_const,
    exists_eq_left', Bool.not_eq_false, Bool.not_eq_true, Option.isSome_eq_false_iff,
    Option.isNone_iff_eq_none]
  constructor
  · rintro ⟨_, ⟨configuration, hset, rfl⟩, _, hverify, rfl, hfree, _, hvalid, rfl, charged,
      hcharged, rfl⟩
    rw [getPublicKey_detectProcessorCls] at hfree ⊢
    exact ⟨configuration, charged,
      ⟨hset, hverify, hfree, isPublicKeyValidityExceeded_eq_true.mp hvalid⟩, hcharged, rfl⟩
  · rintro ⟨configuration, charged, ⟨hset, hverify, hfree, hvalid⟩, hcharged, rfl⟩
    refine ⟨_, ⟨configuration, hset, rfl⟩, _, hverify, rfl, ?_, _,
      isPublicKeyValidityExceeded_eq_true.mpr hvalid, rfl, charged, hcharged, ?_⟩
    · rw [getPublicKey_detectProcessorCls]
      exact hfree
    · rw [getPublicKey_detectProcessorCls]

theorem storePublicKeyForOther_spec {signer : Str} {payload : NewPubKeyStoreAndPayPayload}
    {u : Dict Str Message} :
    (storePublicKeyForOther π tz signer payload).run ctx = .ok u ↔
      OwnerSigned π payload ∧
      ∃ configuration charged,
        Registrable π tz ctx (payload.pubKeyPayload.getD {}) configuration ∧
        ChargeOutcome π ctx (accountAddress π signer) charged ∧
        u = ((Dict.ofList
            [(accountAddress π payload.owner,
               .account ((accountAt π ctx (accountAddress π payload.owner)).getD {})),
             (accountAddress π signer,
               .account ((accountAt π ctx (accountAddress π signer)).getD {})),
             (pubKeyAddress π configuration.key, .pubKeyStorage
               { owner := payload.owner, payload := payload.pubKeyPayload.getD {},
                 isRevoked := false })]).update
            ((charged.getD .empty).mapVals .account)).set (accountAddress π payload.owner)
          (.account (storePublicKeyToAccount (pubKeyAddress π configuration.key)
            ((accountAt π ctx (accountAddress π payload.owner)).getD {}))) := by
  simp only [storePublicKeyForOther, StoreM.run_bind_eq_ok, StoreM.run_raiseIf_eq_ok,
    StoreM.run_pure, StoreM.run_ofExcept, run_getPublicKeyProcessor, makeAddressFromData_pubKey,
    makeAddressFromData_account, run_getPubKey, run_getAccount,
    chargeForStoring_spec (accountAddress_ne_zeroAddress signer), Except.ok.injEq, exists_const,
    exists_eq_left', Bool.not_eq_false, Bool.not_eq_true, Option.isSome_eq_false_iff,
    Option.isNone_iff_eq_none, OwnerSigned, NewPubKeyStoreAndPayPayload.owner]
  constructor
  · rintro ⟨hhex, hsigned, _, ⟨configuration, hset, rfl⟩, _, hverify, rfl, hfree, _, hvalid, rfl,
      charged, hcharged, rfl⟩
    rw [getPublicKey_detectProcessorCls] at hfree ⊢
    exact ⟨⟨hhex, hsigned⟩, configuration, charged,
      ⟨hset, hverify, hfree, isPublicKeyValidityExceeded_eq_true.mp hvalid⟩, hcharged, rfl⟩
  · rintro ⟨⟨hhex, hsigned⟩, configuration, charged, ⟨hset, hverify, hfree, hvalid⟩, hcharged, rfl⟩
    refine ⟨hhex, hsigned, _, ⟨configuration, hset, rfl⟩, _, hverify, rfl, ?_, _,
      isPublicKeyValidityExceeded_eq_true.mpr hvalid, rfl, charged, hcharged, ?_⟩
    · rw [getPublicKey_detectProcessorCls]
      exact hfree
    · rw [getPublicKey_detectProcessorCls]

theorem revokePubKey_spec {signer : Str} {payload : RevokePubKeyPayload} {u : Dict Str Message} :
    (revokePubKey π signer payload).run ctx = .ok u ↔
      ∃ stored, pubKeyAt π ctx payload.address = some stored ∧ stored.owner = signer ∧
        stored.isRevoked = false ∧
        u = .ofList [(payload.address, .pubKeyStorage { stored with isRevoked := true })] := by
  simp only [revokePubKey, StoreM.run_bind_eq_ok, StoreM.run_raiseIf_eq_ok, StoreM.run_pure,
    StoreM.run_orRaise_eq_ok, run_getPubKey, Except.ok.injEq, exists_const, exists_eq_left', ne_eq,
    not_not, Bool.not_eq_true]
  constructor
  · rintro ⟨stored, hstored, howner, hrevoked, rfl⟩
    exact ⟨stored, hstored, howner.symm, hrevoked, rfl⟩
  · rintro ⟨stored, hstored, howner, hrevoked, rfl⟩
    exact ⟨stored, hstored, howner.symm, hrevoked, rfl⟩

end Remme.Tp
