import Remme.Tp.Proofs.LocalTime
import Remme.Tp.Proofs.SwapSecret
/-!
# The exceptions of the processors

A processor may refuse a transaction with `InvalidTransaction` or
`InternalError`; any other exception ends the transaction processor.  What can
raise one is decided by the stored records and by data that a client chose:
a secret key that is not hexadecimal, a commission that is missing or is no
number, a timestamp that no field or `datetime` can hold, a key that the
libraries do not parse, a credit beyond 64 bits.  For each processor one
predicate on the state and the payload says that none of these is reached.
-/

namespace Remme.Tp

open Remme.Lib Remme.Protos Remme.Shared Remme.Settings Remme.Clients.BlockInfo

variable {B : Type} {π : Platform B} {tz : TimeZone} {ctx : Str → Option B} {signer : Str}

/-- The exceptions that the transaction processor expects of a handler. -/
def IsProcessorError : PyError → Prop
  | .invalidTransaction _ => True
  | .internalError _ => True
  | _ => False

instance : DecidablePred IsProcessorError := fun err => by
  cases err <;> unfold IsProcessorError <;> infer_instance

@[simp] theorem isProcessorError_invalidTransaction (message : String) :
    IsProcessorError (.invalidTransaction message) := trivial

/-- The processor raises nothing but processor errors. -/
def FailsProperly (π : Platform B) (tz : TimeZone) (ctx : Str → Option B) (signer : Str)
    (op : Operation) : Prop :=
  ∀ err, (op.processor π tz signer).run ctx = .error err → IsProcessorError err

/-! ## What each processor relies on -/

section Guards

variable (π : Platform B) (tz : TimeZone) (ctx : Str → Option B) (signer : Str)

/-- The account can take the amount. -/
def CreditFits (a : Str) (amount : ℕ) : Prop := balanceAt π ctx a + amount < 2 ^ 64

/-- A transfer that passes its checks is a credit that fits. -/
def TransferGuarded (addressFrom : Str) (payload : TransferPayload) : Prop :=
  payload.value ≠ 0 → IsAccountAddress π payload.addressTo → addressFrom ≠ payload.addressTo →
    payload.value.toNat ≤ balanceAt π ctx addressFrom →
      CreditFits π ctx payload.addressTo payload.value.toNat

/-- For a new swap id and a known block: the block's time fits the record, the commission is a
number, and the zero address can take it. -/
def InitGuarded (payload : AtomicSwapInitPayload) : Prop :=
  swapAt π ctx (swapAddress π payload.swapId) = none → ∀ block, latestBlock π ctx = some block →
    block.timestamp.toNat < 2 ^ 32 ∧ ∃ c, commission π ctx = some c ∧
      (0 < c → payload.amount.toNat + c ≤ balanceAt π ctx (accountAddress π signer) →
        CreditFits π ctx zeroAddress c.toNat)

/-- For an open swap of the signer and a known block: the local times exist, and after the wait
the signer's account can take the amount. -/
def ExpireGuarded (payload : AtomicSwapExpirePayload) : Prop :=
  ∀ swap block, swapAt π ctx (swapAddress π payload.swapId) = some swap →
    notPermittedToChange swap.state = false → swap.senderAddress = accountAddress π signer →
    latestBlock π ctx = some block →
      HasLocalTime tz block.timestamp.toNat ∧ HasLocalTime tz swap.createdAt.toNat ∧
      swap.createdAt.toNat + tz swap.createdAt.toNat +
        (timeLock swap.isInitiator * 3600 : ℕ) ≤ maxLocal ∧
      (WaitOver tz (timeLock swap.isInitiator) swap.createdAt.toNat block.timestamp.toNat →
        CreditFits π ctx (accountAddress π signer) swap.amount.toNat)

/-- For an open swap with a lock: the secret key is hexadecimal, and where it opens the lock the
receiver's account can take the amount. -/
def CloseGuarded (payload : AtomicSwapClosePayload) : Prop :=
  ∀ swap, swapAt π ctx (swapAddress π payload.swapId) = some swap →
    notPermittedToChange swap.state = false → swap.secretLock ≠ [] →
      (∀ c ∈ remove0xPrefix payload.secretKey, Text.isHex c) ∧
      (web3Hash π payload.secretKey = .ok swap.secretLock →
        (swap.isInitiator = true → swap.state = .approved) →
          CreditFits π ctx swap.receiverAddress swap.amount.toNat)

/-- An RSA key is no key of another algorithm; of a verified new key the local times exist; and
where the price is charged the zero address can take it. -/
def RegistrationGuarded (payload : NewPubKeyPayload) : Prop :=
  ∀ configuration, payload.configuration = some configuration →
    (∀ key padding, configuration = .rsa key padding →
      π.loadDerPublicKey key ≠ .unsupportedAlgorithm) ∧
    ((detectProcessorCls π payload configuration).verify = .ok true →
      pubKeyAt π ctx (pubKeyAddress π configuration.key) = none →
        HasLocalTime tz payload.validFrom.toNat ∧ HasLocalTime tz payload.validTo.toNat ∧
        (ValidityKept tz payload.validFrom.toNat payload.validTo.toNat →
          economyEnabled π ctx = true →
            pubKeyStorePrice.toNat ≤ balanceAt π ctx (accountAddress π signer) →
              CreditFits π ctx zeroAddress pubKeyStorePrice.toNat))

/-- Nothing unexpected is reached in the processor of the operation. -/
def Guarded : Operation → Prop
  | .transfer payload => TransferGuarded π ctx (accountAddress π signer) payload
  | .genesis _ => True
  | .swapInit payload => InitGuarded π ctx signer payload
  | .swapApprove _ => True
  | .swapExpire payload => ExpireGuarded π tz ctx signer payload
  | .swapSetLock _ => True
  | .swapClose payload => CloseGuarded π ctx payload
  | .store payload => RegistrationGuarded π tz ctx signer payload
  | .revoke _ => True
  | .storeAndPay payload => π.secp256k1FromHex payload.owner = true ∧
      (OwnerSigned π payload →
        RegistrationGuarded π tz ctx signer (payload.pubKeyPayload.getD {}))

end Guards

/-! ## The parts of the processors -/

/-- All parts of a processor are judged by this predicate. -/
abbrev Proper {α : Type} (ctx : Str → Option B) (m : Processor B α) : Prop :=
  StoreM.FailsWithin ctx IsProcessorError m

theorem proper_getData {α : Type} (pbClass : Codec B α) (address : Str) :
    Proper ctx (getData pbClass address) := by
  intro err herr
  cases herr

theorem proper_getSettingValue (key : Str) (defaultValue : Option Str) :
    Proper ctx (getSettingValue π key defaultValue) := by
  intro err herr
  cases herr

theorem proper_getLatestBlockInfo : Proper ctx (getLatestBlockInfo π) := by
  simp [Proper, getLatestBlockInfo, proper_getData, IsProcessorError]

theorem proper_getSwap (swapId : Str) : Proper ctx (getSwap π swapId) := by
  simp [Proper, getSwap, proper_getData, notInitiated, closedOrExpired, IsProcessorError]

theorem uint64Field_proper {field : String} {n : ℤ} :
    (∀ err, uint64Field field n = .error err → IsProcessorError err) ↔ 0 ≤ n ∧ n < 2 ^ 64 := by
  simp only [uint64Field_eq_error]
  constructor
  · intro h
    by_contra hrange
    exact h _ ⟨rfl, hrange⟩
  · rintro hrange err ⟨-, hnot⟩
    exact absurd hrange hnot

theorem uint32Field_proper {field : String} {n : ℤ} :
    (∀ err, uint32Field field n = .error err → IsProcessorError err) ↔ 0 ≤ n ∧ n < 2 ^ 32 := by
  simp only [uint32Field_eq_error]
  constructor
  · intro h
    by_contra hrange
    exact h _ ⟨rfl, hrange⟩
  · rintro hrange err ⟨-, hnot⟩
    exact absurd hrange hnot

theorem proper_transferFromAddress {addressFrom : Str} {payload : TransferPayload} :
    Proper ctx (transferFromAddress π addressFrom payload) ↔
      TransferGuarded π ctx addressFrom payload := by
  simp only [Proper, transferFromAddress, StoreM.failsWithin_bind, StoreM.failsWithin_raiseIf,
    StoreM.failsWithin_ofExcept, StoreM.failsWithin_pure, StoreM.run_raiseIf_eq_ok,
    StoreM.run_ofExcept, proper_getData, run_getAccount, balance_eq_balanceAt, uint64Field_proper,
    uint64Field_eq_ok, isProcessorError_invalidTransaction, UInt64.lt_iff_toNat_lt,
    Except.ok.injEq, forall_eq', implies_true, true_and, and_true, forall_const, not_lt]
  have hlt : balanceAt π ctx addressFrom < 2 ^ 64 := UInt64.toNat_lt _
  unfold TransferGuarded CreditFits IsAccountAddress
  constructor
  · intro h hvalue hto hne hle
    have hrange := (h hvalue (by tauto) hne hle).1
    omega
  · intro h hvalue hto hne hle
    have hfits := h hvalue (by tauto) hne hle
    refine ⟨by omega, fun credited _ => by omega⟩

theorem proper_transfer {payload : TransferPayload} :
    Proper ctx (transfer π signer payload) ↔
      TransferGuarded π ctx (accountAddress π signer) payload := by
  simp only [Proper, transfer, StoreM.failsWithin_bind, StoreM.failsWithin_ofExcept,
    StoreM.failsWithin_pure, StoreM.run_ofExcept, makeAddressFromData_account, Except.ok.injEq,
    forall_eq', reduceCtorEq, false_implies, implies_true, true_and, and_true]
  exact proper_transferFromAddress

theorem proper_genesis (payload : GenesisPayload) : Proper ctx (genesis π signer payload) := by
  simp [Proper, genesis, proper_getData]

/-! ## Swaps -/

theorem proper_swapSetLock (payload : AtomicSwapSetSecretLockPayload) :
    Proper ctx (swapSetLock π payload) := by
  simp [Proper, swapSetLock, proper_getSwap]

theorem proper_swapApprove (payload : AtomicSwapApprovePayload) :
    Proper ctx (swapApprove π signer payload) := by
  simp [Proper, swapApprove, proper_getSwap]

theorem exists_uint32 {n : ℕ} (h : n < 2 ^ 32) : ∃ u : UInt32, u.toNat = n :=
  ⟨UInt32.ofNat n, UInt32.toNat_ofNat_of_lt' h⟩

theorem commission_eq_some {c : ℤ} :
    commission π ctx = some c ↔ ∃ text, settingValue π ctx settingsSwapCommission none = some text ∧
      Text.int 10 text = some c :=
  Option.bind_eq_some_iff

/-- The commission is charged by a transfer to the zero address. -/
theorem commission_guarded {value : UInt64} (hvalue : value ≠ 0)
    (hle : value.toNat ≤ balanceAt π ctx (accountAddress π signer)) :
    TransferGuarded π ctx (accountAddress π signer) { addressTo := zeroAddress, value := value } ↔
      CreditFits π ctx zeroAddress value.toNat := by
  constructor
  · intro h
    exact h hvalue (isAccountAddress_zeroAddress π) (accountAddress_ne_zeroAddress signer) hle
  · intro h _ _ _ _
    exact h

theorem proper_swapInit {payload : AtomicSwapInitPayload} :
    Proper ctx (swapInit π signer payload) ↔ InitGuarded π ctx signer payload := by
  simp only [Proper, swapInit, StoreM.failsWithin_bind, StoreM.failsWithin_raiseIf,
    StoreM.failsWithin_orRaise, StoreM.failsWithin_ofExcept, StoreM.failsWithin_pure,
    StoreM.run_raiseIf_eq_ok, StoreM.run_ofExcept, StoreM.run_orRaise_eq_ok,
    makeAddressFromData_account, makeAddressFromData_atomicSwap, proper_getData,
    proper_getSettingValue, proper_getLatestBlockInfo, run_getSwapInfo, run_getAccount,
    run_getSettingValue, run_getLatestBlockInfo, balance_eq_balanceAt, uint64Field_proper,
    uint32Field_proper, uint64Field_eq_ok, uint32Field_eq_ok, transferFromAddress_spec,
    proper_transferFromAddress,
    isProcessorError_invalidTransaction, Except.ok.injEq, forall_eq', reduceCtorEq, false_implies,
    implies_true, true_and, and_true, forall_const, not_lt]
  have hsz : accountAddress π signer ≠ zeroAddress := accountAddress_ne_zeroAddress signer
  have hlt : balanceAt π ctx (accountAddress π signer) < 2 ^ 64 := UInt64.toNat_lt _
  constructor
  · intro h hfree block hblock
    obtain ⟨htime, hsetting⟩ := h (by simp [hfree]) block hblock
    obtain ⟨createdAt, hcreated⟩ := exists_uint32 (n := block.timestamp.toNat) (by omega)
    obtain ⟨hmissing, hsetting⟩ := hsetting createdAt (by omega)
    cases htext : settingValue π ctx settingsSwapCommission none with
    | none => exact absurd (hmissing htext) id
    | some text =>
        obtain ⟨hbad, hnumber⟩ := hsetting text htext
        cases hc : Text.int 10 text with
        | none => exact absurd (hbad hc) id
        | some c =>
            refine ⟨by omega, c, commission_eq_some.mpr ⟨text, htext, hc⟩, fun hpos hle => ?_⟩
            obtain ⟨hrange, htransfer⟩ := hnumber c hc (by omega) hle
            obtain ⟨value, hvalue⟩ := exists_uint64 (n := c.toNat) (by omega)
            have hguarded := (htransfer value (by omega)).1
            rw [commission_guarded (uint64_ne_zero_iff.mpr (by omega)) (by omega), hvalue]
              at hguarded
            exact hguarded
  · intro h hfree block hblock
    obtain ⟨htime, c, hcommission, hfits⟩ := h (by simpa using hfree) block hblock
    obtain ⟨text, htext, hc⟩ := commission_eq_some.mp hcommission
    refine ⟨by omega, fun createdAt _ => ⟨?_, ?_⟩⟩
    · intro hmissing
      rw [hmissing] at htext
      cases htext
    · intro text' htext'
      rw [htext'] at htext
      cases htext
      refine ⟨fun hbad => ?_, fun c' hc' hnonneg hle => ⟨by omega, fun value hvalue => ?_⟩⟩
      · rw [hbad] at hc
        cases hc
      · rw [hc'] at hc
        cases hc
        constructor
        · intro hne hto hself hcharge
          have hpos : 0 < value.toNat := uint64_ne_zero_iff.mp hne
          have hcredit := hfits (by omega) hle
          rwa [← hvalue, Int.toNat_natCast] at hcredit
        · rintro accounts ⟨-, -, -, debited, credited, hdebited, -, rfl⟩
          rw [get?_ofList_fst hsz]
          refine ⟨fun hnone => absurd hnone (by simp), fun account haccount => ?_⟩
          cases haccount
          simp only
          omega

theorem fromtimestamp_proper {t : ℕ} :
    (∀ err, fromtimestamp tz t = .error err → IsProcessorError err) ↔ HasLocalTime tz t := by
  unfold fromtimestamp checkedLocal HasLocalTime
  split_ifs with hrange
  · exact iff_of_true (fun err herr => by cases herr) hrange
  · exact iff_of_false (fun h => h _ rfl) hrange

theorem addTimedelta_proper {moment delta : ℤ} :
    (∀ err, addTimedelta moment delta = .error err → IsProcessorError err) ↔
      minLocal ≤ moment + delta ∧ moment + delta ≤ maxLocal := by
  unfold addTimedelta checkedLocal
  split_ifs with hrange
  · exact iff_of_true (fun err herr => by cases herr) hrange
  · exact iff_of_false (fun h => h _ rfl) hrange

theorem addTimedelta_eq_ok {moment delta x : ℤ} :
    addTimedelta moment delta = .ok x ↔
      x = moment + delta ∧ minLocal ≤ moment + delta ∧ moment + delta ≤ maxLocal :=
  checkedLocal_eq_ok

theorem proper_swapExpire {payload : AtomicSwapExpirePayload} :
    Proper ctx (swapExpire π tz signer payload) ↔ ExpireGuarded π tz ctx signer payload := by
  simp only [Proper, swapExpire, StoreM.failsWithin_bind, StoreM.failsWithin_raiseIf,
    StoreM.failsWithin_ofExcept, StoreM.failsWithin_pure, StoreM.run_raiseIf_eq_ok,
    StoreM.run_ofExcept, makeAddressFromData_account, proper_getData, proper_getSwap,
    proper_getLatestBlockInfo, getSwap_spec, run_getAccount, run_getLatestBlockInfo,
    balance_eq_balanceAt, uint64Field_proper, fromtimestamp_proper, addTimedelta_proper,
    fromtimestamp_eq_ok, addTimedelta_eq_ok, isProcessorError_invalidTransaction, Except.ok.injEq,
    forall_eq', reduceCtorEq, false_implies, implies_true, true_and, and_true, forall_const, not_lt,
    Prod.forall, ne_eq, not_not]
  unfold ExpireGuarded CreditFits
  constructor
  · intro h swap block hswap hopen hsender hblock
    obtain ⟨hnow, hrest⟩ := h _ swap ⟨rfl, hswap, hopen⟩ hsender.symm block hblock
    obtain ⟨hcreated, hrest⟩ := hrest _ ⟨rfl, hnow⟩
    obtain ⟨⟨hlow, hhigh⟩, hcredit⟩ := hrest _ ⟨rfl, hcreated⟩
    refine ⟨hnow, hcreated, hhigh, fun hwait => ?_⟩
    have hover := hwait.2.2
    simp only [clockGain] at hover
    have hfits := hcredit _ ⟨rfl, hlow, hhigh⟩ (by omega)
    rw [hsender] at hfits
    omega
  · rintro h address swap ⟨-, hswap, hopen⟩ hsender block hblock
    obtain ⟨hnow, hcreated, hhigh, hfits⟩ := h swap block hswap hopen hsender.symm hblock
    refine ⟨hnow, ?_⟩
    rintro now ⟨rfl, -⟩
    refine ⟨hcreated, ?_⟩
    rintro created ⟨rfl, -⟩
    have hlow := hcreated.1
    refine ⟨⟨by omega, hhigh⟩, ?_⟩
    rintro deadline ⟨rfl, -, -⟩ hle
    have hover : WaitOver tz (timeLock swap.isInitiator) swap.createdAt.toNat
        block.timestamp.toNat := by
      refine ⟨hcreated, hnow, ?_⟩
      simp only [clockGain]
      omega
    have hcredit := hfits hover
    rw [← hsender]
    omega

/-! ## Closing a swap -/

theorem web3Hash_proper {data : Str} :
    (∀ err, web3Hash π data = .error err → IsProcessorError err) ↔
      ∀ c ∈ remove0xPrefix data, Text.isHex c := by
  have hhex := isSome_secretBytes data
  rw [IsHexSecret, secretDigits_eq] at hhex
  rw [web3Hash_eq, ← hhex]
  cases secretBytes data with
  | none => exact iff_of_false (fun h => h _ rfl) Bool.false_ne_true
  | some decoded => exact iff_of_true (fun err herr => by cases herr) rfl

theorem proper_swapClose {payload : AtomicSwapClosePayload} :
    Proper ctx (swapClose π payload) ↔ CloseGuarded π ctx payload := by
  simp only [Proper, swapClose, StoreM.failsWithin_bind, StoreM.failsWithin_raiseIf,
    StoreM.failsWithin_ofExcept, StoreM.failsWithin_pure, StoreM.run_raiseIf_eq_ok,
    StoreM.run_ofExcept, proper_getData, proper_getSwap, getSwap_spec, run_getAccount,
    balance_eq_balanceAt, uint64Field_proper, web3Hash_proper, isProcessorError_invalidTransaction,
    Except.ok.injEq, forall_eq', implies_true, true_and, and_true, forall_const, Prod.forall, ne_eq,
    not_not, not_and]
  unfold CloseGuarded CreditFits
  constructor
  · intro h swap hswap hopen hlock
    obtain ⟨hhex, hrest⟩ := h _ swap ⟨rfl, hswap, hopen⟩ hlock
    refine ⟨hhex, fun hhash happroved => ?_⟩
    have hfits := hrest _ hhash rfl happroved
    omega
  · rintro h address swap ⟨-, hswap, hopen⟩ hlock
    obtain ⟨hhex, hrest⟩ := h swap hswap hopen hlock
    refine ⟨hhex, fun hashed hhash heq happroved => ?_⟩
    subst heq
    have hfits := hrest hhash happroved
    omega

/-! ## Public keys -/

theorem verify_proper {payload : NewPubKeyPayload} {configuration : Configuration} :
    (∀ err, (detectProcessorCls π payload configuration).verify = .error err →
      IsProcessorError err) ↔
      ∀ key padding, configuration = .rsa key padding →
        π.loadDerPublicKey key ≠ .unsupportedAlgorithm := by
  cases configuration with
  | rsa key padding =>
      have hkey : (∀ key' padding', Configuration.rsa key padding = .rsa key' padding' →
          π.loadDerPublicKey key' ≠ .unsupportedAlgorithm) ↔
            π.loadDerPublicKey key ≠ .unsupportedAlgorithm := by
        simp
      rw [hkey]
      simp only [detectProcessorCls, rsaProcessor]
      split
      · simp_all
      · simp_all [IsProcessorError]
      all_goals simp_all
  | ecdsa key ec =>
      simp only [detectProcessorCls, ecdsaProcessor]
      split <;> simp
  | ed25519 key =>
      simp only [detectProcessorCls, ed25519Processor]
      split <;> simp

theorem proper_getPublicKeyProcessor (payload : NewPubKeyPayload) :
    Proper ctx (getPublicKeyProcessor π payload) := by
  simp [Proper, getPublicKeyProcessor]

theorem bind_proper {α β : Type} {x : Except PyError α} {f : α → Except PyError β} :
    (∀ err, x >>= f = .error err → IsProcessorError err) ↔
      (∀ err, x = .error err → IsProcessorError err) ∧
        ∀ a, x = .ok a → ∀ err, f a = .error err → IsProcessorError err := by
  cases x with
  | error err => simp [bind, Except.bind]
  | ok a => simp [bind, Except.bind]

theorem isPublicKeyValidityExceeded_proper {validFrom validTo : UInt32} :
    (∀ err, isPublicKeyValidityExceeded tz validFrom validTo = .error err →
      IsProcessorError err) ↔
      HasLocalTime tz validFrom.toNat ∧ HasLocalTime tz validTo.toNat := by
  simp only [isPublicKeyValidityExceeded, bind_proper, fromtimestamp_proper, fromtimestamp_eq_ok]
  constructor
  · rintro ⟨hfrom, hrest⟩
    exact ⟨hfrom, (hrest _ ⟨rfl, hfrom⟩).1⟩
  · rintro ⟨hfrom, hto⟩
    refine ⟨hfrom, fun _ _ => ⟨hto, fun _ _ err herr => ?_⟩⟩
    cases herr

theorem proper_chargeForStoring :
    Proper ctx (chargeForStoring π (accountAddress π signer)) ↔
      (economyEnabled π ctx = true →
        pubKeyStorePrice.toNat ≤ balanceAt π ctx (accountAddress π signer) →
          CreditFits π ctx zeroAddress pubKeyStorePrice.toNat) := by
  obtain ⟨value, hvalue⟩ := settingValue_default π ctx
    "remme.economy_enabled".toList "true".toList
  have heconomy : economyEnabled π ctx = decide (Text.lower value = "true".toList) := by
    unfold economyEnabled
    rw [hvalue]
    rfl
  have hcharge : Proper ctx (chargeTokensForStoring π (accountAddress π signer) zeroAddress) ↔
      (pubKeyStorePrice.toNat ≤ balanceAt π ctx (accountAddress π signer) →
        CreditFits π ctx zeroAddress pubKeyStorePrice.toNat) := by
    have hne := accountAddress_ne_zeroAddress (π := π) signer
    have hprice : pubKeyStorePrice ≠ 0 := by decide
    simp only [Proper, chargeTokensForStoring, StoreM.failsWithin_bind,
      StoreM.failsWithin_raiseIf, StoreM.run_raiseIf_eq_ok, proper_transferFromAddress,
      isProcessorError_invalidTransaction, implies_true, true_and]
    constructor
    · intro h hle
      exact (commission_guarded hprice hle).mp (h () hne.symm)
    · intro h _ _ _ _ _ hle
      exact h hle
  simp only [Proper, chargeForStoring, StoreM.failsWithin_bind, StoreM.failsWithin_orRaise,
    StoreM.run_orRaise_eq_ok, proper_getSettingValue, run_getSettingValue, hvalue, Except.ok.injEq,
    forall_eq', Option.some.injEq, reduceCtorEq, false_implies, true_and]
  by_cases htrue : Text.lower value = "true".toList
  · rw [if_pos htrue, StoreM.failsWithin_bind, heconomy, decide_eq_true htrue]
    simp only [StoreM.failsWithin_pure, implies_true, and_true, true_implies]
    exact hcharge
  · rw [if_neg htrue, heconomy, decide_eq_false htrue]
    simp [StoreM.failsWithin_pure]

/-- The steps that both ways of registering a key share, in the order of the checks. -/
theorem registrationGuarded_iff {payload : NewPubKeyPayload} :
    RegistrationGuarded π tz ctx signer payload ↔
      ∀ processor, (∃ configuration, payload.configuration = some configuration ∧
          processor = detectProcessorCls π payload configuration) →
        (∀ err, processor.verify = .error err → IsProcessorError err) ∧
        ∀ verified, processor.verify = .ok verified → verified = true →
          ¬(pubKeyAt π ctx (pubKeyAddress π processor.getPublicKey)).isSome = true →
            (HasLocalTime tz payload.validFrom.toNat ∧ HasLocalTime tz payload.validTo.toNat) ∧
            ∀ valid, isPublicKeyValidityExceeded tz payload.validFrom payload.validTo = .ok valid →
              valid = true → economyEnabled π ctx = true →
                pubKeyStorePrice.toNat ≤ balanceAt π ctx (accountAddress π signer) →
                  CreditFits π ctx zeroAddress pubKeyStorePrice.toNat := by
  have hvalidity : isPublicKeyValidityExceeded tz payload.validFrom payload.validTo = .ok true ↔
      ValidityKept tz payload.validFrom.toNat payload.validTo.toNat :=
    isPublicKeyValidityExceeded_eq_true.trans inValidity_iff
  unfold RegistrationGuarded
  constructor
  · rintro h processor ⟨configuration, hset, rfl⟩
    obtain ⟨hkey, hrest⟩ := h configuration hset
    refine ⟨verify_proper.mpr hkey, ?_⟩
    rintro verified hverify rfl hfree
    rw [getPublicKey_detectProcessorCls] at hfree
    obtain ⟨hfrom, hto, hfits⟩ := hrest hverify (by simpa using hfree)
    refine ⟨⟨hfrom, hto⟩, ?_⟩
    rintro valid hvalid rfl
    exact hfits (hvalidity.mp hvalid)
  · intro h configuration hset
    obtain ⟨hkey, hrest⟩ := h _ ⟨configuration, hset, rfl⟩
    refine ⟨verify_proper.mp hkey, fun hverify hfree => ?_⟩
    obtain ⟨⟨hfrom, hto⟩, hfits⟩ := hrest true hverify rfl (by
      rw [getPublicKey_detectProcessorCls, hfree]
      simp)
    exact ⟨hfrom, hto, fun hkept => hfits true (hvalidity.mpr hkept) rfl⟩

theorem proper_storePubKey {payload : NewPubKeyPayload} :
    Proper ctx (storePubKey π tz signer payload) ↔
      RegistrationGuarded π tz ctx signer payload := by
  rw [registrationGuarded_iff]
  simp only [Proper, storePubKey, StoreM.failsWithin_bind, StoreM.failsWithin_raiseIf,
    StoreM.failsWithin_ofExcept, StoreM.failsWithin_pure, StoreM.run_raiseIf_eq_ok,
    StoreM.run_ofExcept, proper_getPublicKeyProcessor, run_getPublicKeyProcessor,
    makeAddressFromData_pubKey, makeAddressFromData_account, proper_getData, run_getPubKey,
    run_getAccount, proper_chargeForStoring, isPublicKeyValidityExceeded_proper,
    isProcessorError_invalidTransaction, Except.ok.injEq, forall_eq', reduceCtorEq, false_implies,
    implies_true, true_and, and_true, forall_const, Bool.not_eq_false]

theorem proper_storePublicKeyForOther {payload : NewPubKeyStoreAndPayPayload} :
    Proper ctx (storePublicKeyForOther π tz signer payload) ↔
      π.secp256k1FromHex payload.owner = true ∧ (OwnerSigned π payload →
        RegistrationGuarded π tz ctx signer (payload.pubKeyPayload.getD {})) := by
  rw [registrationGuarded_iff]
  simp only [Proper, storePublicKeyForOther, StoreM.failsWithin_bind, StoreM.failsWithin_raiseIf,
    StoreM.failsWithin_ofExcept, StoreM.failsWithin_pure, StoreM.run_raiseIf_eq_ok,
    StoreM.run_ofExcept, proper_getPublicKeyProcessor, run_getPublicKeyProcessor,
    makeAddressFromData_pubKey, makeAddressFromData_account, proper_getData, run_getPubKey,
    run_getAccount, proper_chargeForStoring, isPublicKeyValidityExceeded_proper,
    isProcessorError_invalidTransaction, Except.ok.injEq, forall_eq', reduceCtorEq, false_implies,
    implies_true, true_and, and_true, forall_const, Bool.not_eq_false, OwnerSigned,
    NewPubKeyStoreAndPayPayload.owner]
  have hparse : (π.secp256k1FromHex (Text.bytesHex payload.ownerPublicKey) = false →
      IsProcessorError .parseError) ↔
        π.secp256k1FromHex (Text.bytesHex payload.ownerPublicKey) = true := by
    cases π.secp256k1FromHex (Text.bytesHex payload.ownerPublicKey) <;> simp [IsProcessorError]
  rw [hparse, and_imp]

theorem proper_revokePubKey (payload : RevokePubKeyPayload) :
    Proper ctx (revokePubKey π signer payload) := by
  simp [Proper, revokePubKey, proper_getData]

/-- A processor fails only with processor errors exactly when the state and the payload keep it
from everything else that it can raise. -/
theorem failsProperly_iff_guarded (op : Operation) :
    FailsProperly π tz ctx signer op ↔ Guarded π tz ctx signer op := by
  cases op with
  | transfer payload => exact proper_transfer
  | genesis payload => exact iff_of_true (proper_genesis payload) trivial
  | swapInit payload => exact proper_swapInit
  | swapApprove payload => exact iff_of_true (proper_swapApprove payload) trivial
  | swapExpire payload => exact proper_swapExpire
  | swapSetLock payload => exact iff_of_true (proper_swapSetLock payload) trivial
  | swapClose payload => exact proper_swapClose
  | store payload => exact proper_storePubKey
  | revoke payload => exact iff_of_true (proper_revokePubKey payload) trivial
  | storeAndPay payload => exact proper_storePublicKeyForOther

/-- The sample script up to the approval of the swap. -/
def approvedScript : List Input := Sample.swapScript.dropLast

/-- A CLOSE with a secret key that is no hexadecimal text. -/
def notHexPayload : AtomicSwapClosePayload :=
  { swapId := Sample.swapId, secretKey := "open sesame".toList }

/-- The form accepts any text as the secret key; decoding it raises `ValueError`. -/
theorem notHex_not_failsProperly :
    LedgerRun Sample.platform Sample.utc (Sample.transitions approvedScript)
        (Sample.final approvedScript) ∧
      (Operation.swapClose notHexPayload).FormValid ∧
      ¬FailsProperly Sample.platform Sample.utc (Sample.final approvedScript).get? Sample.bot
        (.swapClose notHexPayload) := by
  have hlegal : ∀ i ∈ approvedScript, i.IsLegal := fun i hi =>
    Sample.swapScript_legal i (List.mem_of_mem_dropLast hi)
  have haccepted : (play Sample.platform Sample.utc Dict.empty approvedScript).isSome = true := by
    decide +kernel
  have hvalid : (Operation.swapClose notHexPayload).FormValid :=
    formValid_of_any (by decide +kernel)
  have hlocked : (swapAt Sample.platform (Sample.final approvedScript).get?
      (swapAddress Sample.platform Sample.swapId)).any (fun swap =>
        !notPermittedToChange swap.state && !swap.secretLock.isEmpty) = true := by
    decide +kernel
  refine ⟨Sample.run_of_accepted hlegal haccepted, hvalid, fun hproper => ?_⟩
  obtain ⟨swap, hswap, hlock⟩ := (Option.any_eq_true _ _).mp hlocked
  simp only [Bool.and_eq_true, Bool.not_eq_true', List.isEmpty_eq_false_iff] at hlock
  have hguarded := proper_swapClose.mp hproper swap hswap hlock.1 hlock.2
  have hspace := hguarded.1 ' ' (by decide)
  cases hspace

end Remme.Tp
