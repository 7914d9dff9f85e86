import Remme.Tp.Proofs.Specs
/-!
# What an accepted transaction writes

For each kind of message one inversion: if an accepted transaction writes such a
message at an address, then it is one of a few operations, with the guards that
its processor checked.  Every invariant of the ledger is proved from these.
-/

namespace Remme.Tp

open Remme.Lib Remme.Protos Remme.Shared Remme.Shared.Forms Remme.Settings

variable {B : Type} {π : Platform B} {tz : TimeZone} {s : Dict Str B} {signer a : Str}
  {op : Operation} {u : Dict Str Message}

/-! ## Acceptance -/

/-- The form of the operation loads and validates. -/
def Operation.FormValid (op : Operation) : Prop :=
  ∃ result, op.validate = .ok result ∧ result.isValid = true

theorem formValid_of_any (h : op.validate.toOption.any (·.isValid) = true) : op.FormValid := by
  cases hvalidate : op.validate with
  | error err =>
      rw [hvalidate] at h
      cases h
  | ok result =>
      rw [hvalidate] at h
      exact ⟨result, hvalidate, h⟩

theorem apply_eq_ok :
    op.apply π tz signer s = .ok u ↔
      ∃ result, op.validate = .ok result ∧ result.isValid = true ∧
        (op.processor π tz signer).run s.get? = .ok u := by
  unfold Operation.apply
  rw [bind_eq_ok]
  constructor
  · rintro ⟨result, hvalidate, hrest⟩
    cases hvalid : result.isValid with
    | false =>
        rw [hvalid] at hrest
        cases hrest
    | true =>
        rw [hvalid] at hrest
        exact ⟨result, hvalidate, hvalid, hrest⟩
  · rintro ⟨result, hvalidate, hvalid, hrun⟩
    refine ⟨result, hvalidate, ?_⟩
    rw [hvalid]
    exact hrun

theorem run_of_apply (h : op.apply π tz signer s = .ok u) :
    (op.processor π tz signer).run s.get? = .ok u := by
  obtain ⟨result, -, -, hrun⟩ := apply_eq_ok.mp h
  exact hrun

/-- The form of SET_SECRET_LOCK requires the lock. -/
theorem secretLock_ne_nil {payload : AtomicSwapSetSecretLockPayload}
    (h : (Operation.swapSetLock payload).apply π tz signer s = .ok u) :
    payload.secretLock ≠ [] := by
  obtain ⟨result, hvalidate, hvalid, -⟩ := apply_eq_ok.mp h
  obtain ⟨data, hload, hdata⟩ := validateFields_valid hvalidate hvalid
    ⟨"secret_lock", requiredField, .text payload.secretLock⟩ (by simp)
  exact text_ne_nil_of_required hload hdata

/-- The form of CLOSE requires the key. -/
theorem secretKey_ne_nil {payload : AtomicSwapClosePayload}
    (h : (Operation.swapClose payload).apply π tz signer s = .ok u) :
    payload.secretKey ≠ [] := by
  obtain ⟨result, hvalidate, hvalid, -⟩ := apply_eq_ok.mp h
  obtain ⟨data, hload, hdata⟩ := validateFields_valid hvalidate hvalid
    ⟨"secret_key", requiredField, .text payload.secretKey⟩ (by simp)
  exact text_ne_nil_of_required hload hdata

/-! ## The state after a transaction -/

theorem get?_setState (a : Str) :
    (setState π s u).get? a = ((u.get? a).map π.pb.serialize).or (s.get? a) := by
  unfold setState
  rw [Dict.get?_update, Dict.get?_mapVals]

theorem get?_setState_of_none (h : u.get? a = none) :
    (setState π s u).get? a = s.get? a := by
  rw [get?_setState, h]
  rfl

theorem get?_setState_of_some {m : Message} (h : u.get? a = some m) :
    (setState π s u).get? a = some (π.pb.serialize m) := by
  rw [get?_setState, h]
  rfl

theorem accountAt_setState_of_some {m : Account} (h : u.get? a = some (.account m)) :
    accountAt π (setState π s u).get? a = some m := by
  unfold accountAt
  rw [get?_setState_of_some h]
  exact π.pb.account.parse_serialize m

theorem swapAt_setState_of_some {w : AtomicSwapInfo} (h : u.get? a = some (.atomicSwapInfo w)) :
    swapAt π (setState π s u).get? a = some w := by
  unfold swapAt
  rw [get?_setState_of_some h]
  exact π.pb.atomicSwapInfo.parse_serialize w

theorem pubKeyAt_setState_of_some {r : PubKeyStorage} (h : u.get? a = some (.pubKeyStorage r)) :
    pubKeyAt π (setState π s u).get? a = some r := by
  unfold pubKeyAt
  rw [get?_setState_of_some h]
  exact π.pb.pubKeyStorage.parse_serialize r

theorem balanceAt_setState_of_none (h : u.get? a = none) :
    balanceAt π (setState π s u).get? a = balanceAt π s.get? a := by
  unfold balanceAt accountAt
  rw [get?_setState_of_none h]

theorem balanceAt_setState_of_some {m : Account} (h : u.get? a = some (.account m)) :
    balanceAt π (setState π s u).get? a = m.balance.toNat := by
  unfold balanceAt
  rw [accountAt_setState_of_some h]
  rfl

/-! ## Swap records -/

/-- How an accepted transaction comes to write a swap record at an address. -/
inductive SwapWrite (π : Platform B) (tz : TimeZone) (ctx : Str → Option B) (signer : Str) :
    Operation → Str → AtomicSwapInfo → Prop
  | init {payload : AtomicSwapInitPayload} {block : BlockInfo} {createdAt : UInt32}
      (hfree : swapAt π ctx (swapAddress π payload.swapId) = none)
      (hblock : latestBlock π ctx = some block)
      (hcreated : createdAt.toNat = block.timestamp.toNat) :
      SwapWrite π tz ctx signer (.swapInit payload) (swapAddress π payload.swapId)
        (openedSwap π signer payload createdAt)
  | setLock {payload : AtomicSwapSetSecretLockPayload} {swap : AtomicSwapInfo}
      (hswap : swapAt π ctx (swapAddress π payload.swapId) = some swap)
      (hopen : notPermittedToChange swap.state = false) (hempty : swap.secretLock = [])
      (hlock : payload.secretLock ≠ []) :
      SwapWrite π tz ctx signer (.swapSetLock payload) (swapAddress π payload.swapId)
        { swap with secretLock := payload.secretLock, state := .secretLockProvided }
  | approve {payload : AtomicSwapApprovePayload} {swap : AtomicSwapInfo}
      (hswap : swapAt π ctx (swapAddress π payload.swapId) = some swap)
      (hstate : swap.state = .secretLockProvided) (hinitiator : swap.isInitiator = true)
      (hsender : swap.senderAddress = accountAddress π signer) (hlock : swap.secretLock ≠ []) :
      SwapWrite π tz ctx signer (.swapApprove payload) (swapAddress π payload.swapId)
        { swap with state := .approved }
  | expire {payload : AtomicSwapExpirePayload} {swap : AtomicSwapInfo} {block : BlockInfo}
      (hswap : swapAt π ctx (swapAddress π payload.swapId) = some swap)
      (hopen : notPermittedToChange swap.state = false)
      (hsender : swap.senderAddress = accountAddress π signer)
      (hblock : latestBlock π ctx = some block) (htime : Withdrawable tz swap block) :
      SwapWrite π tz ctx signer (.swapExpire payload) (swapAddress π payload.swapId)
        { swap with state := .expired }
  | close {payload : AtomicSwapClosePayload} {swap : AtomicSwapInfo}
      (hswap : swapAt π ctx (swapAddress π payload.swapId) = some swap)
      (hopen : notPermittedToChange swap.state = false) (hlock : swap.secretLock ≠ [])
      (hhash : web3Hash π payload.secretKey = .ok swap.secretLock)
      (happroved : swap.isInitiator = true → swap.state = .approved)
      (hkey : payload.secretKey ≠ []) :
      SwapWrite π tz ctx signer (.swapClose payload) (swapAddress π payload.swapId)
        { swap with secretKey := payload.secretKey, state := .closed }

/-! ## Public key records -/

/-- How an accepted transaction comes to write a key record at an address. -/
inductive KeyWrite (π : Platform B) (tz : TimeZone) (ctx : Str → Option B) (signer : Str) :
    Operation → Str → PubKeyStorage → Prop
  | store {payload : NewPubKeyPayload} {configuration : Configuration}
      (hregistrable : Registrable π tz ctx payload configuration) :
      KeyWrite π tz ctx signer (.store payload) (pubKeyAddress π configuration.key)
        { owner := signer, payload := payload, isRevoked := false }
  | storeAndPay {payload : NewPubKeyStoreAndPayPayload} {configuration : Configuration}
      (hsigned : OwnerSigned π payload)
      (hregistrable : Registrable π tz ctx (payload.pubKeyPayload.getD {}) configuration) :
      KeyWrite π tz ctx signer (.storeAndPay payload) (pubKeyAddress π configuration.key)
        { owner := payload.owner, payload := payload.pubKeyPayload.getD {}, isRevoked := false }
  | revoke {payload : RevokePubKeyPayload} {stored : PubKeyStorage}
      (hstored : pubKeyAt π ctx payload.address = some stored) (howner : stored.owner = signer)
      (hrevoked : stored.isRevoked = false) :
      KeyWrite π tz ctx signer (.revoke payload) payload.address { stored with isRevoked := true }

/-! ## Accounts -/

/-- The owner and the payload of the key that an operation registers. -/
def Operation.registration (signer : Str) : Operation → Option (Str × NewPubKeyPayload)
  | .store payload => some (signer, payload)
  | .storeAndPay payload => some (payload.owner, payload.pubKeyPayload.getD {})
  | _ => none

/-- How an accepted transaction comes to write an account at an address.  Only `issue` drops
the keys listed in the account, only `register` adds one, and only the signer's balance
goes down. -/
inductive AccountWrite (π : Platform B) (tz : TimeZone) (ctx : Str → Option B) (signer : Str) :
    Operation → Str → Account → Prop
  | issue {payload : GenesisPayload}
      (hfirst : ¬(genesisStatusAt π ctx genesisAddress).any (·.status)) :
      AccountWrite π tz ctx signer (.genesis payload) (accountAddress π signer)
        { balance := payload.totalSupply }
  | debit {op : Operation} {balance : UInt64}
      (hle : balance.toNat ≤ balanceAt π ctx (accountAddress π signer))
      (hother : ∀ owner payload, op.registration signer = some (owner, payload) →
        accountAddress π signer ≠ accountAddress π owner) :
      AccountWrite π tz ctx signer op (accountAddress π signer)
        { (accountAt π ctx (accountAddress π signer)).getD {} with balance := balance }
  | credit {op : Operation} {a : Str} {balance : UInt64}
      (hle : balanceAt π ctx a ≤ balance.toNat)
      (hkind : IsAccountAddress π a ∨ ∃ payload swap, op = .swapClose payload ∧
        swapAt π ctx (swapAddress π payload.swapId) = some swap ∧ a = swap.receiverAddress)
      (hother : ∀ owner payload, op.registration signer = some (owner, payload) →
        a ≠ accountAddress π owner) :
      AccountWrite π tz ctx signer op a
        { (accountAt π ctx a).getD {} with balance := balance }
  | register {op : Operation} {owner : Str} {payload : NewPubKeyPayload}
      {configuration : Configuration} {balance : UInt64}
      (hop : op.registration signer = some (owner, payload))
      (hregistrable : Registrable π tz ctx payload configuration)
      (hbalance : owner = signer ∨ balance.toNat = balanceAt π ctx (accountAddress π owner)) :
      AccountWrite π tz ctx signer op (accountAddress π owner)
        (storePublicKeyToAccount (pubKeyAddress π configuration.key)
          { (accountAt π ctx (accountAddress π owner)).getD {} with balance := balance })

/-! ## The inversion -/

/-- How an accepted transaction comes to write a message at an address. -/
inductive Write (π : Platform B) (tz : TimeZone) (ctx : Str → Option B) (signer : Str) :
    Operation → Str → Message → Prop
  | swap {op : Operation} {a : Str} {w : AtomicSwapInfo} (h : SwapWrite π tz ctx signer op a w) :
      Write π tz ctx signer op a (.atomicSwapInfo w)
  | key {op : Operation} {a : Str} {r : PubKeyStorage} (h : KeyWrite π tz ctx signer op a r) :
      Write π tz ctx signer op a (.pubKeyStorage r)
  | account {op : Operation} {a : Str} {m : Account} (h : AccountWrite π tz ctx signer op a m) :
      Write π tz ctx signer op a (.account m)
  | genesisStatus {payload : GenesisPayload} {m : GenesisStatus} :
      Write π tz ctx signer (.genesis payload) genesisAddress (.genesisStatus m)

/-- The dictionary of a registration: its own items, the charge, and last the owner. -/
theorem registration_get? {es : List (Str × Message)} {accounts : Dict Str Account} {o : Str}
    {m m' : Message}
    (h : (((Dict.ofList es).update (accounts.mapVals .account)).set o m).get? a = some m') :
    (a = o ∧ m' = m) ∨
      a ≠ o ∧ ((∃ x, accounts.get? a = some x ∧ m' = .account x) ∨ (a, m') ∈ es) := by
  rw [Dict.get?_set] at h
  split_ifs at h with ho
  · cases h
    exact .inl ⟨ho.symm, rfl⟩
  · rw [Dict.get?_update, Dict.get?_mapVals] at h
    refine .inr ⟨Ne.symm ho, ?_⟩
    cases hx : accounts.get? a with
    | none =>
        rw [hx] at h
        exact .inr (Dict.mem_of_get?_ofList h)
    | some x =>
        rw [hx] at h
        cases h
        exact .inl ⟨x, rfl, rfl⟩

theorem mem_of_mapVals_ofList {es : List (Str × Account)} {m : Message}
    (h : ((Dict.ofList es).mapVals Message.account).get? a = some m) :
    ∃ x, (a, x) ∈ es ∧ m = .account x := by
  rw [Dict.get?_mapVals, Option.map_eq_some_iff] at h
  obtain ⟨x, hx, rfl⟩ := h
  exact ⟨x, Dict.mem_of_get?_ofList hx, rfl⟩

/-- The two accounts of a charge. -/
theorem charge_get? {ctx : Str → Option B} {addressFrom : Str}
    {charged : Option (Dict Str Account)} (h : ChargeOutcome π ctx addressFrom charged)
    {x : Account} (hx : (charged.getD .empty).get? a = some x) :
    (∃ balance, balance.toNat ≤ balanceAt π ctx addressFrom ∧ a = addressFrom ∧
      x = { (accountAt π ctx addressFrom).getD {} with balance := balance }) ∨
    (∃ balance, balanceAt π ctx zeroAddress ≤ balance.toNat ∧ a = zeroAddress ∧
      x = { (accountAt π ctx zeroAddress).getD {} with balance := balance }) := by
  cases charged with
  | none => cases hx
  | some accounts =>
      obtain ⟨-, debited, credited, hdebited, hcredited, rfl⟩ := h
      have hmem := Dict.mem_of_get?_ofList hx
      simp only [List.mem_cons, Prod.mk.injEq, List.not_mem_nil, or_false] at hmem
      rcases hmem with ⟨rfl, rfl⟩ | ⟨rfl, rfl⟩
      · exact .inl ⟨debited, by omega, rfl, rfl⟩
      · exact .inr ⟨credited, by omega, rfl, rfl⟩

/-- The payer's account after the charge, if there was one: only the balance may differ. -/
theorem charge_payer {ctx : Str → Option B} {addressFrom : Str}
    {charged : Option (Dict Str Account)} (h : ChargeOutcome π ctx addressFrom charged)
    (hne : addressFrom ≠ zeroAddress) :
    ∃ balance, ((charged.getD .empty).get? addressFrom).getD
        ((accountAt π ctx addressFrom).getD {}) =
      { (accountAt π ctx addressFrom).getD {} with balance := balance } := by
  cases hx : (charged.getD .empty).get? addressFrom with
  | none => exact ⟨_, rfl⟩
  | some x =>
      rcases charge_get? h hx with ⟨balance, -, -, rfl⟩ | ⟨-, -, hzero, -⟩
      · exact ⟨balance, rfl⟩
      · exact absurd hzero hne

theorem write_of_store {payload : NewPubKeyPayload} {m : Message}
    (h : (storePubKey π tz signer payload).run s.get? = .ok u) (hm : u.get? a = some m) :
    Write π tz s.get? signer (.store payload) a m := by
  obtain ⟨configuration, charged, hregistrable, hcharged, rfl⟩ := storePubKey_spec.mp h
  rcases registration_get? hm with ⟨rfl, rfl⟩ | ⟨hne, ⟨x, hget, rfl⟩ | hmem⟩
  · obtain ⟨balance, hpayer⟩ := charge_payer hcharged (accountAddress_ne_zeroAddress signer)
    rw [hpayer]
    exact .account (.register rfl hregistrable (.inl rfl))
  · rcases charge_get? hcharged hget with ⟨-, -, hsigner, -⟩ | ⟨credited, hle, rfl, rfl⟩
    · exact absurd hsigner hne
    · exact .account (.credit hle (.inl (isAccountAddress_zeroAddress π))
        fun owner _ _ => (accountAddress_ne_zeroAddress owner).symm)
  · simp only [List.mem_cons, Prod.mk.injEq, List.not_mem_nil, or_false] at hmem
    rcases hmem with ⟨hsigner, -⟩ | ⟨rfl, rfl⟩
    · exact absurd hsigner hne
    · exact .key (.store hregistrable)

theorem write_of_storeAndPay {payload : NewPubKeyStoreAndPayPayload} {m : Message}
    (h : (storePublicKeyForOther π tz signer payload).run s.get? = .ok u)
    (hm : u.get? a = some m) : Write π tz s.get? signer (.storeAndPay payload) a m := by
  obtain ⟨hsigned, configuration, charged, hregistrable, hcharged, rfl⟩ :=
    storePublicKeyForOther_spec.mp h
  have hother : ∀ a : Str, a ≠ accountAddress π payload.owner → ∀ owner payload',
      (Operation.storeAndPay payload).registration signer = some (owner, payload') →
      a ≠ accountAddress π owner := by
    intro a hne owner payload' hop
    cases hop
    exact hne
  rcases registration_get? hm with ⟨rfl, rfl⟩ | ⟨hne, ⟨x, hget, rfl⟩ | hmem⟩
  · exact .account (.register rfl hregistrable (.inr rfl))
  · rcases charge_get? hcharged hget with ⟨debited, hle, rfl, rfl⟩ | ⟨credited, hle, rfl, rfl⟩
    · exact .account (.debit hle (hother _ hne))
    · exact .account (.credit hle (.inl (isAccountAddress_zeroAddress π)) (hother _ hne))
  · simp only [List.mem_cons, Prod.mk.injEq, List.not_mem_nil, or_false] at hmem
    rcases hmem with ⟨howner, -⟩ | ⟨rfl, rfl⟩ | ⟨rfl, rfl⟩
    · exact absurd howner hne
    · exact .account (.debit le_rfl (hother _ hne))
    · exact .key (.storeAndPay hsigned hregistrable)

theorem write_of_apply (h : op.apply π tz signer s = .ok u) {m : Message} (hm : u.get? a = some m) :
    Write π tz s.get? signer op a m := by
  have hrun := run_of_apply h
  cases op with
  | transfer payload =>
      obtain ⟨accounts, haccounts, rfl⟩ := transfer_spec.mp hrun
      obtain ⟨-, hto, -, debited, credited, hdebited, hcredited, rfl⟩ :=
        transferFromAddress_spec.mp haccounts
      obtain ⟨x, hmem, rfl⟩ := mem_of_mapVals_ofList hm
      simp only [List.mem_cons, Prod.mk.injEq, List.not_mem_nil, or_false] at hmem
      rcases hmem with ⟨rfl, rfl⟩ | ⟨rfl, rfl⟩
      · exact .account (.debit (by omega) (by simp [Operation.registration]))
      · exact .account (.credit (by omega) (.inl hto) (by simp [Operation.registration]))
  | genesis payload =>
      obtain ⟨hfirst, rfl⟩ := genesis_spec.mp hrun
      have hmem := Dict.mem_of_get?_ofList hm
      simp only [List.mem_cons, Prod.mk.injEq, List.not_mem_nil, or_false] at hmem
      rcases hmem with ⟨rfl, rfl⟩ | ⟨rfl, rfl⟩
      · exact .account (.issue hfirst)
      · exact .genesisStatus
  | swapInit payload =>
      obtain ⟨hfree, block, createdAt, c, debited, credited, hblock, hcreated, -, -, hdebited,
        hcredited, rfl⟩ := swapInit_spec.mp hrun
      have hmem := Dict.mem_of_get?_ofList hm
      simp only [List.mem_cons, Prod.mk.injEq, List.not_mem_nil, or_false] at hmem
      rcases hmem with ⟨rfl, rfl⟩ | ⟨rfl, rfl⟩ | ⟨rfl, rfl⟩
      · exact .swap (.init hfree hblock hcreated)
      · exact .account (.debit (by omega) (by simp [Operation.registration]))
      · exact .account (.credit (by omega) (.inl (isAccountAddress_zeroAddress π))
          (by simp [Operation.registration]))
  | swapApprove payload =>
      obtain ⟨swap, hswap, hstate, hinitiator, hsender, hlock, rfl⟩ := swapApprove_spec.mp hrun
      obtain ⟨rfl, rfl⟩ : a = swapAddress π payload.swapId ∧ m = _ := by
        simpa using Dict.mem_of_get?_ofList hm
      exact .swap (.approve hswap hstate hinitiator hsender hlock)
  | swapExpire payload =>
      obtain ⟨swap, block, balance, hswap, hopen, hsender, hblock, htime, hbalance, rfl⟩ :=
        swapExpire_spec.mp hrun
      have hmem := Dict.mem_of_get?_ofList hm
      simp only [List.mem_cons, Prod.mk.injEq, List.not_mem_nil, or_false] at hmem
      rcases hmem with ⟨rfl, rfl⟩ | ⟨rfl, rfl⟩
      · exact .swap (.expire hswap hopen hsender hblock htime)
      · exact .account (.credit (by omega) (.inl (isAccountAddress_accountAddress π signer))
          (by simp [Operation.registration]))
  | swapSetLock payload =>
      obtain ⟨swap, hswap, hopen, hempty, rfl⟩ := swapSetLock_spec.mp hrun
      obtain ⟨rfl, rfl⟩ : a = swapAddress π payload.swapId ∧ m = _ := by
        simpa using Dict.mem_of_get?_ofList hm
      exact .swap (.setLock hswap hopen hempty (secretLock_ne_nil h))
  | swapClose payload =>
      obtain ⟨swap, balance, hswap, hopen, hlock, hhash, happroved, hbalance, rfl⟩ :=
        swapClose_spec.mp hrun
      have hmem := Dict.mem_of_get?_ofList hm
      simp only [List.mem_cons, Prod.mk.injEq, List.not_mem_nil, or_false] at hmem
      rcases hmem with ⟨rfl, rfl⟩ | ⟨rfl, rfl⟩
      · exact .swap (.close hswap hopen hlock hhash happroved (secretKey_ne_nil h))
      · exact .account (.credit (by omega) (.inr ⟨payload, swap, rfl, hswap, rfl⟩)
          (by simp [Operation.registration]))
  | store payload => exact write_of_store hrun hm
  | revoke payload =>
      obtain ⟨stored, hstored, howner, hrevoked, rfl⟩ := revokePubKey_spec.mp hrun
      obtain ⟨rfl, rfl⟩ : a = payload.address ∧ m = _ := by
        simpa using Dict.mem_of_get?_ofList hm
      exact .key (.revoke hstored howner hrevoked)
  | storeAndPay payload => exact write_of_storeAndPay hrun hm

/-! ## One step -/

variable {s' : Dict Str B} {l : Label}

theorem Step.of_transaction (h : Step π tz s (.transaction signer op u) s') :
    IsPublicKey signer ∧ op.apply π tz signer s = .ok u ∧ s' = setState π s u := by
  cases h with
  | transaction hsigner haccepted => exact ⟨hsigner, haccepted, rfl⟩

/-- What a step does to one entry: nothing, the write of a transaction, or a change of the
environment. -/
theorem Step.entry (h : Step π tz s l s') (a : Str) :
    s'.get? a = s.get? a ∨
    (∃ signer op u m, l = .transaction signer op u ∧ IsPublicKey signer ∧ u.get? a = some m ∧
      Write π tz s.get? signer op a m ∧ s'.get? a = some (π.pb.serialize m)) ∨
    (IsEnvironmentAddress a ∧ ∀ d, s'.get? a = some d → π.pb.IsEnvironmentData d) := by
  cases h with
  | @transaction signer op u hsigner haccepted =>
      cases hu : u.get? a with
      | none => exact .inl (get?_setState_of_none hu)
      | some m =>
          exact .inr (.inl ⟨signer, op, u, m, rfl, hsigner, hu, write_of_apply haccepted hu,
            get?_setState_of_some hu⟩)
  | environment hchange =>
      by_cases hsame : s'.get? a = s.get? a
      · exact .inl hsame
      · exact .inr (.inr (hchange a hsame))

end Remme.Tp
