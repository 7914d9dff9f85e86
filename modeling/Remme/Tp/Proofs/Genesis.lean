import Remme.Tp.Proofs.Placement
/-!
# The effect of GENESIS

Nothing ties GENESIS to the first block: with the economy switched off, keys can
be registered before it.  Until it is accepted there are no tokens and no swaps,
and afterwards its status never leaves the state, so it is accepted once.  It
builds the signer's account from scratch, and the keys listed there are lost.
-/

namespace Remme.Tp

open Remme.Lib Remme.Protos Remme.Shared Remme.Shared.Forms Remme.Settings

variable {B : Type} {π : Platform B} {tz : TimeZone} {s s' : Dict Str B} {signer a : Str}
  {op : Operation} {u : Dict Str Message} {l : Label} {d : B}

/-! ## No swap pays to the status -/

/-- The text of GENESIS_ADDRESS reads as the number 1, on which `Regexp` raises. -/
theorem not_valid_genesisAddress {data : FieldData}
    (hload : genLoad (.text genesisAddress) = .ok data) :
    runValidators addressField data ≠ .ok [] := by
  have hone : genLoad (.text genesisAddress) = .ok (.int 1) := by decide +kernel
  rw [hone] at hload
  cases hload
  decide

theorem receiver_ne_genesisAddress {payload : AtomicSwapInitPayload}
    (h : (Operation.swapInit payload).apply π tz signer s = .ok u) :
    payload.receiverAddress ≠ genesisAddress := by
  intro heq
  obtain ⟨result, hvalidate, hvalid, -⟩ := apply_eq_ok.mp h
  obtain ⟨data, hload, hdata⟩ := validateFields_valid hvalidate hvalid
    ⟨"receiver_address", addressField, .text payload.receiverAddress⟩ (by simp)
  rw [heq] at hload
  exact not_valid_genesisAddress hload hdata

/-- The bytes of an account never parse as a swap record towards GENESIS_ADDRESS: an account
has a number in field 1 and texts in field 2, and `receiver_address` is field 3. -/
def NoForeignReceiver (pb : Protobuf B) : Prop :=
  ∀ m w, pb.atomicSwapInfo.parseFromString (pb.account.serializeToString m) = some w →
    w.receiverAddress ≠ genesisAddress

/-- A swap address holds a record that does not pay to the status, or an account that a CLOSE
put there. -/
def SwapsAvoidStatus (π : Platform B) (s : Dict Str B) : Prop :=
  ∀ a d, IsSwapAddress π a → s.get? a = some d →
    (∃ w : AtomicSwapInfo, d = π.pb.serialize (.atomicSwapInfo w) ∧
      w.receiverAddress ≠ genesisAddress) ∨ ∃ m, d = π.pb.serialize (.account m)

theorem SwapsAvoidStatus.receiver (hreceiver : NoForeignReceiver π.pb)
    (hinv : SwapsAvoidStatus π s) {w : AtomicSwapInfo} (ha : IsSwapAddress π a)
    (hw : swapAt π s.get? a = some w) : w.receiverAddress ≠ genesisAddress := by
  obtain ⟨d, hget, hparse⟩ := Option.bind_eq_some_iff.mp hw
  rcases hinv a d ha hget with ⟨w', rfl, hne⟩ | ⟨m, rfl⟩
  · have hsame : some w' = some w := (π.pb.atomicSwapInfo.parse_serialize w').symm.trans hparse
    cases hsame
    exact hne
  · exact hreceiver m w hparse

/-- A swap record takes its receiver from the INIT or from the record it replaces. -/
theorem SwapWrite.receiver {ctx : Str → Option B} {w : AtomicSwapInfo}
    (h : SwapWrite π tz ctx signer op a w) :
    (∃ payload, op = .swapInit payload ∧ w.receiverAddress = payload.receiverAddress) ∨
      ∃ old, swapAt π ctx a = some old ∧ w.receiverAddress = old.receiverAddress := by
  cases h with
  | @init payload => exact .inl ⟨payload, rfl, rfl⟩
  | setLock hold => exact .inr ⟨_, hold, rfl⟩
  | approve hold => exact .inr ⟨_, hold, rfl⟩
  | expire hold => exact .inr ⟨_, hold, rfl⟩
  | close hold => exact .inr ⟨_, hold, rfl⟩

theorem SwapsAvoidStatus.step (hforeign : π.pb.NoForeignOwner)
    (hreceiver : NoForeignReceiver π.pb) (hstep : Step π tz s l s')
    (hinv : SwapsAvoidStatus π s) : SwapsAvoidStatus π s' := by
  intro a d ha hget
  rcases hstep.entry a with hsame | ⟨signer, op, u, m, hl, hsigner, -, hw, hpost⟩ | ⟨henv, -⟩
  · rw [hsame] at hget
    exact hinv a d ha hget
  · rw [hpost] at hget
    cases hget
    cases hw with
    | swap hswap =>
        refine .inl ⟨_, rfl, ?_⟩
        rcases hswap.receiver with ⟨payload, rfl, heq⟩ | ⟨old, hold, heq⟩
        · subst hl
          rw [heq]
          exact receiver_ne_genesisAddress hstep.of_transaction.2.1
        · rw [heq]
          exact hinv.receiver hreceiver ha hold
    | key hkey =>
        exfalso
        cases hkey with
        | store => exact ha.not_pubKey (isPubKeyAddress_pubKeyAddress π _)
        | storeAndPay => exact ha.not_pubKey (isPubKeyAddress_pubKeyAddress π _)
        | revoke hstored howner =>
            obtain ⟨d, hget, hparse⟩ := Option.bind_eq_some_iff.mp hstored
            have hkey := howner ▸ hsigner
            rcases hinv _ d ha hget with ⟨w, rfl, -⟩ | ⟨m, rfl⟩
            · exact hforeign.atomicSwapInfo w _ hparse hkey
            · exact hforeign.account m _ hparse hkey
    | account => exact .inr ⟨_, rfl⟩
    | genesisStatus => exact absurd rfl ha.ne_genesisAddress
  · exact absurd henv ha.not_environment

/-! ## Before the first GENESIS -/

/-- A store without tokens: no account has a balance, and there is no swap. -/
structure NoTokens (π : Platform B) (s : Dict Str B) : Prop where
  balance : ∀ a, IsAccountAddress π a → balanceAt π s.get? a = 0
  swap : ∀ a, IsSwapAddress π a → s.get? a = none

theorem NoTokens.swapAt (hinv : NoTokens π s) (id : Str) :
    swapAt π s.get? (swapAddress π id) = none := by
  unfold Tp.swapAt
  rw [hinv.swap _ (isSwapAddress_swapAddress π id)]
  rfl

theorem NoTokens.balance_signer (hinv : NoTokens π s) (signer : Str) :
    balanceAt π s.get? (accountAddress π signer) = 0 :=
  hinv.balance _ (isAccountAddress_accountAddress π signer)

/-- Without tokens nothing is charged for a key. -/
theorem NoTokens.not_charged (hinv : NoTokens π s) {charged : Option (Dict Str Account)}
    (h : ChargeOutcome π s.get? (accountAddress π signer) charged) : charged = none := by
  cases charged with
  | none => rfl
  | some accounts =>
      obtain ⟨-, debited, credited, hdebited, -⟩ := h
      have hzero := hinv.balance_signer signer
      omega

/-- Without tokens, only GENESIS and the operations on keys are accepted. -/
theorem NoTokens.accepted (hinv : NoTokens π s) (h : op.apply π tz signer s = .ok u) :
    (∃ payload, op = .genesis payload) ∨ (∃ payload, op = .store payload) ∨
      (∃ payload, op = .storeAndPay payload) ∨ ∃ payload, op = .revoke payload := by
  have hrun := run_of_apply h
  have hzero := hinv.balance_signer signer
  cases op with
  | transfer payload =>
      obtain ⟨accounts, haccounts, -⟩ := transfer_spec.mp hrun
      obtain ⟨hvalue, -, -, debited, credited, hdebited, -⟩ :=
        transferFromAddress_spec.mp haccounts
      have hpos := uint64_ne_zero_iff.mp hvalue
      omega
  | genesis payload => exact .inl ⟨payload, rfl⟩
  | swapInit payload =>
      obtain ⟨-, block, createdAt, c, debited, credited, -, -, -, hpos, hdebited, -⟩ :=
        swapInit_spec.mp hrun
      omega
  | swapApprove payload =>
      obtain ⟨swap, hswap, -⟩ := swapApprove_spec.mp hrun
      rw [hinv.swapAt] at hswap
      cases hswap
  | swapExpire payload =>
      obtain ⟨swap, block, balance, hswap, -⟩ := swapExpire_spec.mp hrun
      rw [hinv.swapAt] at hswap
      cases hswap
  | swapSetLock payload =>
      obtain ⟨swap, hswap, -⟩ := swapSetLock_spec.mp hrun
      rw [hinv.swapAt] at hswap
      cases hswap
  | swapClose payload =>
      obtain ⟨swap, balance, hswap, -⟩ := swapClose_spec.mp hrun
      rw [hinv.swapAt] at hswap
      cases hswap
  | store payload => exact .inr (.inl ⟨payload, rfl⟩)
  | revoke payload => exact .inr (.inr (.inr ⟨payload, rfl⟩))
  | storeAndPay payload => exact .inr (.inr (.inl ⟨payload, rfl⟩))

/-- Where nothing is charged, registering a key writes every account with its balance. -/
theorem registration_balance {owner : Str} {payload : NewPubKeyPayload}
    (hop : op.registration signer = some (owner, payload)) (hinv : NoTokens π s)
    (h : op.apply π tz signer s = .ok u) {x : Account} (hx : u.get? a = some (.account x)) :
    x.balance.toNat = balanceAt π s.get? a := by
  have hrun := run_of_apply h
  cases op with
  | store payload =>
      obtain ⟨configuration, charged, -, hcharged, rfl⟩ := storePubKey_spec.mp hrun
      obtain rfl := hinv.not_charged hcharged
      rcases registration_get? hx with ⟨rfl, heq⟩ | ⟨hne, ⟨y, hy, -⟩ | hmem⟩
      · cases heq
        rw [storePublicKeyToAccount_balance]
        rfl
      · cases hy
      · simp only [List.mem_cons, Prod.mk.injEq, List.not_mem_nil, or_false, reduceCtorEq,
          and_false] at hmem
        exact absurd hmem.1 hne
  | storeAndPay payload =>
      obtain ⟨-, configuration, charged, -, hcharged, rfl⟩ :=
        storePublicKeyForOther_spec.mp hrun
      obtain rfl := hinv.not_charged hcharged
      rcases registration_get? hx with ⟨rfl, heq⟩ | ⟨hne, ⟨y, hy, -⟩ | hmem⟩
      · cases heq
        rw [storePublicKeyToAccount_balance]
        rfl
      · cases hy
      · simp only [List.mem_cons, Prod.mk.injEq, List.not_mem_nil, or_false, reduceCtorEq,
          and_false, Message.account.injEq] at hmem
        rcases hmem with ⟨howner, -⟩ | ⟨rfl, rfl⟩
        · exact absurd howner hne
        · rfl
  | transfer => cases hop
  | genesis => cases hop
  | swapInit => cases hop
  | swapApprove => cases hop
  | swapExpire => cases hop
  | swapSetLock => cases hop
  | swapClose => cases hop
  | revoke => cases hop

theorem AccountWrite.isAccountAddress {ctx : Str → Option B} {x : Account}
    (h : AccountWrite π tz ctx signer op a x) (hclose : ∀ payload, op ≠ .swapClose payload) :
    IsAccountAddress π a := by
  cases h with
  | issue => exact isAccountAddress_accountAddress π _
  | debit => exact isAccountAddress_accountAddress π _
  | credit _ hkind =>
      rcases hkind with hkind | ⟨payload, swap, hop, -⟩
      · exact hkind
      · exact absurd hop (hclose payload)
  | register => exact isAccountAddress_accountAddress π _

/-- The step is not an accepted GENESIS. -/
def Label.NotGenesis (l : Label) : Prop :=
  ∀ signer payload u, l ≠ .transaction signer (.genesis payload) u

/-- Before GENESIS only accounts and key records are written. -/
theorem NoTokens.absent_step (hinv : NoTokens π s) (hstep : Step π tz s l s')
    (hnot : l.NotGenesis) (habsent : s.get? a = none) (haccount : ¬IsAccountAddress π a)
    (hkey : ¬IsPubKeyAddress π a) (henv : ¬IsEnvironmentAddress a) : s'.get? a = none := by
  rcases hstep.entry a with hsame | ⟨signer, op, u, m, rfl, -, -, hw, -⟩ | ⟨henv', -⟩
  · rw [hsame]
    exact habsent
  · exfalso
    have hop := hinv.accepted hstep.of_transaction.2.1
    cases hw with
    | swap hswap =>
        cases hswap <;> simp at hop
    | key hwrite =>
        cases hwrite with
        | store => exact hkey (isPubKeyAddress_pubKeyAddress π _)
        | storeAndPay => exact hkey (isPubKeyAddress_pubKeyAddress π _)
        | revoke hstored =>
            rw [pubKeyAt, habsent] at hstored
            cases hstored
    | account hwrite =>
        apply haccount
        apply hwrite.isAccountAddress
        rintro payload rfl
        simp at hop
    | genesisStatus => exact hnot _ _ _ rfl
  · exact absurd henv' henv

theorem NoTokens.step (hforeign : π.pb.NoForeignOwner) (haccounts : AccountsHoldAccounts π s)
    (hinv : NoTokens π s) (hstep : Step π tz s l s') (hnot : l.NotGenesis) : NoTokens π s' where
  balance := by
    intro a ha
    have hzero := hinv.balance a ha
    rcases hstep.entry a with hsame | ⟨signer, op, u, m, rfl, hsigner, hu, hw, hpost⟩ | ⟨henv, -⟩
    · unfold balanceAt accountAt
      rw [hsame]
      exact hzero
    · obtain ⟨x, rfl⟩ := haccounts.written hforeign hsigner hw ha
      obtain ⟨-, haccepted, rfl⟩ := hstep.of_transaction
      have hbalance : x.balance.toNat = balanceAt π s.get? a := by
        rcases hinv.accepted haccepted with ⟨payload, rfl⟩ | ⟨payload, rfl⟩ | ⟨payload, rfl⟩ |
          ⟨payload, rfl⟩
        · exact absurd rfl (hnot _ _ _)
        · exact registration_balance rfl hinv haccepted hu
        · exact registration_balance rfl hinv haccepted hu
        · obtain ⟨stored, -, -, -, rfl⟩ := revokePubKey_spec.mp (run_of_apply haccepted)
          have hmem := Dict.mem_of_get?_ofList hu
          simp at hmem
      rw [balanceAt_setState_of_some hu, hbalance]
      exact hzero
    · exact absurd henv ha.not_environment
  swap := by
    intro a ha
    exact hinv.absent_step hstep hnot (hinv.swap a ha) (fun h => h.not_swap ha) ha.not_pubKey
      ha.not_environment

/-! ## The status is written once -/

/-- No status and no tokens yet, or a status that says so. -/
structure IssuedOnce (π : Platform B) (s : Dict Str B) : Prop where
  accounts : AccountsHoldAccounts π s
  swaps : SwapsAvoidStatus π s
  status : (s.get? genesisAddress = none ∧ NoTokens π s) ∨
    s.get? genesisAddress = some (π.pb.serialize (.genesisStatus { status := true }))

theorem issuedOnce_empty : IssuedOnce π Dict.empty where
  accounts := by
    intro a d _ hget
    cases hget
  swaps := by
    intro a d _ hget
    cases hget
  status := .inl ⟨rfl, ⟨fun _ _ => rfl, fun _ _ => rfl⟩⟩

theorem genesis_writes_status {payload : GenesisPayload}
    (h : (Operation.genesis payload).apply π tz signer s = .ok u)
    (habsent : s.get? genesisAddress = none) :
    (setState π s u).get? genesisAddress =
      some (π.pb.serialize (.genesisStatus { status := true })) := by
  obtain ⟨-, rfl⟩ := genesis_spec.mp (run_of_apply h)
  rw [genesisStatusAt, habsent]
  exact get?_setState_of_some (Dict.get?_set_self _ _ _)

/-- A status that is set refuses every GENESIS. -/
theorem genesis_refused {payload : GenesisPayload}
    (hset : s.get? genesisAddress = some (π.pb.serialize (.genesisStatus { status := true }))) :
    (Operation.genesis payload).apply π tz signer s ≠ .ok u := by
  intro h
  obtain ⟨hfirst, -⟩ := genesis_spec.mp (run_of_apply h)
  apply hfirst
  rw [genesisStatusAt, hset]
  simp [Protobuf.serialize]

/-- A status that is set stays: GENESIS is refused, and no other write reaches its address. -/
theorem IssuedOnce.status_stays (hforeign : π.pb.NoForeignOwner)
    (hreceiver : NoForeignReceiver π.pb) (hinv : IssuedOnce π s) (hstep : Step π tz s l s')
    (hset : s.get? genesisAddress = some (π.pb.serialize (.genesisStatus { status := true }))) :
    s'.get? genesisAddress = s.get? genesisAddress := by
  have hnot : ¬IsAccountAddress π genesisAddress := fun h => h.ne_genesisAddress rfl
  rcases hstep.entry genesisAddress with hsame | ⟨signer, op, u, m, rfl, hsigner, -, hw, -⟩ |
    ⟨henv, -⟩
  · exact hsame
  · exfalso
    generalize ha : genesisAddress = a at hw
    cases hw with
    | swap hswap =>
        have hkind : IsSwapAddress π a := by
          cases hswap <;> exact isSwapAddress_swapAddress π _
        exact hkind.ne_genesisAddress ha.symm
    | key hkey =>
        cases hkey with
        | store => exact (isPubKeyAddress_pubKeyAddress π _).ne_genesisAddress ha.symm
        | storeAndPay => exact (isPubKeyAddress_pubKeyAddress π _).ne_genesisAddress ha.symm
        | revoke hstored howner =>
            rw [← ha, pubKeyAt, hset] at hstored
            exact hforeign.genesisStatus _ _ hstored (howner ▸ hsigner)
    | account hwrite =>
        cases hwrite with
        | issue => exact hnot (ha ▸ isAccountAddress_accountAddress π _)
        | debit => exact hnot (ha ▸ isAccountAddress_accountAddress π _)
        | credit _ hkind =>
            rcases hkind with hkind | ⟨payload, swap, -, hswap, heq⟩
            · exact hnot (ha ▸ hkind)
            · apply hinv.swaps.receiver hreceiver (isSwapAddress_swapAddress π _) hswap
              rw [← heq, ha]
        | register => exact hnot (ha ▸ isAccountAddress_accountAddress π _)
    | genesisStatus => exact genesis_refused hset hstep.of_transaction.2.1
  · exact absurd rfl henv.2.2

theorem IssuedOnce.step (hforeign : π.pb.NoForeignOwner) (hreceiver : NoForeignReceiver π.pb)
    (hinv : IssuedOnce π s) (hstep : Step π tz s l s') : IssuedOnce π s' where
  accounts := hinv.accounts.step hforeign hstep
  swaps := hinv.swaps.step hforeign hreceiver hstep
  status := by
    rcases hinv.status with ⟨habsent, htokens⟩ | hset
    · by_cases hnot : l.NotGenesis
      · refine .inl ⟨?_, htokens.step hforeign hinv.accounts hstep hnot⟩
        exact htokens.absent_step hstep hnot habsent (fun h => h.ne_genesisAddress rfl)
          (fun h => h.ne_genesisAddress rfl) (fun h => h.2.2 rfl)
      · right
        simp only [Label.NotGenesis, ne_eq, not_forall, not_not] at hnot
        obtain ⟨signer, payload, u, rfl⟩ := hnot
        obtain ⟨-, haccepted, rfl⟩ := hstep.of_transaction
        exact genesis_writes_status haccepted habsent
    · right
      rw [hinv.status_stays hforeign hreceiver hstep hset]
      exact hset

theorem issuedOnce_of_run (hforeign : π.pb.NoForeignOwner) (hreceiver : NoForeignReceiver π.pb)
    {ts : List (Transition (Dict Str B) Label)} (hrun : LedgerRun π tz ts s) :
    IssuedOnce π s := by
  apply hrun.invariant issuedOnce_empty
  intro e _ hstep hinv
  exact hinv.step hforeign hreceiver hstep

/-! ## What GENESIS changes -/

/-- The states differ in the status and in the balance of the signer's account only. -/
structure OnlyAddsSupply (π : Platform B) (signer : Str) (payload : GenesisPayload)
    (s s' : Dict Str B) : Prop where
  status : genesisStatusAt π s'.get? genesisAddress = some { status := true }
  balance : balanceAt π s'.get? (accountAddress π signer) =
    balanceAt π s.get? (accountAddress π signer) + payload.totalSupply.toNat
  pubKeys : pubKeysAt π s'.get? (accountAddress π signer) =
    pubKeysAt π s.get? (accountAddress π signer)
  frame : ∀ a, a ≠ genesisAddress → a ≠ accountAddress π signer → s'.get? a = s.get? a

section Effect

variable {payload : GenesisPayload}
  (h : (Operation.genesis payload).apply π tz signer s = .ok u)

include h

theorem genesis_account :
    u.get? (accountAddress π signer) = some (.account { balance := payload.totalSupply }) := by
  obtain ⟨-, rfl⟩ := genesis_spec.mp (run_of_apply h)
  exact get?_ofList_fst (isAccountAddress_accountAddress π signer).ne_genesisAddress _ _

/-- GENESIS leaves no key in the signer's account. -/
theorem genesis_pubKeys :
    pubKeysAt π (setState π s u).get? (accountAddress π signer) = [] := by
  unfold pubKeysAt
  rw [accountAt_setState_of_some (genesis_account h)]
  rfl

theorem genesis_balance :
    balanceAt π (setState π s u).get? (accountAddress π signer) = payload.totalSupply.toNat :=
  balanceAt_setState_of_some (genesis_account h)

theorem genesis_status (habsent : s.get? genesisAddress = none) :
    genesisStatusAt π (setState π s u).get? genesisAddress = some { status := true } := by
  rw [genesisStatusAt, genesis_writes_status h habsent]
  exact π.pb.genesisStatus.parse_serialize _

theorem genesis_frame (hstatus : a ≠ genesisAddress) (hsigner : a ≠ accountAddress π signer) :
    (setState π s u).get? a = s.get? a := by
  obtain ⟨-, rfl⟩ := genesis_spec.mp (run_of_apply h)
  apply get?_setState_of_none
  apply Dict.get?_ofList_of_not_mem
  simp [hstatus, hsigner]

end Effect

/-- In a reachable store GENESIS only adds the supply exactly when the signer's account lists no
keys. -/
theorem onlyAddsSupply_iff (hforeign : π.pb.NoForeignOwner) (hreceiver : NoForeignReceiver π.pb)
    {ts : List (Transition (Dict Str B) Label)} (hrun : LedgerRun π tz ts s)
    {payload : GenesisPayload} (h : (Operation.genesis payload).apply π tz signer s = .ok u) :
    OnlyAddsSupply π signer payload s (setState π s u) ↔
      pubKeysAt π s.get? (accountAddress π signer) = [] := by
  constructor
  · intro honly
    rw [← honly.pubKeys]
    exact genesis_pubKeys h
  · intro hkeys
    rcases (issuedOnce_of_run hforeign hreceiver hrun).status with ⟨habsent, htokens⟩ | hset
    · refine ⟨genesis_status h habsent, ?_, ?_, fun a => genesis_frame h⟩
      · rw [genesis_balance h, htokens.balance_signer]
        omega
      · rw [genesis_pubKeys h, hkeys]
    · exact absurd h (genesis_refused hset)

/-! ## Keys before GENESIS -/

theorem Sample.noForeignReceiver : NoForeignReceiver Sample.platform.pb := by
  intro m w hparse
  cases hparse

/-- `bot` has no keys when he sends GENESIS. -/
theorem onlyAddsSupply_bot :
    ∃ u, (Operation.genesis { totalSupply := 1000000 }).apply Sample.platform Sample.utc
        Sample.bot (Sample.final Sample.keyScript) = .ok u ∧
      OnlyAddsSupply Sample.platform Sample.bot { totalSupply := 1000000 }
        (Sample.final Sample.keyScript)
        (setState Sample.platform (Sample.final Sample.keyScript) u) := by
  have hrun := Sample.run_of_accepted Sample.keyScript_legal Sample.keyScript_accepted
  obtain ⟨u, hu⟩ := exists_ok (x := (Operation.genesis { totalSupply := 1000000 }).apply
    Sample.platform Sample.utc Sample.bot (Sample.final Sample.keyScript)) (by decide +kernel)
  refine ⟨u, hu, ?_⟩
  exact (onlyAddsSupply_iff Sample.noForeignOwner Sample.noForeignReceiver hrun hu).mpr
    (by decide +kernel)

/-- `alice` registered a key with the economy off; her GENESIS drops it from her account. -/
theorem alice_not_onlyAddsSupply :
    LedgerRun Sample.platform Sample.utc (Sample.transitions Sample.keyScript)
        (Sample.final Sample.keyScript) ∧
      ∃ u, (Operation.genesis { totalSupply := 1000000 }).apply Sample.platform Sample.utc
          Sample.alice (Sample.final Sample.keyScript) = .ok u ∧
        ¬OnlyAddsSupply Sample.platform Sample.alice { totalSupply := 1000000 }
          (Sample.final Sample.keyScript)
          (setState Sample.platform (Sample.final Sample.keyScript) u) := by
  have hrun := Sample.run_of_accepted Sample.keyScript_legal Sample.keyScript_accepted
  obtain ⟨u, hu⟩ := exists_ok (x := (Operation.genesis { totalSupply := 1000000 }).apply
    Sample.platform Sample.utc Sample.alice (Sample.final Sample.keyScript)) (by decide +kernel)
  refine ⟨hrun, u, hu, fun honly => ?_⟩
  have hkeys : pubKeysAt Sample.platform (Sample.final Sample.keyScript).get?
      (accountAddress Sample.platform Sample.alice) ≠ [] := by decide +kernel
  apply hkeys
  rw [← honly.pubKeys]
  exact genesis_pubKeys hu

end Remme.Tp
