import Remme.Tp.Proofs.Placement
import Remme.Tp.Script
/-!
# Conservation of tokens

Between an INIT and its CLOSE or EXPIRE the amount of a swap is in no account,
only in the record.  What every operation conserves is the sum of all balances
and of the amounts in the swaps that are not final; GENESIS alone changes it,
once, from nothing to the supply.  Since every balance and every amount in
escrow is part of that sum, no addition to a balance leaves its range.
-/

namespace Remme.Tp

open Remme.Lib Remme.Protos Remme.Shared Remme.Settings

variable {B : Type} {π : Platform B} {tz : TimeZone} {s s' : Dict Str B} {signer a x : Str}
  {op : Operation} {u : Dict Str Message} {l : Label}

/-! ## The quantity -/

/-- The amount that a swap record holds in escrow. -/
def escrow : Option AtomicSwapInfo → ℕ
  | some w => if notPermittedToChange w.state then 0 else w.amount.toNat
  | none => 0

/-- The balance in an entry, if its address is for accounts. -/
def balanceWeight (π : Platform B) (a : Str) (d : B) : ℕ :=
  if IsAccountAddress π a then ((π.pb.account.parseFromString d).getD {}).balance.toNat else 0

/-- The escrow in an entry, if its address is for swaps. -/
def escrowWeight (π : Platform B) (a : Str) (d : B) : ℕ :=
  if IsSwapAddress π a then escrow (π.pb.atomicSwapInfo.parseFromString d) else 0

/-- The sum of all balances, the zero address included. -/
def totalBalance (π : Platform B) (s : Dict Str B) : ℕ := s.total (balanceWeight π)

/-- The sum of the amounts of all swaps that are neither closed nor expired. -/
def totalEscrow (π : Platform B) (s : Dict Str B) : ℕ := s.total (escrowWeight π)

/-- What an entry contributes to either sum. -/
def tokenWeight (π : Platform B) (a : Str) (d : B) : ℕ := balanceWeight π a d + escrowWeight π a d

theorem total_tokenWeight (s : Dict Str B) :
    s.total (tokenWeight π) = totalBalance π s + totalEscrow π s := by
  unfold totalBalance totalEscrow Dict.total Dict.sumEntries tokenWeight
  rw [← List.sum_map_add]

theorem tokenWeight_account (ha : IsAccountAddress π a) (m : Account) :
    tokenWeight π a (π.pb.serialize (.account m)) = m.balance.toNat := by
  simp [tokenWeight, balanceWeight, escrowWeight, ha, ha.not_swap, Protobuf.serialize]

theorem tokenWeight_swap (ha : IsSwapAddress π a) (w : AtomicSwapInfo) :
    tokenWeight π a (π.pb.serialize (.atomicSwapInfo w)) = escrow (some w) := by
  have hnot : ¬IsAccountAddress π a := fun h => h.not_swap ha
  simp [tokenWeight, balanceWeight, escrowWeight, ha, hnot, Protobuf.serialize]

theorem tokenWeight_other (hacc : ¬IsAccountAddress π a) (hswap : ¬IsSwapAddress π a) (d : B) :
    tokenWeight π a d = 0 := by
  simp [tokenWeight, balanceWeight, escrowWeight, hacc, hswap]

theorem weigh_account (ha : IsAccountAddress π a) :
    Dict.weigh (tokenWeight π) a (s.get? a) = balanceAt π s.get? a := by
  unfold balanceAt accountAt
  cases s.get? a with
  | none => rfl
  | some d => simp [tokenWeight, balanceWeight, escrowWeight, ha, ha.not_swap]

theorem weigh_swap (ha : IsSwapAddress π a) :
    Dict.weigh (tokenWeight π) a (s.get? a) = escrow (swapAt π s.get? a) := by
  have hnot : ¬IsAccountAddress π a := fun h => h.not_swap ha
  unfold swapAt
  cases s.get? a with
  | none => rfl
  | some d => simp [tokenWeight, balanceWeight, escrowWeight, ha, hnot]

theorem weigh_other (hacc : ¬IsAccountAddress π a) (hswap : ¬IsSwapAddress π a) (o : Option B) :
    Dict.weigh (tokenWeight π) a o = 0 := by
  cases o with
  | none => rfl
  | some d => exact tokenWeight_other hacc hswap d

theorem total_setState :
    (setState π s u).total (tokenWeight π) +
        u.total (fun a _ => Dict.weigh (tokenWeight π) a (s.get? a)) =
      s.total (tokenWeight π) + u.total (fun a m => tokenWeight π a (π.pb.serialize m)) := by
  have h := Dict.total_update (tokenWeight π) s (u.mapVals π.pb.serialize)
  rw [Dict.total_mapVals, Dict.total_mapVals] at h
  exact h

theorem IsPubKeyAddress.weightless (h : IsPubKeyAddress π a) :
    ¬IsAccountAddress π a ∧ ¬IsSwapAddress π a :=
  ⟨fun hacc => hacc.not_pubKey h, fun hswap => hswap.not_pubKey h⟩

theorem genesisAddress_weightless :
    ¬IsAccountAddress π genesisAddress ∧ ¬IsSwapAddress π genesisAddress :=
  ⟨fun hacc => hacc.ne_genesisAddress rfl, fun hswap => hswap.ne_genesisAddress rfl⟩

/-! ## Operations that conserve the sum -/

/-- The sum does not change when the written entries contribute what they did before. -/
theorem total_eq_of_items {es : List (Str × Message)} (hu : u = .ofList es)
    (hnodup : (es.map Prod.fst).Nodup)
    (hsum : (es.map fun e => Dict.weigh (tokenWeight π) e.1 (s.get? e.1)).sum =
      (es.map fun e => tokenWeight π e.1 (π.pb.serialize e.2)).sum) :
    (setState π s u).total (tokenWeight π) = s.total (tokenWeight π) := by
  have h := total_setState (π := π) (s := s) (u := u)
  rw [hu, Dict.total_ofList _ hnodup, Dict.total_ofList _ hnodup, ← hu] at h
  omega

theorem transfer_conserves {payload : TransferPayload}
    (h : (transfer π signer payload).run s.get? = .ok u) :
    (setState π s u).total (tokenWeight π) = s.total (tokenWeight π) := by
  obtain ⟨accounts, haccounts, rfl⟩ := transfer_spec.mp h
  obtain ⟨-, hto, hne, debited, credited, hdebited, hcredited, rfl⟩ :=
    transferFromAddress_spec.mp haccounts
  have hfrom := isAccountAddress_accountAddress π signer
  apply total_eq_of_items (Dict.mapVals_ofList _ (by simp [hne])) (by simp [hne])
  simp [weigh_account, tokenWeight_account, hto, hfrom]
  omega

theorem swapInit_conserves {payload : AtomicSwapInitPayload}
    (h : (swapInit π signer payload).run s.get? = .ok u) :
    (setState π s u).total (tokenWeight π) = s.total (tokenWeight π) := by
  obtain ⟨hfree, block, createdAt, c, debited, credited, -, -, -, -, hdebited, hcredited, hu⟩ :=
    swapInit_spec.mp h
  have hsender := isAccountAddress_accountAddress π signer
  have hzero := isAccountAddress_zeroAddress π
  have hswap := isSwapAddress_swapAddress π payload.swapId
  apply total_eq_of_items hu
  · simp [hswap.ne_account hsender, hswap.ne_account hzero, accountAddress_ne_zeroAddress]
  · have hopened : escrow (some (openedSwap π signer payload createdAt)) = payload.amount.toNat :=
      rfl
    simp [weigh_account, weigh_swap, tokenWeight_account, tokenWeight_swap, hsender, hzero, hswap,
      hfree, hopened]
    simp only [escrow]
    omega

theorem escrow_of_not_final {w : AtomicSwapInfo} (h : notPermittedToChange w.state = false) :
    escrow (some w) = w.amount.toNat := by
  simp [escrow, h]

theorem escrow_of_final {w : AtomicSwapInfo} (h : notPermittedToChange w.state = true) :
    escrow (some w) = 0 := by
  simp [escrow, h]

theorem swapSetLock_conserves {payload : AtomicSwapSetSecretLockPayload}
    (h : (swapSetLock π payload).run s.get? = .ok u) :
    (setState π s u).total (tokenWeight π) = s.total (tokenWeight π) := by
  obtain ⟨swap, hold, hopen, -, hu⟩ := swapSetLock_spec.mp h
  have hswap := isSwapAddress_swapAddress π payload.swapId
  apply total_eq_of_items hu (by simp)
  simp only [List.map_cons, List.map_nil, List.sum_cons, List.sum_nil, weigh_swap hswap,
    tokenWeight_swap hswap, hold]
  rw [escrow_of_not_final hopen, escrow_of_not_final rfl]

theorem swapApprove_conserves {payload : AtomicSwapApprovePayload}
    (h : (swapApprove π signer payload).run s.get? = .ok u) :
    (setState π s u).total (tokenWeight π) = s.total (tokenWeight π) := by
  obtain ⟨swap, hold, hstate, -, -, -, hu⟩ := swapApprove_spec.mp h
  have hswap := isSwapAddress_swapAddress π payload.swapId
  apply total_eq_of_items hu (by simp)
  simp only [List.map_cons, List.map_nil, List.sum_cons, List.sum_nil, weigh_swap hswap,
    tokenWeight_swap hswap, hold]
  rw [escrow_of_not_final (by rw [hstate]; rfl), escrow_of_not_final rfl]

/-- The writes of a payout move the amount from the record to an account. -/
theorem payout_conserves {w w' : AtomicSwapInfo} {m : Account} {balance : UInt64} {receiver : Str}
    (hu : u = .ofList
      [(x, .atomicSwapInfo w'), (receiver, .account { m with balance := balance })])
    (hx : IsSwapAddress π x) (hreceiver : IsAccountAddress π receiver)
    (hold : swapAt π s.get? x = some w) (hopen : notPermittedToChange w.state = false)
    (hfinal : notPermittedToChange w'.state = true)
    (hbalance : balance.toNat = balanceAt π s.get? receiver + w.amount.toNat) :
    (setState π s u).total (tokenWeight π) = s.total (tokenWeight π) := by
  apply total_eq_of_items hu (by simp [hx.ne_account hreceiver])
  simp only [List.map_cons, List.map_nil, List.sum_cons, List.sum_nil, weigh_swap hx,
    weigh_account hreceiver, tokenWeight_swap hx, tokenWeight_account hreceiver, hold]
  rw [escrow_of_not_final hopen, escrow_of_final hfinal, hbalance]
  omega

theorem swapExpire_conserves {payload : AtomicSwapExpirePayload}
    (h : (swapExpire π tz signer payload).run s.get? = .ok u) :
    (setState π s u).total (tokenWeight π) = s.total (tokenWeight π) := by
  obtain ⟨swap, block, balance, hold, hopen, -, -, -, hbalance, hu⟩ := swapExpire_spec.mp h
  exact payout_conserves hu (isSwapAddress_swapAddress π _)
    (isAccountAddress_accountAddress π _) hold hopen rfl hbalance

theorem swapClose_conserves (hinv : Sound π s) {payload : AtomicSwapClosePayload}
    (h : (swapClose π payload).run s.get? = .ok u) :
    (setState π s u).total (tokenWeight π) = s.total (tokenWeight π) := by
  obtain ⟨swap, balance, hold, hopen, -, -, -, hbalance, hu⟩ := swapClose_spec.mp h
  have hswap := isSwapAddress_swapAddress π payload.swapId
  exact payout_conserves hu hswap (.inl (hinv.receiver _ swap hswap hold)) hold hopen rfl hbalance

theorem revoke_conserves (hforeign : π.pb.NoForeignOwner) (hinv : Sound π s)
    (hsigner : IsPublicKey signer) {payload : RevokePubKeyPayload}
    (h : (revokePubKey π signer payload).run s.get? = .ok u) :
    (setState π s u).total (tokenWeight π) = s.total (tokenWeight π) := by
  obtain ⟨stored, hstored, howner, -, hu⟩ := revokePubKey_spec.mp h
  have hkey : IsPubKeyAddress π payload.address := by
    apply hinv.placed.isPubKeyAddress hforeign hstored
    rw [howner]
    exact hsigner
  apply total_eq_of_items hu (by simp)
  simp [weigh_other hkey.weightless.1 hkey.weightless.2,
    tokenWeight_other hkey.weightless.1 hkey.weightless.2]

/-- The dictionary of a STORE without a charge. -/
theorem storeUpdates_free {account key : Str} (hne : account ≠ key) (m m' r : Message) :
    ((Dict.ofList [(account, m), (key, r)]).update
        ((Dict.empty : Dict Str Account).mapVals .account)).set account m' =
      .ofList [(account, m'), (key, r)] := by
  ext1
  simp [Dict.ofList, Dict.update, Dict.setAll, Dict.set, Dict.assign, Dict.empty, Dict.mapVals, hne]

/-- The dictionary of a STORE with a charge. -/
theorem storeUpdates_charged {account key zero : Str} (hne : account ≠ key) (hzero : account ≠ zero)
    (hkey : key ≠ zero) (m m' r : Message) (y z : Account) :
    ((Dict.ofList [(account, m), (key, r)]).update
        ((Dict.ofList [(account, y), (zero, z)]).mapVals .account)).set account m' =
      .ofList [(account, m'), (key, r), (zero, .account z)] := by
  ext1
  simp [Dict.ofList, Dict.update, Dict.setAll, Dict.set, Dict.assign, Dict.empty, Dict.mapVals, hne,
    hzero, hkey]

theorem store_conserves {payload : NewPubKeyPayload}
    (h : (storePubKey π tz signer payload).run s.get? = .ok u) :
    (setState π s u).total (tokenWeight π) = s.total (tokenWeight π) := by
  obtain ⟨configuration, charged, -, hcharged, hu⟩ := storePubKey_spec.mp h
  have hsender := isAccountAddress_accountAddress π signer
  have hzero := isAccountAddress_zeroAddress π
  have hkey := isPubKeyAddress_pubKeyAddress π configuration.key
  have hne : accountAddress π signer ≠ pubKeyAddress π configuration.key :=
    (hkey.ne_account hsender).symm
  have hsz : accountAddress π signer ≠ zeroAddress := accountAddress_ne_zeroAddress signer
  have hkz : pubKeyAddress π configuration.key ≠ zeroAddress := hkey.ne_account hzero
  cases charged with
  | none =>
      have hu' := hu.trans (storeUpdates_free hne _ _ _)
      apply total_eq_of_items hu' (by simp [hne])
      simp only [List.map_cons, List.map_nil, List.sum_cons, List.sum_nil, weigh_account hsender,
        tokenWeight_account hsender, weigh_other hkey.weightless.1 hkey.weightless.2,
        tokenWeight_other hkey.weightless.1 hkey.weightless.2, storePublicKeyToAccount_balance]
      rfl
  | some accounts =>
      obtain ⟨-, debited, credited, hdebited, hcredited, rfl⟩ := hcharged
      have hpayer := get?_ofList_fst hsz
        ({ (accountAt π s.get? (accountAddress π signer)).getD {} with
            balance := debited } : Account)
        { (accountAt π s.get? zeroAddress).getD {} with balance := credited }
      have hu' := hu.trans (storeUpdates_charged hne hsz hkz _ _ _ _ _)
      apply total_eq_of_items hu' (by simp [hne, hsz, hkz])
      simp only [List.map_cons, List.map_nil, List.sum_cons, List.sum_nil, weigh_account hsender,
        weigh_account hzero, tokenWeight_account hsender, tokenWeight_account hzero,
        weigh_other hkey.weightless.1 hkey.weightless.2,
        tokenWeight_other hkey.weightless.1 hkey.weightless.2, storePublicKeyToAccount_balance,
        Option.getD_some, hpayer]
      omega

/-! ## GENESIS -/

theorem balanceAt_le_total (ha : IsAccountAddress π a) :
    balanceAt π s.get? a ≤ s.total (tokenWeight π) := by
  rw [← weigh_account ha]
  exact Dict.weigh_le_total _ s a

/-- On a store without tokens GENESIS issues its supply. -/
theorem genesis_issues {payload : GenesisPayload} (hzero : s.total (tokenWeight π) = 0)
    (h : (genesis π signer payload).run s.get? = .ok u) :
    (setState π s u).total (tokenWeight π) = payload.totalSupply.toNat := by
  obtain ⟨-, hu⟩ := genesis_spec.mp h
  have hsender := isAccountAddress_accountAddress π signer
  have hne : accountAddress π signer ≠ genesisAddress := hsender.ne_genesisAddress
  obtain ⟨hacc, hswap⟩ := genesisAddress_weightless (π := π)
  have hbalance : balanceAt π s.get? (accountAddress π signer) = 0 := by
    have := balanceAt_le_total (s := s) hsender
    omega
  have hsum := total_setState (π := π) (s := s) (u := u)
  rw [hzero, hu, Dict.total_ofList _ (by simp [hne]), Dict.total_ofList _ (by simp [hne]), ← hu]
    at hsum
  simp only [List.map_cons, List.map_nil, List.sum_cons, List.sum_nil, weigh_account hsender,
    tokenWeight_account hsender, weigh_other hacc hswap, tokenWeight_other hacc hswap,
    hbalance] at hsum
  omega

theorem environment_conserves (hchange : EnvironmentChange π s s') :
    s'.total (tokenWeight π) = s.total (tokenWeight π) := by
  apply Dict.total_congr
  intro a
  by_cases hsame : s'.get? a = s.get? a
  · rw [hsame]
  · have henv := (hchange a hsame).1
    have hacc : ¬IsAccountAddress π a := fun h => h.not_environment henv
    have hswap : ¬IsSwapAddress π a := fun h => h.not_environment henv
    rw [weigh_other hacc hswap, weigh_other hacc hswap]

/-! ## Runs -/

def Operation.IsStoreAndPay : Operation → Prop
  | .storeAndPay _ => True
  | _ => False

/-- The supply that an accepted GENESIS issues. -/
def Label.issued : Label → Option UInt64
  | .transaction _ (.genesis payload) _ => some payload.totalSupply
  | _ => none

/-- The step applies none but the nine operations of the conservation law. -/
def Label.IsNotStoreAndPay : Label → Prop
  | .transaction _ op _ => ¬op.IsStoreAndPay
  | .environment => True

/-- The supplies of all accepted GENESIS transactions, in order. -/
def issued (ts : List (Transition (Dict Str B) Label)) : List UInt64 :=
  ts.filterMap (·.label.issued)

theorem Sound.step_conserves (hforeign : π.pb.NoForeignOwner) (hinv : Sound π s)
    (hstep : Step π tz s l s') (hgenesis : l.issued = none) (hpay : l.IsNotStoreAndPay) :
    s'.total (tokenWeight π) = s.total (tokenWeight π) := by
  cases hstep with
  | @transaction signer op u hsigner haccepted =>
      have hrun := run_of_apply haccepted
      cases op with
      | transfer payload => exact transfer_conserves hrun
      | genesis payload => cases hgenesis
      | swapInit payload => exact swapInit_conserves hrun
      | swapApprove payload => exact swapApprove_conserves hrun
      | swapExpire payload => exact swapExpire_conserves hrun
      | swapSetLock payload => exact swapSetLock_conserves hrun
      | swapClose payload => exact swapClose_conserves hinv hrun
      | store payload => exact store_conserves hrun
      | revoke payload => exact revoke_conserves hforeign hinv hsigner hrun
      | storeAndPay payload => exact absurd trivial hpay
  | environment hchange => exact environment_conserves hchange

/-- Only GENESIS writes the genesis status. -/
theorem Sound.genesis_entry (hforeign : π.pb.NoForeignOwner) (hinv : Sound π s)
    (hstep : Step π tz s l s') (hgenesis : l.issued = none) :
    s'.get? genesisAddress = s.get? genesisAddress := by
  rcases hstep.entry genesisAddress with hsame | ⟨signer, op, u, m, rfl, hsigner, -, hw, -⟩ |
    ⟨henv, -⟩
  · exact hsame
  · have hclass : m.messageClass = .genesisStatus :=
      (hinv.write_placed hforeign hsigner hw).unique rfl
    cases m with
    | genesisStatus m =>
        generalize genesisAddress = g at hw
        cases hw
        cases hgenesis
    | _ => cases hclass
  · exact absurd rfl henv.2.2

/-- The tokens of a store whose history issued the given supplies. -/
def Supplied (π : Platform B) (s : Dict Str B) : List UInt64 → Prop
  | [] => s.get? genesisAddress = none ∧ s.total (tokenWeight π) = 0
  | [supply] => genesisStatusAt π s.get? genesisAddress = some { status := true } ∧
      s.total (tokenWeight π) = supply.toNat
  | _ => False

variable {supplies : List UInt64}

theorem Supplied.conserved (h : Supplied π s supplies)
    (hentry : s'.get? genesisAddress = s.get? genesisAddress)
    (htotal : s'.total (tokenWeight π) = s.total (tokenWeight π)) : Supplied π s' supplies := by
  match supplies, h with
  | [], h => exact ⟨hentry.trans h.1, htotal.trans h.2⟩
  | [supply], h =>
      refine ⟨?_, htotal.trans h.2⟩
      unfold genesisStatusAt
      rw [hentry]
      exact h.1

/-- An accepted GENESIS leaves its status behind. -/
theorem genesisStatusAt_of_genesis {payload : GenesisPayload}
    (hnone : s.get? genesisAddress = none)
    (h : (genesis π signer payload).run s.get? = .ok u) :
    genesisStatusAt π (setState π s u).get? genesisAddress = some { status := true } := by
  obtain ⟨-, hu⟩ := genesis_spec.mp h
  have hne : accountAddress π signer ≠ genesisAddress :=
    (isAccountAddress_accountAddress π signer).ne_genesisAddress
  have hstatus : genesisStatusAt π s.get? genesisAddress = none := by
    unfold genesisStatusAt
    rw [hnone]
    rfl
  rw [hstatus] at hu
  have hget : u.get? genesisAddress = some (.genesisStatus { status := true }) := by
    rw [hu, Dict.get?_ofList (by simp [hne])]
    simp [Dict.lookup, hne]
  unfold genesisStatusAt
  rw [get?_setState_of_some hget]
  exact π.pb.genesisStatus.parse_serialize _

/-- GENESIS is accepted once: the status that it leaves refuses the next one. -/
theorem Supplied.genesis {payload : GenesisPayload} (h : Supplied π s supplies)
    (hrun : (Tp.genesis π signer payload).run s.get? = .ok u) :
    Supplied π (setState π s u) (supplies ++ [payload.totalSupply]) := by
  match supplies, h with
  | [], h => exact ⟨genesisStatusAt_of_genesis h.1 hrun, genesis_issues h.2 hrun⟩
  | [supply], h =>
      obtain ⟨hfirst, -⟩ := genesis_spec.mp hrun
      rw [h.1] at hfirst
      exact absurd rfl hfirst

theorem Supplied.step (hforeign : π.pb.NoForeignOwner) (hinv : Sound π s)
    (hstep : Step π tz s l s') (hpay : l.IsNotStoreAndPay) (h : Supplied π s supplies) :
    Supplied π s' (supplies ++ l.issued.toList) := by
  cases hissued : l.issued with
  | none =>
      rw [Option.toList_none, List.append_nil]
      exact h.conserved (hinv.genesis_entry hforeign hstep hissued)
        (hinv.step_conserves hforeign hstep hissued hpay)
  | some supply =>
      cases hstep with
      | environment => cases hissued
      | @transaction signer op u hsigner haccepted =>
          cases op with
          | genesis payload =>
              cases hissued
              exact h.genesis (run_of_apply haccepted)
          | _ => cases hissued

theorem supplied_of_run (hforeign : π.pb.NoForeignOwner)
    {ts : List (Transition (Dict Str B) Label)} (hrun : LedgerRun π tz ts s)
    (hreceiver : ∀ e ∈ ts, e.label.ReceiverIsAccount π)
    (hpay : ∀ e ∈ ts, e.label.IsNotStoreAndPay) : Supplied π s (issued ts) := by
  apply hrun.history (P := fun xs s => Supplied π s (issued xs)) ⟨rfl, rfl⟩
  intro xs e ys heq hstep hsupplied
  have he : e ∈ ts := by simp [heq]
  have hsound := sound_pre_of_run hforeign hrun hreceiver he
  have hnext := hsupplied.step hforeign hsound hstep (hpay e he)
  have hissued : issued (xs ++ [e]) = issued xs ++ e.label.issued.toList := by
    unfold issued
    rw [List.filterMap_append]
    cases hlabel : e.label.issued <;> simp [hlabel]
  rw [hissued]
  exact hnext

/-! ## No balance leaves its range -/

theorem add_balance_le_total {b : Str} (ha : IsAccountAddress π a) (hb : IsAccountAddress π b)
    (hne : a ≠ b) :
    balanceAt π s.get? a + balanceAt π s.get? b ≤ s.total (tokenWeight π) := by
  rw [← weigh_account ha, ← weigh_account hb]
  exact Dict.weigh_add_weigh_le_total _ s hne

theorem add_escrow_le_total (ha : IsAccountAddress π a) (hx : IsSwapAddress π x)
    {w : AtomicSwapInfo} (hw : swapAt π s.get? x = some w)
    (hopen : notPermittedToChange w.state = false) :
    balanceAt π s.get? a + w.amount.toNat ≤ s.total (tokenWeight π) := by
  have h := Dict.weigh_add_weigh_le_total (tokenWeight π) s (hx.ne_account ha).symm
  rw [weigh_account ha, weigh_swap hx, hw, escrow_of_not_final hopen] at h
  exact h

/-- The exception of an assignment to a balance out of its range. -/
abbrev balanceOutOfRange : PyError := .valueOutOfRange "balance"

theorem transferFromAddress_in_range (htotal : s.total (tokenWeight π) < 2 ^ 64)
    {addressFrom : Str} (hfrom : IsAccountAddress π addressFrom) (payload : TransferPayload) :
    (transferFromAddress π addressFrom payload).run s.get? ≠ .error balanceOutOfRange := by
  intro herror
  simp only [transferFromAddress, balanceOutOfRange, StoreM.run_bind_eq_error,
    StoreM.run_raiseIf_eq_error, StoreM.run_raiseIf_eq_ok, StoreM.run_ofExcept, StoreM.run_pure,
    run_getAccount, balance_eq_balanceAt, uint64Field_eq_error, uint64Field_eq_ok,
    UInt64.lt_iff_toNat_lt, reduceCtorEq, and_false, false_or, or_false, exists_const,
    Except.ok.injEq, exists_eq_left', true_and] at herror
  obtain ⟨-, hto, hne, hle, hrange⟩ := herror
  have hto' : IsAccountAddress π payload.addressTo := by
    unfold IsAccountAddress
    tauto
  have hsum := add_balance_le_total (s := s) hfrom hto' hne
  rcases hrange with hcredit | ⟨-, -, hdebit⟩
  · omega
  · omega

theorem transfer_in_range (htotal : s.total (tokenWeight π) < 2 ^ 64) (payload : TransferPayload) :
    (transfer π signer payload).run s.get? ≠ .error balanceOutOfRange := by
  intro herror
  simp only [transfer, StoreM.run_bind_eq_error, StoreM.run_ofExcept, StoreM.run_pure,
    makeAddressFromData_account, reduceCtorEq, and_false, false_or, or_false, exists_false,
    Except.ok.injEq, exists_eq_left'] at herror
  exact transferFromAddress_in_range htotal (isAccountAddress_accountAddress π signer) payload
    herror

theorem getLatestBlockInfo_in_range {ctx : Str → Option B} :
    (getLatestBlockInfo π).run ctx ≠ .error balanceOutOfRange := by
  intro herror
  simp [getLatestBlockInfo, balanceOutOfRange, StoreM.run_bind_eq_error,
    StoreM.run_orRaise_eq_error] at herror

theorem getSwap_in_range {ctx : Str → Option B} (swapId : Str) :
    (getSwap π swapId).run ctx ≠ .error balanceOutOfRange := by
  intro herror
  simp [getSwap, balanceOutOfRange, notInitiated, closedOrExpired, StoreM.run_bind_eq_error,
    StoreM.run_orRaise_eq_error, StoreM.run_raiseIf_eq_error] at herror

theorem fromtimestamp_in_range (t : ℕ) : fromtimestamp tz t ≠ .error balanceOutOfRange := by
  unfold fromtimestamp checkedLocal
  split_ifs <;> simp [balanceOutOfRange]

theorem addTimedelta_in_range (moment delta : ℤ) :
    addTimedelta moment delta ≠ .error balanceOutOfRange := by
  unfold addTimedelta checkedLocal
  split_ifs <;> simp [balanceOutOfRange]

theorem swapInit_in_range (htotal : s.total (tokenWeight π) < 2 ^ 64)
    (payload : AtomicSwapInitPayload) :
    (swapInit π signer payload).run s.get? ≠ .error balanceOutOfRange := by
  intro herror
  have hsz : accountAddress π signer ≠ zeroAddress := accountAddress_ne_zeroAddress signer
  have htransfer := fun payload =>
    transferFromAddress_in_range htotal (isAccountAddress_accountAddress π signer) payload
  simp only [swapInit, balanceOutOfRange, StoreM.run_bind_eq_error, StoreM.run_raiseIf_eq_error,
    StoreM.run_raiseIf_eq_ok, StoreM.run_orRaise_eq_error, StoreM.run_orRaise_eq_ok,
    StoreM.run_ofExcept, StoreM.run_pure, makeAddressFromData_account, run_getSettingValue,
    makeAddressFromData_atomicSwap, run_getSwapInfo, run_getAccount, balance_eq_balanceAt,
    getLatestBlockInfo_in_range, htransfer, transferFromAddress_spec, uint64Field_eq_ok,
    uint64Field_eq_error, uint32Field_eq_error, PyError.valueOutOfRange.injEq, String.reduceEq,
    Except.ok.injEq, exists_const, exists_eq_left', reduceCtorEq, and_false, false_or, or_false,
    false_and, true_and] at herror
  obtain ⟨-, block, -, createdAt, -, setting, -, c, -, -, hle, value, hvalue, accounts,
    ⟨-, -, -, debited, credited, hdebited, -, rfl⟩, sender, hget, hrange⟩ := herror
  rw [get?_ofList_fst hsz] at hget
  cases hget
  have hlt := balanceAt_le_total (s := s) (isAccountAddress_accountAddress π signer)
  simp only at hrange
  omega

theorem swapExpire_in_range (htotal : s.total (tokenWeight π) < 2 ^ 64)
    (payload : AtomicSwapExpirePayload) :
    (swapExpire π tz signer payload).run s.get? ≠ .error balanceOutOfRange := by
  intro herror
  simp only [swapExpire, balanceOutOfRange, StoreM.run_bind_eq_error, StoreM.run_raiseIf_eq_error,
    StoreM.run_raiseIf_eq_ok, StoreM.run_ofExcept, StoreM.run_pure, makeAddressFromData_account,
    run_getAccount, balance_eq_balanceAt, getLatestBlockInfo_in_range, getSwap_in_range,
    getSwap_spec, fromtimestamp_in_range, addTimedelta_in_range, uint64Field_eq_error,
    Except.ok.injEq, exists_const, exists_eq_left', reduceCtorEq, and_false, false_or, or_false,
    true_and, Prod.exists, ne_eq, not_not] at herror
  obtain ⟨x, swap, ⟨rfl, hold, hopen⟩, hsender, block, -, -, -, -, -, -, -, -, hrange⟩ := herror
  have hacc : IsAccountAddress π swap.senderAddress := by
    rw [← hsender]
    exact isAccountAddress_accountAddress π signer
  have hsum := add_escrow_le_total hacc (isSwapAddress_swapAddress π payload.swapId) hold hopen
  omega

theorem swapClose_in_range (hinv : Sound π s) (htotal : s.total (tokenWeight π) < 2 ^ 64)
    (payload : AtomicSwapClosePayload) :
    (swapClose π payload).run s.get? ≠ .error balanceOutOfRange := by
  intro herror
  have hhash : web3Hash π payload.secretKey ≠ .error balanceOutOfRange := by
    unfold web3Hash
    simp only
    split <;> simp [balanceOutOfRange]
  simp only [swapClose, balanceOutOfRange, StoreM.run_bind_eq_error, StoreM.run_raiseIf_eq_error,
    StoreM.run_raiseIf_eq_ok, StoreM.run_ofExcept, StoreM.run_pure, run_getAccount,
    balance_eq_balanceAt, getSwap_in_range, getSwap_spec, hhash, uint64Field_eq_error,
    Except.ok.injEq, exists_const, exists_eq_left', reduceCtorEq, and_false, false_or, or_false,
    true_and, Prod.exists, ne_eq, not_not] at herror
  obtain ⟨x, swap, ⟨rfl, hold, hopen⟩, -, -, -, -, -, hrange⟩ := herror
  have hswap := isSwapAddress_swapAddress π payload.swapId
  have hsum := add_escrow_le_total (.inl (hinv.receiver _ swap hswap hold)) hswap hold hopen
  omega

theorem verify_in_range (payload : NewPubKeyPayload) (configuration : Configuration) :
    (detectProcessorCls π payload configuration).verify ≠ .error balanceOutOfRange := by
  cases configuration with
  | rsa key padding =>
      simp only [detectProcessorCls, rsaProcessor]
      split <;> simp [balanceOutOfRange]
  | ecdsa key ec =>
      simp only [detectProcessorCls, ecdsaProcessor]
      split <;> simp [balanceOutOfRange]
  | ed25519 key =>
      simp only [detectProcessorCls, ed25519Processor]
      split <;> simp [balanceOutOfRange]

theorem isPublicKeyValidityExceeded_in_range (validFrom validTo : UInt32) :
    isPublicKeyValidityExceeded tz validFrom validTo ≠ .error balanceOutOfRange := by
  unfold isPublicKeyValidityExceeded
  cases hfrom : fromtimestamp tz validFrom.toNat with
  | error err =>
      rintro herror
      cases herror
      exact fromtimestamp_in_range _ hfrom
  | ok x =>
      cases hto : fromtimestamp tz validTo.toNat with
      | error err =>
          rintro herror
          cases herror
          exact fromtimestamp_in_range _ hto
      | ok y =>
          rintro herror
          cases herror

theorem chargeForStoring_in_range (htotal : s.total (tokenWeight π) < 2 ^ 64)
    {addressFrom : Str} (hfrom : IsAccountAddress π addressFrom) :
    (chargeForStoring π addressFrom).run s.get? ≠ .error balanceOutOfRange := by
  intro herror
  simp only [chargeForStoring, balanceOutOfRange, StoreM.run_bind_eq_error, run_getSettingValue,
    StoreM.run_orRaise_eq_error, StoreM.run_orRaise_eq_ok, Except.ok.injEq, exists_eq_left',
    reduceCtorEq, and_false, false_or] at herror
  obtain ⟨value, -, herror⟩ := herror
  split_ifs at herror
  · simp only [chargeTokensForStoring, StoreM.run_bind_eq_error, StoreM.run_raiseIf_eq_error,
      StoreM.run_pure, transferFromAddress_in_range htotal hfrom, reduceCtorEq, and_false, or_false,
      exists_false] at herror
  · cases herror

theorem storePubKey_in_range (htotal : s.total (tokenWeight π) < 2 ^ 64)
    (payload : NewPubKeyPayload) :
    (storePubKey π tz signer payload).run s.get? ≠ .error balanceOutOfRange := by
  intro herror
  have hcharge := chargeForStoring_in_range htotal (isAccountAddress_accountAddress π signer)
  have hprocessor : (getPublicKeyProcessor π payload).run s.get? ≠ .error balanceOutOfRange := by
    simp [getPublicKeyProcessor, balanceOutOfRange, StoreM.run_bind_eq_error,
      StoreM.run_orRaise_eq_error]
  simp only [storePubKey, StoreM.run_bind_eq_error, StoreM.run_raiseIf_eq_error,
    StoreM.run_ofExcept, StoreM.run_pure, makeAddressFromData_account, makeAddressFromData_pubKey,
    run_getPubKey, run_getAccount, hcharge, hprocessor, run_getPublicKeyProcessor,
    isPublicKeyValidityExceeded_in_range, Except.ok.injEq, exists_eq_left', reduceCtorEq, and_false,
    false_or, or_false, exists_false] at herror
  obtain ⟨processor, ⟨configuration, -, rfl⟩, herror⟩ := herror
  exact verify_in_range payload configuration herror

/-- On a store whose tokens fit in 64 bits, no balance assignment of the nine operations is out
of range. -/
theorem Sound.processor_in_range (hinv : Sound π s) (htotal : s.total (tokenWeight π) < 2 ^ 64)
    (hop : ¬op.IsStoreAndPay) :
    (op.processor π tz signer).run s.get? ≠ .error balanceOutOfRange := by
  cases op with
  | transfer payload => exact transfer_in_range htotal payload
  | genesis payload =>
      simp [Operation.processor, genesis, balanceOutOfRange, StoreM.run_bind_eq_error,
        StoreM.run_raiseIf_eq_error]
  | swapInit payload => exact swapInit_in_range htotal payload
  | swapApprove payload =>
      simp [Operation.processor, swapApprove, StoreM.run_bind_eq_error, getSwap_in_range,
        StoreM.run_raiseIf_eq_error]
  | swapExpire payload => exact swapExpire_in_range htotal payload
  | swapSetLock payload =>
      simp [Operation.processor, swapSetLock, StoreM.run_bind_eq_error, getSwap_in_range,
        StoreM.run_raiseIf_eq_error]
  | swapClose payload => exact swapClose_in_range hinv htotal payload
  | store payload => exact storePubKey_in_range htotal payload
  | revoke payload =>
      simp [Operation.processor, revokePubKey, StoreM.run_bind_eq_error, balanceOutOfRange,
        StoreM.run_raiseIf_eq_error, StoreM.run_orRaise_eq_error]
  | storeAndPay payload => exact absurd trivial hop

/-! ## The conservation law -/

/-- Over every run of the nine operations, balances and escrow together are nothing before
GENESIS and the supply of the only GENESIS after it; hence no balance exceeds the supply
and no assignment to a balance is out of range. -/
theorem token_conservation (hforeign : π.pb.NoForeignOwner)
    {ts : List (Transition (Dict Str B) Label)} (hrun : LedgerRun π tz ts s)
    (hreceiver : ∀ e ∈ ts, e.label.ReceiverIsAccount π)
    (hpay : ∀ e ∈ ts, e.label.IsNotStoreAndPay) :
    ((issued ts = [] ∧ totalBalance π s + totalEscrow π s = 0) ∨
      ∃ supply, issued ts = [supply] ∧
        totalBalance π s + totalEscrow π s = supply.toNat ∧
        ∀ a, IsAccountAddress π a → balanceAt π s.get? a ≤ supply.toNat) ∧
    ∀ signer (op : Operation), ¬op.IsStoreAndPay →
      (op.processor π tz signer).run s.get? ≠ .error (.valueOutOfRange "balance") := by
  have hsound := sound_of_run hforeign hrun hreceiver
  have hsupplied := supplied_of_run hforeign hrun hreceiver hpay
  generalize issued ts = supplies at hsupplied
  match supplies, hsupplied with
  | [], hsupplied =>
      have htotal := hsupplied.2
      refine ⟨.inl ⟨rfl, ?_⟩, fun signer op hop => ?_⟩
      · rw [← total_tokenWeight]
        exact htotal
      · apply hsound.processor_in_range _ hop
        omega
  | [supply], hsupplied =>
      have htotal := hsupplied.2
      have hlt : supply.toNat < 2 ^ 64 := supply.toNat_lt
      refine ⟨.inr ⟨supply, rfl, ?_, ?_⟩, fun signer op hop => ?_⟩
      · rw [← total_tokenWeight]
        exact htotal
      · intro a ha
        rw [← htotal]
        exact balanceAt_le_total ha
      · apply hsound.processor_in_range _ hop
        omega

/-- In the swap of the sample script. -/
theorem token_conservation_swapScript :
    totalBalance Sample.platform (Sample.final Sample.swapScript) +
      totalEscrow Sample.platform (Sample.final Sample.swapScript) = 1000000 := by
  have hissued : issued (Sample.transitions Sample.swapScript) = [1000000] := by decide +kernel
  have hpay : ∀ e ∈ Sample.transitions Sample.swapScript, e.label.IsNotStoreAndPay := by
    apply label_of_play (P := Label.IsNotStoreAndPay)
      (Sample.play_eq_transitions Sample.swapScript_accepted) trivial
    intro signer op hmem u
    rcases Sample.mem_swapScript hmem with ⟨-, rfl⟩ | ⟨-, rfl⟩ | ⟨-, rfl⟩ | ⟨-, rfl⟩ | ⟨-, rfl⟩
    all_goals exact id
  rcases (token_conservation Sample.noForeignOwner
    (Sample.run_of_accepted Sample.swapScript_legal Sample.swapScript_accepted)
    Sample.swapScript_receivers hpay).1 with ⟨hnone, -⟩ | ⟨supply, hsupply, htotal, -⟩
  · rw [hissued] at hnone
    cases hnone
  · rw [hissued] at hsupply
    rw [htotal, ← (List.cons.inj hsupply).1]
    rfl

end Remme.Tp
