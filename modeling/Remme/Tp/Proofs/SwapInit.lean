import Remme.Tp.Proofs.Writes
import Remme.Tp.Script
/-!
# Opening a swap

INIT compares the signer's balance with amount and commission itself, and then
has the commission transferred to the zero address.  The transfer has a
condition of its own that INIT does not share: it refuses a value of zero.  So
a commission of zero, which INIT lets pass, closes INIT for everyone.
-/

namespace Remme.Tp

open Remme.Lib Remme.Protos Remme.Shared Remme.Settings Remme.Clients.BlockInfo

variable {B : Type} {π : Platform B} {tz : TimeZone} {s s' : Dict Str B} {signer : Str}
  {payload : AtomicSwapInitPayload} {block : BlockInfo} {c : ℕ} {u : Dict Str Message}

/-- A form-valid INIT with a fresh swap id, a latest block and a commission that the records
can hold. -/
structure InitInputs (π : Platform B) (payload : AtomicSwapInitPayload) (block : BlockInfo)
    (c : ℕ) (s : Dict Str B) : Prop where
  formValid : (Operation.swapInit payload).FormValid
  fresh : swapAt π s.get? (swapAddress π payload.swapId) = none
  latest : latestBlock π s.get? = some block
  timestamp : block.timestamp.toNat < 2 ^ 32
  commission : commission π s.get? = some (c : ℤ)
  zeroFits : balanceAt π s.get? zeroAddress + c < 2 ^ 64

/-- What an affordable INIT changes. -/
structure BooksInit (π : Platform B) (signer : Str) (payload : AtomicSwapInitPayload)
    (block : BlockInfo) (c : ℕ) (s s' : Dict Str B) : Prop where
  signerPays : balanceAt π s'.get? (accountAddress π signer) + payload.amount.toNat + c =
    balanceAt π s.get? (accountAddress π signer)
  zeroReceives : balanceAt π s'.get? zeroAddress = balanceAt π s.get? zeroAddress + c
  record : ∃ w, swapAt π s'.get? (swapAddress π payload.swapId) = some w ∧
    w.amount = payload.amount ∧ w.state = .opened ∧
    w.createdAt.toNat = block.timestamp.toNat ∧
    (w.isInitiator = true ↔ payload.secretLockBySolicitor = [])
  signerKeys : pubKeysAt π s'.get? (accountAddress π signer) =
    pubKeysAt π s.get? (accountAddress π signer)
  zeroKeys : pubKeysAt π s'.get? zeroAddress = pubKeysAt π s.get? zeroAddress
  rest : ∀ a, a ≠ swapAddress π payload.swapId → a ≠ accountAddress π signer →
    a ≠ zeroAddress → s'.get? a = s.get? a

/-- INIT is accepted exactly when amount and commission are there, and then books them. -/
def ExactInit (π : Platform B) (tz : TimeZone) (signer : Str) (payload : AtomicSwapInitPayload)
    (block : BlockInfo) (c : ℕ) (s : Dict Str B) : Prop :=
  ((∃ u, (Operation.swapInit payload).apply π tz signer s = .ok u) ↔
    payload.amount.toNat + c ≤ balanceAt π s.get? (accountAddress π signer)) ∧
  ∀ u, (Operation.swapInit payload).apply π tz signer s = .ok u →
    BooksInit π signer payload block c s (setState π s u)

/-! ## Acceptance -/

theorem swapInit_accepted_iff (tz : TimeZone) (signer : Str)
    (h : InitInputs π payload block c s) :
    (∃ u, (Operation.swapInit payload).apply π tz signer s = .ok u) ↔
      0 < c ∧ payload.amount.toNat + c ≤ balanceAt π s.get? (accountAddress π signer) := by
  have hlt : balanceAt π s.get? (accountAddress π signer) < 2 ^ 64 := UInt64.toNat_lt _
  have hfits := h.zeroFits
  constructor
  · rintro ⟨u, hu⟩
    obtain ⟨-, -, -, c', debited, -, -, -, hcommission, hpos, hdebited, -, -⟩ :=
      swapInit_spec.mp (run_of_apply hu)
    have hc : (c : ℤ) = c' := Option.some.inj (h.commission.symm.trans hcommission)
    omega
  · rintro ⟨hpos, hle⟩
    obtain ⟨createdAt, hcreated⟩ : ∃ t : UInt32, t.toNat = block.timestamp.toNat :=
      ⟨UInt32.ofNat block.timestamp.toNat, UInt32.toNat_ofNat_of_lt' h.timestamp⟩
    obtain ⟨debited, hdebited⟩ := exists_uint64
      (n := balanceAt π s.get? (accountAddress π signer) - payload.amount.toNat - c) (by omega)
    obtain ⟨credited, hcredited⟩ := exists_uint64 hfits
    obtain ⟨result, hresult, hvalid⟩ := h.formValid
    refine ⟨_, apply_eq_ok.mpr ⟨result, hresult, hvalid, swapInit_spec.mpr ⟨h.fresh, block,
      createdAt, c, debited, credited, h.latest, hcreated, h.commission, hpos, ?_, hcredited,
      rfl⟩⟩⟩
    omega

/-! ## What is booked -/

theorem booksInit_of_apply (h : InitInputs π payload block c s)
    (hu : (Operation.swapInit payload).apply π tz signer s = .ok u) :
    BooksInit π signer payload block c s (setState π s u) := by
  obtain ⟨-, block', createdAt, c', debited, credited, hblock, hcreated, hcommission, -, hdebited,
    hcredited, hwritten⟩ := swapInit_spec.mp (run_of_apply hu)
  have hc : (c : ℤ) = c' := Option.some.inj (h.commission.symm.trans hcommission)
  obtain rfl : block = block' := Option.some.inj (h.latest.symm.trans hblock)
  have hsz : accountAddress π signer ≠ zeroAddress := accountAddress_ne_zeroAddress signer
  have hws : swapAddress π payload.swapId ≠ accountAddress π signer :=
    (isSwapAddress_swapAddress π _).ne_account (isAccountAddress_accountAddress π _)
  have hwz : swapAddress π payload.swapId ≠ zeroAddress :=
    (isSwapAddress_swapAddress π _).ne_account (isAccountAddress_zeroAddress π)
  have hswap : u.get? (swapAddress π payload.swapId) =
      some (.atomicSwapInfo (openedSwap π signer payload createdAt)) := by
    rw [hwritten]
    simp [Dict.ofList, Dict.setAll, Dict.get?_set, hws.symm, hwz.symm]
  have hsigner : u.get? (accountAddress π signer) = some (.account
      { (accountAt π s.get? (accountAddress π signer)).getD {} with balance := debited }) := by
    rw [hwritten]
    simp [Dict.ofList, Dict.setAll, Dict.get?_set, hsz.symm]
  have hzero : u.get? zeroAddress = some (.account
      { (accountAt π s.get? zeroAddress).getD {} with balance := credited }) := by
    rw [hwritten]
    simp [Dict.ofList, Dict.setAll]
  refine ⟨?_, ?_, ?_, ?_, ?_, ?_⟩
  · rw [balanceAt_setState_of_some hsigner]
    simp only
    omega
  · rw [balanceAt_setState_of_some hzero]
    simp only
    omega
  · refine ⟨_, swapAt_setState_of_some hswap, rfl, rfl, hcreated, ?_⟩
    simp [openedSwap]
  · rw [pubKeysAt, accountAt_setState_of_some hsigner]
    rfl
  · rw [pubKeysAt, accountAt_setState_of_some hzero]
    rfl
  · intro a hswapAddress hsignerAddress hzeroAddress
    apply get?_setState_of_none
    rw [hwritten]
    simp [Dict.ofList, Dict.setAll, Dict.get?_set, hswapAddress.symm, hsignerAddress.symm,
      hzeroAddress.symm]

/-- INIT is exact unless the commission is zero and the signer could pay the amount. -/
theorem exactInit_iff (h : InitInputs π payload block c s) :
    ExactInit π tz signer payload block c s ↔
      (c = 0 → balanceAt π s.get? (accountAddress π signer) < payload.amount.toNat) := by
  have haccepted := swapInit_accepted_iff tz signer h
  constructor
  · intro hexact hc
    by_contra hle
    have hpos := (haccepted.mp (hexact.1.mpr (by omega))).1
    omega
  · intro hcondition
    refine ⟨?_, fun u hu => booksInit_of_apply h hu⟩
    rw [haccepted]
    constructor
    · intro hboth
      exact hboth.2
    · intro hle
      refine ⟨?_, hle⟩
      by_contra hzero
      have hlt := hcondition (by omega)
      omega

namespace Sample

/-- A funded account before the first swap, with the commission as the setting's text. -/
def storeBeforeInit (commissionText : Str) : Dict Str Data :=
  Dict.ofList
    [(makeSettingsKey platform settingsSwapCommission,
        .setting ⟨[⟨settingsSwapCommission, commissionText⟩]⟩),
     (configAddress, .blockInfoConfig { latestBlock := 1 }),
     (createBlockAddress 1, .blockInfo { blockNum := 1, timestamp := 1548237000 }),
     (accountAddress platform alice, .account { balance := 1000000 })]

theorem initInputs_of_store (text : String) (c : ℕ)
    (hstore : swapAt platform (storeBeforeInit text.toList).get?
        (swapAddress platform swapId) = none ∧
      latestBlock platform (storeBeforeInit text.toList).get? =
        some { blockNum := 1, timestamp := 1548237000 } ∧
      commission platform (storeBeforeInit text.toList).get? = some (c : ℤ) ∧
      balanceAt platform (storeBeforeInit text.toList).get? zeroAddress + c < 2 ^ 64) :
    InitInputs platform initPayload { blockNum := 1, timestamp := 1548237000 } c
      (storeBeforeInit text.toList) where
  formValid := formValid_of_any (by decide +kernel)
  fresh := hstore.1
  latest := hstore.2.1
  timestamp := by decide
  commission := hstore.2.2.1
  zeroFits := hstore.2.2.2

end Sample

/-- A commission of ten, and a signer who can pay it. -/
theorem exactInit_iff_ten :
    InitInputs Sample.platform Sample.initPayload { blockNum := 1, timestamp := 1548237000 } 10
        (Sample.storeBeforeInit "10".toList) ∧
      ExactInit Sample.platform Sample.utc Sample.alice Sample.initPayload
        { blockNum := 1, timestamp := 1548237000 } 10 (Sample.storeBeforeInit "10".toList) := by
  have hinputs := Sample.initInputs_of_store "10" 10 (by decide +kernel)
  exact ⟨hinputs, (exactInit_iff hinputs).mpr (by decide)⟩

/-- Without a commission INIT is refused, whatever the signer owns. -/
theorem swapInit_refused_without_commission :
    InitInputs Sample.platform Sample.initPayload { blockNum := 1, timestamp := 1548237000 } 0
        (Sample.storeBeforeInit "0".toList) ∧
      ¬ExactInit Sample.platform Sample.utc Sample.alice Sample.initPayload
        { blockNum := 1, timestamp := 1548237000 } 0 (Sample.storeBeforeInit "0".toList) := by
  have hinputs := Sample.initInputs_of_store "0" 0 (by decide +kernel)
  have haffordable : Sample.initPayload.amount.toNat + 0 ≤
      balanceAt Sample.platform (Sample.storeBeforeInit "0".toList).get?
        (accountAddress Sample.platform Sample.alice) := by decide +kernel
  refine ⟨hinputs, fun hexact => ?_⟩
  have haccepted := hexact.1.mpr haffordable
  have hpos := ((swapInit_accepted_iff Sample.utc Sample.alice hinputs).mp haccepted).1
  omega

end Remme.Tp
