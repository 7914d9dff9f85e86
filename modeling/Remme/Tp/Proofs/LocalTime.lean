import Remme.Tp.Proofs.Writes
import Remme.Tp.Script
/-!
# Nodes in different time zones

The withdrawal check of `_swap_expire` and the validity check of a stored key
compare naive local times.  Two nodes see the same stored timestamps, but the
seconds that their local clocks count between two instants differ by whatever
the zone's offset changed in between.  The main result says exactly when two
nodes give the same verdict.
-/

namespace Remme.Tp

open Remme.Lib Remme.Protos Remme.Shared Remme.Settings Remme.Clients.BlockInfo

/-! ## Comparing local times -/

/-- The local time at `t` is one that a naive `datetime` can hold. -/
def HasLocalTime (off : TimeZone) (t : ℕ) : Prop :=
  minLocal ≤ t + off t ∧ t + off t ≤ maxLocal

/-- What the local clock gains on the true elapsed time between two instants. -/
def clockGain (off : TimeZone) (t t' : ℕ) : ℤ := off t' - off t

/-- The time lock of a swap has run out by the local clock. -/
def WaitOver (off : TimeZone) (hours createdAt t : ℕ) : Prop :=
  HasLocalTime off createdAt ∧ HasLocalTime off t ∧
    (hours * 3600 : ℕ) ≤ (t : ℤ) - createdAt + clockGain off createdAt t

/-- The validity of a key is at most a year by the local clock. -/
def ValidityKept (off : TimeZone) (validFrom validTo : ℕ) : Prop :=
  HasLocalTime off validFrom ∧ HasLocalTime off validTo ∧
    (validTo : ℤ) - validFrom + clockGain off validFrom validTo ≤ pubKeyMaxValidity

theorem fromtimestamp_eq_ok {off : TimeZone} {t : ℕ} {x : ℤ} :
    fromtimestamp off t = .ok x ↔ x = t + off t ∧ HasLocalTime off t :=
  checkedLocal_eq_ok

theorem withdrawable_iff {off : TimeZone} {swap : AtomicSwapInfo} {block : BlockInfo} :
    Withdrawable off swap block ↔
      WaitOver off (timeLock swap.isInitiator) swap.createdAt.toNat block.timestamp.toNat := by
  simp only [Withdrawable, WaitOver, fromtimestamp_eq_ok, addTimedelta, checkedLocal_eq_ok,
    clockGain]
  constructor
  · rintro ⟨_, _, _, ⟨rfl, hblock⟩, ⟨rfl, hcreated⟩, ⟨rfl, -⟩, hle⟩
    exact ⟨hcreated, hblock, by omega⟩
  · rintro ⟨hcreated, hblock, hle⟩
    refine ⟨_, _, _, ⟨rfl, hblock⟩, ⟨rfl, hcreated⟩, ⟨rfl, ?_, ?_⟩, by omega⟩
    -- The deadline lies between two local times that exist.
    · have hlow := hcreated.1
      omega
    · have hhigh := hblock.2
      omega

theorem inValidity_iff {off : TimeZone} {validFrom validTo : UInt32} :
    InValidity off validFrom validTo ↔ ValidityKept off validFrom.toNat validTo.toNat := by
  simp only [InValidity, ValidityKept, fromtimestamp_eq_ok, clockGain]
  constructor
  · rintro ⟨_, _, ⟨rfl, hfrom⟩, ⟨rfl, hto⟩, hle⟩
    exact ⟨hfrom, hto, by omega⟩
  · rintro ⟨hfrom, hto, hle⟩
    exact ⟨_, _, ⟨rfl, hfrom⟩, ⟨rfl, hto⟩, by omega⟩

/-! ## The other checks -/

variable {B : Type} (π : Platform B) (signer : Str) (s : Dict Str B)

/-- What EXPIRE checks besides the clock. -/
structure Expirable (payload : AtomicSwapExpirePayload) (swap : AtomicSwapInfo)
    (block : BlockInfo) : Prop where
  isStored : swapAt π s.get? (swapAddress π payload.swapId) = some swap
  isOpen : notPermittedToChange swap.state = false
  isSender : swap.senderAddress = accountAddress π signer
  isLatest : latestBlock π s.get? = some block
  fits : balanceAt π s.get? (accountAddress π signer) + swap.amount.toNat < 2 ^ 64

/-- What registering a key checks besides the clock. -/
structure Storable (payload : NewPubKeyPayload) (configuration : Configuration) : Prop where
  isSet : payload.configuration = some configuration
  verifies : (detectProcessorCls π payload configuration).verify = .ok true
  isFree : pubKeyAt π s.get? (pubKeyAddress π configuration.key) = none
  isPayable : ∃ charged, ChargeOutcome π s.get? (accountAddress π signer) charged

/-- Where a transaction passes all its other checks, the clocks of the two nodes put its two
timestamps on the same side of the limit. -/
def ClocksAgree (off₁ off₂ : TimeZone) : Operation → Prop
  | .swapExpire payload => ∀ swap block, Expirable π signer s payload swap block →
      (WaitOver off₁ (timeLock swap.isInitiator) swap.createdAt.toNat block.timestamp.toNat ↔
        WaitOver off₂ (timeLock swap.isInitiator) swap.createdAt.toNat block.timestamp.toNat)
  | .store payload => ∀ configuration, Storable π signer s payload configuration →
      (ValidityKept off₁ payload.validFrom.toNat payload.validTo.toNat ↔
        ValidityKept off₂ payload.validFrom.toNat payload.validTo.toNat)
  | .storeAndPay payload =>
      let keyPayload := payload.pubKeyPayload.getD {}
      OwnerSigned π payload → ∀ configuration, Storable π signer s keyPayload configuration →
        (ValidityKept off₁ keyPayload.validFrom.toNat keyPayload.validTo.toNat ↔
          ValidityKept off₂ keyPayload.validFrom.toNat keyPayload.validTo.toNat)
  | _ => True

/-- Two nodes accept the transaction with the same messages written, or both refuse it. -/
def NodesAgree (off₁ off₂ : TimeZone) (op : Operation) : Prop :=
  ∀ u, op.apply π off₁ signer s = .ok u ↔ op.apply π off₂ signer s = .ok u

variable {π signer s} {off off₁ off₂ : TimeZone}

/-! ## Agreement on a check -/

/-- Two functions that return the same results behind one check each. -/
theorem sameResults_iff {U : Type} {c₁ c₂ : Prop} {R : U → Prop} :
    (∀ u, c₁ ∧ R u ↔ c₂ ∧ R u) ↔ ((∃ u, R u) → (c₁ ↔ c₂)) := by
  constructor
  · rintro hsame ⟨u, hu⟩
    have hsameU := hsame u
    tauto
  · intro hsame u
    by_cases hu : R u
    · have hcheck := hsame ⟨u, hu⟩
      tauto
    · tauto

/-- The processors decide only on transactions whose form is valid. -/
theorem nodesAgree_iff_of_formValid {op : Operation} (hform : op.FormValid) :
    NodesAgree π signer s off₁ off₂ op ↔
      ∀ u, (op.processor π off₁ signer).run s.get? = .ok u ↔
        (op.processor π off₂ signer).run s.get? = .ok u := by
  obtain ⟨result, hvalidate, hvalid⟩ := hform
  have happly : ∀ off u, op.apply π off signer s = .ok u ↔
      (op.processor π off signer).run s.get? = .ok u := by
    intro off u
    refine ⟨run_of_apply, fun hrun => ?_⟩
    exact apply_eq_ok.mpr ⟨result, hvalidate, hvalid, hrun⟩
  simp only [NodesAgree, happly]

theorem nodesAgree_of_not_formValid {op : Operation} (hform : ¬op.FormValid) :
    NodesAgree π signer s off₁ off₂ op := by
  have hrefused : ∀ off u, op.apply π off signer s ≠ .ok u := by
    intro off u haccepted
    obtain ⟨result, hvalidate, hvalid, -⟩ := apply_eq_ok.mp haccepted
    exact hform ⟨result, hvalidate, hvalid⟩
  intro u
  exact ⟨fun h => absurd h (hrefused _ _), fun h => absurd h (hrefused _ _)⟩

/-! ## The three processors that read the clock -/

theorem run_swapExpire {payload : AtomicSwapExpirePayload} {swap : AtomicSwapInfo}
    {block : BlockInfo} (h : Expirable π signer s payload swap block) {u : Dict Str Message} :
    (swapExpire π off signer payload).run s.get? = .ok u ↔
      WaitOver off (timeLock swap.isInitiator) swap.createdAt.toNat block.timestamp.toNat ∧
      ∃ balance : UInt64,
        balance.toNat = balanceAt π s.get? (accountAddress π signer) + swap.amount.toNat ∧
        u = .ofList
          [(swapAddress π payload.swapId, .atomicSwapInfo { swap with state := .expired }),
           (accountAddress π signer, .account
             { (accountAt π s.get? (accountAddress π signer)).getD {} with
               balance := balance })] := by
  rw [swapExpire_spec, ← withdrawable_iff]
  constructor
  · rintro ⟨swap', block', balance, hswap, -, -, hblock, hwait, hbalance, hu⟩
    rw [h.isStored] at hswap
    rw [h.isLatest] at hblock
    cases hswap
    cases hblock
    exact ⟨hwait, balance, hbalance, hu⟩
  · rintro ⟨hwait, balance, hbalance, hu⟩
    exact ⟨swap, block, balance, h.isStored, h.isOpen, h.isSender, h.isLatest, hwait, hbalance, hu⟩

theorem swapExpire_agree_iff {payload : AtomicSwapExpirePayload} :
    (∀ u, (swapExpire π off₁ signer payload).run s.get? = .ok u ↔
        (swapExpire π off₂ signer payload).run s.get? = .ok u) ↔
      ClocksAgree π signer s off₁ off₂ (.swapExpire payload) := by
  by_cases hexpirable : ∃ swap block, Expirable π signer s payload swap block
  · obtain ⟨swap, block, h⟩ := hexpirable
    obtain ⟨balance, hbalance⟩ := exists_uint64 h.fits
    simp only [run_swapExpire h]
    rw [sameResults_iff]
    constructor
    · intro hsame swap' block' h'
      have hswap := h.isStored.symm.trans h'.isStored
      have hblock := h.isLatest.symm.trans h'.isLatest
      cases hswap
      cases hblock
      exact hsame ⟨_, balance, hbalance, rfl⟩
    · intro hclocks _
      exact hclocks swap block h
  · -- Whatever the clock, an accepted EXPIRE has passed the other checks.
    have hrefused : ∀ off u, (swapExpire π off signer payload).run s.get? ≠ .ok u := by
      intro off u hrun
      obtain ⟨swap, block, balance, hswap, hopen, hsender, hblock, -, hbalance, -⟩ :=
        swapExpire_spec.mp hrun
      have hlt : balance.toNat < 2 ^ 64 := balance.toNat_lt
      exact hexpirable ⟨swap, block, hswap, hopen, hsender, hblock, by omega⟩
    constructor
    · intro _ swap block h
      exact absurd ⟨swap, block, h⟩ hexpirable
    · intro _ u
      exact ⟨fun hrun => absurd hrun (hrefused _ _), fun hrun => absurd hrun (hrefused _ _)⟩

/-- A key is registered when its validity is kept and the rest of the checks pass. -/
theorem exists_registrable_iff {payload : NewPubKeyPayload}
    {Q : Configuration → Option (Dict Str Account) → Prop} :
    (∃ configuration charged, Registrable π off s.get? payload configuration ∧
        ChargeOutcome π s.get? (accountAddress π signer) charged ∧ Q configuration charged) ↔
      ValidityKept off payload.validFrom.toNat payload.validTo.toNat ∧
        ∃ configuration charged, Storable π signer s payload configuration ∧
          ChargeOutcome π s.get? (accountAddress π signer) charged ∧
            Q configuration charged := by
  rw [← inValidity_iff]
  constructor
  · rintro ⟨configuration, charged, hregistrable, hcharged, hq⟩
    have hstorable : Storable π signer s payload configuration :=
      ⟨hregistrable.isSet, hregistrable.verifies, hregistrable.isFree, charged, hcharged⟩
    exact ⟨hregistrable.inValidity, configuration, charged, hstorable, hcharged, hq⟩
  · rintro ⟨hvalid, configuration, charged, hstorable, hcharged, hq⟩
    exact ⟨configuration, charged,
      ⟨hstorable.isSet, hstorable.verifies, hstorable.isFree, hvalid⟩, hcharged, hq⟩

theorem storePubKey_agree_iff {payload : NewPubKeyPayload} :
    (∀ u, (storePubKey π off₁ signer payload).run s.get? = .ok u ↔
        (storePubKey π off₂ signer payload).run s.get? = .ok u) ↔
      ClocksAgree π signer s off₁ off₂ (.store payload) := by
  simp only [storePubKey_spec, exists_registrable_iff]
  rw [sameResults_iff]
  constructor
  · intro hsame configuration hstorable
    obtain ⟨charged, hcharged⟩ := hstorable.isPayable
    exact hsame ⟨_, configuration, charged, hstorable, hcharged, rfl⟩
  · rintro hclocks ⟨_, configuration, _, hstorable, -, -⟩
    exact hclocks configuration hstorable

theorem storePublicKeyForOther_agree_iff {payload : NewPubKeyStoreAndPayPayload} :
    (∀ u, (storePublicKeyForOther π off₁ signer payload).run s.get? = .ok u ↔
        (storePublicKeyForOther π off₂ signer payload).run s.get? = .ok u) ↔
      ClocksAgree π signer s off₁ off₂ (.storeAndPay payload) := by
  simp only [storePublicKeyForOther_spec, exists_registrable_iff, and_left_comm
    (a := OwnerSigned π payload)]
  rw [sameResults_iff]
  constructor
  · intro hsame hsigned configuration hstorable
    obtain ⟨charged, hcharged⟩ := hstorable.isPayable
    exact hsame ⟨_, hsigned, configuration, charged, hstorable, hcharged, rfl⟩
  · rintro hclocks ⟨_, hsigned, configuration, _, hstorable, -, -⟩
    exact hclocks hsigned configuration hstorable

/-! ## The verdicts of two nodes -/

/-- Two nodes give the same verdict on a transaction, and write the same messages, exactly when
its form is invalid or their clocks agree on its timestamps. -/
theorem nodesAgree_iff_clocksAgree (π : Platform B) (signer : Str) (s : Dict Str B)
    (off₁ off₂ : TimeZone) (op : Operation) :
    NodesAgree π signer s off₁ off₂ op ↔
      (op.FormValid → ClocksAgree π signer s off₁ off₂ op) := by
  by_cases hform : op.FormValid
  · rw [nodesAgree_iff_of_formValid hform, forall_prop_of_true hform]
    cases op with
    | swapExpire payload => exact swapExpire_agree_iff
    | store payload => exact storePubKey_agree_iff
    | storeAndPay payload => exact storePublicKeyForOther_agree_iff
    | transfer payload => exact iff_of_true (fun _ => Iff.rfl) trivial
    | genesis payload => exact iff_of_true (fun _ => Iff.rfl) trivial
    | swapInit payload => exact iff_of_true (fun _ => Iff.rfl) trivial
    | swapApprove payload => exact iff_of_true (fun _ => Iff.rfl) trivial
    | swapSetLock payload => exact iff_of_true (fun _ => Iff.rfl) trivial
    | swapClose payload => exact iff_of_true (fun _ => Iff.rfl) trivial
    | revoke payload => exact iff_of_true (fun _ => Iff.rfl) trivial
  · exact iff_of_true (nodesAgree_of_not_formValid hform) fun h => absurd h hform

/-! ## A swap over the start of summer time -/

namespace Sample

/-- The rule of Eastern Europe around 31 March 2019, 01:00 UTC, when its summer time began. -/
def easternEurope : TimeZone := fun t => if t < 1553994000 then 7200 else 10800

/-- A swap opened the evening before; the latest block is 23 hours later. -/
def summerTimeScript : List Input :=
  environment 1553950000 ++
  [.transaction alice (.genesis { totalSupply := 1000000 }),
   .transaction alice (.swapInit initPayload),
   .environment configAddress (.blockInfoConfig { latestBlock := 2 }),
   .environment (createBlockAddress 2) (.blockInfo { blockNum := 2, timestamp := 1554032800 })]

theorem summerTimeScript_legal : ∀ i ∈ summerTimeScript, i.IsLegal := by decide +kernel

theorem summerTimeScript_accepted :
    (play platform utc Dict.empty summerTimeScript).isSome = true := by
  decide +kernel

end Sample

open Sample in
/-- The initiator's 24 hours have passed by the clock of the one node and not by the other's. -/
theorem expire_summerTimeScript_not_nodesAgree :
    LedgerRun platform utc (transitions summerTimeScript) (final summerTimeScript) ∧
      ¬NodesAgree platform alice (final summerTimeScript) utc easternEurope
        (.swapExpire { swapId := swapId }) := by
  refine ⟨run_of_accepted summerTimeScript_legal summerTimeScript_accepted, fun hagree => ?_⟩
  have heast : ((Operation.swapExpire { swapId := swapId }).apply platform easternEurope alice
      (final summerTimeScript)).isOk = true := by decide +kernel
  have hutc : ((Operation.swapExpire { swapId := swapId }).apply platform utc alice
      (final summerTimeScript)).isOk = false := by decide +kernel
  cases haccepted : (Operation.swapExpire { swapId := swapId }).apply platform easternEurope alice
      (final summerTimeScript) with
  | error err =>
      rw [haccepted] at heast
      cases heast
  | ok u =>
      rw [(hagree u).mpr haccepted] at hutc
      cases hutc

end Remme.Tp
