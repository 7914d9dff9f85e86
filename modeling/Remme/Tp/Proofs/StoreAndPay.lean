import Remme.Tp.Proofs.Writes
import Remme.Tp.Script
/-!
# Paying for another's key

STORE_AND_PAY reads the owner's and the payer's account, charges the payer, and
writes the key into the owner's account as it was read.  Where the payer is the
owner, that last write puts the balance before the charge back, while the zero
address keeps the price it received.
-/

namespace Remme.Tp

open Remme.Lib Remme.Protos Remme.Shared Remme.Settings

variable {B : Type} {π : Platform B} {tz : TimeZone} {s s' : Dict Str B} {signer a : Str}
  {payload : NewPubKeyStoreAndPayPayload} {u : Dict Str Message}

/-! ## The messages written -/

/-- The account that a charge, if there was one, leaves at an address. -/
def afterCharge (π : Platform B) (ctx : Str → Option B) (charged : Option (Dict Str Account))
    (a : Str) : Account :=
  ((charged.getD .empty).get? a).getD ((accountAt π ctx a).getD {})

theorem storeAndPay_owner
    (h : (Operation.storeAndPay payload).apply π tz signer s = .ok u) :
    balanceAt π (setState π s u).get? (accountAddress π payload.owner) =
      balanceAt π s.get? (accountAddress π payload.owner) := by
  obtain ⟨-, configuration, charged, -, -, hu⟩ :=
    storePublicKeyForOther_spec.mp (run_of_apply h)
  have hget : u.get? (accountAddress π payload.owner) = some (.account
      (storePublicKeyToAccount (pubKeyAddress π configuration.key)
        ((accountAt π s.get? (accountAddress π payload.owner)).getD {}))) := by
    rw [hu, Dict.get?_set_self]
  rw [balanceAt_setState_of_some hget, storePublicKeyToAccount_balance]
  rfl

/-- Away from the owner, what remains is the outcome of the charge. -/
theorem storeAndPay_other
    (h : (Operation.storeAndPay payload).apply π tz signer s = .ok u) :
    ∃ charged, ChargeOutcome π s.get? (accountAddress π signer) charged ∧
      ∀ a, IsAccountAddress π a → a ≠ accountAddress π payload.owner →
        balanceAt π (setState π s u).get? a =
          (afterCharge π s.get? charged a).balance.toNat := by
  obtain ⟨-, configuration, charged, -, hcharged, hu⟩ :=
    storePublicKeyForOther_spec.mp (run_of_apply h)
  refine ⟨charged, hcharged, fun a ha howner => ?_⟩
  have hkey : pubKeyAddress π configuration.key ≠ a :=
    (isPubKeyAddress_pubKeyAddress π _).ne_account ha
  have hsome : ∀ x, (charged.getD .empty).get? a = some x → u.get? a = some (.account x) := by
    intro x hx
    rw [hu, Dict.get?_set_of_ne _ _ (Ne.symm howner), Dict.get?_update, Dict.get?_mapVals, hx]
    rfl
  have hnone : (charged.getD .empty).get? a = none →
      u.get? a = if accountAddress π signer = a then
        some (.account ((accountAt π s.get? (accountAddress π signer)).getD {})) else none := by
    intro hx
    rw [hu, Dict.get?_set_of_ne _ _ (Ne.symm howner), Dict.get?_update, Dict.get?_mapVals, hx]
    simp [Dict.ofList, Dict.setAll, Dict.get?_set, hkey, Ne.symm howner]
  unfold afterCharge
  cases hx : (charged.getD .empty).get? a with
  | some x => exact balanceAt_setState_of_some (hsome x hx)
  | none =>
      by_cases hsigner : accountAddress π signer = a
      · subst hsigner
        have hget := hnone hx
        rw [if_pos rfl] at hget
        exact balanceAt_setState_of_some hget
      · exact balanceAt_setState_of_none (by rw [hnone hx, if_neg hsigner])

theorem afterCharge_of_off (hoff : economyEnabled π s.get? = false)
    {charged : Option (Dict Str Account)} (h : ChargeOutcome π s.get? signer charged) :
    (afterCharge π s.get? charged a).balance.toNat = balanceAt π s.get? a := by
  cases charged with
  | none => rfl
  | some accounts =>
      have hon := h.1
      rw [hoff] at hon
      cases hon

theorem afterCharge_of_on {payer : Str} (hne : payer ≠ zeroAddress)
    (hon : economyEnabled π s.get? = true) {charged : Option (Dict Str Account)}
    (h : ChargeOutcome π s.get? payer charged) :
    (afterCharge π s.get? charged payer).balance.toNat + pubKeyStorePrice.toNat =
        balanceAt π s.get? payer ∧
      (afterCharge π s.get? charged zeroAddress).balance.toNat =
        balanceAt π s.get? zeroAddress + pubKeyStorePrice.toNat ∧
      ∀ a, a ≠ payer → a ≠ zeroAddress →
        (afterCharge π s.get? charged a).balance.toNat = balanceAt π s.get? a := by
  cases charged with
  | none =>
      rw [ChargeOutcome, hon] at h
      cases h
  | some accounts =>
      obtain ⟨-, debited, credited, hdebited, hcredited, rfl⟩ := h
      have hprice : pubKeyStorePrice.toNat = 10 := rfl
      refine ⟨?_, ?_, fun a hpayer hzero => ?_⟩
      · simpa [afterCharge, get?_ofList_fst hne, hprice] using hdebited
      · simpa [afterCharge, Dict.ofList, Dict.setAll, hprice] using hcredited
      · simp [afterCharge, Dict.ofList, Dict.setAll, Dict.get?_set, Ne.symm hpayer, Ne.symm hzero,
          balanceAt]

/-! ## Who is charged -/

/-- Between the states the signer paid the price of a key to the zero address, and nobody else
paid or received anything; with the economy off nobody did. -/
structure ChargesSigner (π : Platform B) (signer : Str) (s s' : Dict Str B) : Prop where
  on : economyEnabled π s.get? = true →
    balanceAt π s'.get? (accountAddress π signer) + pubKeyStorePrice.toNat =
        balanceAt π s.get? (accountAddress π signer) ∧
      balanceAt π s'.get? zeroAddress =
        balanceAt π s.get? zeroAddress + pubKeyStorePrice.toNat ∧
      ∀ a, IsAccountAddress π a → a ≠ accountAddress π signer → a ≠ zeroAddress →
        balanceAt π s'.get? a = balanceAt π s.get? a
  off : economyEnabled π s.get? = false →
    ∀ a, IsAccountAddress π a → balanceAt π s'.get? a = balanceAt π s.get? a

/-- The owner's account keeps its balance, so an owner who signs is not charged. -/
theorem not_chargesSigner_of_owner
    (h : (Operation.storeAndPay payload).apply π tz signer s = .ok u)
    (hon : economyEnabled π s.get? = true)
    (heq : accountAddress π payload.owner = accountAddress π signer) :
    ¬ChargesSigner π signer s (setState π s u) := by
  have howner := storeAndPay_owner h
  have hprice : pubKeyStorePrice.toNat = 10 := rfl
  intro hcharges
  have hsigner := (hcharges.on hon).1
  rw [← heq, howner] at hsigner
  omega

/-- STORE_AND_PAY charges its signer exactly when the economy is off or the key belongs to
another account. -/
theorem chargesSigner_iff
    (h : (Operation.storeAndPay payload).apply π tz signer s = .ok u) :
    ChargesSigner π signer s (setState π s u) ↔
      ¬(economyEnabled π s.get? = true ∧
        accountAddress π payload.owner = accountAddress π signer) := by
  have howner := storeAndPay_owner h
  obtain ⟨charged, hcharged, hother⟩ := storeAndPay_other h
  have hzero : zeroAddress ≠ accountAddress π payload.owner :=
    (accountAddress_ne_zeroAddress payload.owner).symm
  constructor
  · rintro hcharges ⟨hon, heq⟩
    exact not_chargesSigner_of_owner h hon heq hcharges
  · intro hcondition
    refine ⟨fun hon => ?_, fun hoff a ha => ?_⟩
    · have hne : accountAddress π payload.owner ≠ accountAddress π signer :=
        fun heq => hcondition ⟨hon, heq⟩
      obtain ⟨hpayer, hreceiver, hrest⟩ :=
        afterCharge_of_on (accountAddress_ne_zeroAddress signer) hon hcharged
      refine ⟨?_, ?_, fun a ha hsigner hzeroAddress => ?_⟩
      · rw [hother _ (isAccountAddress_accountAddress π signer) (Ne.symm hne)]
        exact hpayer
      · rw [hother _ (isAccountAddress_zeroAddress π) hzero]
        exact hreceiver
      · by_cases hao : a = accountAddress π payload.owner
        · rw [hao]
          exact howner
        · rw [hother a ha hao]
          exact hrest a hsigner hzeroAddress
    · by_cases hao : a = accountAddress π payload.owner
      · rw [hao]
        exact howner
      · rw [hother a ha hao]
        exact afterCharge_of_off hoff hcharged

namespace Sample

/-- The sample platform with owners who sign: the two keys of the scripts parse, and either of
them verifies the signature of the payload below. -/
def signingPlatform : Platform Data :=
  { platform with
    secp256k1FromHex := fun key => key = alice ∨ key = bot
    secp256k1Verify := fun signature _ key =>
      (key = alice ∨ key = bot) ∧ signature = Text.bytesHex entityHashSignature }

/-- The sample key for the owner with the given public key. -/
def payPayload (ownerPublicKey : Bytes) : NewPubKeyStoreAndPayPayload :=
  { pubKeyPayload := some keyPayload
    ownerPublicKey := ownerPublicKey
    signatureByOwner := entityHashSignature }

def aliceKey : Bytes := numBytes 33 0x02feb988591c78e58e57cdce5a314bd04798971227fcc2316907355392a2c99c25

def botKey : Bytes := numBytes 33 0x03ecc5cb4094eb05319be6c7a63ebf17133d4ffaea48cdcfd1d5fc79dac7db7b6b

/-- A store in which `alice` has an account. -/
def fundedStore : Dict Str Data :=
  .ofList [(accountAddress platform alice, .account { balance := 5000 })]

end Sample

/-- `alice` pays for a key of `bot`. -/
theorem chargesSigner_forBot :
    ∃ u, (Operation.storeAndPay (Sample.payPayload Sample.botKey)).apply Sample.signingPlatform
        Sample.utc Sample.alice Sample.fundedStore = .ok u ∧
      ChargesSigner Sample.signingPlatform Sample.alice Sample.fundedStore
        (setState Sample.signingPlatform Sample.fundedStore u) := by
  obtain ⟨u, hu⟩ := exists_ok (x := (Operation.storeAndPay
    (Sample.payPayload Sample.botKey)).apply Sample.signingPlatform Sample.utc Sample.alice
      Sample.fundedStore) (by decide +kernel)
  have hne : accountAddress Sample.signingPlatform (Sample.payPayload Sample.botKey).owner ≠
      accountAddress Sample.signingPlatform Sample.alice := by decide +kernel
  have hiff := chargesSigner_iff hu
  exact ⟨u, hu, hiff.mpr fun hboth => hne hboth.2⟩

/-- `alice` pays for a key of her own: the zero address gets the price, and she keeps it. -/
theorem forSelf_not_chargesSigner :
    ∃ u, (Operation.storeAndPay (Sample.payPayload Sample.aliceKey)).apply Sample.signingPlatform
        Sample.utc Sample.alice Sample.fundedStore = .ok u ∧
      ¬ChargesSigner Sample.signingPlatform Sample.alice Sample.fundedStore
        (setState Sample.signingPlatform Sample.fundedStore u) := by
  obtain ⟨u, hu⟩ := exists_ok (x := (Operation.storeAndPay
    (Sample.payPayload Sample.aliceKey)).apply Sample.signingPlatform Sample.utc Sample.alice
      Sample.fundedStore) (by decide +kernel)
  exact ⟨u, hu, not_chargesSigner_of_owner hu (by decide +kernel) (by decide +kernel)⟩

end Remme.Tp
