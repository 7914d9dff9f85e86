import Remme.Tp.Proofs.Writes
import Remme.Tp.Script
/-!
# The written forms of a secret

The secret of a swap is a byte string, and the secret key of CLOSE one of the
texts that denote it: with or without the mark `0x`, in either case, and with
or without the zero that makes the number of digits even.  `web3_hash` hashes
what the text denotes, so the payout accepts all of these texts and no other.
-/

namespace Remme.Tp

open Remme.Lib Remme.Protos Remme.Shared

variable {B : Type} {π : Platform B} {tz : TimeZone} {s : Dict Str B} {signer k k' h swapId : Str}

/-! ## What a text denotes -/

/-- The digits of a secret: the text without one leading `0x`. -/
def secretDigits : Str → Str
  | '0' :: 'x' :: digits => digits
  | digits => digits

/-- A zero before an odd number of digits. -/
def padDigits (digits : Str) : Str := if digits.length % 2 = 1 then '0' :: digits else digits

/-- The bytes that a secret denotes. -/
def secretBytes (k : Str) : Option Bytes := Text.unhexlify (padDigits (secretDigits k))

/-- The digits of the secret are hexadecimal, in either case. -/
def IsHexSecret (k : Str) : Prop := ∀ c ∈ secretDigits k, Text.isHex c = true

-- Named, since the search could also decide this for every character of Unicode.
instance : DecidablePred IsHexSecret := fun k => List.decidableBAll _ (secretDigits k)

theorem secretDigits_eq (k : Str) : secretDigits k = remove0xPrefix k := by
  unfold secretDigits remove0xPrefix
  split
  · rfl
  · rename_i hmark
    rw [if_neg]
    rintro ⟨digits, rfl⟩
    exact hmark digits rfl

/-- A hexadecimal text has no mark. -/
theorem secretDigits_of_isHex (hhex : ∀ c ∈ h, Text.isHex c = true) : secretDigits h = h := by
  unfold secretDigits
  split
  · have hx := hhex 'x' (by simp)
    cases hx
  · rfl

theorem isSome_secretBytes (k : Str) : (secretBytes k).isSome ↔ IsHexSecret k := by
  unfold secretBytes padDigits
  rw [Text.isSome_unhexlify]
  split_ifs with hodd
  · have heven : ('0' :: secretDigits k).length % 2 = 0 := by
      rw [List.length_cons]
      omega
    rw [List.forall_mem_cons]
    exact ⟨fun hpairs => hpairs.2.2, fun hhex => ⟨heven, rfl, hhex⟩⟩
  · exact ⟨fun hpairs => hpairs.2, fun hhex => ⟨by omega, hhex⟩⟩

/-- The mark has two characters, so the parity of the text is that of its digits. -/
theorem secretDigits_length (k : Str) : (secretDigits k).length % 2 = k.length % 2 := by
  unfold secretDigits
  split
  · simp only [List.length_cons]
    omega
  · rfl

theorem web3Hash_eq (k : Str) :
    web3Hash π k = match secretBytes k with
      | some d => .ok (π.keccak256 d)
      | none => .error .valueError := by
  have hdigits : remove0xPrefix (if k.length % 2 = 1 then "0x0".toList ++ remove0xPrefix k else k) =
      padDigits (secretDigits k) := by
    rw [padDigits, secretDigits_length, secretDigits_eq]
    split_ifs
    · rfl
    · rfl
  cases hdecoded : secretBytes k with
  | none =>
      rw [secretBytes, ← hdigits] at hdecoded
      simp only [web3Hash, hdecoded]
  | some d =>
      rw [secretBytes, ← hdigits] at hdecoded
      simp only [web3Hash, hdecoded]

/-! ## Texts that denote the same -/

theorem secretBytes_mark (hhex : ∀ c ∈ h, Text.isHex c = true) :
    secretBytes ('0' :: 'x' :: h) = secretBytes h := by
  unfold secretBytes
  rw [secretDigits_of_isHex hhex]
  rfl

theorem secretBytes_padding (hhex : ∀ c ∈ h, Text.isHex c = true) (hodd : h.length % 2 = 1) :
    secretBytes ('0' :: h) = secretBytes h := by
  have hhex' : ∀ c ∈ '0' :: h, Text.isHex c = true := by
    intro c hc
    rcases List.mem_cons.mp hc with rfl | hc
    · rfl
    · exact hhex c hc
  have heven : ¬(('0' :: h).length % 2 = 1) := by
    rw [List.length_cons]
    omega
  rw [secretBytes, secretBytes, secretDigits_of_isHex hhex, secretDigits_of_isHex hhex', padDigits,
    padDigits, if_pos hodd, if_neg heven]

theorem secretDigits_lower (hhex : IsHexSecret k) :
    secretDigits (Text.lower k) = Text.lower (secretDigits k) := by
  unfold IsHexSecret at hhex
  by_cases hmark : ∃ digits, k = '0' :: 'x' :: digits
  · obtain ⟨digits, rfl⟩ := hmark
    rfl
  · have hdigits : secretDigits k = k := by
      unfold secretDigits
      split
      · exact absurd ⟨_, rfl⟩ hmark
      · rfl
    rw [hdigits] at hhex ⊢
    apply secretDigits_of_isHex
    intro c hc
    obtain ⟨c', hc', rfl⟩ := List.mem_map.mp hc
    rw [Text.isHex_toLower]
    exact hhex c' hc'

theorem secretBytes_lower (hhex : IsHexSecret k) :
    secretBytes (Text.lower k) = secretBytes k := by
  have hpad : ∀ digits, padDigits (Text.lower digits) = Text.lower (padDigits digits) := by
    intro digits
    simp only [padDigits, Text.lower, List.length_map]
    split_ifs
    · rfl
    · rfl
  rw [secretBytes, secretBytes, secretDigits_lower hhex, hpad, Text.unhexlify_lower]

/-! ## CLOSE -/

/-- The swap waits for a secret with the hash of `k`: it is neither closed nor expired, its lock
is set, an initiator's swap is approved, and the receiver's account can hold the payout. -/
structure Closable (π : Platform B) (s : Dict Str B) (swapId k : Str) (swap : AtomicSwapInfo) :
    Prop where
  record : swapAt π s.get? (swapAddress π swapId) = some swap
  unfinished : notPermittedToChange swap.state = false
  lockSet : swap.secretLock ≠ []
  approved : swap.isInitiator = true → swap.state = .approved
  payoutFits : balanceAt π s.get? swap.receiverAddress + swap.amount.toNat < 2 ^ 64
  lock : web3Hash π k = .ok swap.secretLock

/-- `web3_hash` hashes what the text denotes, so texts that denote the same hash alike. -/
structure HashesSecrets (π : Platform B) : Prop where
  hash : ∀ k, IsHexSecret k → ∃ d, secretBytes k = some d ∧ web3Hash π k = .ok (π.keccak256 d)
  mark : ∀ h : Str, (∀ c ∈ h, Text.isHex c = true) → web3Hash π ("0x".toList ++ h) = web3Hash π h
  letterCase : ∀ k k', IsHexSecret k → IsHexSecret k' → Text.lower k = Text.lower k' →
    web3Hash π k = web3Hash π k'
  padding : ∀ h : Str, (∀ c ∈ h, Text.isHex c = true) → h.length % 2 = 1 →
    web3Hash π ('0' :: h) = web3Hash π h

theorem hashesSecrets (π : Platform B) : HashesSecrets π where
  hash := by
    intro k hhex
    obtain ⟨d, hd⟩ := Option.isSome_iff_exists.mp ((isSome_secretBytes k).mpr hhex)
    exact ⟨d, hd, by rw [web3Hash_eq, hd]⟩
  mark := by
    intro h hhex
    rw [web3Hash_eq, web3Hash_eq h, ← secretBytes_mark hhex]
    rfl
  letterCase := by
    intro k k' hhex hhex' hlower
    rw [web3Hash_eq, web3Hash_eq k', ← secretBytes_lower hhex, hlower, secretBytes_lower hhex']
  padding := by
    intro h hhex hodd
    rw [web3Hash_eq, web3Hash_eq h, secretBytes_padding hhex hodd]

/-- CLOSE of a closable swap looks at nothing but the hash. -/
theorem close_accepted_iff {swap : AtomicSwapInfo} (hclosable : Closable π s swapId k swap)
    (hform : (Operation.swapClose { swapId := swapId, secretKey := k' }).FormValid) :
    (∃ u, (Operation.swapClose { swapId := swapId, secretKey := k' }).apply π tz signer s = .ok u) ↔
      web3Hash π k' = web3Hash π k := by
  rw [hclosable.lock]
  constructor
  · rintro ⟨u, hu⟩
    obtain ⟨swap', balance, hswap', -, -, hhash, -⟩ := swapClose_spec.mp (run_of_apply hu)
    obtain rfl : swap = swap' := Option.some.inj (hclosable.record.symm.trans hswap')
    exact hhash
  · intro hhash
    obtain ⟨result, hresult, hvalid⟩ := hform
    obtain ⟨balance, hbalance⟩ := exists_uint64 hclosable.payoutFits
    exact ⟨_, apply_eq_ok.mpr ⟨result, hresult, hvalid, swapClose_spec.mpr ⟨swap, balance,
      hclosable.record, hclosable.unfinished, hclosable.lockSet, hhash, hclosable.approved,
      hbalance, rfl⟩⟩⟩

/-- CLOSE accepts exactly the written forms of the secret. -/
theorem close_accepts_written_forms (hkeccak : Function.Injective π.keccak256) :
    HashesSecrets π ∧
      ∀ (tz : TimeZone) (s : Dict Str B) (signer swapId k k' : Str) (swap : AtomicSwapInfo),
        IsHexSecret k → IsHexSecret k' → Closable π s swapId k swap →
          (Operation.swapClose { swapId := swapId, secretKey := k' }).FormValid →
            ((∃ u, (Operation.swapClose { swapId := swapId, secretKey := k' }).apply π tz signer s =
              .ok u) ↔ secretBytes k' = secretBytes k) := by
  have hhashes := hashesSecrets π
  refine ⟨hhashes, fun tz s signer swapId k k' swap hhex hhex' hclosable hform => ?_⟩
  obtain ⟨d, hd, hhash⟩ := hhashes.hash k hhex
  obtain ⟨d', hd', hhash'⟩ := hhashes.hash k' hhex'
  rw [close_accepted_iff hclosable hform, hd, hd', hhash, hhash', Except.ok.injEq,
    hkeccak.eq_iff, Option.some.injEq]

namespace Sample

def secretKeyBytes : Bytes :=
  numBytes 32 0x3e0b064c97247732a3b345ce7b2a835d928623cb2871c26db4c2539a38e61a16

/-- The digest of the sample secret; any other byte string stands for its own digest, with a
mark that no digest has. -/
def keccakOfSecret (d : Bytes) : Str :=
  if d = secretKeyBytes then secretLock else 'x' :: d.map fun b => Char.ofNat b.toNat

theorem keccakOfSecret_injective : Function.Injective keccakOfSecret := by
  have hlock : ∀ t, secretLock ≠ 'x' :: t := by
    intro t h
    have hhead : secretLock.head? = some 'x' := by rw [h]; rfl
    exact absurd hhead (by decide +kernel)
  have htoNat : ∀ n < 256, (Char.ofNat n).toNat = n := by decide +kernel
  have hchar : Function.Injective fun b : UInt8 => Char.ofNat b.toNat := by
    intro b b' h
    have heq := congrArg Char.toNat h
    simp only [htoNat _ b.toNat_lt, htoNat _ b'.toNat_lt] at heq
    exact UInt8.toNat_inj.mp heq
  intro d d' h
  unfold keccakOfSecret at h
  split_ifs at h with hd hd' hd'
  · rw [hd, hd']
  · exact absurd h (hlock _)
  · exact absurd h.symm (hlock _)
  · exact List.map_injective_iff.mpr hchar (List.cons.inj h).2

/-- The sample platform with this digest. -/
def secretPlatform : Platform Data := { platform with keccak256 := keccakOfSecret }

def upperCaseKey : Str := "0x".toList ++ secretKey.map Char.toUpper

end Sample

open Sample in
/-- The secret in upper case, with the mark, closes the swap of the sample script. -/
theorem close_accepts_upperCase :
    ∃ ts s swap, LedgerRun secretPlatform utc ts s ∧
      Closable secretPlatform s Sample.swapId secretKey swap ∧
      ∃ u, (Operation.swapClose { swapId := Sample.swapId, secretKey := upperCaseKey }).apply
        secretPlatform utc bot s = .ok u := by
  have hplay : (play secretPlatform utc Dict.empty swapScript.dropLast).any (fun ts =>
      (swapAt secretPlatform (lastState Dict.empty ts).get?
        (swapAddress secretPlatform Sample.swapId)).any fun swap => decide
          (notPermittedToChange swap.state = false ∧ swap.secretLock ≠ [] ∧
          (swap.isInitiator = true → swap.state = .approved) ∧
          balanceAt secretPlatform (lastState Dict.empty ts).get? swap.receiverAddress +
            swap.amount.toNat < 2 ^ 64 ∧
          web3Hash secretPlatform secretKey = .ok swap.secretLock)) = true := by
    decide +kernel
  have hvalid : (Operation.swapClose
      { swapId := Sample.swapId, secretKey := upperCaseKey }).FormValid :=
    formValid_of_any (by decide +kernel)
  obtain ⟨ts, hts, hswap⟩ := (Option.any_eq_true _ _).mp hplay
  obtain ⟨swap, hrecord, hstate⟩ := (Option.any_eq_true _ _).mp hswap
  obtain ⟨hunfinished, hlockSet, happroved, hfits, hlock⟩ := of_decide_eq_true hstate
  have hrun : LedgerRun secretPlatform utc ts (lastState Dict.empty ts) :=
    run_of_play (fun i hi => swapScript_legal i (List.mem_of_mem_dropLast hi)) hts
  have hclosable : Closable secretPlatform (lastState Dict.empty ts) Sample.swapId secretKey swap :=
    ⟨hrecord, hunfinished, hlockSet, happroved, hfits, hlock⟩
  have hforms := (close_accepts_written_forms (π := secretPlatform) keccakOfSecret_injective).2 utc
    (lastState Dict.empty ts) bot Sample.swapId secretKey upperCaseKey swap (by decide +kernel)
    (by decide +kernel) hclosable hvalid
  exact ⟨ts, _, swap, hrun, hclosable, hforms.mpr (by decide +kernel)⟩

end Remme.Tp
