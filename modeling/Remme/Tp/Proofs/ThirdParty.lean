import Remme.Tp.Proofs.Placement
/-!
# Only the signer can lose tokens

A transaction may rewrite accounts that its payload or somebody else's record
chooses: the receiver of a transfer or of a closed swap, the owner of a key that
another party pays for, the zero address.  None of them ends up with less.
-/

namespace Remme.Tp

open Remme.Lib Remme.Protos Remme.Shared Remme.Settings

variable {B : Type} {π : Platform B} {tz : TimeZone} {s s' : Dict Str B} {signer a : Str}
  {op : Operation} {u : Dict Str Message} {ts : List (Transition (Dict Str B) Label)}

theorem AccountWrite.balance_le {ctx : Str → Option B} {m : Account}
    (hw : AccountWrite π tz ctx signer op a m) (hne : a ≠ accountAddress π signer) :
    balanceAt π ctx a ≤ m.balance.toNat := by
  cases hw with
  | issue => exact absurd rfl hne
  | debit => exact absurd rfl hne
  | credit hle => exact hle
  | register _ _ hbalance =>
      rw [storePublicKeyToAccount_balance]
      rcases hbalance with rfl | hbalance
      · exact absurd rfl hne
      · exact hbalance.ge

theorem AccountsHoldAccounts.step_balance_le (hforeign : π.pb.NoForeignOwner)
    (hinv : AccountsHoldAccounts π s) (hstep : Step π tz s (.transaction signer op u) s')
    (ha : IsAccountAddress π a) (hne : a ≠ accountAddress π signer) :
    s'.get? a = s.get? a ∨ ∃ m, s'.get? a = some (π.pb.serialize (.account m)) ∧
      balanceAt π s.get? a ≤ m.balance.toNat := by
  rcases hstep.entry a with hsame | ⟨signer', op', u', m, hl, hsigner, -, hw, hpost⟩ | ⟨henv, -⟩
  · exact .inl hsame
  · right
    cases hl
    obtain ⟨x, rfl⟩ := hinv.written hforeign hsigner hw ha
    cases hw with
    | account haccount => exact ⟨x, hpost, haccount.balance_le hne⟩
  · exact absurd henv ha.not_environment

theorem balanceAt_of_get? {m : Account} (h : s.get? a = some (π.pb.serialize (.account m))) :
    balanceAt π s.get? a = m.balance.toNat := by
  unfold balanceAt accountAt
  rw [h]
  simp [Protobuf.serialize]

/-- An account that is not the signer's stays an account and never holds less than before;
the zero address is no signer's. -/
theorem only_signer_loses (hforeign : π.pb.NoForeignOwner) (hrun : LedgerRun π tz ts s)
    (hstep : Step π tz s (.transaction signer op u) s') :
    (∀ a m, IsAccountAddress π a → a ≠ accountAddress π signer →
      accountAt π s.get? a = some m →
        ∃ m', s'.get? a = some (π.pb.serialize (.account m')) ∧ m.balance ≤ m'.balance) ∧
    balanceAt π s.get? zeroAddress ≤ balanceAt π s'.get? zeroAddress := by
  have hinv := accountsHoldAccounts_of_run hforeign hrun
  constructor
  · intro a m ha hne hm
    have hbalance : balanceAt π s.get? a = m.balance.toNat := by
      unfold balanceAt
      rw [hm]
      rfl
    rcases hinv.step_balance_le hforeign hstep ha hne with hsame | ⟨m', hpost, hle⟩
    · obtain ⟨d, hget, hparse⟩ := Option.bind_eq_some_iff.mp hm
      obtain ⟨x, rfl⟩ := hinv a d ha hget
      obtain rfl : x = m := by simpa [Protobuf.serialize] using hparse
      exact ⟨x, hsame.trans hget, UInt64.le_refl _⟩
    · refine ⟨m', hpost, ?_⟩
      rw [UInt64.le_iff_toNat_le]
      omega
  · have hzero := isAccountAddress_zeroAddress π
    have hne : zeroAddress ≠ accountAddress π signer := (accountAddress_ne_zeroAddress signer).symm
    rcases hinv.step_balance_le hforeign hstep hzero hne with hsame | ⟨m, hpost, hle⟩
    · unfold balanceAt accountAt
      rw [hsame]
    · rw [balanceAt_of_get? hpost]
      exact hle

/-- A transfer after the swap of the sample script. -/
def transferScript : List Input :=
  Sample.swapScript ++
  [.transaction Sample.alice (.transfer
    { addressTo := accountAddress Sample.platform Sample.bot, value := 100 })]

theorem only_signer_loses_transferScript :
    ∃ ts s u s', LedgerRun Sample.platform Sample.utc ts s ∧
      Step Sample.platform Sample.utc s (.transaction Sample.alice (.transfer
        { addressTo := accountAddress Sample.platform Sample.bot, value := 100 }) u) s' ∧
      balanceAt Sample.platform s.get? zeroAddress ≤
        balanceAt Sample.platform s'.get? zeroAddress := by
  have hlegal : ∀ i ∈ transferScript, i.IsLegal := by decide +kernel
  have haccepted : (play Sample.platform Sample.utc Dict.empty transferScript).isSome = true := by
    decide +kernel
  have hrun := Sample.run_of_accepted hlegal haccepted
  obtain ⟨ts, e, ts', u, hts, hl, -, -⟩ := split_of_play (Sample.play_eq_transitions haccepted)
  change Sample.transitions transferScript = _ at hts
  rw [hts] at hrun
  obtain ⟨hleft, hstep, -⟩ := hrun.split
  rw [hl] at hstep
  exact ⟨ts, e.pre, u, e.post, hleft, hstep,
    (only_signer_loses Sample.noForeignOwner hleft hstep).2⟩

end Remme.Tp
