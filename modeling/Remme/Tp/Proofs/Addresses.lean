import Remme.Tp.Ledger
/-!
# The kinds of address are disjoint

Every address of a family starts with the six characters of its prefix, and the
three prefixes differ from each other and from the namespaces of the reserved
addresses, the settings and the block infos.
-/

namespace Remme.Tp

open Remme.Lib Remme.Protos Remme.Shared Remme.Settings Remme.Clients.BlockInfo

variable {B : Type} (π : Platform B)

theorem familyPrefix_injective {f g : Family} (h : f.familyPrefix π = g.familyPrefix π) :
    f = g := by
  rw [familyPrefix_eq, familyPrefix_eq] at h
  revert h
  cases f <;> cases g <;> decide

theorem family_unique {f g : Family} {a : Str} (hf : f.familyPrefix π <+: a)
    (hg : g.familyPrefix π <+: a) : f = g := by
  apply familyPrefix_injective π
  apply List.IsPrefix.eq_of_length
  · exact List.prefix_of_prefix_length_le hf hg (by simp)
  · simp

/-- No family's prefix is one of the two namespaces outside the families. -/
theorem familyPrefix_ne_namespace (f : Family) :
    f.familyPrefix π ≠ settingsNamespace ∧ f.familyPrefix π ≠ blockInfoFamilyNamespace := by
  rw [familyPrefix_eq]
  cases f <;> decide

theorem not_familyPrefix_of_namespace {f : Family} {a n : Str} (hlen : n.length = 6)
    (hne : f.familyPrefix π ≠ n) (hn : n <+: a) : ¬f.familyPrefix π <+: a := by
  intro hf
  apply hne
  apply List.IsPrefix.eq_of_length
  · exact List.prefix_of_prefix_length_le hf hn (by simp [hlen])
  · simp [hlen]

theorem settingsNamespace_prefix_zeroAddress : settingsNamespace <+: zeroAddress := by decide

theorem settingsNamespace_prefix_genesisAddress : settingsNamespace <+: genesisAddress := by
  decide

theorem not_familyPrefix_zeroAddress (f : Family) : ¬f.familyPrefix π <+: zeroAddress :=
  not_familyPrefix_of_namespace π rfl (familyPrefix_ne_namespace π f).1
    settingsNamespace_prefix_zeroAddress

theorem not_familyPrefix_genesisAddress (f : Family) : ¬f.familyPrefix π <+: genesisAddress :=
  not_familyPrefix_of_namespace π rfl (familyPrefix_ne_namespace π f).1
    settingsNamespace_prefix_genesisAddress

theorem not_familyPrefix_environment {f : Family} {a : Str} (h : IsEnvironmentAddress a) :
    ¬f.familyPrefix π <+: a := by
  rcases h.1 with hn | hn
  · exact not_familyPrefix_of_namespace π rfl (familyPrefix_ne_namespace π f).1 hn
  · exact not_familyPrefix_of_namespace π rfl (familyPrefix_ne_namespace π f).2 hn

theorem zeroAddress_ne_genesisAddress : zeroAddress ≠ genesisAddress := by decide

/-! ## Derived addresses -/

theorem isAccountAddress_accountAddress (key : Str) :
    IsAccountAddress π (accountAddress π key) :=
  .inl (familyPrefix_isPrefix_address π _ _)

theorem isAccountAddress_zeroAddress : IsAccountAddress π zeroAddress := .inr rfl

theorem isSwapAddress_swapAddress (id : Str) : IsSwapAddress π (swapAddress π id) :=
  familyPrefix_isPrefix_address π _ _

theorem isPubKeyAddress_pubKeyAddress (key : Bytes) :
    IsPubKeyAddress π (pubKeyAddress π key) :=
  familyPrefix_isPrefix_address π _ _

variable {π} {a b : Str}

theorem IsAccountAddress.not_swap (h : IsAccountAddress π a) : ¬IsSwapAddress π a := by
  rcases h with h | rfl
  · intro hswap
    cases family_unique π h hswap
  · exact not_familyPrefix_zeroAddress π _

theorem IsAccountAddress.not_pubKey (h : IsAccountAddress π a) : ¬IsPubKeyAddress π a := by
  rcases h with h | rfl
  · intro hkey
    cases family_unique π h hkey
  · exact not_familyPrefix_zeroAddress π _

theorem IsSwapAddress.not_pubKey (h : IsSwapAddress π a) : ¬IsPubKeyAddress π a := by
  intro hkey
  cases family_unique π h hkey

theorem IsAccountAddress.ne_genesisAddress (h : IsAccountAddress π a) : a ≠ genesisAddress := by
  rintro rfl
  rcases h with h | h
  · exact not_familyPrefix_genesisAddress π _ h
  · exact zeroAddress_ne_genesisAddress h.symm

theorem IsSwapAddress.ne_genesisAddress (h : IsSwapAddress π a) : a ≠ genesisAddress := by
  rintro rfl
  exact not_familyPrefix_genesisAddress π _ h

theorem IsPubKeyAddress.ne_genesisAddress (h : IsPubKeyAddress π a) : a ≠ genesisAddress := by
  rintro rfl
  exact not_familyPrefix_genesisAddress π _ h

theorem IsAccountAddress.not_environment (h : IsAccountAddress π a) :
    ¬IsEnvironmentAddress a := by
  intro henv
  rcases h with h | rfl
  · exact not_familyPrefix_environment π henv h
  · exact henv.2.1 rfl

theorem IsSwapAddress.not_environment (h : IsSwapAddress π a) : ¬IsEnvironmentAddress a :=
  fun henv => not_familyPrefix_environment π henv h

theorem IsPubKeyAddress.not_environment (h : IsPubKeyAddress π a) : ¬IsEnvironmentAddress a :=
  fun henv => not_familyPrefix_environment π henv h

theorem IsSwapAddress.ne_account (h : IsSwapAddress π a) (hb : IsAccountAddress π b) : a ≠ b := by
  rintro rfl
  exact hb.not_swap h

theorem IsPubKeyAddress.ne_account (h : IsPubKeyAddress π a) (hb : IsAccountAddress π b) :
    a ≠ b := by
  rintro rfl
  exact hb.not_pubKey h

theorem accountAddress_ne_zeroAddress (key : Str) : accountAddress π key ≠ zeroAddress := by
  intro heq
  apply not_familyPrefix_zeroAddress π .account
  rw [← heq]
  exact familyPrefix_isPrefix_address π _ _

end Remme.Tp
