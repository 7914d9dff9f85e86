import Remme.Tp.Proofs.Writes
import Remme.Tp.Script
/-!
# Every record at an address of its class

The store is untyped: an address decides how its bytes are read.  The addresses
that processors write come from hashes, except for the receiver of a closed swap
and the address of a revocation, which come from payloads.  A revocation finds
only key records, since no other bytes parse as one with the signer as owner.
The receiver is not checked, so the placement of records is an invariant of the
runs that close swaps towards accounts only.
-/

namespace Remme.Tp

open Remme.Lib Remme.Protos Remme.Shared Remme.Settings

variable {B : Type} {π : Platform B} {tz : TimeZone} {s s' : Dict Str B} {signer a : Str}
  {op : Operation} {u : Dict Str Message} {l : Label} {d : B}

/-- The addresses for records of a class. -/
def Placed (π : Platform B) (a : Str) : MessageClass → Prop
  | .account => IsAccountAddress π a
  | .genesisStatus => a = genesisAddress
  | .atomicSwapInfo => IsSwapAddress π a
  | .pubKeyStorage => IsPubKeyAddress π a

theorem Placed.unique {c c' : MessageClass} (h : Placed π a c) (h' : Placed π a c') : c = c' := by
  cases c <;> cases c' <;> try rfl
  · exact absurd h' (IsAccountAddress.ne_genesisAddress h)
  · exact absurd h' (IsAccountAddress.not_swap h)
  · exact absurd h' (IsAccountAddress.not_pubKey h)
  · exact absurd h (IsAccountAddress.ne_genesisAddress h')
  · exact absurd h (IsSwapAddress.ne_genesisAddress h')
  · exact absurd h (IsPubKeyAddress.ne_genesisAddress h')
  · exact absurd h (IsAccountAddress.not_swap h')
  · exact absurd h' (IsSwapAddress.ne_genesisAddress h)
  · exact absurd h' (IsSwapAddress.not_pubKey h)
  · exact absurd h (IsAccountAddress.not_pubKey h')
  · exact absurd h' (IsPubKeyAddress.ne_genesisAddress h)
  · exact absurd h (IsSwapAddress.not_pubKey h')

theorem Placed.not_environment {c : MessageClass} (h : Placed π a c) :
    ¬IsEnvironmentAddress a := by
  cases c with
  | account => exact IsAccountAddress.not_environment h
  | genesisStatus =>
      intro henv
      exact henv.2.2 h
  | atomicSwapInfo => exact IsSwapAddress.not_environment h
  | pubKeyStorage => exact IsPubKeyAddress.not_environment h

/-! ## Accounts are never overwritten by other records -/

/-- Every account address holds an account, whatever the receivers of swaps are. -/
def AccountsHoldAccounts (π : Platform B) (s : Dict Str B) : Prop :=
  ∀ a d, IsAccountAddress π a → s.get? a = some d → ∃ m, d = π.pb.serialize (.account m)

theorem AccountsHoldAccounts.written (hforeign : π.pb.NoForeignOwner)
    (hinv : AccountsHoldAccounts π s) (hsigner : IsPublicKey signer) {m : Message}
    (hw : Write π tz s.get? signer op a m) (ha : IsAccountAddress π a) :
    ∃ x, m = .account x := by
  cases hw with
  | swap hswap =>
      exfalso
      cases hswap <;> exact ha.not_swap (isSwapAddress_swapAddress π _)
  | key hkey =>
      exfalso
      cases hkey with
      | store => exact ha.not_pubKey (isPubKeyAddress_pubKeyAddress π _)
      | storeAndPay => exact ha.not_pubKey (isPubKeyAddress_pubKeyAddress π _)
      | revoke hstored howner =>
          obtain ⟨d, hget, hparse⟩ := Option.bind_eq_some_iff.mp hstored
          obtain ⟨x, rfl⟩ := hinv _ d ha hget
          apply hforeign.account x _ hparse
          rw [howner]
          exact hsigner
  | account => exact ⟨_, rfl⟩
  | genesisStatus => exact absurd rfl ha.ne_genesisAddress

theorem AccountsHoldAccounts.step (hforeign : π.pb.NoForeignOwner)
    (hstep : Step π tz s l s') (hinv : AccountsHoldAccounts π s) :
    AccountsHoldAccounts π s' := by
  intro a d ha hget
  rcases hstep.entry a with hsame | ⟨signer, op, u, m, -, hsigner, -, hw, hpost⟩ | ⟨henv, -⟩
  · rw [hsame] at hget
    exact hinv a d ha hget
  · obtain ⟨x, rfl⟩ := hinv.written hforeign hsigner hw ha
    rw [hpost] at hget
    cases hget
    exact ⟨x, rfl⟩
  · exact absurd henv ha.not_environment

theorem accountsHoldAccounts_of_run (hforeign : π.pb.NoForeignOwner)
    {ts : List (Transition (Dict Str B) Label)} (hrun : LedgerRun π tz ts s) :
    AccountsHoldAccounts π s := by
  apply hrun.invariant
  · intro a d _ hget
    cases hget
  · intro e _ hstep hinv
    exact hinv.step hforeign hstep

/-! ## The placement of all records -/

/-- Every entry is a record at an address of its class, or data of the environment. -/
def WellPlaced (π : Platform B) (s : Dict Str B) : Prop :=
  ∀ a d, s.get? a = some d →
    (∃ m : Message, Placed π a m.messageClass ∧ d = π.pb.serialize m) ∨
      (IsEnvironmentAddress a ∧ π.pb.IsEnvironmentData d)

/-- A CLOSE finds an account-type receiver in its swap record. -/
def ClosesToAccount (π : Platform B) (e : Transition (Dict Str B) Label) : Prop :=
  ∀ signer payload u, e.label = .transaction signer (.swapClose payload) u →
    ∀ swap, swapAt π e.pre.get? (swapAddress π payload.swapId) = some swap →
      IsAccountAddress π swap.receiverAddress

/-- Only key records parse with a public key as owner. -/
theorem WellPlaced.isPubKeyAddress (hforeign : π.pb.NoForeignOwner) (hinv : WellPlaced π s)
    {r : PubKeyStorage} (hr : pubKeyAt π s.get? a = some r) (howner : IsPublicKey r.owner) :
    IsPubKeyAddress π a := by
  obtain ⟨d, hget, hparse⟩ := Option.bind_eq_some_iff.mp hr
  rcases hinv a d hget with ⟨m, hplaced, rfl⟩ | ⟨-, hdata⟩
  · cases m with
    | account x => exact absurd howner (hforeign.account x r hparse)
    | genesisStatus x => exact absurd howner (hforeign.genesisStatus x r hparse)
    | atomicSwapInfo x => exact absurd howner (hforeign.atomicSwapInfo x r hparse)
    | pubKeyStorage x => exact hplaced
  · exact absurd howner (hforeign.environment d r hdata hparse)

theorem WellPlaced.written (hforeign : π.pb.NoForeignOwner) (hinv : WellPlaced π s)
    (hsigner : IsPublicKey signer) {m : Message}
    (hclose : ∀ payload swap, op = .swapClose payload →
      swapAt π s.get? (swapAddress π payload.swapId) = some swap →
        IsAccountAddress π swap.receiverAddress)
    (hw : Write π tz s.get? signer op a m) : Placed π a m.messageClass := by
  cases hw with
  | swap hswap => cases hswap <;> exact isSwapAddress_swapAddress π _
  | key hkey =>
      cases hkey with
      | store => exact isPubKeyAddress_pubKeyAddress π _
      | storeAndPay => exact isPubKeyAddress_pubKeyAddress π _
      | revoke hstored howner =>
          apply hinv.isPubKeyAddress hforeign hstored
          rw [howner]
          exact hsigner
  | account haccount =>
      cases haccount with
      | issue => exact isAccountAddress_accountAddress π _
      | debit => exact isAccountAddress_accountAddress π _
      | credit _ hkind =>
          rcases hkind with hkind | ⟨payload, swap, rfl, hswap, rfl⟩
          · exact hkind
          · exact hclose payload swap rfl hswap
      | register => exact isAccountAddress_accountAddress π _
  | genesisStatus => rfl

theorem WellPlaced.step (hforeign : π.pb.NoForeignOwner)
    {e : Transition (Dict Str B) Label} (hstep : Step π tz e.pre e.label e.post)
    (hclose : ClosesToAccount π e) (hinv : WellPlaced π e.pre) : WellPlaced π e.post := by
  intro a d hget
  rcases hstep.entry a with hsame | ⟨signer, op, u, m, hlabel, hsigner, -, hw, hpost⟩ |
    ⟨henv, hdata⟩
  · rw [hsame] at hget
    exact hinv a d hget
  · left
    rw [hpost] at hget
    cases hget
    refine ⟨m, hinv.written hforeign hsigner ?_ hw, rfl⟩
    rintro payload swap rfl hswap
    exact hclose signer payload u hlabel swap hswap
  · exact .inr ⟨henv, hdata d hget⟩

theorem wellPlaced_empty : WellPlaced π Dict.empty := by
  intro a d hget
  cases hget

/-! ## Runs that open swaps towards accounts -/

/-- The placement, and a receiver of the account family in every swap record. -/
structure Sound (π : Platform B) (s : Dict Str B) : Prop where
  placed : WellPlaced π s
  receiver : ∀ a swap, IsSwapAddress π a → swapAt π s.get? a = some swap →
    Family.account.familyPrefix π <+: swap.receiverAddress

theorem Sound.closesToAccount {e : Transition (Dict Str B) Label} (hinv : Sound π e.pre) :
    ClosesToAccount π e := by
  intro signer payload u _ swap hswap
  exact .inl (hinv.receiver _ swap (isSwapAddress_swapAddress π _) hswap)

theorem Sound.write_placed (hforeign : π.pb.NoForeignOwner) (hinv : Sound π s)
    (hsigner : IsPublicKey signer) {m : Message} (hw : Write π tz s.get? signer op a m) :
    Placed π a m.messageClass := by
  apply hinv.placed.written hforeign hsigner _ hw
  rintro payload swap rfl hswap
  exact .inl (hinv.receiver _ swap (isSwapAddress_swapAddress π _) hswap)

/-- A swap address keeps its record, or a transaction writes a new one. -/
theorem Sound.swapAt_step (hforeign : π.pb.NoForeignOwner) (hinv : Sound π s)
    (hstep : Step π tz s l s') (ha : IsSwapAddress π a) :
    swapAt π s'.get? a = swapAt π s.get? a ∨
    ∃ signer op u w, l = .transaction signer op u ∧ SwapWrite π tz s.get? signer op a w ∧
      swapAt π s'.get? a = some w := by
  rcases hstep.entry a with hsame | ⟨signer, op, u, m, hl, hsigner, -, hw, hpost⟩ | ⟨henv, -⟩
  · left
    unfold swapAt
    rw [hsame]
  · right
    have hclass : m.messageClass = .atomicSwapInfo :=
      (hinv.write_placed hforeign hsigner hw).unique ha
    cases hw with
    | @swap _ _ w hswap =>
        refine ⟨signer, op, u, w, hl, hswap, ?_⟩
        unfold swapAt
        rw [hpost]
        exact π.pb.atomicSwapInfo.parse_serialize w
    | key => cases hclass
    | account => cases hclass
    | genesisStatus => cases hclass
  · exact absurd henv ha.not_environment

/-- A key address keeps its record, or a transaction writes a new one. -/
theorem Sound.pubKeyAt_step (hforeign : π.pb.NoForeignOwner) (hinv : Sound π s)
    (hstep : Step π tz s l s') (ha : IsPubKeyAddress π a) :
    pubKeyAt π s'.get? a = pubKeyAt π s.get? a ∨
    ∃ signer op u r, l = .transaction signer op u ∧ u.get? a = some (.pubKeyStorage r) ∧
      KeyWrite π tz s.get? signer op a r ∧ pubKeyAt π s'.get? a = some r := by
  rcases hstep.entry a with hsame | ⟨signer, op, u, m, hl, hsigner, hu, hw, hpost⟩ | ⟨henv, -⟩
  · left
    unfold pubKeyAt
    rw [hsame]
  · right
    have hclass : m.messageClass = .pubKeyStorage :=
      (hinv.write_placed hforeign hsigner hw).unique ha
    cases hw with
    | swap => cases hclass
    | @key _ _ r hkey =>
        refine ⟨signer, op, u, r, hl, hu, hkey, ?_⟩
        unfold pubKeyAt
        rw [hpost]
        exact π.pb.pubKeyStorage.parse_serialize r
    | account => cases hclass
    | genesisStatus => cases hclass
  · exact absurd henv ha.not_environment

/-- An account address keeps its account, or a transaction writes a new one. -/
theorem Sound.accountAt_step (hforeign : π.pb.NoForeignOwner) (hinv : Sound π s)
    (hstep : Step π tz s l s') (ha : IsAccountAddress π a) :
    accountAt π s'.get? a = accountAt π s.get? a ∨
    ∃ signer op u m, l = .transaction signer op u ∧ u.get? a = some (.account m) ∧
      AccountWrite π tz s.get? signer op a m ∧ accountAt π s'.get? a = some m := by
  rcases hstep.entry a with hsame | ⟨signer, op, u, m, hl, hsigner, hu, hw, hpost⟩ | ⟨henv, -⟩
  · left
    unfold accountAt
    rw [hsame]
  · right
    have hclass : m.messageClass = .account :=
      (hinv.write_placed hforeign hsigner hw).unique ha
    cases hw with
    | swap => cases hclass
    | key => cases hclass
    | @account _ _ m haccount =>
        refine ⟨signer, op, u, m, hl, hu, haccount, ?_⟩
        unfold accountAt
        rw [hpost]
        exact π.pb.account.parse_serialize m
    | genesisStatus => cases hclass
  · exact absurd henv ha.not_environment

theorem Sound.step (hforeign : π.pb.NoForeignOwner) (hinv : Sound π s)
    (hreceiver : l.ReceiverIsAccount π) (hstep : Step π tz s l s') : Sound π s' where
  placed := WellPlaced.step (e := ⟨s, l, s'⟩) hforeign hstep hinv.closesToAccount hinv.placed
  receiver := by
    intro a swap ha hswap
    rcases hinv.swapAt_step hforeign hstep ha with hsame | ⟨signer, op, u, w, rfl, hw, hpost⟩
    · rw [hsame] at hswap
      exact hinv.receiver a swap ha hswap
    · rw [hpost] at hswap
      cases hswap
      cases hw with
      | init => exact hreceiver
      | @setLock _ old hold => exact hinv.receiver _ old ha hold
      | @approve _ old hold => exact hinv.receiver _ old ha hold
      | @expire _ old _ hold => exact hinv.receiver _ old ha hold
      | @close _ old hold => exact hinv.receiver _ old ha hold

theorem sound_empty : Sound π Dict.empty where
  placed := wellPlaced_empty
  receiver := by
    intro a swap _ hswap
    cases hswap

section Runs

variable {ts : List (Transition (Dict Str B) Label)} {e : Transition (Dict Str B) Label}

theorem sound_of_run (hforeign : π.pb.NoForeignOwner) (hrun : LedgerRun π tz ts s)
    (hreceiver : ∀ e ∈ ts, e.label.ReceiverIsAccount π) : Sound π s := by
  apply hrun.invariant sound_empty
  intro e he hstep hinv
  exact hinv.step hforeign (hreceiver e he) hstep

theorem sound_pre_of_run (hforeign : π.pb.NoForeignOwner) (hrun : LedgerRun π tz ts s)
    (hreceiver : ∀ e ∈ ts, e.label.ReceiverIsAccount π) (he : e ∈ ts) : Sound π e.pre := by
  apply hrun.invariant_pre sound_empty _ he
  intro e he hstep hinv
  exact hinv.step hforeign (hreceiver e he) hstep

/-! ## The namespaces of a run -/

/-- Every message that a transaction of the run writes is placed, and no two transactions write
messages of different classes at one address. -/
def RespectsNamespaces (π : Platform B) (ts : List (Transition (Dict Str B) Label)) : Prop :=
  (∀ e ∈ ts, ∀ signer op u, e.label = .transaction signer op u →
    ∀ a m, u.get? a = some m → Placed π a m.messageClass) ∧
  (∀ e ∈ ts, ∀ e' ∈ ts, ∀ signer op u signer' op' u', e.label = .transaction signer op u →
    e'.label = .transaction signer' op' u' →
      ∀ a m m', u.get? a = some m → u'.get? a = some m' → m.messageClass = m'.messageClass)

theorem wellPlaced_pre_of_run (hforeign : π.pb.NoForeignOwner) (hrun : LedgerRun π tz ts s)
    (hclose : ∀ e ∈ ts, ClosesToAccount π e) (he : e ∈ ts) : WellPlaced π e.pre := by
  apply hrun.invariant_pre wellPlaced_empty _ he
  intro e he hstep hinv
  exact hinv.step hforeign hstep (hclose e he)

/-- A CLOSE writes an account at the receiver, whatever that address is. -/
theorem close_writes_receiver {payload : AtomicSwapClosePayload} {swap : AtomicSwapInfo}
    (haccepted : (Operation.swapClose payload).apply π tz signer s = .ok u)
    (hswap : swapAt π s.get? (swapAddress π payload.swapId) = some swap) :
    ∃ m, u.get? swap.receiverAddress = some (.account m) := by
  obtain ⟨swap', balance, hswap', -, -, -, -, -, rfl⟩ :=
    swapClose_spec.mp (run_of_apply haccepted)
  rw [hswap] at hswap'
  cases hswap'
  exact ⟨_, Dict.get?_set_self _ _ _⟩

/-- A run respects the namespaces exactly when its closed swaps pay accounts. -/
theorem respectsNamespaces_iff (hforeign : π.pb.NoForeignOwner) (hrun : LedgerRun π tz ts s) :
    RespectsNamespaces π ts ↔ ∀ e ∈ ts, ClosesToAccount π e := by
  constructor
  · rintro ⟨hplaced, -⟩ e he signer payload u hlabel swap hswap
    obtain ⟨-, haccepted, -⟩ := (hlabel ▸ hrun.step_of_mem he).of_transaction
    obtain ⟨m, hm⟩ := close_writes_receiver haccepted hswap
    exact hplaced e he signer _ u hlabel _ _ hm
  · intro hclose
    have hplaced : ∀ e ∈ ts, ∀ signer op u, e.label = .transaction signer op u →
        ∀ a m, u.get? a = some m → Placed π a m.messageClass := by
      intro e he signer op u hlabel a m hm
      obtain ⟨hsigner, haccepted, -⟩ := (hlabel ▸ hrun.step_of_mem he).of_transaction
      have hinv := wellPlaced_pre_of_run hforeign hrun hclose he
      apply hinv.written hforeign hsigner _ (write_of_apply haccepted hm)
      rintro payload swap rfl hswap
      exact hclose e he signer payload u hlabel swap hswap
    refine ⟨hplaced, ?_⟩
    intro e he e' he' signer op u signer' op' u' hlabel hlabel' a m m' hm hm'
    exact (hplaced e he signer op u hlabel a m hm).unique
      (hplaced e' he' signer' op' u' hlabel' a m' hm')

end Runs

/-- The closed swap of the sample script pays an account. -/
theorem respectsNamespaces_swapScript :
    RespectsNamespaces Sample.platform (Sample.transitions Sample.swapScript) := by
  have hrun := Sample.run_of_accepted Sample.swapScript_legal Sample.swapScript_accepted
  refine (respectsNamespaces_iff Sample.noForeignOwner hrun).mpr fun e he => ?_
  exact (sound_pre_of_run Sample.noForeignOwner hrun Sample.swapScript_receivers he).closesToAccount

/-- A swap whose receiver is the address of its own record, opened with a lock and closed. -/
def misplacedScript : List Input :=
  Sample.environment 1548237000 ++
  [.transaction Sample.alice (.genesis { totalSupply := 1000000 }),
   .transaction Sample.alice (.swapInit
     { Sample.initPayload with
       receiverAddress := swapAddress Sample.platform Sample.swapId
       secretLockBySolicitor := Sample.secretLock }),
   .transaction Sample.bot (.swapClose
     { swapId := Sample.swapId, secretKey := Sample.secretKey })]

/-- The message that a step writes at an address. -/
def Label.written (a : Str) : Label → Option Message
  | .transaction _ _ u => u.get? a
  | .environment => none

/-- INIT does not check the receiver, so the CLOSE replaces the swap record by an account. -/
theorem misplacedScript_not_respectsNamespaces :
    LedgerRun Sample.platform Sample.utc (Sample.transitions misplacedScript)
        (Sample.final misplacedScript) ∧
      ¬RespectsNamespaces Sample.platform (Sample.transitions misplacedScript) := by
  have hlegal : ∀ i ∈ misplacedScript, i.IsLegal := by decide +kernel
  have haccepted : (play Sample.platform Sample.utc Dict.empty misplacedScript).isSome = true := by
    decide +kernel
  refine ⟨Sample.run_of_accepted hlegal haccepted, ?_⟩
  rintro ⟨hplaced, -⟩
  have hlast : ((Sample.transitions misplacedScript).getLast?.bind fun e =>
      e.label.written (swapAddress Sample.platform Sample.swapId)) =
        some (.account { balance := 200 }) := by
    decide +kernel
  obtain ⟨e, he, hwritten⟩ := Option.bind_eq_some_iff.mp hlast
  have hmem := List.mem_of_getLast? he
  cases hlabel : e.label with
  | environment =>
      rw [hlabel] at hwritten
      cases hwritten
  | transaction signer op u =>
      rw [hlabel] at hwritten
      have haccount : IsAccountAddress Sample.platform
          (swapAddress Sample.platform Sample.swapId) :=
        hplaced e hmem signer op u hlabel _ _ hwritten
      exact haccount.not_swap (isSwapAddress_swapAddress _ _)

end Remme.Tp
