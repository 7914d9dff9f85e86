import Remme.Tp.Proofs.Conservation
import Remme.Tp.Proofs.PayloadForms
import Remme.Tp.Proofs.SwapRecord
/-!
# Escrow is never stuck

An unresolved swap can always be ended by the party that opened it, where every
swap was opened towards an account: once the latest block is late enough,
EXPIRE passes its form and every check, the credit fits in the balance because
tokens are conserved, and the sender has the amount back.  No other transaction
has to happen first.
-/

namespace Remme.Tp

open Remme.Lib Remme.Protos Remme.Shared Remme.Shared.Forms Remme.Settings
  Remme.Clients.BlockInfo

variable {B : Type} {π : Platform B} {tz : TimeZone} {s s' : Dict Str B} {signer a : Str}
  {op : Operation} {u : Dict Str Message} {l : Label} {w : AtomicSwapInfo}

/-! ## Who opened a swap -/

/-- The sender's address belongs to a public key, and the id passes the form of EXPIRE. -/
def OpenedByKey (π : Platform B) (w : AtomicSwapInfo) : Prop :=
  (∃ signer, IsPublicKey signer ∧ w.senderAddress = accountAddress π signer) ∧
    (Operation.swapExpire { swapId := w.swapId }).FormValid

/-- INIT and EXPIRE check the id of a swap alike. -/
theorem expire_formValid_of_init {payload : AtomicSwapInitPayload}
    (h : (Operation.swapInit payload).apply π tz signer s = .ok u) :
    (Operation.swapExpire { swapId := payload.swapId }).FormValid := by
  obtain ⟨result, hvalidate, hvalid, -⟩ := apply_eq_ok.mp h
  have hfields := (validateFields_iff _).2.mp ⟨result, hvalidate, hvalid⟩
  refine (validateFields_iff [⟨"swap_id", swapIdField, .text payload.swapId⟩]).2.mpr ?_
  intro field hfield
  obtain rfl := List.mem_singleton.mp hfield
  exact hfields ⟨"swap_id", swapIdField, .text payload.swapId⟩ (by simp)

theorem openedByKey_step (hforeign : π.pb.NoForeignOwner) (hsound : Sound π s)
    (hstep : Step π tz s l s') (ha : IsSwapAddress π a)
    (h : ∀ w, swapAt π s.get? a = some w → OpenedByKey π w) :
    ∀ w, swapAt π s'.get? a = some w → OpenedByKey π w := by
  intro w hw
  rcases hsound.swapAt_step hforeign hstep ha with hsame | ⟨signer, op, u, w', rfl, hwrite, hpost⟩
  · exact h w (hsame ▸ hw)
  · rw [hpost, Option.some.injEq] at hw
    subst hw
    obtain ⟨hsigner, haccepted, -⟩ := hstep.of_transaction
    cases hwrite with
    | init => exact ⟨⟨signer, hsigner, rfl⟩, expire_formValid_of_init haccepted⟩
    | @setLock _ old hold => exact h old hold
    | @approve _ old hold => exact h old hold
    | @expire _ old _ hold => exact h old hold
    | @close _ old hold => exact h old hold

theorem openedByKey_of_run (hforeign : π.pb.NoForeignOwner)
    {ts : List (Transition (Dict Str B) Label)} (hrun : LedgerRun π tz ts s)
    (hreceiver : ∀ e ∈ ts, e.label.ReceiverIsAccount π) (ha : IsSwapAddress π a)
    (hw : swapAt π s.get? a = some w) : OpenedByKey π w := by
  have hinit : ∀ w, swapAt π (Dict.empty : Dict Str B).get? a = some w → OpenedByKey π w := by
    intro w hw
    cases hw
  refine hrun.invariant (P := fun s => ∀ w, swapAt π s.get? a = some w → OpenedByKey π w) hinit
    ?_ w hw
  intro e he hstep hinv
  exact openedByKey_step hforeign (sound_pre_of_run hforeign hrun hreceiver he) hstep ha hinv

/-! ## The withdrawal -/

/-- The states differ in the record, which is expired, and in the sender's balance, which has
the amount more. -/
structure Withdrawn (π : Platform B) (a : Str) (w : AtomicSwapInfo) (s s' : Dict Str B) :
    Prop where
  record : swapAt π s'.get? a = some { w with state := .expired }
  balance : balanceAt π s'.get? w.senderAddress =
    balanceAt π s.get? w.senderAddress + w.amount.toNat
  pubKeys : pubKeysAt π s'.get? w.senderAddress = pubKeysAt π s.get? w.senderAddress
  frame : ∀ b, b ≠ a → b ≠ w.senderAddress → ¬IsEnvironmentAddress b → s'.get? b = s.get? b

/-- Where the tokens fit in 64 bits, the sender's EXPIRE is accepted on a late enough block. -/
theorem expire_accepted (htotal : s.total (tokenWeight π) < 2 ^ 64)
    (hw : swapAt π s.get? (swapAddress π w.swapId) = some w)
    (hopen : notPermittedToChange w.state = false)
    (hform : (Operation.swapExpire { swapId := w.swapId }).FormValid)
    (hsender : w.senderAddress = accountAddress π signer) {block : BlockInfo}
    (hblock : latestBlock π s.get? = some block) (htime : Withdrawable tz w block) :
    ∃ u, (Operation.swapExpire { swapId := w.swapId }).apply π tz signer s = .ok u ∧
      Withdrawn π (swapAddress π w.swapId) w s (setState π s u) := by
  have hswap := isSwapAddress_swapAddress π w.swapId
  have haccount := isAccountAddress_accountAddress π signer
  have hne : swapAddress π w.swapId ≠ accountAddress π signer := hswap.ne_account haccount
  have hescrow := add_escrow_le_total haccount hswap hw hopen
  have hfits : balanceAt π s.get? (accountAddress π signer) + w.amount.toNat < 2 ^ 64 := by omega
  obtain ⟨result, hvalidate, hvalid⟩ := hform
  have hbalance : (UInt64.ofNat (balanceAt π s.get? (accountAddress π signer) +
      w.amount.toNat)).toNat = balanceAt π s.get? (accountAddress π signer) + w.amount.toNat :=
    UInt64.toNat_ofNat_of_lt' hfits
  have hrun : (swapExpire π tz signer { swapId := w.swapId }).run s.get? = .ok _ :=
    swapExpire_spec.mpr ⟨w, block, _, hw, hopen, hsender, hblock, htime, hbalance, rfl⟩
  refine ⟨_, apply_eq_ok.mpr ⟨result, hvalidate, hvalid, hrun⟩, ?_⟩
  refine ⟨swapAt_setState_of_some (get?_ofList_fst hne _ _), ?_, ?_, ?_⟩
  · rw [hsender]
    exact (balanceAt_setState_of_some (Dict.get?_set_self _ _ _)).trans hbalance
  · rw [hsender]
    exact congrArg (fun account => (account.getD {}).pubKeys)
      (accountAt_setState_of_some (Dict.get?_set_self _ _ _))
  · intro b hrecord hother _
    rw [hsender] at hother
    apply get?_setState_of_none
    apply Dict.get?_ofList_of_not_mem
    simp [hrecord, hother]

/-! ## A late enough block -/

/-- The block is at least four days younger than the swap, which is the longer lock and a day for
each of two offsets, and not of the calendar's last day. -/
structure IsLate (w : AtomicSwapInfo) (block : BlockInfo) : Prop where
  lower : w.createdAt.toNat + 4 * 86400 ≤ block.timestamp.toNat
  upper : (block.timestamp.toNat : ℤ) + 86400 ≤ maxLocal

theorem withdrawable_late (hoffset : ∀ t, -86400 ≤ tz t ∧ tz t ≤ 86400) {block : BlockInfo}
    (hlate : IsLate w block) : Withdrawable tz w block := by
  have hlower := hlate.lower
  have hupper := hlate.upper
  obtain ⟨hopenLower, hopenUpper⟩ := hoffset w.createdAt.toNat
  obtain ⟨hlateLower, hlateUpper⟩ := hoffset block.timestamp.toNat
  have hlock : timeLock w.isInitiator ≤ 48 := by
    unfold timeLock
    split_ifs <;> decide
  unfold Withdrawable fromtimestamp addTimedelta
  refine ⟨_, _, _, checkedLocal_eq_ok.mpr ⟨rfl, ?_, ?_⟩, checkedLocal_eq_ok.mpr ⟨rfl, ?_, ?_⟩,
    checkedLocal_eq_ok.mpr ⟨rfl, ?_, ?_⟩, ?_⟩
  all_goals
    simp only [minLocal, maxLocal] at *
    omega

/-- The environment with a latest block of the given time. -/
def withLatestBlock (π : Platform B) (s : Dict Str B) (timestamp : UInt64) : Dict Str B :=
  (s.set configAddress (π.pb.serializeEnvironment (.blockInfoConfig { latestBlock := 0 }))).set
    (createBlockAddress 0)
    (π.pb.serializeEnvironment (.blockInfo { blockNum := 0, timestamp := timestamp }))

theorem isEnvironmentAddress_config : IsEnvironmentAddress configAddress := by decide +kernel

theorem isEnvironmentAddress_block : IsEnvironmentAddress (createBlockAddress 0) := by
  decide +kernel

theorem config_ne_block : configAddress ≠ createBlockAddress 0 := by decide +kernel

theorem latestBlock_withLatestBlock (timestamp : UInt64) :
    latestBlock π (withLatestBlock π s timestamp).get? =
      some { blockNum := 0, timestamp := timestamp } := by
  have hconfig : (withLatestBlock π s timestamp).get? configAddress =
      some (π.pb.serializeEnvironment (.blockInfoConfig { latestBlock := 0 })) := by
    unfold withLatestBlock
    rw [Dict.get?_set_of_ne _ _ config_ne_block.symm, Dict.get?_set_self]
  have hblock : (withLatestBlock π s timestamp).get? (createBlockAddress 0) =
      some (π.pb.serializeEnvironment (.blockInfo { blockNum := 0, timestamp := timestamp })) :=
    Dict.get?_set_self _ _ _
  unfold latestBlock
  rw [hconfig]
  simp only [Protobuf.serializeEnvironment, Option.bind_some, Codec.parse_serialize,
    UInt64.toNat_zero, hblock]

theorem get?_withLatestBlock {timestamp : UInt64} (ha : ¬IsEnvironmentAddress a) :
    (withLatestBlock π s timestamp).get? a = s.get? a := by
  have hconfig : configAddress ≠ a := fun h => ha (h ▸ isEnvironmentAddress_config)
  have hblock : createBlockAddress 0 ≠ a := fun h => ha (h ▸ isEnvironmentAddress_block)
  unfold withLatestBlock
  rw [Dict.get?_set_of_ne _ _ hblock, Dict.get?_set_of_ne _ _ hconfig]

theorem environmentChange_withLatestBlock (timestamp : UInt64) :
    EnvironmentChange π s (withLatestBlock π s timestamp) := by
  intro a hne
  have henv : IsEnvironmentAddress a := by
    by_contra ha
    exact hne (get?_withLatestBlock ha)
  refine ⟨henv, fun d hd => ?_⟩
  unfold withLatestBlock at hd hne
  rw [Dict.get?_set] at hd hne
  split_ifs at hd hne with hblock
  · cases hd
    exact ⟨_, rfl⟩
  · rw [Dict.get?_set] at hd hne
    split_ifs at hd hne with hconfig
    · cases hd
      exact ⟨_, rfl⟩
    · exact absurd rfl hne

/-! ## Reachable states -/

theorem Supplied.total_lt {supplies : List UInt64} (h : Supplied π s supplies) :
    s.total (tokenWeight π) < 2 ^ 64 := by
  match supplies, h with
  | [], h =>
      have htotal := h.2
      omega
  | [supply], h =>
      have htotal := h.2
      have hlt := supply.toNat_lt
      omega

/-- Late blocks can come at any time. -/
theorem exists_late_environment (π : Platform B) (s : Dict Str B) (w : AtomicSwapInfo) :
    ∃ s₁ block, EnvironmentChange π s s₁ ∧ latestBlock π s₁.get? = some block ∧
      IsLate w block := by
  have hcreated : w.createdAt.toNat < 2 ^ 32 := w.createdAt.toNat_lt
  have hfits : w.createdAt.toNat + 4 * 86400 < 2 ^ 64 := by omega
  have hlate : (UInt64.ofNat (w.createdAt.toNat + 4 * 86400)).toNat =
      w.createdAt.toNat + 4 * 86400 := UInt64.toNat_ofNat_of_lt' hfits
  refine ⟨_, _, environmentChange_withLatestBlock _, latestBlock_withLatestBlock _, hlate.ge, ?_⟩
  change ((UInt64.ofNat (w.createdAt.toNat + 4 * 86400)).toNat : ℤ) + 86400 ≤ maxLocal
  rw [hlate, maxLocal]
  omega

/-- From every state of a run, an unresolved swap is two steps away from a withdrawal by its
sender: a late enough block, whatever else the environment becomes with it, and an EXPIRE. -/
theorem open_swap_can_be_withdrawn (hforeign : π.pb.NoForeignOwner)
    (hoffset : ∀ t, -86400 ≤ tz t ∧ tz t ≤ 86400) {ts : List (Transition (Dict Str B) Label)}
    (hrun : LedgerRun π tz ts s) (hreceiver : ∀ e ∈ ts, e.label.ReceiverIsAccount π)
    (hpay : ∀ e ∈ ts, e.label.IsNotStoreAndPay) (ha : IsSwapAddress π a)
    (hw : swapAt π s.get? a = some w) (hopen : notPermittedToChange w.state = false) :
    (∃ s₁ block, EnvironmentChange π s s₁ ∧ latestBlock π s₁.get? = some block ∧
      IsLate w block) ∧
    (∃ signer, IsPublicKey signer ∧ w.senderAddress = accountAddress π signer) ∧
    ∀ s₁ block signer, EnvironmentChange π s s₁ → latestBlock π s₁.get? = some block →
      IsLate w block → IsPublicKey signer → w.senderAddress = accountAddress π signer →
      ∃ u s₂,
        Run (Step π tz) s
          [⟨s, .environment, s₁⟩,
           ⟨s₁, .transaction signer (.swapExpire { swapId := w.swapId }) u, s₂⟩] s₂ ∧
        Withdrawn π a w s s₂ := by
  obtain ⟨hsigned, hform⟩ := openedByKey_of_run hforeign hrun hreceiver ha hw
  refine ⟨exists_late_environment π s w, hsigned, ?_⟩
  intro s₁ block signer hchange hblock hlate hsigner hsender
  have haddress := ((swapSound_of_run hforeign hrun hreceiver).coherent a w ha hw).address
  have htotal : s₁.total (tokenWeight π) < 2 ^ 64 := by
    rw [environment_conserves hchange]
    exact (supplied_of_run hforeign hrun hreceiver hpay).total_lt
  have hsame : ∀ {b}, ¬IsEnvironmentAddress b → s₁.get? b = s.get? b := by
    intro b hb
    by_contra hne
    exact hb (hchange b hne).1
  have hsenderEnv : ¬IsEnvironmentAddress w.senderAddress :=
    hsender ▸ (isAccountAddress_accountAddress π signer).not_environment
  have hstored : swapAt π s₁.get? (swapAddress π w.swapId) = some w := by
    unfold swapAt
    rw [hsame (haddress ▸ ha.not_environment), ← haddress]
    exact hw
  obtain ⟨u, haccepted, hwithdrawn⟩ := expire_accepted htotal hstored hopen hform hsender
    hblock (withdrawable_late hoffset hlate)
  refine ⟨u, _, .cons (.environment hchange) (.cons (.transaction hsigner haccepted) .nil), ?_⟩
  rw [← haddress] at hwithdrawn
  refine ⟨hwithdrawn.record, ?_, ?_, ?_⟩
  · rw [hwithdrawn.balance]
    unfold balanceAt accountAt
    rw [hsame hsenderEnv]
  · rw [hwithdrawn.pubKeys]
    unfold pubKeysAt accountAt
    rw [hsame hsenderEnv]
  · intro b hrecord hother henv
    rw [hwithdrawn.frame b hrecord hother henv]
    exact hsame henv

/-! ## The sample swap, just opened -/

def openedScript : List Input := Sample.swapScript.take 5

theorem openedScript_legal : ∀ i ∈ openedScript, i.IsLegal :=
  fun i hi => Sample.swapScript_legal i (List.mem_of_mem_take hi)

theorem openedScript_accepted :
    (play Sample.platform Sample.utc Dict.empty openedScript).isSome = true := by
  decide +kernel

theorem openedScript_labels {P : Label → Prop} (henvironment : P .environment)
    (hgenesis : ∀ payload u, P (.transaction Sample.alice (.genesis payload) u))
    (hinit : ∀ u, P (.transaction Sample.alice (.swapInit Sample.initPayload) u)) :
    ∀ e ∈ Sample.transitions openedScript, P e.label := by
  apply label_of_play (Sample.play_eq_transitions openedScript_accepted) henvironment
  intro signer op hmem u
  have hop : (signer = Sample.alice ∧ op = .genesis { totalSupply := 1000000 }) ∨
      (signer = Sample.alice ∧ op = .swapInit Sample.initPayload) := by
    simpa [openedScript, Sample.swapScript, Sample.environment] using hmem
  rcases hop with ⟨rfl, rfl⟩ | ⟨rfl, rfl⟩
  · exact hgenesis _ u
  · exact hinit u

theorem sample_swap_can_be_withdrawn :
    ∃ w signer s₁ u s₂, swapAt Sample.platform (Sample.final openedScript).get?
        (swapAddress Sample.platform Sample.swapId) = some w ∧
      w.senderAddress = accountAddress Sample.platform signer ∧
      Run (Step Sample.platform Sample.utc) (Sample.final openedScript)
        [⟨Sample.final openedScript, .environment, s₁⟩,
         ⟨s₁, .transaction signer (.swapExpire { swapId := w.swapId }) u, s₂⟩] s₂ ∧
      Withdrawn Sample.platform (swapAddress Sample.platform Sample.swapId) w
        (Sample.final openedScript) s₂ := by
  have hstate : (swapAt Sample.platform (Sample.final openedScript).get?
      (swapAddress Sample.platform Sample.swapId)).map (·.state) = some .opened := by
    decide +kernel
  obtain ⟨w, hw, hopened⟩ := Option.map_eq_some_iff.mp hstate
  obtain ⟨⟨s₁, block, hchange, hblock, hlate⟩, ⟨signer, hsigner, hsender⟩, hwithdraw⟩ :=
    open_swap_can_be_withdrawn Sample.noForeignOwner (by simp)
      (Sample.run_of_accepted openedScript_legal openedScript_accepted)
      (openedScript_labels trivial (fun _ _ => trivial)
        fun _ => familyPrefix_isPrefix_address Sample.platform _ _)
      (openedScript_labels trivial (fun _ _ => id) fun _ => id)
      (isSwapAddress_swapAddress _ _) hw (by rw [hopened]; rfl)
  obtain ⟨u, s₂, hrun, hwithdrawn⟩ :=
    hwithdraw s₁ block signer hchange hblock hlate hsigner hsender
  exact ⟨w, signer, s₁, u, s₂, hw, hsender, hrun, hwithdrawn⟩

end Remme.Tp
