import Remme.Tp.Proofs.SwapRecord
import Mathlib.Data.Set.Function
/-!
# Every swap pays out at most once

The history of one swap: what every later transaction can do once an INIT for an
id was accepted.  The record of the INIT stays at its address with its terms, so
every payout is for the opened amount and to the opened parties; a payout makes
the record final, so there is no second one.
-/

namespace Remme.Tp

open Remme.Lib Remme.Protos Remme.Shared Remme.Settings

variable {B : Type} {π : Platform B} {tz : TimeZone} {s s' : Dict Str B} {signer a : Str}
  {op : Operation} {u : Dict Str Message} {l : Label} {w w' : AtomicSwapInfo}

/-! ## Swap operations -/

/-- The swap that an operation names. -/
def Operation.swapId? : Operation → Option Str
  | .swapInit payload => some payload.swapId
  | .swapApprove payload => some payload.swapId
  | .swapExpire payload => some payload.swapId
  | .swapSetLock payload => some payload.swapId
  | .swapClose payload => some payload.swapId
  | _ => none

/-- CLOSE and EXPIRE are the operations that release the amount. -/
def Operation.IsPayout : Operation → Prop
  | .swapClose _ => True
  | .swapExpire _ => True
  | _ => False

/-- The step applies a payout of the swap. -/
def PaysOut (swapId : Str) (e : Transition (Dict Str B) Label) : Prop :=
  ∃ signer op u, e.label = .transaction signer op u ∧ op.swapId? = some swapId ∧ op.IsPayout

/-- The step adds the amount to one account and changes no other. -/
structure Credits (π : Platform B) (s s' : Dict Str B) (receiver : Str) (amount : ℕ) : Prop where
  credited : balanceAt π s'.get? receiver = balanceAt π s.get? receiver + amount
  others : ∀ a, IsAccountAddress π a → a ≠ receiver →
    balanceAt π s'.get? a = balanceAt π s.get? a

/-- No two signers of the run share an account address and no two of its swaps an address. -/
structure CollisionFree (π : Platform B) (ts : List (Transition (Dict Str B) Label)) : Prop where
  signers : Set.InjOn (accountAddress π) {k | ∃ e ∈ ts, ∃ op u, e.label = .transaction k op u}
  swapIds : Set.InjOn (swapAddress π)
    {i | ∃ e ∈ ts, ∃ k op u, e.label = .transaction k op u ∧ op.swapId? = some i}

/-! ## Payouts -/

/-- The two writes of a payout: the record at its address, the account at another one. -/
theorem payout_effect {x receiver : Str} {m : Account} {balance : UInt64} {amount : ℕ}
    (hu : u = .ofList [(x, .atomicSwapInfo w), (receiver, .account { m with balance := balance })])
    (hx : IsSwapAddress π x) (hreceiver : IsAccountAddress π receiver)
    (hbalance : balance.toNat = balanceAt π s.get? receiver + amount) :
    Credits π s (setState π s u) receiver amount ∧
      swapAt π (setState π s u).get? x = some w := by
  have hne : x ≠ receiver := hx.ne_account hreceiver
  have hget : ∀ a, u.get? a = Dict.lookup a
      [(x, .atomicSwapInfo w), (receiver, .account { m with balance := balance })] := by
    intro a
    rw [hu]
    apply Dict.get?_ofList
    simp [hne]
  refine ⟨⟨?_, ?_⟩, ?_⟩
  · rw [← hbalance]
    apply balanceAt_setState_of_some (m := { m with balance := balance })
    rw [hget]
    simp [Dict.lookup, hne]
  · intro a ha hother
    apply balanceAt_setState_of_none
    rw [hget]
    simp [Dict.lookup, hx.ne_account ha, hother.symm]
  · apply swapAt_setState_of_some
    rw [hget]
    simp [Dict.lookup]

theorem Sound.accepted_close (hinv : Sound π s) {payload : AtomicSwapClosePayload}
    (hstep : Step π tz s (.transaction signer (.swapClose payload) u) s') :
    ∃ w, swapAt π s.get? (swapAddress π payload.swapId) = some w ∧
      notPermittedToChange w.state = false ∧ w.secretLock ≠ [] ∧
      web3Hash π payload.secretKey = .ok w.secretLock ∧
      (w.isInitiator = true → w.state = .approved) ∧
      Credits π s s' w.receiverAddress w.amount.toNat ∧
      ∃ w', swapAt π s'.get? (swapAddress π payload.swapId) = some w' ∧
        notPermittedToChange w'.state = true := by
  obtain ⟨-, haccepted, rfl⟩ := hstep.of_transaction
  obtain ⟨w, balance, hswap, hopen, hlock, hhash, happroved, hbalance, hu⟩ :=
    swapClose_spec.mp (run_of_apply haccepted)
  have hreceiver : IsAccountAddress π w.receiverAddress :=
    .inl (hinv.receiver _ w (isSwapAddress_swapAddress π _) hswap)
  obtain ⟨hcredits, hpost⟩ := payout_effect hu (isSwapAddress_swapAddress π payload.swapId)
    hreceiver hbalance
  exact ⟨w, hswap, hopen, hlock, hhash, happroved, hcredits, _, hpost, rfl⟩

theorem accepted_expire {payload : AtomicSwapExpirePayload}
    (hstep : Step π tz s (.transaction signer (.swapExpire payload) u) s') :
    ∃ w block, swapAt π s.get? (swapAddress π payload.swapId) = some w ∧
      notPermittedToChange w.state = false ∧ w.senderAddress = accountAddress π signer ∧
      latestBlock π s.get? = some block ∧ Withdrawable tz w block ∧
      Credits π s s' (accountAddress π signer) w.amount.toNat ∧
      ∃ w', swapAt π s'.get? (swapAddress π payload.swapId) = some w' ∧
        notPermittedToChange w'.state = true := by
  obtain ⟨-, haccepted, rfl⟩ := hstep.of_transaction
  obtain ⟨w, block, balance, hswap, hopen, hsender, hblock, htime, hbalance, hu⟩ :=
    swapExpire_spec.mp (run_of_apply haccepted)
  obtain ⟨hcredits, hpost⟩ := payout_effect hu (isSwapAddress_swapAddress π payload.swapId)
    (isAccountAddress_accountAddress π signer) hbalance
  exact ⟨w, block, hswap, hopen, hsender, hblock, htime, hcredits, _, hpost, rfl⟩

/-! ## The record after its INIT -/

variable {A : Str} {p₀ : AtomicSwapInitPayload} {createdAt : UInt32}
  {xs ys es : List (Transition (Dict Str B) Label)} {e e₀ : Transition (Dict Str B) Label}

/-- The step is an APPROVE of the swap at `a` by the holder of `A`'s account, and finds `lock` in
the record. -/
def Approves (π : Platform B) (A a lock : Str) (e : Transition (Dict Str B) Label) : Prop :=
  ∃ signer payload u w, e.label = .transaction signer (.swapApprove payload) u ∧
    swapAddress π payload.swapId = a ∧ accountAddress π signer = accountAddress π A ∧
    swapAt π e.pre.get? a = some w ∧ w.secretLock = lock

/-- The record opened at `a` is still there with its terms, and if it is approved, then the
history holds the approval of its lock. -/
def Tracked (π : Platform B) (A : Str) (p₀ : AtomicSwapInitPayload) (createdAt : UInt32) (a : Str)
    (xs : List (Transition (Dict Str B) Label)) (s : Dict Str B) : Prop :=
  ∃ w, swapAt π s.get? a = some w ∧ swapTerms w = swapTerms (openedSwap π A p₀ createdAt) ∧
    (w.state = .approved → ∃ e ∈ xs, Approves π A a w.secretLock e)

theorem Tracked.step (hforeign : π.pb.NoForeignOwner) (hinv : Sound π e.pre)
    (hstep : Step π tz e.pre e.label e.post) (ha : IsSwapAddress π a)
    (h : Tracked π A p₀ createdAt a xs e.pre) :
    Tracked π A p₀ createdAt a (xs ++ [e]) e.post := by
  obtain ⟨w, hw, hterms, happroved⟩ := h
  rcases hinv.swapAt_step hforeign hstep ha with hsame | ⟨signer, op, u, w', hl, hwrite, hpost⟩
  · refine ⟨w, hsame.trans hw, hterms, fun hstate => ?_⟩
    obtain ⟨e', he', happroves⟩ := happroved hstate
    exact ⟨e', by simp [he'], happroves⟩
  · cases hwrite with
    | init hfree =>
        rw [hw] at hfree
        cases hfree
    | setLock hold =>
        rw [hw] at hold
        cases hold
        exact ⟨_, hpost, hterms, fun hstate => by cases hstate⟩
    | @approve payload _ hold _ _ hsender _ =>
        rw [hw] at hold
        cases hold
        refine ⟨_, hpost, hterms, fun _ => ⟨e, by simp, ?_⟩⟩
        have hA : w.senderAddress = accountAddress π A := congrArg (·.senderAddress) hterms
        exact ⟨signer, payload, u, w, hl, rfl, hsender.symm.trans hA, hw, rfl⟩
    | expire hold =>
        rw [hw] at hold
        cases hold
        exact ⟨_, hpost, hterms, fun hstate => by cases hstate⟩
    | close hold =>
        rw [hw] at hold
        cases hold
        exact ⟨_, hpost, hterms, fun hstate => by cases hstate⟩

/-- Right after the INIT. -/
theorem tracked_init {u₀ : Dict Str Message}
    (hstep : Step π tz s (.transaction A (.swapInit p₀) u₀) s') :
    ∃ createdAt, Tracked π A p₀ createdAt (swapAddress π p₀.swapId) [] s' := by
  obtain ⟨-, haccepted, rfl⟩ := hstep.of_transaction
  obtain ⟨-, block, createdAt, c, debited, credited, -, -, -, -, -, -, rfl⟩ :=
    swapInit_spec.mp (run_of_apply haccepted)
  have hws : swapAddress π p₀.swapId ≠ accountAddress π A :=
    (isSwapAddress_swapAddress π _).ne_account (isAccountAddress_accountAddress π _)
  have hwz : swapAddress π p₀.swapId ≠ zeroAddress :=
    (isSwapAddress_swapAddress π _).ne_account (isAccountAddress_zeroAddress π)
  have hsz : accountAddress π A ≠ zeroAddress := accountAddress_ne_zeroAddress A
  refine ⟨createdAt, openedSwap π A p₀ createdAt, ?_, rfl, fun hstate => by cases hstate⟩
  apply swapAt_setState_of_some
  rw [Dict.get?_ofList (by simp [hws, hwz, hsz])]
  simp [Dict.lookup]

/-- The record is final. -/
def IsFinal (π : Platform B) (a : Str) (s : Dict Str B) : Prop :=
  ∃ w, swapAt π s.get? a = some w ∧ notPermittedToChange w.state = true

theorem IsFinal.step (hforeign : π.pb.NoForeignOwner) (hinv : Sound π s)
    (hstep : Step π tz s l s') (ha : IsSwapAddress π a) (h : IsFinal π a s) : IsFinal π a s' := by
  obtain ⟨w, hw, hfinal⟩ := h
  have hclash : ∀ {w'}, swapAt π s.get? a = some w' →
      notPermittedToChange w'.state = false → False := by
    intro w' hw' hopen
    rw [hw] at hw'
    cases hw'
    rw [hfinal] at hopen
    cases hopen
  rcases hinv.swapAt_step hforeign hstep ha with hsame | ⟨signer, op, u, w', -, hwrite, -⟩
  · exact ⟨w, hsame.trans hw, hfinal⟩
  · exfalso
    cases hwrite with
    | init hfree =>
        rw [hw] at hfree
        cases hfree
    | setLock hold hopen => exact hclash hold hopen
    | approve hold hstate => exact hclash hold (by rw [hstate]; rfl)
    | expire hold hopen => exact hclash hold hopen
    | close hold hopen => exact hclash hold hopen

/-- A payout finds a record that is not final and leaves a final one. -/
theorem Sound.payout_final (hinv : Sound π e.pre) (hstep : Step π tz e.pre e.label e.post)
    {swapId : Str} (hpays : PaysOut swapId e) :
    ¬IsFinal π (swapAddress π swapId) e.pre ∧ IsFinal π (swapAddress π swapId) e.post := by
  obtain ⟨signer, op, u, hl, hid, hpayout⟩ := hpays
  rw [hl] at hstep
  have hnot : ∀ {w}, swapAt π e.pre.get? (swapAddress π swapId) = some w →
      notPermittedToChange w.state = false → ¬IsFinal π (swapAddress π swapId) e.pre := by
    rintro w hw hopen ⟨w', hw', hfinal⟩
    rw [hw] at hw'
    cases hw'
    rw [hopen] at hfinal
    cases hfinal
  cases op with
  | swapClose payload =>
      cases hid
      obtain ⟨w, hw, hopen, -, -, -, -, hpost⟩ := hinv.accepted_close hstep
      exact ⟨hnot hw hopen, hpost⟩
  | swapExpire payload =>
      cases hid
      obtain ⟨w, block, hw, hopen, -, -, -, -, hpost⟩ := accepted_expire hstep
      exact ⟨hnot hw hopen, hpost⟩
  | _ => cases hpayout

/-! ## The history of one swap -/

/-- The seconds that the opener waits for a withdrawal. -/
def withdrawalDelay (p₀ : AtomicSwapInitPayload) : ℕ :=
  if p₀.secretLockBySolicitor = [] then 86400 else 172800

/-- What the transitions `es` after an accepted INIT `p₀` by `A` can do for its swap. -/
structure SwapHistory (π : Platform B) (A : Str) (p₀ : AtomicSwapInitPayload)
    (es : List (Transition (Dict Str B) Label)) : Prop where
  /-- INIT with the id is never accepted again. -/
  notReopened : ∀ e ∈ es, ∀ signer payload u,
    e.label = .transaction signer (.swapInit payload) u → payload.swapId ≠ p₀.swapId
  /-- At most one CLOSE or EXPIRE is accepted. -/
  paidOnce : ∀ xs e ys, es = xs ++ e :: ys → PaysOut p₀.swapId e →
    ∀ e' ∈ ys, ¬PaysOut p₀.swapId e'
  /-- A CLOSE pays the receiver against the key of the stored lock, which the opener approved
  if it was not there from the start. -/
  close : ∀ xs e ys signer payload u, es = xs ++ e :: ys →
    e.label = .transaction signer (.swapClose payload) u → payload.swapId = p₀.swapId →
      Credits π e.pre e.post p₀.receiverAddress p₀.amount.toNat ∧
      ∃ w, swapAt π e.pre.get? (swapAddress π p₀.swapId) = some w ∧ w.secretLock ≠ [] ∧
        web3Hash π payload.secretKey = .ok w.secretLock ∧
        (p₀.secretLockBySolicitor = [] → ∃ e' ∈ xs, ∃ payload' u' w',
          e'.label = .transaction A (.swapApprove payload') u' ∧ payload'.swapId = p₀.swapId ∧
          swapAt π e'.pre.get? (swapAddress π p₀.swapId) = some w' ∧
          w'.secretLock = w.secretLock)
  /-- An EXPIRE by the opener returns the amount, after the delay. -/
  expire : ∀ e ∈ es, ∀ signer payload u,
    e.label = .transaction signer (.swapExpire payload) u → payload.swapId = p₀.swapId →
      signer = A ∧ Credits π e.pre e.post (accountAddress π A) p₀.amount.toNat ∧
      ∃ w block, swapAt π e.pre.get? (swapAddress π p₀.swapId) = some w ∧
        latestBlock π e.pre.get? = some block ∧
        w.createdAt.toNat + withdrawalDelay p₀ ≤ block.timestamp.toNat
  /-- The other transactions for the swap change no balance. -/
  others : ∀ e ∈ es, ∀ signer op u, e.label = .transaction signer op u →
    op.swapId? = some p₀.swapId → ¬op.IsPayout →
      ∀ a, IsAccountAddress π a → balanceAt π e.post.get? a = balanceAt π e.pre.get? a

theorem Withdrawable.delay {off : ℤ} {block : BlockInfo}
    (h : Withdrawable (fun _ => off) w block) :
    w.createdAt.toNat + timeLock w.isInitiator * 3600 ≤ block.timestamp.toNat := by
  obtain ⟨blockTime, created, deadline, hblock, hcreated, hdeadline, hle⟩ := h
  obtain ⟨rfl, -⟩ := checkedLocal_eq_ok.mp hblock
  obtain ⟨rfl, -⟩ := checkedLocal_eq_ok.mp hcreated
  obtain ⟨rfl, -⟩ := checkedLocal_eq_ok.mp hdeadline
  simp only at hle
  omega

theorem timeLock_eq_withdrawalDelay
    (hterms : swapTerms w = swapTerms (openedSwap π A p₀ createdAt)) :
    timeLock w.isInitiator * 3600 = withdrawalDelay p₀ := by
  have hrole : w.isInitiator = p₀.secretLockBySolicitor.isEmpty :=
    congrArg (·.isInitiator) hterms
  rw [hrole]
  unfold withdrawalDelay timeLock initiatorTimeLock nonInitiatorTimeLock
  cases p₀.secretLockBySolicitor with
  | nil => simp
  | cons c cs => simp

/-- Operations on a swap that pay nothing out write only the record. -/
theorem balance_of_not_payout {swapId : Str}
    (hstep : Step π tz s (.transaction signer op u) s') (hid : op.swapId? = some swapId)
    (hinit : ∀ payload, op ≠ .swapInit payload) (hpayout : ¬op.IsPayout)
    (ha : IsAccountAddress π a) : balanceAt π s'.get? a = balanceAt π s.get? a := by
  obtain ⟨-, haccepted, rfl⟩ := hstep.of_transaction
  have hrun := run_of_apply haccepted
  have hne : ∀ swapId, a ≠ swapAddress π swapId := fun swapId =>
    ((isSwapAddress_swapAddress π swapId).ne_account ha).symm
  apply balanceAt_setState_of_none
  cases op with
  | swapInit payload => exact absurd rfl (hinit payload)
  | swapApprove payload =>
      obtain ⟨w, -, -, -, -, -, rfl⟩ := swapApprove_spec.mp hrun
      exact Dict.get?_ofList_of_not_mem (by simp [hne])
  | swapSetLock payload =>
      obtain ⟨w, -, -, -, rfl⟩ := swapSetLock_spec.mp hrun
      exact Dict.get?_ofList_of_not_mem (by simp [hne])
  | swapClose payload => exact absurd trivial hpayout
  | swapExpire payload => exact absurd trivial hpayout
  | _ => cases hid

/-! ## After the INIT -/

/-- The transitions `es` come after an accepted INIT `p₀` by `A`: the record is tracked through
all of them, and no other key or swap id of theirs has the addresses of `A` and of the swap. -/
structure AfterInit (π : Platform B) (tz : TimeZone) (A : Str) (p₀ : AtomicSwapInitPayload)
    (createdAt : UInt32) (es : List (Transition (Dict Str B) Label)) : Prop where
  run : ∃ s s', Run (Step π tz) s es s'
  sound : ∀ e ∈ es, Sound π e.pre
  tracked : ∀ ys e zs, es = ys ++ e :: zs →
    Tracked π A p₀ createdAt (swapAddress π p₀.swapId) ys e.pre
  signer : ∀ e ∈ es, ∀ signer op u, e.label = .transaction signer op u →
    accountAddress π signer = accountAddress π A → signer = A
  swapId : ∀ e ∈ es, ∀ signer op u i, e.label = .transaction signer op u →
    op.swapId? = some i → swapAddress π i = swapAddress π p₀.swapId → i = p₀.swapId

namespace AfterInit

theorem step (h : AfterInit π tz A p₀ createdAt es) (he : e ∈ es) :
    Step π tz e.pre e.label e.post := by
  obtain ⟨s, s', hrun⟩ := h.run
  exact hrun.step_of_mem he

/-- The record stays at its address, with the terms of the INIT. -/
theorem record (h : AfterInit π tz A p₀ createdAt es) (he : e ∈ es) :
    ∃ w, swapAt π e.pre.get? (swapAddress π p₀.swapId) = some w ∧
      swapTerms w = swapTerms (openedSwap π A p₀ createdAt) := by
  obtain ⟨ys, zs, heq⟩ := List.append_of_mem he
  obtain ⟨w, hw, hterms, -⟩ := h.tracked ys e zs heq
  exact ⟨w, hw, hterms⟩

theorem terms (h : AfterInit π tz A p₀ createdAt es) (he : e ∈ es)
    (hw : swapAt π e.pre.get? (swapAddress π p₀.swapId) = some w) :
    swapTerms w = swapTerms (openedSwap π A p₀ createdAt) := by
  obtain ⟨w', hw', hterms⟩ := h.record he
  rw [hw] at hw'
  cases hw'
  exact hterms

theorem not_reopened (h : AfterInit π tz A p₀ createdAt es) (he : e ∈ es)
    {payload : AtomicSwapInitPayload} (hl : e.label = .transaction signer (.swapInit payload) u) :
    payload.swapId ≠ p₀.swapId := by
  intro hid
  obtain ⟨w, hw, -⟩ := h.record he
  obtain ⟨-, haccepted, -⟩ := (hl ▸ h.step he).of_transaction
  obtain ⟨hfree, -⟩ := swapInit_spec.mp (run_of_apply haccepted)
  rw [hid, hw] at hfree
  cases hfree

/-- A payout leaves a final record, final records stay final, and no payout finds one. -/
theorem paid_once (hforeign : π.pb.NoForeignOwner)
    (h : AfterInit π tz A p₀ createdAt (xs ++ e :: ys)) (hpays : PaysOut p₀.swapId e)
    {e' : Transition (Dict Str B) Label} (he' : e' ∈ ys) : ¬PaysOut p₀.swapId e' := by
  intro hpays'
  obtain ⟨s, s', hrun⟩ := h.run
  obtain ⟨-, hstep, hlast⟩ := hrun.split
  obtain ⟨-, hfinal⟩ := (h.sound e (by simp)).payout_final hstep hpays
  have hstay : IsFinal π (swapAddress π p₀.swapId) e'.pre := by
    apply hlast.invariant_pre hfinal _ he'
    intro f hf hfstep hfinal
    exact hfinal.step hforeign (h.sound f (by simp [hf])) hfstep (isSwapAddress_swapAddress π _)
  exact ((h.sound e' (by simp [he'])).payout_final (hlast.step_of_mem he') hpays').1 hstay

/-- An approved record was approved by `A`, with the lock that it has now. -/
theorem approved (h : AfterInit π tz A p₀ createdAt (xs ++ e :: ys))
    (hw : swapAt π e.pre.get? (swapAddress π p₀.swapId) = some w) (hstate : w.state = .approved) :
    ∃ e' ∈ xs, ∃ payload u w', e'.label = .transaction A (.swapApprove payload) u ∧
      payload.swapId = p₀.swapId ∧
      swapAt π e'.pre.get? (swapAddress π p₀.swapId) = some w' ∧
      w'.secretLock = w.secretLock := by
  obtain ⟨v, hv, -, happroves⟩ := h.tracked xs e ys rfl
  rw [hw] at hv
  cases hv
  obtain ⟨e', he', signer, payload, u, w', hl, haddress, haccount, hw', hlock⟩ :=
    happroves hstate
  have hmem : e' ∈ xs ++ e :: ys := by simp [he']
  obtain rfl := h.signer e' hmem signer _ _ hl haccount
  exact ⟨e', he', payload, u, w', hl, h.swapId e' hmem _ _ _ _ hl rfl haddress, hw', hlock⟩

theorem close (h : AfterInit π tz A p₀ createdAt (xs ++ e :: ys))
    {payload : AtomicSwapClosePayload} (hl : e.label = .transaction signer (.swapClose payload) u)
    (hid : payload.swapId = p₀.swapId) :
    Credits π e.pre e.post p₀.receiverAddress p₀.amount.toNat ∧
    ∃ w, swapAt π e.pre.get? (swapAddress π p₀.swapId) = some w ∧ w.secretLock ≠ [] ∧
      web3Hash π payload.secretKey = .ok w.secretLock ∧
      (p₀.secretLockBySolicitor = [] → w.state = .approved) := by
  have he : e ∈ xs ++ e :: ys := by simp
  obtain ⟨w, hw, -, hlock, hhash, happroved, hcredits, -⟩ :=
    (h.sound e he).accepted_close (hl ▸ h.step he)
  rw [hid] at hw
  have hterms := h.terms he hw
  have hto : w.receiverAddress = p₀.receiverAddress := congrArg (·.receiverAddress) hterms
  have hamount : w.amount = p₀.amount := congrArg (·.amount) hterms
  have hrole : w.isInitiator = p₀.secretLockBySolicitor.isEmpty :=
    congrArg (·.isInitiator) hterms
  rw [hto, hamount] at hcredits
  refine ⟨hcredits, w, hw, hlock, hhash, fun hempty => happroved ?_⟩
  rw [hrole, hempty]
  rfl

theorem expire {off : ℤ} (h : AfterInit π (fun _ => off) A p₀ createdAt es) (he : e ∈ es)
    {payload : AtomicSwapExpirePayload}
    (hl : e.label = .transaction signer (.swapExpire payload) u)
    (hid : payload.swapId = p₀.swapId) :
    signer = A ∧ Credits π e.pre e.post (accountAddress π A) p₀.amount.toNat ∧
    ∃ w block, swapAt π e.pre.get? (swapAddress π p₀.swapId) = some w ∧
      latestBlock π e.pre.get? = some block ∧
      w.createdAt.toNat + withdrawalDelay p₀ ≤ block.timestamp.toNat := by
  obtain ⟨w, block, hw, -, hsender, hblock, htime, hcredits, -⟩ :=
    accepted_expire (hl ▸ h.step he)
  rw [hid] at hw
  have hterms := h.terms he hw
  have hA : w.senderAddress = accountAddress π A := congrArg (·.senderAddress) hterms
  have hamount : w.amount = p₀.amount := congrArg (·.amount) hterms
  obtain rfl := h.signer e he signer _ _ hl (hsender.symm.trans hA)
  rw [hamount] at hcredits
  have hdelay := htime.delay
  rw [timeLock_eq_withdrawalDelay hterms] at hdelay
  exact ⟨rfl, hcredits, w, block, hw, hblock, hdelay⟩

end AfterInit

/-- The facts that the whole run gives about the transitions after an INIT. -/
theorem afterInit_of_run (hforeign : π.pb.NoForeignOwner) {u₀ : Dict Str Message}
    (hrun : LedgerRun π tz (xs ++ e₀ :: es) s)
    (hreceiver : ∀ e ∈ xs ++ e₀ :: es, e.label.ReceiverIsAccount π)
    (hcollision : CollisionFree π (xs ++ e₀ :: es))
    (hinit : e₀.label = .transaction A (.swapInit p₀) u₀) :
    ∃ createdAt, AfterInit π tz A p₀ createdAt es := by
  have hsound : ∀ e ∈ es, Sound π e.pre := fun e he =>
    sound_pre_of_run hforeign hrun hreceiver (by simp [he])
  obtain ⟨-, hfirst, hrest⟩ := hrun.split
  obtain ⟨createdAt, hopened⟩ := tracked_init (hinit ▸ hfirst)
  exact
    ⟨createdAt,
      { run := ⟨_, _, hrest⟩
        sound := hsound
        tracked := by
          rintro ys e zs rfl
          apply hrest.history_pre hopened
          intro ys' e' zs' heq hstep htracked
          exact htracked.step hforeign (hsound e' (by rw [heq]; simp)) hstep
            (isSwapAddress_swapAddress π p₀.swapId)
        signer := by
          intro e he signer op u hl haddress
          exact hcollision.signers ⟨e, by simp [he], op, u, hl⟩
            ⟨e₀, by simp, _, _, hinit⟩ haddress
        swapId := by
          intro e he signer op u i hl hi haddress
          exact hcollision.swapIds ⟨e, by simp [he], signer, op, u, hl, hi⟩
            ⟨e₀, by simp, A, _, _, hinit, rfl⟩ haddress }⟩

/-- On a node with a constant UTC offset, every accepted INIT is followed by a history that
pays its swap out at most once, to the right party, under the right guard. -/
theorem swap_pays_once (hforeign : π.pb.NoForeignOwner) {off : ℤ} {u₀ : Dict Str Message}
    (hrun : LedgerRun π (fun _ => off) (xs ++ e₀ :: es) s)
    (hreceiver : ∀ e ∈ xs ++ e₀ :: es, e.label.ReceiverIsAccount π)
    (hcollision : CollisionFree π (xs ++ e₀ :: es))
    (hinit : e₀.label = .transaction A (.swapInit p₀) u₀) : SwapHistory π A p₀ es := by
  obtain ⟨createdAt, h⟩ := afterInit_of_run hforeign hrun hreceiver hcollision hinit
  exact
    { notReopened := by
        intro e he signer payload u hl
        exact h.not_reopened he hl
      paidOnce := by
        rintro ys e zs rfl hpays e' he'
        exact h.paid_once hforeign hpays he'
      close := by
        rintro ys e zs signer payload u rfl hl hid
        obtain ⟨hcredits, w, hw, hlock, hhash, happroved⟩ := h.close hl hid
        exact ⟨hcredits, w, hw, hlock, hhash, fun hempty => h.approved hw (happroved hempty)⟩
      expire := by
        intro e he signer payload u hl hid
        exact h.expire he hl hid
      others := by
        intro e he signer op u hl hid hpayout a ha
        apply balance_of_not_payout (hl ▸ h.step he) hid _ hpayout ha
        rintro payload rfl
        exact h.not_reopened he hl (Option.some.inj hid) }

theorem swapScript_collisionFree :
    CollisionFree Sample.platform (Sample.transitions Sample.swapScript) := by
  have hplay := Sample.play_eq_transitions Sample.swapScript_accepted
  have hsigner : ∀ e ∈ Sample.transitions Sample.swapScript, ∀ k op u,
      e.label = .transaction k op u → k = Sample.alice ∨ k = Sample.bot := by
    apply label_of_play (P := fun l => ∀ k op u, l = .transaction k op u →
      k = Sample.alice ∨ k = Sample.bot) hplay
    · intro k op u hl
      cases hl
    · intro signer op hmem u k op' u' hl
      cases hl
      rcases Sample.mem_swapScript hmem with ⟨rfl, -⟩ | ⟨rfl, -⟩ | ⟨rfl, -⟩ | ⟨rfl, -⟩ | ⟨rfl, -⟩
      all_goals simp
  have hswapId : ∀ e ∈ Sample.transitions Sample.swapScript, ∀ k op u i,
      e.label = .transaction k op u → op.swapId? = some i → i = Sample.swapId := by
    apply label_of_play (P := fun l => ∀ k op u i, l = .transaction k op u →
      op.swapId? = some i → i = Sample.swapId) hplay
    · intro k op u i hl
      cases hl
    · intro signer op hmem u k op' u' i hl hi
      cases hl
      rcases Sample.mem_swapScript hmem with ⟨-, rfl⟩ | ⟨-, rfl⟩ | ⟨-, rfl⟩ | ⟨-, rfl⟩ | ⟨-, rfl⟩
      all_goals first
        | exact (Option.some.inj hi).symm
        | cases hi
  have hne : accountAddress Sample.platform Sample.alice ≠
      accountAddress Sample.platform Sample.bot := by
    decide +kernel
  constructor
  · rintro k ⟨e, he, op, u, hl⟩ k' ⟨e', he', op', u', hl'⟩ haddress
    rcases hsigner e he k op u hl with rfl | rfl <;>
      rcases hsigner e' he' k' op' u' hl' with rfl | rfl
    · rfl
    · exact absurd haddress hne
    · exact absurd haddress.symm hne
    · rfl
  · rintro i ⟨e, he, k, op, u, hl, hi⟩ i' ⟨e', he', k', op', u', hl', hi'⟩ -
    rw [hswapId e he k op u i hl hi, hswapId e' he' k' op' u' i' hl' hi']

/-- The three transactions after the INIT of the sample script. -/
theorem swap_pays_once_swapScript :
    ∃ xs e₀ es u₀, Sample.transitions Sample.swapScript = xs ++ e₀ :: es ∧ es.length = 3 ∧
      e₀.label = .transaction Sample.alice (.swapInit Sample.initPayload) u₀ ∧
      SwapHistory Sample.platform Sample.alice Sample.initPayload es := by
  have hrun := Sample.run_of_accepted Sample.swapScript_legal Sample.swapScript_accepted
  have hreceivers := Sample.swapScript_receivers
  have hcollision := swapScript_collisionFree
  have hplay : play Sample.platform Sample.utc Dict.empty (Sample.swapScript.take 4 ++
      .transaction Sample.alice (.swapInit Sample.initPayload) :: Sample.swapScript.drop 5) =
        some (Sample.transitions Sample.swapScript) :=
    Sample.play_eq_transitions Sample.swapScript_accepted
  obtain ⟨xs, e₀, es, u₀, hts, hl, -, hlen⟩ := split_of_play hplay
  rw [hts] at hrun hreceivers hcollision
  exact ⟨xs, e₀, es, u₀, hts, hlen, hl,
    swap_pays_once Sample.noForeignOwner hrun hreceivers hcollision hl⟩

end Remme.Tp
