import Remme.Tp.Proofs.SwapPayout
/-!
# The records that swap transactions write

Every accepted transaction for a swap writes one record, at the swap's address
and in a state that the swap was not in before.  So along a run no swap is
written twice in the same state, and a notification about a swap in a state is
about one transaction.
-/

namespace Remme.Tp

open Remme.Lib Remme.Protos Remme.Shared Remme.Settings

variable {B : Type} {π : Platform B} {tz : TimeZone} {s s' : Dict Str B} {signer a i : Str}
  {op : Operation} {u : Dict Str Message} {w w' : AtomicSwapInfo}

/-- The swap that a step is for. -/
def Label.swapId? : Label → Option Str
  | .transaction _ op _ => op.swapId?
  | .environment => none

/-- The step is a transaction for the swap and writes the record. -/
structure WritesSwap (π : Platform B) (e : Transition (Dict Str B) Label) (i : Str)
    (w : AtomicSwapInfo) : Prop where
  swapId : e.label.swapId? = some i
  written : e.label.written (swapAddress π i) = some (.atomicSwapInfo w)
  stored : swapAt π e.post.get? (swapAddress π i) = some w

/-! ## One transaction -/

theorem SwapWrite.swapId (h : SwapWrite π tz s.get? signer op a w) :
    ∃ i, op.swapId? = some i ∧ a = swapAddress π i := by
  cases h with
  | init => exact ⟨_, rfl, rfl⟩
  | setLock => exact ⟨_, rfl, rfl⟩
  | approve => exact ⟨_, rfl, rfl⟩
  | expire => exact ⟨_, rfl, rfl⟩
  | close => exact ⟨_, rfl, rfl⟩

/-- The record names the swap that an INIT opens, or the one that was stored. -/
theorem SwapWrite.swapId_eq (h : SwapWrite π tz s.get? signer op a w) :
    op.swapId? = some w.swapId ∨ ∃ w₀, swapAt π s.get? a = some w₀ ∧ w.swapId = w₀.swapId := by
  cases h with
  | init => exact .inl rfl
  | setLock hswap => exact .inr ⟨_, hswap, rfl⟩
  | approve hswap => exact .inr ⟨_, hswap, rfl⟩
  | expire hswap => exact .inr ⟨_, hswap, rfl⟩
  | close hswap => exact .inr ⟨_, hswap, rfl⟩

/-- Among the updates of a swap transaction is a record at the swap's address. -/
theorem exists_written (hinv : Sound π s) (haccepted : op.apply π tz signer s = .ok u)
    (hid : op.swapId? = some i) :
    ∃ w, u.get? (swapAddress π i) = some (.atomicSwapInfo w) := by
  have hrun := run_of_apply haccepted
  have hswap : ∀ i, IsSwapAddress π (swapAddress π i) := isSwapAddress_swapAddress π
  have hsender : ∀ i, swapAddress π i ≠ accountAddress π signer := fun i =>
    (hswap i).ne_account (isAccountAddress_accountAddress π signer)
  cases op with
  | swapInit payload =>
      cases hid
      obtain ⟨-, block, createdAt, c, debited, credited, -, -, -, -, -, -, rfl⟩ :=
        swapInit_spec.mp hrun
      have hzero : swapAddress π payload.swapId ≠ zeroAddress :=
        (hswap _).ne_account (isAccountAddress_zeroAddress π)
      refine ⟨_, (Dict.get?_ofList ?_ _).trans (by simp [Dict.lookup]; rfl)⟩
      simp [hsender, hzero, accountAddress_ne_zeroAddress]
  | swapApprove payload =>
      cases hid
      obtain ⟨swap, -, -, -, -, -, rfl⟩ := swapApprove_spec.mp hrun
      exact ⟨_, (Dict.get?_ofList (by simp) _).trans (by simp [Dict.lookup]; rfl)⟩
  | swapExpire payload =>
      cases hid
      obtain ⟨swap, block, balance, -, -, -, -, -, -, rfl⟩ := swapExpire_spec.mp hrun
      exact ⟨_, get?_ofList_fst (hsender _) _ _⟩
  | swapSetLock payload =>
      cases hid
      obtain ⟨swap, -, -, -, rfl⟩ := swapSetLock_spec.mp hrun
      exact ⟨_, (Dict.get?_ofList (by simp) _).trans (by simp [Dict.lookup]; rfl)⟩
  | swapClose payload =>
      cases hid
      obtain ⟨swap, balance, hstored, -, -, -, -, -, rfl⟩ := swapClose_spec.mp hrun
      have hreceiver : IsAccountAddress π swap.receiverAddress :=
        .inl (hinv.receiver _ swap (hswap _) hstored)
      exact ⟨_, get?_ofList_fst ((hswap _).ne_account hreceiver) _ _⟩
  | _ => cases hid

theorem swapWrite_of_written (haccepted : op.apply π tz signer s = .ok u)
    (hw : u.get? a = some (.atomicSwapInfo w)) : SwapWrite π tz s.get? signer op a w := by
  cases write_of_apply haccepted hw with
  | swap h => exact h

section Steps

variable {e e' : Transition (Dict Str B) Label} {j : Str}

theorem WritesSwap.swapWrite (h : WritesSwap π e i w) (hstep : Step π tz e.pre e.label e.post) :
    ∃ signer op, SwapWrite π tz e.pre.get? signer op (swapAddress π i) w := by
  cases hlabel : e.label with
  | environment =>
      have hid := h.swapId
      rw [hlabel] at hid
      cases hid
  | transaction signer op u =>
      have hwritten := h.written
      rw [hlabel] at hstep hwritten
      obtain ⟨-, haccepted, -⟩ := hstep.of_transaction
      exact ⟨signer, op, swapWrite_of_written haccepted hwritten⟩

/-- The record names a swap with the address of the transaction's. -/
theorem WritesSwap.address (h : WritesSwap π e i w) (hinv : SwapSound π e.pre)
    (hstep : Step π tz e.pre e.label e.post) : swapAddress π i = swapAddress π w.swapId := by
  obtain ⟨signer, op, hw⟩ := h.swapWrite hstep
  exact (hw.coherent (hinv.coherent _ · (isSwapAddress_swapAddress π i))).address

/-! ## Progress -/

/-- How far a swap has come. -/
def stateRank : SwapState → ℕ
  | .opened => 0
  | .secretLockProvided => 1
  | .approved => 2
  | .closed => 3
  | .expired => 3

theorem StateMove.rank_lt {isInitiator : Bool} {st st' : SwapState}
    (h : StateMove isInitiator st st') : stateRank st < stateRank st' := by
  cases h <;> simp [stateRank]

/-- The swap at an address has come to a rank. -/
def HasReached (π : Platform B) (a : Str) (n : ℕ) (s : Dict Str B) : Prop :=
  ∃ w, swapAt π s.get? a = some w ∧ n ≤ stateRank w.state

theorem HasReached.step {n : ℕ} (h : HasReached π a n s) (hforeign : π.pb.NoForeignOwner)
    (hinv : SwapSound π s) {l : Label} (hstep : Step π tz s l s') (ha : IsSwapAddress π a) :
    HasReached π a n s' := by
  obtain ⟨w, hw, hrank⟩ := h
  obtain ⟨w', hw', rfl | hmove⟩ := hinv.record_step hforeign hstep ha hw
  · exact ⟨w', hw', hrank⟩
  · have hlt := hmove.state.rank_lt
    exact ⟨w', hw', by omega⟩

/-- A swap that has come to a rank is only written in a state beyond it. -/
theorem HasReached.lt_of_writesSwap {n : ℕ} (h : HasReached π (swapAddress π i) n e.pre)
    (hinv : SwapSound π e.pre) (hstep : Step π tz e.pre e.label e.post)
    (hw : WritesSwap π e i w) : n < stateRank w.state := by
  obtain ⟨w₀, hw₀, hrank⟩ := h
  obtain ⟨signer, op, hwrite⟩ := hw.swapWrite hstep
  rcases hwrite.move (hinv.coherent _ · (isSwapAddress_swapAddress π i)) with
    ⟨hfree, -⟩ | ⟨w₁, hw₁, hmove⟩
  · rw [hw₀] at hfree
    cases hfree
  · rw [hw₀, Option.some.injEq] at hw₁
    rw [← hw₁] at hmove
    have hlt := hmove.state.rank_lt
    omega

end Steps

section Runs

variable {ts : List (Transition (Dict Str B) Label)} {e e' : Transition (Dict Str B) Label}
  {j : Str}

/-- The ids of a run's swaps. -/
def swapIds (ts : List (Transition (Dict Str B) Label)) : Set Str :=
  {i | ∃ e ∈ ts, e.label.swapId? = some i}

/-- Every stored record names a swap of the run. -/
theorem swapId_mem_of_run (hforeign : π.pb.NoForeignOwner) (hrun : LedgerRun π tz ts s)
    (hreceiver : ∀ e ∈ ts, e.label.ReceiverIsAccount π) (he : e ∈ ts)
    (ha : IsSwapAddress π a) (hw : swapAt π e.post.get? a = some w) : w.swapId ∈ swapIds ts := by
  -- The ids are those of the whole run, so every step can only keep the property or add its own.
  have hstep : ∀ f ∈ ts, Step π tz f.pre f.label f.post →
      (∀ w, swapAt π f.pre.get? a = some w → w.swapId ∈ swapIds ts) →
        ∀ w, swapAt π f.post.get? a = some w → w.swapId ∈ swapIds ts := by
    intro f hf hstep hpre w hpost
    have hsound := (swapSound_pre_of_run hforeign hrun hreceiver hf).toSound
    rcases hsound.swapAt_step hforeign hstep ha with hsame | ⟨signer, op, u, w', hl, hw', hpost'⟩
    · exact hpre w (hsame ▸ hpost)
    · rw [hpost, Option.some.injEq] at hpost'
      subst hpost'
      rcases hw'.swapId_eq with hid | ⟨w₀, hw₀, hid⟩
      · exact ⟨f, hf, by rw [hl]; exact hid⟩
      · rw [hid]
        exact hpre w₀ hw₀
  have hinit : ∀ w, swapAt π (Dict.empty : Dict Str B).get? a = some w → w.swapId ∈ swapIds ts := by
    intro w hw
    cases hw
  have hpre := hrun.invariant_pre
    (P := fun s => ∀ w, swapAt π s.get? a = some w → w.swapId ∈ swapIds ts) hinit hstep he
  exact hstep e he (hrun.step_of_mem he) hpre w hw

/-- Where no two swaps of a run share an address, a record names the transaction's swap. -/
theorem WritesSwap.swapId_eq (hw : WritesSwap π e i w) (hforeign : π.pb.NoForeignOwner)
    (hrun : LedgerRun π tz ts s) (hreceiver : ∀ e ∈ ts, e.label.ReceiverIsAccount π)
    (hids : Set.InjOn (swapAddress π) (swapIds ts)) (he : e ∈ ts) : w.swapId = i := by
  have hsound := swapSound_pre_of_run hforeign hrun hreceiver he
  have haddress := hw.address hsound (hrun.step_of_mem he)
  have hmem := swapId_mem_of_run hforeign hrun hreceiver he (isSwapAddress_swapAddress π i)
    hw.stored
  exact hids hmem ⟨e, he, hw.swapId⟩ haddress.symm

end Runs

end Remme.Tp
