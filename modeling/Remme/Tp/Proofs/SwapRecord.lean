import Remme.Tp.Proofs.Placement
/-!
# The life of a swap record

No single processor states the shape of a swap record: SET_SECRET_LOCK checks
neither role nor state beyond the final ones, CLOSE checks the state only for
initiators.  `Coherent` is the shape that all of them keep together, and
`SwapMove` is the machine that they implement on coherent records.
-/

namespace Remme.Tp

open Remme.Lib Remme.Protos Remme.Shared Remme.Settings

variable {B : Type} {π : Platform B} {tz : TimeZone} {s s' : Dict Str B} {signer a : Str}
  {op : Operation} {l : Label} {w w' : AtomicSwapInfo}

/-! ## The abstract machine -/

/-- The moves between the states of a swap whose opener is or is not the initiator. -/
inductive StateMove (isInitiator : Bool) : SwapState → SwapState → Prop
  | provideLock : StateMove isInitiator .opened .secretLockProvided
  | approve : StateMove isInitiator .secretLockProvided .approved
  | closeApproved : StateMove isInitiator .approved .closed
  | closeOpened (hsolicitor : isInitiator = false) : StateMove isInitiator .opened .closed
  | expireOpened : StateMove isInitiator .opened .expired
  | expireLocked : StateMove isInitiator .secretLockProvided .expired
  | expireApproved : StateMove isInitiator .approved .expired

/-- The terms of a swap: all fields but the lock, the key and the state. -/
def swapTerms (w : AtomicSwapInfo) : AtomicSwapInfo :=
  { w with secretLock := [], secretKey := [], state := .opened }

/-- A move of a record: all terms stay, a lock is only ever added. -/
structure SwapMove (w w' : AtomicSwapInfo) : Prop where
  terms : swapTerms w' = swapTerms w
  lock : w'.secretLock ≠ w.secretLock → w.secretLock = [] ∧ w'.secretLock ≠ []
  state : StateMove w.isInitiator w.state w'.state

theorem eq_of_not_final {st : SwapState} (h : notPermittedToChange st = false) :
    st = .opened ∨ st = .secretLockProvided ∨ st = .approved := by
  cases st with
  | opened => exact .inl rfl
  | secretLockProvided => exact .inr (.inl rfl)
  | approved => exact .inr (.inr rfl)
  | closed => cases h
  | expired => cases h

theorem StateMove.expire {isInitiator : Bool} {st : SwapState}
    (h : notPermittedToChange st = false) : StateMove isInitiator st .expired := by
  rcases eq_of_not_final h with rfl | rfl | rfl
  · exact .expireOpened
  · exact .expireLocked
  · exact .expireApproved

/-! ## The shape of a record -/

structure Coherent (π : Platform B) (a : Str) (w : AtomicSwapInfo) : Prop where
  address : a = swapAddress π w.swapId
  locked : w.isInitiator = false ∨ w.state = .secretLockProvided ∨ w.state = .approved ∨
    w.state = .closed → w.secretLock ≠ []
  initiator : w.state = .secretLockProvided ∨ w.state = .approved → w.isInitiator = true
  unlocked : w.isInitiator = true → w.state = .opened → w.secretLock = []
  secret : w.secretKey ≠ [] ↔ w.state = .closed

/-- A record without a lock that is not final was opened by an initiator and not touched. -/
theorem Coherent.opened_of_unlocked (h : Coherent π a w) (hempty : w.secretLock = [])
    (hopen : notPermittedToChange w.state = false) :
    w.isInitiator = true ∧ w.state = .opened := by
  have hinitiator : w.isInitiator = true := by
    cases hrole : w.isInitiator with
    | false => exact absurd hempty (h.locked (.inl hrole))
    | true => rfl
  refine ⟨hinitiator, ?_⟩
  rcases eq_of_not_final hopen with hstate | hstate | hstate
  · exact hstate
  · exact absurd hempty (h.locked (.inr (.inl hstate)))
  · exact absurd hempty (h.locked (.inr (.inr (.inl hstate))))

theorem Coherent.secretKey_eq_nil (h : Coherent π a w)
    (hopen : notPermittedToChange w.state = false) : w.secretKey = [] := by
  by_contra hkey
  rw [h.secret.mp hkey] at hopen
  cases hopen

theorem coherent_openedSwap (payload : AtomicSwapInitPayload) (createdAt : UInt32) :
    Coherent π (swapAddress π payload.swapId) (openedSwap π signer payload createdAt) where
  address := rfl
  locked := by
    rintro (hrole | hstate | hstate | hstate)
    · simpa [openedSwap] using hrole
    · cases hstate
    · cases hstate
    · cases hstate
  initiator := by
    rintro (hstate | hstate)
    · cases hstate
    · cases hstate
  unlocked := by
    intro hrole _
    simpa [openedSwap] using hrole
  secret := by simp [openedSwap]

/-- What a write does to a coherent record: it opens a free address, or moves the record. -/
theorem SwapWrite.move (hw : SwapWrite π tz s.get? signer op a w')
    (hinv : ∀ w, swapAt π s.get? a = some w → Coherent π a w) :
    (swapAt π s.get? a = none ∧ ∃ payload, op = .swapInit payload) ∨
    ∃ w, swapAt π s.get? a = some w ∧ SwapMove w w' := by
  cases hw with
  | @init payload _ _ hfree => exact .inl ⟨hfree, payload, rfl⟩
  | @setLock _ w hswap hopen hempty hlock =>
      obtain ⟨hinitiator, hstate⟩ := (hinv w hswap).opened_of_unlocked hempty hopen
      refine .inr ⟨w, hswap, rfl, fun _ => ⟨hempty, hlock⟩, ?_⟩
      rw [hstate]
      exact .provideLock
  | @approve _ w hswap hstate =>
      refine .inr ⟨w, hswap, rfl, fun hne => absurd rfl hne, ?_⟩
      rw [hstate]
      exact .approve
  | @expire _ w _ hswap hopen =>
      exact .inr ⟨w, hswap, rfl, fun hne => absurd rfl hne, .expire hopen⟩
  | @close _ w hswap hopen _ _ happroved =>
      refine .inr ⟨w, hswap, rfl, fun hne => absurd rfl hne, ?_⟩
      -- Only a solicitor's record can be closed without an approval, and it is still opened.
      cases hrole : w.isInitiator with
      | true =>
          rw [happroved hrole]
          exact .closeApproved
      | false =>
          rcases eq_of_not_final hopen with hstate | hstate | hstate
          · rw [hstate]
            exact .closeOpened rfl
          · have := (hinv w hswap).initiator (.inl hstate)
            rw [hrole] at this
            cases this
          · have := (hinv w hswap).initiator (.inr hstate)
            rw [hrole] at this
            cases this

/-- Between the lock and the payout a record has the initiator's role, a lock and no key. -/
theorem coherent_of_locked (hstate : w.state = .secretLockProvided ∨ w.state = .approved)
    (haddress : a = swapAddress π w.swapId) (hrole : w.isInitiator = true)
    (hlock : w.secretLock ≠ []) (hkey : w.secretKey = []) : Coherent π a w where
  address := haddress
  locked := fun _ => hlock
  initiator := fun _ => hrole
  unlocked := by
    intro _ hopened
    rcases hstate with hstate | hstate <;> simp [hstate] at hopened
  secret := by
    rcases hstate with hstate | hstate <;> simp [hstate, hkey]

/-- A final record keeps its lock where it had to have one, and its key tells how it ended. -/
theorem coherent_of_final (hfinal : notPermittedToChange w.state = true)
    (haddress : a = swapAddress π w.swapId)
    (hlock : w.isInitiator = false ∨ w.state = .closed → w.secretLock ≠ [])
    (hsecret : w.secretKey ≠ [] ↔ w.state = .closed) : Coherent π a w where
  address := haddress
  locked := by
    rintro (hrole | hstate | hstate | hstate)
    · exact hlock (.inl hrole)
    · simp [hstate, notPermittedToChange] at hfinal
    · simp [hstate, notPermittedToChange] at hfinal
    · exact hlock (.inr hstate)
  initiator := by
    rintro (hstate | hstate) <;> simp [hstate, notPermittedToChange] at hfinal
  unlocked := by
    intro _ hstate
    simp [hstate, notPermittedToChange] at hfinal
  secret := hsecret

/-- Every write leaves a coherent record. -/
theorem SwapWrite.coherent (hw : SwapWrite π tz s.get? signer op a w')
    (hinv : ∀ w, swapAt π s.get? a = some w → Coherent π a w) : Coherent π a w' := by
  cases hw with
  | @init payload _ createdAt => exact coherent_openedSwap payload createdAt
  | @setLock _ w hswap hopen hempty hlock =>
      have hold := hinv w hswap
      obtain ⟨hrole, -⟩ := hold.opened_of_unlocked hempty hopen
      exact coherent_of_locked (.inl rfl) hold.address hrole hlock (hold.secretKey_eq_nil hopen)
  | @approve _ w hswap hstate hrole _ hlock =>
      have hold := hinv w hswap
      have hopen : notPermittedToChange w.state = false := by
        rw [hstate]
        rfl
      exact coherent_of_locked (.inr rfl) hold.address hrole hlock (hold.secretKey_eq_nil hopen)
  | @expire _ w _ hswap hopen =>
      have hold := hinv w hswap
      refine coherent_of_final rfl hold.address ?_ ?_
      · rintro (hrole | hstate)
        · exact hold.locked (.inl hrole)
        · cases hstate
      · simp [hold.secretKey_eq_nil hopen]
  | @close _ w hswap _ hlock _ _ hkey =>
      refine coherent_of_final rfl (hinv w hswap).address ?_ ?_
      · exact fun _ => hlock
      · simp [hkey]

/-! ## All records of the ledger -/

/-- The placement, and a coherent record at every swap address that holds one. -/
structure SwapSound (π : Platform B) (s : Dict Str B) : Prop extends Sound π s where
  coherent : ∀ a w, IsSwapAddress π a → swapAt π s.get? a = some w → Coherent π a w

theorem SwapSound.step (hforeign : π.pb.NoForeignOwner) (hinv : SwapSound π s)
    (hreceiver : l.ReceiverIsAccount π) (hstep : Step π tz s l s') : SwapSound π s' where
  toSound := hinv.toSound.step hforeign hreceiver hstep
  coherent := by
    intro a w ha hswap
    rcases hinv.swapAt_step hforeign hstep ha with hsame | ⟨signer, op, u, w', -, hw, hpost⟩
    · rw [hsame] at hswap
      exact hinv.coherent a w ha hswap
    · rw [hpost] at hswap
      cases hswap
      exact hw.coherent (hinv.coherent a · ha)

/-- A stored record stays as it is or makes a move. -/
theorem SwapSound.record_step (hforeign : π.pb.NoForeignOwner) (hinv : SwapSound π s)
    (hstep : Step π tz s l s') (ha : IsSwapAddress π a) (hswap : swapAt π s.get? a = some w) :
    ∃ w', swapAt π s'.get? a = some w' ∧ (w' = w ∨ SwapMove w w') := by
  rcases hinv.swapAt_step hforeign hstep ha with hsame | ⟨signer, op, u, w', -, hw, hpost⟩
  · exact ⟨w, hsame.trans hswap, .inl rfl⟩
  · rcases hw.move (hinv.coherent a · ha) with ⟨hfree, -⟩ | ⟨old, hold, hmove⟩
    · rw [hfree] at hswap
      cases hswap
    · rw [hold] at hswap
      cases hswap
      exact ⟨w', hpost, .inr hmove⟩

theorem swapSound_empty : SwapSound π Dict.empty where
  toSound := sound_empty
  coherent := by
    intro a w _ hswap
    cases hswap

section Runs

variable {ts : List (Transition (Dict Str B) Label)} {e : Transition (Dict Str B) Label}

theorem swapSound_of_run (hforeign : π.pb.NoForeignOwner) (hrun : LedgerRun π tz ts s)
    (hreceiver : ∀ e ∈ ts, e.label.ReceiverIsAccount π) : SwapSound π s := by
  apply hrun.invariant swapSound_empty
  intro e he hstep hinv
  exact hinv.step hforeign (hreceiver e he) hstep

theorem swapSound_pre_of_run (hforeign : π.pb.NoForeignOwner) (hrun : LedgerRun π tz ts s)
    (hreceiver : ∀ e ∈ ts, e.label.ReceiverIsAccount π) (he : e ∈ ts) : SwapSound π e.pre := by
  apply hrun.invariant_pre swapSound_empty _ he
  intro e he hstep hinv
  exact hinv.step hforeign (hreceiver e he) hstep

/-- The step adds a lock to the record at an address. -/
def ChangesLock (π : Platform B) (a : Str) (e : Transition (Dict Str B) Label) : Prop :=
  ∃ w w', swapAt π e.pre.get? a = some w ∧ swapAt π e.post.get? a = some w' ∧
    w'.secretLock ≠ w.secretLock

/-- The record at an address has a lock. -/
def HasLock (π : Platform B) (a : Str) (s : Dict Str B) : Prop :=
  ∃ w, swapAt π s.get? a = some w ∧ w.secretLock ≠ []

theorem SwapMove.lock_eq (h : SwapMove w w') (hlock : w.secretLock ≠ []) :
    w'.secretLock = w.secretLock := by
  by_contra hne
  exact hlock (h.lock hne).1

theorem SwapSound.locked_step (hforeign : π.pb.NoForeignOwner) (hinv : SwapSound π s)
    (hstep : Step π tz s l s') (ha : IsSwapAddress π a) (hswap : swapAt π s.get? a = some w)
    (hlock : w.secretLock ≠ []) :
    ∃ w', swapAt π s'.get? a = some w' ∧ w'.secretLock = w.secretLock := by
  obtain ⟨w', hpost, rfl | hmove⟩ := hinv.record_step hforeign hstep ha hswap
  · exact ⟨w', hpost, rfl⟩
  · exact ⟨w', hpost, hmove.lock_eq hlock⟩

/-- After a step that adds a lock, no step of the run changes it. -/
theorem lock_changes_once (hforeign : π.pb.NoForeignOwner)
    {xs ys : List (Transition (Dict Str B) Label)} (hrun : LedgerRun π tz (xs ++ e :: ys) s)
    (hreceiver : ∀ e' ∈ xs ++ e :: ys, e'.label.ReceiverIsAccount π) (ha : IsSwapAddress π a)
    (hchange : ChangesLock π a e) : ∀ e' ∈ ys, ¬ChangesLock π a e' := by
  have hsound : ∀ e' ∈ xs ++ e :: ys, SwapSound π e'.pre :=
    fun e' he' => swapSound_pre_of_run hforeign hrun hreceiver he'
  obtain ⟨-, hstep, hrest⟩ := hrun.split
  -- The invariant of the remaining run: the record is there and has a lock.
  have hlocked : HasLock π a e.post := by
    obtain ⟨w, w', hpre, hpost, hne⟩ := hchange
    obtain ⟨w'', hpost', hmove⟩ := (hsound e (by simp)).record_step hforeign hstep ha hpre
    rw [hpost] at hpost'
    cases hpost'
    rcases hmove with rfl | hmove
    · exact absurd rfl hne
    · exact ⟨w', hpost, (hmove.lock hne).2⟩
  intro e' he' hchange'
  have hstay : HasLock π a e'.pre := by
    apply hrest.invariant_pre hlocked _ he'
    rintro f hf hfstep ⟨w, hpre, hlock⟩
    obtain ⟨w', hpost, heq⟩ := (hsound f (by simp [hf])).locked_step hforeign hfstep ha hpre hlock
    exact ⟨w', hpost, heq ▸ hlock⟩
  obtain ⟨w, hpre, hlock⟩ := hstay
  obtain ⟨w', hpost, heq⟩ := (hsound e' (by simp [he'])).locked_step hforeign
    (hrest.step_of_mem he') ha hpre hlock
  obtain ⟨v, v', hv, hv', hne⟩ := hchange'
  rw [hpre] at hv
  rw [hpost] at hv'
  cases hv
  cases hv'
  exact hne heq

/-- Every stored swap record is coherent; along a run a record never disappears, keeps its
terms, moves only as `StateMove` allows and gets its lock at most once. -/
theorem swap_record_state_machine (hforeign : π.pb.NoForeignOwner) (hrun : LedgerRun π tz ts s)
    (hreceiver : ∀ e ∈ ts, e.label.ReceiverIsAccount π) :
    (∀ a w, IsSwapAddress π a → swapAt π s.get? a = some w → Coherent π a w) ∧
    (∀ e ∈ ts, ∀ a w, IsSwapAddress π a → swapAt π e.pre.get? a = some w →
      ∃ w', swapAt π e.post.get? a = some w' ∧ (w' = w ∨ SwapMove w w')) ∧
    (∀ xs e ys, ts = xs ++ e :: ys → ∀ a, IsSwapAddress π a → ChangesLock π a e →
      ∀ e' ∈ ys, ¬ChangesLock π a e') := by
  refine ⟨(swapSound_of_run hforeign hrun hreceiver).coherent, ?_, ?_⟩
  · intro e he a w ha hswap
    exact (swapSound_pre_of_run hforeign hrun hreceiver he).record_step hforeign
      (hrun.step_of_mem he) ha hswap
  · rintro xs e ys rfl a ha hchange
    exact lock_changes_once hforeign hrun hreceiver ha hchange

end Runs

/-- At the end of the sample script the record is closed, with its lock and key. -/
theorem swap_record_state_machine_swapScript :
    ∃ w, swapAt Sample.platform (Sample.final Sample.swapScript).get?
        (swapAddress Sample.platform Sample.swapId) = some w ∧ w.state = .closed ∧
      Coherent Sample.platform (swapAddress Sample.platform Sample.swapId) w := by
  have hstate : (swapAt Sample.platform (Sample.final Sample.swapScript).get?
      (swapAddress Sample.platform Sample.swapId)).map (·.state) = some .closed := by
    decide +kernel
  obtain ⟨w, hw, hclosed⟩ := Option.map_eq_some_iff.mp hstate
  have hcoherent := (swap_record_state_machine Sample.noForeignOwner
    (Sample.run_of_accepted Sample.swapScript_legal Sample.swapScript_accepted)
    Sample.swapScript_receivers).1
  exact ⟨w, hw, hclosed, hcoherent _ w (isSwapAddress_swapAddress _ _) hw⟩

end Remme.Tp
