import Remme.RpcApi.Sessions
/-!
# What a closed websocket leaves behind

The clean-up of `register` runs once, and nothing looks at the websocket's
status before it writes: `subscribe` creates the websocket's entry as soon as
it has the lock, and its entry of hashes as soon as the validator agreed.  A
task that gets there after the clean-up leaves an entry that nothing deletes.
No other step of the machine creates one.
-/

namespace Remme.RpcApi

open Remme.Lib Remme.Shared

variable {s s' : Sessions} {action : SessionAction} {w : ℕ}

/-- Neither table has an entry for the websocket. -/
def LeavesNothing (s : Sessions) (w : ℕ) : Prop := s.subsevt w = none ∧ s.evthashes w = false

/-- A `subscribe` of the closed websocket gets the lock, or goes on with the validator's consent. -/
inductive Recreates (w : ℕ) (s : Sessions) : SessionAction → Prop
  | lock {task : ℕ} {eventType : EventName} {validated : Except PyError (Option Str)}
      (hclosed : s.status w = .closed)
      (htask : s.tasks[task]? = some ⟨w, .subscribe (some eventType) validated, .locking⟩) :
      Recreates w s (.acquire task)
  | reply {task : ℕ} {eventType : EventName} {validated : Except PyError (Option Str)}
      (hclosed : s.status w = .closed)
      (htask : s.tasks[task]? =
        some ⟨w, .subscribe (some eventType) validated, .subscribing (some .ok)⟩) :
      Recreates w s (.resume task)

/-! ## One step -/

/-- The tables and the status, without the lock and the tasks. -/
def Sessions.tables (s : Sessions) : (ℕ → WsStatus) × (ℕ → Option (List EventName)) × (ℕ → Bool) :=
  (s.status, s.subsevt, s.evthashes)

/-- Until its first await, `subscribe` only adds the entry. -/
theorem tables_subscribe (s : Sessions) (task ws : ℕ) (eventType : EventName)
    (validated : Except PyError (Option Str)) :
    (s.subscribe task ws eventType validated).tables = (s.setdefault ws).tables := by
  unfold Sessions.subscribe
  simp only
  split_ifs
  · rfl
  · rfl
  · match validated with
    | .error _ => rfl
    | .ok none => rfl
    | .ok (some []) => rfl
    | .ok (some (_ :: _)) => rfl

/-- The task that re-creates an entry is a `subscribe` of the websocket. -/
theorem Recreates.of_acquire {task : ℕ} {t : RequestTask} (h : Recreates w s (.acquire task))
    (htask : s.tasks[task]? = some t) :
    t.ws = w ∧ ∃ eventType validated, t.request = .subscribe (some eventType) validated := by
  cases h with
  | lock _ htask' =>
      rw [htask, Option.some.injEq] at htask'
      rw [htask']
      exact ⟨rfl, _, _, rfl⟩

theorem Recreates.of_resume {task : ℕ} {t : RequestTask} (h : Recreates w s (.resume task))
    (htask : s.tasks[task]? = some t) :
    t.ws = w ∧ (∃ eventType validated, t.request = .subscribe (some eventType) validated) ∧
      t.position = .subscribing (some .ok) := by
  cases h with
  | reply _ htask' =>
      rw [htask, Option.some.injEq] at htask'
      rw [htask']
      exact ⟨rfl, ⟨_, _, rfl⟩, rfl⟩

theorem not_recreates_of_open (hopen : s.status w ≠ .closed) : ¬Recreates w s action := by
  intro h
  cases h with
  | lock hclosed => exact hopen hclosed
  | reply hclosed => exact hopen hclosed

/-- What a step does to the tables. -/
inductive TableStep (s s' : Sessions) : SessionAction → Prop
  | same {action : SessionAction} (hquiet : ∀ w, ¬Recreates w s action)
      (h : s'.tables = s.tables) : TableStep s s' action
  | opened {ws : ℕ} (habsent : s.status ws = .absent)
      (h : s'.tables = (Function.update s.status ws .registered, s.subsevt, s.evthashes)) :
      TableStep s s' (.open ws)
  | locked {task ws : ℕ} {eventType : EventName} {validated : Except PyError (Option Str)}
      (htask : s.tasks[task]? = some ⟨ws, .subscribe (some eventType) validated, .locking⟩)
      (h : s'.tables = (s.setdefault ws).tables) : TableStep s s' (.acquire task)
  | unsubscribed {task ws : ℕ} {eventType : EventName}
      (htask : s.tasks[task]? = some ⟨ws, .unsubscribe (some eventType), .locking⟩)
      (h : s'.tables = (s.status, Function.update s.subsevt ws
        ((s.subsevt ws).map (·.erase eventType)), s.evthashes)) : TableStep s s' (.acquire task)
  | agreed {task ws : ℕ} {eventType : EventName} {validated : Except PyError (Option Str)}
      (htask : s.tasks[task]? =
        some ⟨ws, .subscribe (some eventType) validated, .subscribing (some .ok)⟩)
      (h : s'.tables = (s.status, Function.update s.subsevt ws
        ((s.subsevt ws).map (eventType :: ·)), Function.update s.evthashes ws true)) :
      TableStep s s' (.resume task)
  | closed {ws : ℕ} (hregistered : s.status ws = .registered)
      (h : s'.tables = (Function.update s.status ws .closed, Function.update s.subsevt ws none,
        Function.update s.evthashes ws false)) : TableStep s s' (.close ws)

theorem tableStep_of_resume {task : ℕ} (h : s.step (.resume task) = some s') :
    TableStep s s' (.resume task) := by
  simp only [Sessions.step] at h
  split at h
  · rename_i htask
    have hquiet : ∀ w, ¬Recreates w s (.resume _) := fun w hrecreates =>
      nomatch (hrecreates.of_resume htask).2.2
    split_ifs at h
    · cases h
      exact .same hquiet rfl
    · cases h
      exact .same hquiet rfl
  · rename_i htask
    cases h
    exact .same (fun w hrecreates => nomatch (hrecreates.of_resume htask).2.2) rfl
  · rename_i htask
    cases h
    exact .agreed htask rfl
  · rename_i hok htask
    cases h
    refine .same (fun _ hrecreates => ?_) rfl
    obtain ⟨-, ⟨eventType, validated, hrequest⟩, hposition⟩ := hrecreates.of_resume htask
    exact hok eventType validated hrequest (by simpa using hposition)
  · cases h

theorem tableStep_of_step (h : s.step action = some s') : TableStep s s' action := by
  unfold Sessions.step at h
  split at h
  · split_ifs at h with habsent
    cases h
    exact .opened habsent rfl
  · split_ifs at h
    cases h
    exact .same (fun _ => nofun) rfl
  · split at h
    all_goals first
      | (cases h; exact .same (fun _ => nofun) rfl)
      | cases h
  · split at h
    · rename_i htask
      cases h
      exact .locked htask (tables_subscribe s _ _ _ _)
    · rename_i htask
      cases h
      exact .unsubscribed htask rfl
    · cases h
  · split at h
    · cases h
      exact .same (fun _ => nofun) rfl
    · cases h
  · split at h
    · cases h
      exact .same (fun _ => nofun) rfl
    · cases h
  · exact tableStep_of_resume h
  · split_ifs at h with hregistered
    cases h
    exact .closed hregistered rfl

/-! ## A closed websocket -/

theorem tables_eq {status : ℕ → WsStatus} {subsevt : ℕ → Option (List EventName)}
    {evthashes : ℕ → Bool} (h : s.tables = (status, subsevt, evthashes)) :
    s.status = status ∧ s.subsevt = subsevt ∧ s.evthashes = evthashes := by
  simpa only [Sessions.tables, Prod.mk.injEq] using h

/-- An update at one websocket of what is there only if the entry is. -/
theorem update_map_eq_none (f : List EventName → List EventName) (ws : ℕ) :
    Function.update s.subsevt ws ((s.subsevt ws).map f) w = none ↔ s.subsevt w = none := by
  rcases eq_or_ne w ws with rfl | hne
  · simp
  · simp [hne]

/-- A closed websocket stays closed. -/
theorem TableStep.status_closed (h : TableStep s s' action) (hclosed : s.status w = .closed) :
    s'.status w = .closed := by
  cases h with
  | same _ h => rw [(tables_eq h).1, hclosed]
  | @opened ws habsent h =>
      have hne : w ≠ ws := by
        rintro rfl
        rw [hclosed] at habsent
        cases habsent
      rw [(tables_eq h).1, Function.update_of_ne hne, hclosed]
  | locked _ h => rw [(tables_eq h).1]; exact hclosed
  | unsubscribed _ h => rw [(tables_eq h).1, hclosed]
  | agreed _ h => rw [(tables_eq h).1, hclosed]
  | @closed ws _ h =>
      rw [(tables_eq h).1, Function.update_apply]
      split_ifs
      · rfl
      · exact hclosed

/-- Only the clean-up closes a websocket, and it leaves nothing. -/
theorem TableStep.leavesNothing_of_close (h : TableStep s s' action)
    (hopen : s.status w ≠ .closed) (hclosed : s'.status w = .closed) : LeavesNothing s' w := by
  cases h with
  | same _ h => exact absurd ((tables_eq h).1 ▸ hclosed) hopen
  | @opened ws _ h =>
      rw [(tables_eq h).1, Function.update_apply] at hclosed
      split_ifs at hclosed
      exact absurd hclosed hopen
  | locked _ h => exact absurd ((tables_eq h).1 ▸ hclosed) hopen
  | unsubscribed _ h => exact absurd ((tables_eq h).1 ▸ hclosed) hopen
  | agreed _ h => exact absurd ((tables_eq h).1 ▸ hclosed) hopen
  | @closed ws _ h =>
      obtain ⟨hstatus, hsubsevt, hevthashes⟩ := tables_eq h
      have heq : w = ws := by
        by_contra hne
        rw [hstatus, Function.update_of_ne hne] at hclosed
        exact hopen hclosed
      rw [LeavesNothing, hsubsevt, hevthashes, heq]
      simp

/-- A step that writes nothing for the websocket. -/
theorem leavesNothing_of_quiet (hsubsevt : s'.subsevt w = none ↔ s.subsevt w = none)
    (hevthashes : s'.evthashes w = s.evthashes w) (hquiet : ¬Recreates w s action) :
    LeavesNothing s' w ↔ LeavesNothing s w ∧ ¬Recreates w s action := by
  rw [LeavesNothing, LeavesNothing, hsubsevt, hevthashes]
  exact (and_iff_left hquiet).symm

/-- After the clean-up, an entry appears exactly if the step re-creates one. -/
theorem TableStep.leavesNothing_step (h : TableStep s s' action)
    (hclosed : s.status w = .closed) :
    LeavesNothing s' w ↔ LeavesNothing s w ∧ ¬Recreates w s action := by
  cases h with
  | same hquiet h =>
      obtain ⟨-, hsubsevt, hevthashes⟩ := tables_eq h
      exact leavesNothing_of_quiet (by rw [hsubsevt]) (by rw [hevthashes]) (hquiet w)
  | opened _ h =>
      obtain ⟨-, hsubsevt, hevthashes⟩ := tables_eq h
      exact leavesNothing_of_quiet (by rw [hsubsevt]) (by rw [hevthashes]) nofun
  | @locked task ws _ _ htask h =>
      obtain ⟨-, hsubsevt, hevthashes⟩ := tables_eq h
      rcases eq_or_ne w ws with rfl | hne
      · have hrecreates : Recreates w s (.acquire task) := .lock hclosed htask
        simp [LeavesNothing, hsubsevt, Sessions.setdefault, hrecreates]
      · refine leavesNothing_of_quiet ?_ (by rw [hevthashes]; rfl) fun hrecreates =>
          hne (hrecreates.of_acquire htask).1.symm
        rw [hsubsevt]
        show Function.update s.subsevt ws _ w = none ↔ _
        rw [Function.update_of_ne hne]
  | unsubscribed htask h =>
      obtain ⟨-, hsubsevt, hevthashes⟩ := tables_eq h
      refine leavesNothing_of_quiet ?_ (by rw [hevthashes]) fun hrecreates => ?_
      · rw [hsubsevt, update_map_eq_none]
      · obtain ⟨-, eventType, validated, hrequest⟩ := hrecreates.of_acquire htask
        cases hrequest
  | @agreed task ws _ _ htask h =>
      obtain ⟨-, hsubsevt, hevthashes⟩ := tables_eq h
      rcases eq_or_ne w ws with rfl | hne
      · have hrecreates : Recreates w s (.resume task) := .reply hclosed htask
        simp [LeavesNothing, hevthashes, hrecreates]
      · refine leavesNothing_of_quiet ?_ ?_ fun hrecreates =>
          hne (hrecreates.of_resume htask).1.symm
        · rw [hsubsevt, update_map_eq_none]
        · rw [hevthashes, Function.update_of_ne hne]
  | @closed ws hregistered h =>
      obtain ⟨-, hsubsevt, hevthashes⟩ := tables_eq h
      have hne : w ≠ ws := by
        rintro rfl
        rw [hclosed] at hregistered
        cases hregistered
      refine leavesNothing_of_quiet ?_ ?_ nofun
      · rw [hsubsevt, Function.update_of_ne hne]
      · rw [hevthashes, Function.update_of_ne hne]

/-! ## Runs -/

/-- The machine as a step relation. -/
abbrev SessionStep (s : Sessions) (action : SessionAction) (s' : Sessions) : Prop :=
  s.step action = some s'

/-- While the websocket is not closed no step re-creates an entry; from then on, what it leaves
is what the steps re-created. -/
theorem closed_history {ts : List (Transition Sessions SessionAction)}
    (hrun : Run SessionStep .init ts s) :
    (s.status w ≠ .closed → ∀ e ∈ ts, e.pre.status w ≠ .closed) ∧
      (s.status w = .closed →
        (LeavesNothing s w ↔ ∀ e ∈ ts, ¬Recreates w e.pre e.label)) := by
  apply hrun.history (P := fun ts s => (s.status w ≠ .closed →
    ∀ e ∈ ts, e.pre.status w ≠ .closed) ∧ (s.status w = .closed →
      (LeavesNothing s w ↔ ∀ e ∈ ts, ¬Recreates w e.pre e.label)))
  · exact ⟨by simp, nofun⟩
  · intro xs e ys _ hstep hhistory
    obtain ⟨hbefore, hafter⟩ := hhistory
    have htables := tableStep_of_step hstep
    simp only [List.forall_mem_append, List.forall_mem_singleton]
    by_cases hclosed : e.pre.status w = .closed
    · refine ⟨fun hopen => absurd (htables.status_closed hclosed) hopen, fun _ => ?_⟩
      rw [htables.leavesNothing_step hclosed, hafter hclosed]
    · refine ⟨fun _ => ⟨hbefore hclosed, hclosed⟩, fun hpost => ?_⟩
      refine iff_of_true (htables.leavesNothing_of_close hclosed hpost) ⟨fun e' he' => ?_, ?_⟩
      · exact not_recreates_of_open (hbefore hclosed e' he')
      · exact not_recreates_of_open hclosed

/-- A closed websocket leaves nothing exactly if no `subscribe` of it got the lock after the
clean-up, or went on after it with the validator's consent. -/
theorem leavesNothing_iff {ts : List (Transition Sessions SessionAction)}
    (hrun : Run SessionStep .init ts s) (hclosed : s.status w = .closed) :
    LeavesNothing s w ↔ ∀ e ∈ ts, ¬Recreates w e.pre e.label :=
  (closed_history hrun).2 hclosed

namespace Sample

/-- A `subscribe` of each of two websockets; the first one's holds the lock. -/
def twoSubscribers : List SessionAction :=
  [.open 1, .open 2,
   .request 1 (.subscribe (some .transfer) (.ok none)),
   .request 2 (.subscribe (some .batch) (.ok none)),
   .start 0, .start 1, .acquire 0]

/-- The task that holds the lock goes on to its end. -/
def subscribed (task : ℕ) : List SessionAction :=
  [.listed task .head, .resume task, .replied task .ok, .resume task]

end Sample

open Sample in
/-- The second websocket closes with both of its entries there. -/
theorem leavesNothing_closedLast :
    ∃ ts s, Run SessionStep .init ts s ∧ s.status 2 = .closed ∧
      ∀ e ∈ ts, ¬Recreates 2 e.pre e.label := by
  have hfinal : (Run.exec Sessions.step .init
      (twoSubscribers ++ subscribed 0 ++ .acquire 1 :: subscribed 1 ++ [.close 2])).any
        (fun s => decide (s.status 2 = .closed ∧ s.subsevt 2 = none ∧ s.evthashes 2 = false)) =
          true := by
    decide +kernel
  obtain ⟨ts, s, hrun, hclosed, hnothing⟩ := Run.exists_of_any hfinal
  exact ⟨ts, s, hrun, hclosed, (leavesNothing_iff hrun hclosed).mp hnothing⟩

open Sample in
/-- The second websocket closes while its `subscribe` waits for the lock. -/
theorem waiting_subscribe_leaves_entry :
    ∃ ts s, Run SessionStep .init ts s ∧ s.status 2 = .closed ∧
      (∀ t ∈ s.tasks, t.ws = 2 → t.position = .ended) ∧ ¬LeavesNothing s 2 := by
  have hfinal : (Run.exec Sessions.step .init
      (twoSubscribers ++ .close 2 :: subscribed 0 ++ [.acquire 1])).any
        (fun s => decide (s.status 2 = .closed ∧
          (∀ t ∈ s.tasks, t.ws = 2 → t.position = .ended) ∧ s.subsevt 2 = some [])) = true := by
    decide +kernel
  obtain ⟨ts, s, hrun, hclosed, hended, hentry⟩ := Run.exists_of_any hfinal
  refine ⟨ts, s, hrun, hclosed, hended, fun hnothing => ?_⟩
  rw [hnothing.1] at hentry
  cases hentry

end Remme.RpcApi
