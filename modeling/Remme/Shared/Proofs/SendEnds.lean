import Remme.Shared.Proofs.Messaging
/-!
# How a send ends

`send` registers its correlation id before the first write, and the `finally`
that deletes it belongs to the wait for the reply.  A call that never gets to
that wait leaves its future behind: when the back-off gives up, when a write
raises, and when the task is cancelled between two attempts.
-/

namespace Remme.Shared.Messaging

open Remme.Lib

variable {s s' : Calls} {action : CallAction} {id : Str}
  {view view' : Option ReplyFuture × Option SendCall} {results : List WriteResult}

/-! ## What the result is about -/

/-- The attempt of a call to write, with the step that makes it. -/
def ConnectionAction.wrote (id : Str) : ConnectionAction → Option WriteResult
  | .send id' _ result => if id' = id then some result else none
  | .wake id' result => if id' = id then some result else none
  | _ => none

def CallAction.wrote (id : Str) : CallAction → Option WriteResult
  | .act action => action.wrote id
  | .cancelTask _ => none

/-- The attempts of a call to write, in this order. -/
def writes (id : Str) (ts : List (Transition Calls CallAction)) : List WriteResult :=
  ts.filterMap (·.label.wrote id)

def SendPosition.isEnd : SendPosition → Bool
  | .returned _ => true
  | .raised _ => true
  | _ => false

def SendPosition.isWaiting : SendPosition → Bool
  | .awaiting _ => true
  | .cancelling => true
  | _ => false

theorem SendPosition.isEnd_of_isWaiting {position : SendPosition}
    (h : position.isWaiting = true) : position.isEnd = false := by
  cases position with
  | awaiting => rfl
  | cancelling => rfl
  | sleeping => cases h
  | returned => cases h
  | raised => cases h

/-- The call returned or raised. -/
def Calls.Ended (s : Calls) (id : Str) : Prop :=
  ∃ call, s.connection.sends id = some call ∧
    (call.position.isEnd = true ∨ s.cancelled id = true)

/-- The call makes at most `maxRetries + 1` attempts, leaves the loop with the last of them, and
is not expecting a reply any more when it has ended. -/
structure EndsClean (id : Str) (ts : List (Transition Calls CallAction)) (s : Calls) : Prop where
  attempts : (writes id ts).length ≤ maxRetries + 1
  sleeping : ∀ n, s.connection.position id = some (.sleeping n) →
    (writes id ts).length ≤ maxRetries
  noReply : s.Ended id → s.connection.futures id = none

/-! ## One step -/

/-- The attempts of a call, by its future and how it stands. -/
inductive WritesTracked : List WriteResult → Option ReplyFuture × Option SendCall → Bool → Prop
  | idle : WritesTracked [] (none, none) false
  | sleeping {results : List WriteResult} {future : ReplyFuture} {timeout : Option ℕ} {n : ℕ}
      (hlength : results.length = n) (hn : n ≤ maxRetries) (hok : .ok ∉ results) :
      WritesTracked results (some future, some ⟨timeout, .sleeping n⟩) false
  | waiting {results : List WriteResult} {future : ReplyFuture} {timeout : Option ℕ}
      {position : SendPosition} (hposition : position.isWaiting = true)
      (hlength : results.length ≤ maxRetries + 1) (hok : .ok ∈ results) :
      WritesTracked results (some future, some ⟨timeout, position⟩) false
  | ended {results : List WriteResult} {future : Option ReplyFuture} {timeout : Option ℕ}
      {position : SendPosition} {cancelled : Bool}
      (hend : position.isEnd = true ∨ cancelled = true)
      (hlength : results.length ≤ maxRetries + 1) (hok : future = none ↔ .ok ∈ results)
      (hsleeping : ∀ n, position = .sleeping n → results.length ≤ maxRetries) :
      WritesTracked results (future, some ⟨timeout, position⟩) cancelled

/-- One more round of the loop. -/
theorem writesTracked_attempt {numRetries : ℕ} (hlength : results.length = numRetries)
    (hn : numRetries ≤ maxRetries) (hok : .ok ∉ results) (future : ReplyFuture)
    (timeout : Option ℕ) (result : WriteResult) :
    WritesTracked (results ++ [result]) (some future, some ⟨timeout, attempt numRetries result⟩)
      false := by
  have hlast : (results ++ [result]).length = numRetries + 1 := by simp [hlength]
  have hraised : ∀ exception n, SendPosition.raised exception = .sleeping n →
      (results ++ [result]).length ≤ maxRetries := by
    intro exception n h
    cases h
  cases result with
  | ok => exact .waiting rfl (by omega) (by simp)
  | raised => exact .ended (.inl rfl) (by omega) (by simpa using hok) (hraised _)
  | again =>
      have hok' : WriteResult.ok ∉ results ++ [.again] := by simpa using hok
      simp only [attempt, doBackoff]
      split_ifs with hmax
      · exact .ended (.inl rfl) (by omega) (by simpa using hok') (hraised _)
      · exact .sleeping hlast (by omega) hok'

theorem attempt_ne_sleeping (numRetries : ℕ) (result : WriteResult) :
    attempt numRetries result ≠ .sleeping numRetries := by
  intro h
  cases result with
  | ok => cases h
  | raised => cases h
  | again =>
      simp only [attempt, doBackoff] at h
      split_ifs at h
      simp at h

/-- A step that leaves the call of the id as it is makes no attempt for it. -/
theorem wrote_eq_none {s s' : Connection} {action : ConnectionAction}
    (h : s.step action = some s') (hview : s'.view id = s.view id) : action.wrote id = none := by
  have hsends : s'.sends id = s.sends id := congrArg Prod.snd hview
  cases action with
  | send id' timeout result =>
      simp only [Connection.step] at h
      split_ifs at h with hnone
      cases h
      refine if_neg ?_
      rintro rfl
      simp [hnone] at hsends
  | wake id' result =>
      simp only [Connection.step] at h
      split at h
      · rename_i timeout numRetries hcall
        cases h
        refine if_neg ?_
        rintro rfl
        have hposition : attempt numRetries result = .sleeping numRetries := by
          simpa [Connection.moveTo, hcall] using hsends
        exact attempt_ne_sleeping numRetries result hposition
      · cases h
  | arrive => rfl
  | expire => rfl
  | resume => rfl
  | receive => rfl
  | close => rfl

/-- A message or `fail_all` changes what the future holds, not whether it is there. -/
theorem WritesTracked.map {future : Option ReplyFuture} {call : Option SendCall}
    {cancelled : Bool} (h : WritesTracked results (future, call) cancelled)
    (f : ReplyFuture → ReplyFuture) : WritesTracked results (future.map f, call) cancelled := by
  cases h with
  | idle => exact .idle
  | sleeping hlength hn hok => exact .sleeping hlength hn hok
  | waiting hposition hlength hok => exact .waiting hposition hlength hok
  | ended hend hlength hok hsleeping =>
      refine .ended hend hlength ?_ hsleeping
      rw [Option.map_eq_none_iff, hok]

/-- A call that goes on is awaiting, with an attempt that succeeded. -/
theorem WritesTracked.ok_mem {future : Option ReplyFuture} {timeout : Option ℕ}
    {position : SendPosition} {cancelled : Bool}
    (h : WritesTracked results (future, some ⟨timeout, position⟩) cancelled)
    (hcancelled : cancelled = false)
    (hposition : position.isWaiting = true) :
    results.length ≤ maxRetries + 1 ∧ .ok ∈ results ∧ future.isSome = true := by
  cases h with
  | sleeping => cases hposition
  | waiting _ hlength hok => exact ⟨hlength, hok, rfl⟩
  | ended hend =>
      rw [SendPosition.isEnd_of_isWaiting hposition, hcancelled] at hend
      rcases hend with hend | hend <;> cases hend

theorem Moves.writesTracked {action : ConnectionAction} {cancelled : Bool}
    (hmoves : Moves id action view view') (hwrote : view' = view → action.wrote id = none)
    (hcancelled : cancelled = true → action.caller ≠ some id)
    (h : WritesTracked results view cancelled) :
    WritesTracked (results ++ (action.wrote id).toList) view' cancelled := by
  have hgoes : action.caller = some id → cancelled = false := by
    intro hcaller
    by_contra htrue
    exact hcancelled (by simpa using htrue) hcaller
  cases hmoves with
  | other =>
      rw [hwrote rfl, Option.toList_none, List.append_nil]
      exact h
  | @send timeout result =>
      cases h
      rw [ConnectionAction.wrote, if_pos rfl]
      exact writesTracked_attempt rfl (Nat.zero_le _) List.not_mem_nil .pending timeout result
  | @wake timeout result numRetries future =>
      rw [ConnectionAction.wrote, if_pos rfl]
      cases h with
      | sleeping hlength hn hok => exact writesTracked_attempt hlength hn hok _ timeout result
      | waiting hposition => cases hposition
      | ended hend =>
          rw [hgoes rfl] at hend
          rcases hend with hend | hend <;> cases hend
  | arrive =>
      simp only [ConnectionAction.wrote, Option.toList_none, List.append_nil]
      exact h.map _
  | close =>
      simp only [ConnectionAction.wrote, Option.toList_none, List.append_nil]
      exact h.map _
  | expire =>
      simp only [ConnectionAction.wrote, Option.toList_none, List.append_nil]
      obtain ⟨hlength, hok, hfuture⟩ := h.ok_mem (hgoes rfl) rfl
      obtain ⟨future, rfl⟩ := Option.isSome_iff_exists.mp hfuture
      rw [hgoes rfl]
      exact .waiting rfl hlength hok
  | reply =>
      simp only [ConnectionAction.wrote, Option.toList_none, List.append_nil]
      obtain ⟨hlength, hok, -⟩ := h.ok_mem (hgoes rfl) rfl
      exact .ended (.inl rfl) hlength (iff_of_true rfl hok) nofun
  | disconnect =>
      simp only [ConnectionAction.wrote, Option.toList_none, List.append_nil]
      obtain ⟨hlength, hok, -⟩ := h.ok_mem (hgoes rfl) rfl
      exact .ended (.inl rfl) hlength (iff_of_true rfl hok) nofun
  | cancel =>
      simp only [ConnectionAction.wrote, Option.toList_none, List.append_nil]
      obtain ⟨hlength, hok, -⟩ := h.ok_mem (hgoes rfl) rfl
      rw [hgoes rfl]
      exact .waiting rfl hlength hok
  | timeout =>
      simp only [ConnectionAction.wrote, Option.toList_none, List.append_nil]
      obtain ⟨hlength, hok, -⟩ := h.ok_mem (hgoes rfl) rfl
      exact .ended (.inl rfl) hlength (iff_of_true rfl hok) nofun

/-- `CancelledError` between two attempts: the reply is still expected. -/
theorem WritesTracked.cancel_sleeping {future : Option ReplyFuture} {timeout : Option ℕ} {n : ℕ}
    (h : WritesTracked results (future, some ⟨timeout, .sleeping n⟩) false) :
    WritesTracked results (future, some ⟨timeout, .sleeping n⟩) true := by
  cases h with
  | sleeping hlength hn hok =>
      exact .ended (.inr rfl) (by omega) (iff_of_false nofun hok) fun _ _ => by omega
  | waiting hposition => cases hposition
  | ended hend => rcases hend with hend | hend <;> cases hend

/-- `CancelledError` in `await_reply`, whose `finally` runs. -/
theorem WritesTracked.cancel_waiting {future : Option ReplyFuture} {timeout : Option ℕ}
    {position : SendPosition} (h : WritesTracked results (future, some ⟨timeout, position⟩) false)
    (hposition : position.isWaiting = true) :
    WritesTracked results (none, some ⟨timeout, position⟩) true := by
  obtain ⟨hlength, hok, -⟩ := h.ok_mem rfl hposition
  refine .ended (.inr rfl) hlength (iff_of_true rfl hok) ?_
  rintro n rfl
  cases hposition

theorem writesTracked_cancelTask {id' : Str} (h : s.cancelTask id' = some s')
    (hcancelled : s.cancelled id' = false)
    (htracked : WritesTracked results (s.connection.view id) (s.cancelled id)) :
    WritesTracked results (s'.connection.view id) (s'.cancelled id) := by
  rcases eq_or_ne id id' with rfl | hne
  · rw [hcancelled] at htracked
    simp only [Calls.cancelTask] at h
    split at h
    · rename_i hcall
      cases h
      simp only [Connection.view, hcall, Function.update_self] at htracked ⊢
      exact htracked.cancel_sleeping
    · rename_i hcall
      cases h
      simp only [Connection.view, hcall, Function.update_self] at htracked ⊢
      exact htracked.cancel_waiting rfl
    · rename_i hcall
      cases h
      simp only [Connection.view, hcall, Function.update_self] at htracked ⊢
      exact htracked.cancel_waiting rfl
    · cases h
  · have hsame : s'.connection.view id = s.connection.view id ∧
        s'.cancelled id = s.cancelled id := by
      simp only [Calls.cancelTask] at h
      split at h
      all_goals first
        | (cases h; simp [Connection.view, Function.update_of_ne hne])
        | cases h
    rw [hsame.1, hsame.2]
    exact htracked

theorem writesTracked_step (h : s.step action = some s')
    (htracked : WritesTracked results (s.connection.view id) (s.cancelled id)) :
    WritesTracked (results ++ (action.wrote id).toList) (s'.connection.view id)
      (s'.cancelled id) := by
  cases action with
  | act action =>
      simp only [Calls.step] at h
      split_ifs at h with hcancelled
      obtain ⟨connection, hstep, rfl⟩ := Option.map_eq_some_iff.mp h
      apply (moves_of_step hstep id).writesTracked (wrote_eq_none hstep) _ htracked
      intro htrue hcaller
      rw [hcaller, Option.any_some] at hcancelled
      exact hcancelled htrue
  | cancelTask id' =>
      simp only [Calls.step] at h
      split_ifs at h with hcancelled
      simp only [CallAction.wrote, Option.toList_none, List.append_nil]
      exact writesTracked_cancelTask h (by simpa using hcancelled) htracked

/-! ## Runs -/

/-- The machine as a step relation. -/
abbrev CallStep (s : Calls) (action : CallAction) (s' : Calls) : Prop :=
  s.step action = some s'

theorem writesTracked_of_run {ts : List (Transition Calls CallAction)}
    (hrun : Run CallStep .init ts s) (id : Str) :
    WritesTracked (writes id ts) (s.connection.view id) (s.cancelled id) := by
  apply hrun.history (P := fun ts s =>
    WritesTracked (writes id ts) (s.connection.view id) (s.cancelled id))
  · exact .idle
  · intro xs e ys _ hstep htracked
    have hwrites : writes id (xs ++ [e]) = writes id xs ++ (e.label.wrote id).toList := by
      cases hwrote : e.label.wrote id with
      | none => simp [writes, hwrote]
      | some result => simp [writes, hwrote]
    rw [hwrites]
    exact writesTracked_step hstep htracked

theorem WritesTracked.length_le {cancelled : Bool} (h : WritesTracked results view cancelled) :
    results.length ≤ maxRetries + 1 := by
  cases h with
  | idle => simp
  | sleeping hlength hn => omega
  | waiting _ hlength => exact hlength
  | ended _ hlength => exact hlength

theorem WritesTracked.length_le_of_sleeping {future : Option ReplyFuture} {timeout : Option ℕ}
    {n : ℕ} {cancelled : Bool}
    (h : WritesTracked results (future, some ⟨timeout, .sleeping n⟩) cancelled) :
    results.length ≤ maxRetries := by
  cases h with
  | sleeping hlength hn => omega
  | waiting hposition => cases hposition
  | ended _ _ _ hsleeping => exact hsleeping n rfl

theorem WritesTracked.future_eq_none_iff {future : Option ReplyFuture} {call : SendCall}
    {cancelled : Bool} (h : WritesTracked results (future, some call) cancelled)
    (hend : call.position.isEnd = true ∨ cancelled = true) :
    future = none ↔ .ok ∈ results := by
  cases h with
  | sleeping => rcases hend with hend | hend <;> cases hend
  | waiting hposition =>
      rw [SendPosition.isEnd_of_isWaiting hposition] at hend
      rcases hend with hend | hend <;> cases hend
  | ended _ _ hok => exact hok

/-- A send ends clean exactly if one of its writes succeeded. -/
theorem endsClean_iff {ts : List (Transition Calls CallAction)} (hrun : Run CallStep .init ts s) :
    EndsClean id ts s ↔ (s.Ended id → .ok ∈ writes id ts) := by
  have htracked := writesTracked_of_run hrun id
  have hended : s.Ended id → (s.connection.futures id = none ↔ .ok ∈ writes id ts) := by
    rintro ⟨call, hcall, hend⟩
    rw [Connection.view, hcall] at htracked
    exact htracked.future_eq_none_iff hend
  constructor
  · intro hclean hend
    exact (hended hend).mp (hclean.noReply hend)
  · intro hok
    refine ⟨htracked.length_le, fun n hposition => ?_, fun hend => (hended hend).mpr (hok hend)⟩
    obtain ⟨⟨timeout, position⟩, hcall, rfl⟩ := Option.map_eq_some_iff.mp hposition
    rw [Connection.view, hcall] at htracked
    exact htracked.length_le_of_sleeping

namespace Sample

def correlationId : Str := "a1b2".toList

def reply : Message := message "a1b2" 1

end Sample

open Sample in
/-- The second attempt succeeds, and the reply comes. -/
theorem endsClean_iff_replied :
    ∃ ts s, Run CallStep .init ts s ∧ s.Ended correlationId ∧
      .ok ∈ writes correlationId ts := by
  have hfinal : (Run.exec Calls.step .init
      [.act (.send correlationId none .again), .act (.wake correlationId .ok),
       .act (.arrive reply), .act (.resume correlationId)]).any
        (fun s => decide (s.connection.sends correlationId = some ⟨none, .returned reply⟩ ∧
          s.connection.futures correlationId = none)) = true := by
    decide +kernel
  obtain ⟨ts, s, hrun, hcall, hfuture⟩ := Run.exists_of_any hfinal
  have hended : s.Ended correlationId := ⟨_, hcall, .inl rfl⟩
  have hclean : EndsClean correlationId ts s := by
    have htracked := writesTracked_of_run hrun correlationId
    refine ⟨htracked.length_le, fun n hposition => ?_, fun _ => hfuture⟩
    rw [Connection.position, hcall] at hposition
    cases hposition
  exact ⟨ts, s, hrun, hended, (endsClean_iff hrun).mp hclean hended⟩

open Sample in
/-- Four attempts that ZMQ refuses: the call raises, and a reply is still expected. -/
theorem backoff_leaves_future :
    ∃ ts s, Run CallStep .init ts s ∧ s.Ended correlationId ∧ ¬EndsClean correlationId ts s := by
  have hfinal : (Run.exec Calls.step .init
      [.act (.send correlationId none .again), .act (.wake correlationId .again),
       .act (.wake correlationId .again), .act (.wake correlationId .again)]).any
        (fun s => decide (s.connection.sends correlationId =
            some ⟨none, .raised .sendBackoffTimeoutError⟩ ∧
          s.connection.futures correlationId = some .pending)) = true := by
    decide +kernel
  obtain ⟨ts, s, hrun, hcall, hfuture⟩ := Run.exists_of_any hfinal
  have hended : s.Ended correlationId := ⟨_, hcall, .inl rfl⟩
  refine ⟨ts, s, hrun, hended, fun hclean => ?_⟩
  rw [hclean.noReply hended] at hfuture
  cases hfuture

end Remme.Shared.Messaging
