import Remme.Shared.Messaging
/-!
# Replies reach their caller, once

What a step does to one correlation id depends on its future and its call only
(`Moves`).  Two histories carry the results.  While a call awaits, its future is
pending as long as no message with its id arrived, and else holds the first one.
The queue, after what was received of it, is the list of the unexpected
messages.
-/

namespace Remme.Shared.Messaging

open Remme.Lib

variable {s s' : Connection} {action : ConnectionAction} {id : Str} {msg : Message}
  {ts : List (Transition Connection ConnectionAction)}
  {e : Transition Connection ConnectionAction}

/-! ## One step -/

/-- The future and the call of a correlation id. -/
def Connection.view (s : Connection) (id : Str) : Option ReplyFuture × Option SendCall :=
  (s.futures id, s.sends id)

/-- What a step does to the future and the call of a correlation id. -/
inductive Moves (id : Str) : ConnectionAction → Option ReplyFuture × Option SendCall →
    Option ReplyFuture × Option SendCall → Prop
  | other {action : ConnectionAction} {view : Option ReplyFuture × Option SendCall}
      (harrive : ∀ msg, action = .arrive msg → msg.correlationId ≠ id)
      (hclose : action ≠ .close) (hresume : action ≠ .resume id) : Moves id action view view
  | send {timeout : Option ℕ} {result : WriteResult} {future : Option ReplyFuture} :
      Moves id (.send id timeout result) (future, none)
        (some .pending, some ⟨timeout, attempt 0 result⟩)
  | wake {timeout : Option ℕ} {result : WriteResult} {numRetries : ℕ}
      {future : Option ReplyFuture} :
      Moves id (.wake id result) (future, some ⟨timeout, .sleeping numRetries⟩)
        (future, some ⟨timeout, attempt numRetries result⟩)
  | arrive {msg : Message} {future : Option ReplyFuture} {call : Option SendCall}
      (hid : msg.correlationId = id) :
      Moves id (.arrive msg) (future, call) (future.map (·.setResult msg), call)
  | expire {timeout : ℕ} {future : Option ReplyFuture} :
      Moves id (.expire id) (future, some ⟨some timeout, .awaiting false⟩)
        (future, some ⟨some timeout, .awaiting true⟩)
  | close {future : Option ReplyFuture} {call : Option SendCall} :
      Moves id .close (future, call) (future.map (·.setException), call)
  | reply {timeout : Option ℕ} {expired : Bool} {msg : Message} :
      Moves id (.resume id) (some (.result msg), some ⟨timeout, .awaiting expired⟩)
        (none, some ⟨timeout, .returned msg⟩)
  | disconnect {timeout : Option ℕ} {expired : Bool} :
      Moves id (.resume id) (some .failed, some ⟨timeout, .awaiting expired⟩)
        (none, some ⟨timeout, .raised .disconnectError⟩)
  | cancel {timeout : Option ℕ} :
      Moves id (.resume id) (some .pending, some ⟨timeout, .awaiting true⟩)
        (some .cancelled, some ⟨timeout, .cancelling⟩)
  | timeout {timeout : Option ℕ} {future : Option ReplyFuture} :
      Moves id (.resume id) (future, some ⟨timeout, .cancelling⟩)
        (none, some ⟨timeout, .raised .timeoutError⟩)

/-- A step of the call of another id. -/
theorem view_moveTo_of_ne {other : Str} (hne : id ≠ other) (position : SendPosition) :
    (s.moveTo other position).view id = s.view id := by
  simp [Connection.view, Connection.moveTo, Function.update_of_ne hne]

theorem view_finish_of_ne {other : Str} (hne : id ≠ other) (position : SendPosition) :
    (s.finish other position).view id = s.view id := by
  simp [Connection.view, Connection.finish, Connection.moveTo, Function.update_of_ne hne]

theorem view_cancel_of_ne {other : Str} (hne : id ≠ other) :
    (s.cancel other).view id = s.view id := by
  simp [Connection.view, Connection.cancel, Connection.moveTo, Function.update_of_ne hne]

theorem moves_of_resume {other : Str} (h : s.resume other = some s') (id : Str) :
    Moves id (.resume other) (s.view id) (s'.view id) := by
  rcases eq_or_ne id other with rfl | hne
  · unfold Connection.resume at h
    split at h
    · rename_i hcall hfuture
      cases h
      simpa [Connection.view, Connection.finish, Connection.moveTo, hcall, hfuture] using
        Moves.reply
    · rename_i hcall hfuture
      cases h
      simpa [Connection.view, Connection.finish, Connection.moveTo, hcall, hfuture] using
        Moves.disconnect
    · rename_i hcall hfuture
      cases h
      simpa [Connection.view, Connection.cancel, Connection.moveTo, hcall, hfuture] using
        Moves.cancel
    · rename_i hcall
      cases h
      simpa [Connection.view, Connection.finish, Connection.moveTo, hcall] using Moves.timeout
    · cases h
  · have hview : s'.view id = s.view id := by
      unfold Connection.resume at h
      split at h
      · cases h
        exact view_finish_of_ne hne _
      · cases h
        exact view_finish_of_ne hne _
      · cases h
        exact view_cancel_of_ne hne
      · cases h
        exact view_finish_of_ne hne _
      · cases h
    rw [hview]
    refine .other nofun nofun fun heq => hne ?_
    cases heq
    rfl

theorem moves_of_arrive (id : Str) :
    Moves id (.arrive msg) (s.view id) ((s.routeMsg msg).view id) := by
  rcases eq_or_ne id msg.correlationId with rfl | hne
  · have hview : (s.routeMsg msg).view msg.correlationId =
        ((s.futures msg.correlationId).map (·.setResult msg), s.sends msg.correlationId) := by
      unfold Connection.routeMsg
      split_ifs with hsome
      · simp [Connection.view, Connection.setReply]
      · rw [Option.not_isSome_iff_eq_none] at hsome
        simp [Connection.view, Connection.pushIncoming, hsome]
    rw [hview]
    exact .arrive rfl
  · have hview : (s.routeMsg msg).view id = s.view id := by
      unfold Connection.routeMsg
      split_ifs
      · simp [Connection.view, Connection.setReply, Function.update_of_ne hne]
      · rfl
    rw [hview]
    refine .other (fun msg' heq => ?_) nofun nofun
    cases heq
    exact hne.symm

theorem moves_of_step (h : s.step action = some s') (id : Str) :
    Moves id action (s.view id) (s'.view id) := by
  cases action with
  | send other timeout result =>
      simp only [Connection.step] at h
      split_ifs at h with hnone
      cases h
      rcases eq_or_ne id other with rfl | hne
      · simpa [Connection.view, Connection.expectReply, hnone] using Moves.send
      · have hview : ({ s.expectReply other with
            sends := Function.update s.sends other (some ⟨timeout, attempt 0 result⟩) } :
              Connection).view id = s.view id := by
          simp [Connection.view, Connection.expectReply, Function.update_of_ne hne]
        rw [hview]
        exact .other nofun nofun nofun
  | wake other result =>
      simp only [Connection.step] at h
      split at h
      · rename_i hcall
        cases h
        rcases eq_or_ne id other with rfl | hne
        · simpa [Connection.view, Connection.moveTo, hcall] using Moves.wake
        · rw [view_moveTo_of_ne hne]
          exact .other nofun nofun nofun
      · cases h
  | arrive msg =>
      cases h
      exact moves_of_arrive id
  | expire other =>
      simp only [Connection.step] at h
      split at h
      · rename_i hcall
        cases h
        rcases eq_or_ne id other with rfl | hne
        · simpa [Connection.view, Connection.moveTo, hcall] using Moves.expire
        · rw [view_moveTo_of_ne hne]
          exact .other nofun nofun nofun
      · cases h
  | resume other => exact moves_of_resume h id
  | receive =>
      simp only [Connection.step] at h
      split at h
      · cases h
      · cases h
        exact .other nofun nofun nofun
  | close =>
      cases h
      exact .close

/-! ## What the results are about -/

/-- The call that begins with an action. -/
def ConnectionAction.starts : ConnectionAction → Option Str
  | .send id _ _ => some id
  | _ => none

/-- The message that arrives with an action. -/
def ConnectionAction.arrived : ConnectionAction → Option Message
  | .arrive msg => some msg
  | _ => none

/-- The messages that arrived, in this order. -/
def arrivals (ts : List (Transition Connection ConnectionAction)) : List Message :=
  ts.filterMap (·.label.arrived)

/-- The messages whose correlation id was not expected when they arrived, in this order. -/
def unexpected (ts : List (Transition Connection ConnectionAction)) : List Message :=
  ts.filterMap fun e =>
    e.label.arrived.filter fun msg => (e.pre.futures msg.correlationId).isNone

/-- How the call of a correlation id stands. -/
def Connection.position (s : Connection) (id : Str) : Option SendPosition :=
  (s.sends id).map (·.position)

/-- The step resolves the future of the id with the message. -/
def Resolves (id : Str) (msg : Message) (e : Transition Connection ConnectionAction) : Prop :=
  e.pre.futures id = some .pending ∧ e.post.futures id = some (.result msg)

/-- The message arrived, and resolved the call, as the first with the call's id since the call
began. -/
inductive FirstReply (id : Str) (msg : Message) :
    List (Transition Connection ConnectionAction) → Prop
  | intro {before between after : List (Transition Connection ConnectionAction)}
      {started e : Transition Connection ConnectionAction}
      (hstarted : started.label.starts = some id)
      (hnone : ∀ msg' ∈ arrivals between, msg'.correlationId ≠ id)
      (harrive : e.label = .arrive msg) (hid : msg.correlationId = id)
      (hresolves : Resolves id msg e) :
      FirstReply id msg (before ++ started :: (between ++ e :: after))

/-- The call has begun, and no message with its id arrived since. -/
inductive NoReply (id : Str) : List (Transition Connection ConnectionAction) → Prop
  | intro {before after : List (Transition Connection ConnectionAction)}
      {started : Transition Connection ConnectionAction}
      (hstarted : started.label.starts = some id)
      (hnone : ∀ msg' ∈ arrivals after, msg'.correlationId ≠ id) :
      NoReply id (before ++ started :: after)

@[simp]
theorem arrivals_append (xs ys : List (Transition Connection ConnectionAction)) :
    arrivals (xs ++ ys) = arrivals xs ++ arrivals ys := by
  simp [arrivals]

theorem arrivals_cons : arrivals (e :: ts) = e.label.arrived.toList ++ arrivals ts := by
  unfold arrivals
  cases harrived : e.label.arrived with
  | none => simp [harrived]
  | some msg => simp [harrived]

@[simp]
theorem unexpected_append (xs ys : List (Transition Connection ConnectionAction)) :
    unexpected (xs ++ ys) = unexpected xs ++ unexpected ys := by
  simp [unexpected]

theorem FirstReply.append (h : FirstReply id msg ts) : FirstReply id msg (ts ++ [e]) := by
  cases h with
  | intro hstarted hnone harrive hid hresolves =>
      simp only [List.append_assoc, List.cons_append]
      exact .intro hstarted hnone harrive hid hresolves

theorem NoReply.append (h : NoReply id ts)
    (hother : ∀ msg, e.label = .arrive msg → msg.correlationId ≠ id) : NoReply id (ts ++ [e]) := by
  cases h with
  | intro hstarted hnone =>
      simp only [List.append_assoc, List.cons_append]
      refine .intro hstarted fun msg hmsg => ?_
      rw [arrivals_append, List.mem_append] at hmsg
      rcases hmsg with hmsg | hmsg
      · exact hnone msg hmsg
      · have harrived : e.label.arrived = some msg := by simpa [arrivals] using hmsg
        unfold ConnectionAction.arrived at harrived
        split at harrived
        · rename_i msg' hlabel
          cases harrived
          exact hother _ hlabel
        · cases harrived

/-- The arrival that resolves a call with no reply yet is its first reply. -/
theorem NoReply.firstReply (h : NoReply id ts) (harrive : e.label = .arrive msg)
    (hid : msg.correlationId = id) (hresolves : Resolves id msg e) :
    FirstReply id msg (ts ++ [e]) := by
  cases h with
  | intro hstarted hnone =>
      simp only [List.append_assoc, List.cons_append]
      exact .intro hstarted hnone harrive hid hresolves

/-! ## The future of a call -/

/-- What the future of a call that awaits says about the history. -/
def Follows (ts : List (Transition Connection ConnectionAction)) (id : Str) : ReplyFuture → Prop
  | .pending => NoReply id ts
  | .result msg => FirstReply id msg ts
  | .failed => True
  | .cancelled => False

/-- The history of a call, by its future and its position. -/
def Tracked (ts : List (Transition Connection ConnectionAction)) (id : Str)
    (future : Option ReplyFuture) : SendPosition → Prop
  | .sleeping _ => ∃ f, future = some f ∧ Follows ts id f
  | .awaiting _ => ∃ f, future = some f ∧ Follows ts id f
  | .cancelling => True
  | .returned msg => FirstReply id msg ts
  | .raised _ => True

theorem Follows.append {f : ReplyFuture} (h : Follows ts id f)
    (hother : ∀ msg, e.label = .arrive msg → msg.correlationId ≠ id) :
    Follows (ts ++ [e]) id f := by
  match f with
  | .pending => exact NoReply.append h hother
  | .result msg => exact FirstReply.append h
  | .failed => exact trivial
  | .cancelled => exact h

/-- A step that does to the future what the history allows. -/
theorem Tracked.map {future : Option ReplyFuture} {position : SendPosition}
    {g : ReplyFuture → ReplyFuture} (h : Tracked ts id future position)
    (hg : ∀ f, future = some f → Follows ts id f → Follows (ts ++ [e]) id (g f)) :
    Tracked (ts ++ [e]) id (future.map g) position := by
  match position with
  | .sleeping _ =>
      obtain ⟨f, hf, hfollows⟩ := h
      exact ⟨g f, by rw [hf, Option.map_some], hg f hf hfollows⟩
  | .awaiting _ =>
      obtain ⟨f, hf, hfollows⟩ := h
      exact ⟨g f, by rw [hf, Option.map_some], hg f hf hfollows⟩
  | .cancelling => exact trivial
  | .returned msg => exact FirstReply.append h
  | .raised _ => exact trivial

theorem Tracked.append {future : Option ReplyFuture} {position : SendPosition}
    (h : Tracked ts id future position)
    (hother : ∀ msg, e.label = .arrive msg → msg.correlationId ≠ id) :
    Tracked (ts ++ [e]) id future position := by
  have hmap : future.map (fun f => f) = future := Option.map_id'
  rw [← hmap]
  exact h.map fun f _ hfollows => hfollows.append hother

/-- An attempt ends the call or lets it await with the same future. -/
theorem tracked_attempt {f : ReplyFuture} (h : Follows ts id f) (numRetries : ℕ)
    (result : WriteResult) : Tracked ts id (some f) (attempt numRetries result) := by
  match result with
  | .ok => exact ⟨f, rfl, h⟩
  | .again =>
      simp only [attempt, doBackoff]
      split_ifs
      · exact trivial
      · exact ⟨f, rfl, h⟩
  | .raised => exact trivial

/-- A message with the id arrives: only a pending future takes it. -/
theorem Follows.arrive {f : ReplyFuture} (h : Follows ts id f) (harrive : e.label = .arrive msg)
    (hid : msg.correlationId = id) (hpre : e.pre.futures id = some f)
    (hpost : e.post.futures id = some (f.setResult msg)) :
    Follows (ts ++ [e]) id (f.setResult msg) := by
  match f with
  | .pending => exact NoReply.firstReply h harrive hid ⟨hpre, hpost⟩
  | .result msg' => exact FirstReply.append h
  | .failed => exact trivial
  | .cancelled => exact h

theorem Follows.close {f : ReplyFuture} (h : Follows ts id f) :
    Follows (ts ++ [e]) id f.setException := by
  match f with
  | .pending => exact trivial
  | .result msg' => exact FirstReply.append h
  | .failed => exact trivial
  | .cancelled => exact h

/-- Each step extends the history of a call. -/
theorem Moves.tracked {v v' : Option ReplyFuture × Option SendCall} (h : Moves id e.label v v')
    (hpre : e.pre.futures id = v.1) (hpost : e.post.futures id = v'.1)
    (htracked : ∀ call, v.2 = some call → Tracked ts id v.1 call.position) :
    ∀ call, v'.2 = some call → Tracked (ts ++ [e]) id v'.1 call.position := by
  generalize hlabel : e.label = action at h
  intro call hcall
  cases h with
  | other harrive =>
      apply (htracked call hcall).append
      intro msg heq
      exact harrive msg (hlabel ▸ heq)
  | send =>
      cases hcall
      apply tracked_attempt
      exact .intro (by rw [hlabel]; rfl) nofun
  | wake =>
      cases hcall
      obtain ⟨f, rfl, hfollows⟩ := htracked _ rfl
      exact tracked_attempt (hfollows.append (by rw [hlabel]; exact nofun)) _ _
  | arrive hid =>
      apply (htracked call hcall).map
      rintro f rfl hfollows
      exact hfollows.arrive hlabel hid hpre hpost
  | expire =>
      cases hcall
      obtain ⟨f, rfl, hfollows⟩ := htracked _ rfl
      exact ⟨f, rfl, hfollows.append (by rw [hlabel]; exact nofun)⟩
  | close => exact (htracked call hcall).map fun f _ hfollows => hfollows.close
  | reply =>
      cases hcall
      obtain ⟨f, hf, hfollows⟩ := htracked _ rfl
      cases hf
      exact FirstReply.append hfollows
  | disconnect =>
      cases hcall
      exact trivial
  | cancel =>
      cases hcall
      exact trivial
  | timeout =>
      cases hcall
      exact trivial

/-- The machine as a step relation. -/
abbrev ConnectionStep (s : Connection) (action : ConnectionAction) (s' : Connection) : Prop :=
  s.step action = some s'

theorem tracked_of_run (hrun : Run ConnectionStep .init ts s) (id : Str) :
    ∀ call, s.sends id = some call → Tracked ts id (s.futures id) call.position := by
  apply hrun.history (P := fun ts s =>
    ∀ call, s.sends id = some call → Tracked ts id (s.futures id) call.position)
  · exact nofun
  · intro xs e ys _ hstep htracked
    exact (moves_of_step hstep id).tracked rfl rfl htracked

/-! ## The queue -/

theorem queue_resume (h : s.resume id = some s') :
    s'.received = s.received ∧ s'.queue = s.queue := by
  unfold Connection.resume at h
  split at h
  all_goals first
    | (cases h; exact ⟨rfl, rfl⟩)
    | cases h

/-- An expected message stays out of the queue, an unexpected one goes to its end. -/
theorem queue_routeMsg (s : Connection) (msg : Message) :
    (s.routeMsg msg).queue =
      s.queue ++ if (s.futures msg.correlationId).isNone then [msg] else [] := by
  unfold Connection.routeMsg
  cases hfuture : s.futures msg.correlationId with
  | none => simp [Connection.pushIncoming]
  | some f => simp [Connection.setReply]

theorem received_routeMsg (s : Connection) (msg : Message) :
    (s.routeMsg msg).received = s.received := by
  unfold Connection.routeMsg
  split_ifs
  · rfl
  · rfl

theorem unexpected_arrive :
    unexpected [⟨s, .arrive msg, s'⟩] =
      if (s.futures msg.correlationId).isNone then [msg] else [] := by
  show ((some msg).filter fun msg => (s.futures msg.correlationId).isNone).toList = _
  rw [Option.filter_some]
  split_ifs
  · rfl
  · rfl

/-- A step appends the unexpected message, if any, and a receiver takes from the front. -/
theorem queue_step (hstep : s.step action = some s') :
    s'.received ++ s'.queue = s.received ++ s.queue ++ unexpected [⟨s, action, s'⟩] := by
  cases action with
  | send id timeout result =>
      simp only [Connection.step] at hstep
      split_ifs at hstep
      cases hstep
      simp [unexpected, ConnectionAction.arrived, Connection.expectReply]
  | wake id result =>
      simp only [Connection.step] at hstep
      split at hstep
      · cases hstep
        simp [unexpected, ConnectionAction.arrived, Connection.moveTo]
      · cases hstep
  | arrive msg =>
      obtain rfl : s.routeMsg msg = s' := Option.some.inj hstep
      rw [queue_routeMsg, received_routeMsg, List.append_assoc, unexpected_arrive]
  | expire id =>
      simp only [Connection.step] at hstep
      split at hstep
      · cases hstep
        simp [unexpected, ConnectionAction.arrived, Connection.moveTo]
      · cases hstep
  | resume id =>
      obtain ⟨hreceived, hqueue⟩ := queue_resume hstep
      rw [hreceived, hqueue]
      simp [unexpected, ConnectionAction.arrived]
  | receive =>
      simp only [Connection.step] at hstep
      split at hstep
      · cases hstep
      · rename_i msg queue hqueue
        cases hstep
        simp [unexpected, ConnectionAction.arrived, hqueue]
  | close =>
      obtain rfl : s.failAll = s' := Option.some.inj hstep
      simp [unexpected, ConnectionAction.arrived, Connection.failAll]

theorem queue_of_run (hrun : Run ConnectionStep .init ts s) :
    s.received ++ s.queue = unexpected ts := by
  apply hrun.history (P := fun ts s => s.received ++ s.queue = unexpected ts)
  · rfl
  · intro xs e ys _ hstep hqueue
    rw [queue_step hstep, hqueue, unexpected_append]

/-- Only the arrival of its reply resolves a call. -/
theorem Moves.arrive_of_resolves {v v' : Option ReplyFuture × Option SendCall}
    (h : Moves id action v v') (hpre : v.1 = some .pending) (hpost : v'.1 = some (.result msg)) :
    action = .arrive msg ∧ msg.correlationId = id := by
  cases h with
  | other => exact nomatch hpre.symm.trans hpost
  | send => exact nomatch hpost
  | wake => exact nomatch hpre.symm.trans hpost
  | arrive hid =>
      cases hpre
      cases hpost
      exact ⟨rfl, hid⟩
  | expire => exact nomatch hpre.symm.trans hpost
  | close =>
      cases hpre
      exact nomatch hpost
  | reply => exact nomatch hpre
  | disconnect => exact nomatch hpre
  | cancel => exact nomatch hpost
  | timeout => exact nomatch hpost

/-- The step that resolves a call leaves the queue alone. -/
theorem queue_of_resolves (hstep : e.pre.step e.label = some e.post)
    (hresolves : Resolves id msg e) : e.post.queue = e.pre.queue := by
  obtain ⟨hlabel, hid⟩ :=
    (moves_of_step hstep id).arrive_of_resolves hresolves.1 hresolves.2
  rw [hlabel] at hstep
  have hpost : e.pre.routeMsg msg = e.post := Option.some.inj hstep
  rw [← hpost, queue_routeMsg, hid, hresolves.1]
  simp

/-! ## Disconnection -/

/-- The call awaits a future that has failed. -/
def Disconnecting (v : Option ReplyFuture × Option SendCall) : Prop :=
  ∃ timeout expired, v = (some .failed, some ⟨timeout, .awaiting expired⟩)

/-- The call ended with `DisconnectError`. -/
def Disconnected (v : Option ReplyFuture × Option SendCall) : Prop :=
  ∃ timeout, v.2 = some ⟨timeout, .raised .disconnectError⟩

theorem Moves.disconnecting {v v' : Option ReplyFuture × Option SendCall}
    (h : Moves id action v v') (hv : Disconnecting v) :
    Disconnected v' ∨ (action ≠ .resume id ∧ Disconnecting v') := by
  obtain ⟨timeout, expired, rfl⟩ := hv
  cases h with
  | other _ _ hresume => exact .inr ⟨hresume, timeout, expired, rfl⟩
  | arrive => exact .inr ⟨nofun, timeout, expired, rfl⟩
  | expire => exact .inr ⟨nofun, _, true, rfl⟩
  | close => exact .inr ⟨nofun, timeout, expired, rfl⟩
  | disconnect => exact .inl ⟨timeout, rfl⟩

theorem Moves.disconnected {v v' : Option ReplyFuture × Option SendCall}
    (h : Moves id action v v') (hv : Disconnected v) : Disconnected v' := by
  obtain ⟨timeout, hcall⟩ := hv
  cases h with
  | other => exact ⟨timeout, hcall⟩
  | arrive => exact ⟨timeout, hcall⟩
  | close => exact ⟨timeout, hcall⟩
  | send => cases hcall
  | wake => cases hcall
  | expire => cases hcall
  | reply => cases hcall
  | disconnect => cases hcall
  | cancel => cases hcall
  | timeout => cases hcall

/-- Once its future has failed, a call can only end with `DisconnectError`. -/
theorem disconnected_of_run {u : Connection} (hrun : Run ConnectionStep u ts s)
    (hu : Disconnecting (u.view id)) :
    Disconnected (s.view id) ∨
      ((∀ e ∈ ts, e.label ≠ .resume id) ∧ Disconnecting (s.view id)) := by
  apply hrun.history (P := fun ts s => Disconnected (s.view id) ∨
    ((∀ e ∈ ts, e.label ≠ .resume id) ∧ Disconnecting (s.view id)))
  · exact .inr ⟨nofun, hu⟩
  · intro xs e ys _ hstep hbefore
    have hmoves := moves_of_step hstep id
    rcases hbefore with hdone | ⟨hnone, hwaits⟩
    · exact .inl (hmoves.disconnected hdone)
    · rcases hmoves.disconnecting hwaits with hdone | ⟨hresume, hstill⟩
      · exact .inl hdone
      · refine .inr ⟨?_, hstill⟩
        rw [List.forall_mem_append, List.forall_mem_singleton]
        exact ⟨hnone, hresume⟩

theorem position_of_disconnected (h : Disconnected (s.view id)) :
    s.position id = some (.raised .disconnectError) := by
  obtain ⟨timeout, hcall⟩ := h
  have hsends : s.sends id = some ⟨timeout, .raised .disconnectError⟩ := hcall
  rw [Connection.position, hsends, Option.map_some]

/-- A call whose future has failed can go on, and then ends. -/
theorem resume_of_disconnecting (h : Disconnecting (s.view id)) :
    ∃ s', s.step (.resume id) = some s' ∧
      s'.position id = some (.raised .disconnectError) := by
  obtain ⟨timeout, expired, hview⟩ := h
  obtain ⟨hfuture, hcall⟩ := Prod.mk.inj hview
  refine ⟨s.finish id (.raised .disconnectError), ?_, ?_⟩
  · simp only [Connection.step, Connection.resume, hcall, hfuture]
  · simp [Connection.position, Connection.finish, Connection.moveTo, hcall]

/-! ## Runs -/

/-- What a run does with the messages that arrived and the calls of `send`. -/
structure RepliesDelivered (ts : List (Transition Connection ConnectionAction))
    (s : Connection) : Prop where
  /-- A call returns the first message with its id that arrived since it began. -/
  own : ∀ id msg, s.position id = some (.returned msg) → FirstReply id msg ts
  /-- If none with its id arrived before, that is the first of all. -/
  first : ∀ id msg, s.position id = some (.returned msg) →
    (∀ before started after, ts = before ++ started :: after → started.label.starts = some id →
      ∀ msg' ∈ arrivals before, msg'.correlationId ≠ id) →
    (arrivals ts).find? (·.correlationId = id) = some msg
  /-- What was received and what still waits are the unexpected messages, each once and in
  the order of their arrival. -/
  queued : s.received ++ s.queue = unexpected ts
  /-- No step both resolves a call and appends to the queue. -/
  exclusive : ∀ e ∈ ts, ∀ id msg msg',
    ¬(Resolves id msg e ∧ e.post.queue = e.pre.queue ++ [msg'])
  /-- A call that awaits its reply when `close` runs has ended with `DisconnectError`, or has not
  gone on since and ends so as soon as it does. -/
  disconnected : ∀ before e after id timeout expired, ts = before ++ e :: after →
    e.label = .close → e.pre.futures id = some .pending →
    e.pre.sends id = some ⟨timeout, .awaiting expired⟩ →
    s.position id = some (.raised .disconnectError) ∨
      ((∀ e' ∈ after, e'.label ≠ .resume id) ∧
        ∃ s', s.step (.resume id) = some s' ∧
          s'.position id = some (.raised .disconnectError))

theorem FirstReply.find? (h : FirstReply id msg ts)
    (hfresh : ∀ before started after, ts = before ++ started :: after →
      started.label.starts = some id → ∀ msg' ∈ arrivals before, msg'.correlationId ≠ id) :
    (arrivals ts).find? (·.correlationId = id) = some msg := by
  cases h with
  | @intro before between after started e hstarted hnone harrive hid _ =>
      have hbefore := hfresh before started _ rfl hstarted
      have hstart : started.label.arrived = none := by
        unfold ConnectionAction.starts at hstarted
        split at hstarted
        · rename_i hlabel
          rw [hlabel]
          rfl
        · cases hstarted
      have harrivals : arrivals (before ++ started :: (between ++ e :: after)) =
          arrivals before ++ (arrivals between ++ msg :: arrivals after) := by
        have harrived : e.label.arrived = some msg := by
          rw [harrive]
          rfl
        rw [arrivals_append, arrivals_cons, hstart, arrivals_append, arrivals_cons, harrived]
        rfl
      rw [harrivals, List.find?_append, List.find?_append,
        List.find?_eq_none.mpr (by simpa using hbefore),
        List.find?_eq_none.mpr (by simpa using hnone)]
      simp [hid]

/-- Replies reach their own caller, once. -/
theorem replies_delivered (hrun : Run ConnectionStep .init ts s) : RepliesDelivered ts s := by
  have hown : ∀ id msg, s.position id = some (.returned msg) → FirstReply id msg ts := by
    intro id msg hposition
    obtain ⟨call, hcall, hreturned⟩ := Option.map_eq_some_iff.mp hposition
    have htracked := tracked_of_run hrun id call hcall
    rw [hreturned] at htracked
    exact htracked
  refine ⟨hown, fun id msg hposition => (hown id msg hposition).find?, queue_of_run hrun, ?_, ?_⟩
  · intro e he id msg msg' hboth
    obtain ⟨hresolves, hqueue⟩ := hboth
    rw [queue_of_resolves (hrun.step_of_mem he) hresolves] at hqueue
    simp at hqueue
  · rintro before e after id timeout expired rfl hclose hpending hcall
    obtain ⟨-, hstep, hafter⟩ := hrun.split
    rw [hclose] at hstep
    have hpost : e.pre.failAll = e.post := Option.some.inj hstep
    have hfailed : Disconnecting (e.post.view id) := by
      refine ⟨timeout, expired, ?_⟩
      rw [← hpost]
      show ((e.pre.futures id).map (·.setException), e.pre.sends id) = _
      rw [hpending, hcall]
      rfl
    rcases disconnected_of_run hafter hfailed with hdone | ⟨hnone, hwaits⟩
    · exact .inl (position_of_disconnected hdone)
    · exact .inr ⟨hnone, resume_of_disconnecting hwaits⟩

namespace Sample

def message (correlationId : String) (content : UInt8) : Message where
  messageType := 0
  correlationId := correlationId.toList
  content := [content]

/-- One call gets its reply, twice and once more too late; one times out, and its reply comes
while it is being cancelled; one still awaits when the connection closes. -/
def connectionActions : List ConnectionAction :=
  [.send "a".toList (some 5) .ok, .send "b".toList (some 5) .ok, .send "c".toList none .again,
   .arrive (message "event" 1), .arrive (message "a" 2), .arrive (message "a" 3),
   .resume "a".toList, .arrive (message "a" 4),
   .expire "b".toList, .resume "b".toList, .arrive (message "b" 5), .resume "b".toList,
   .wake "c".toList .ok, .receive, .close, .resume "c".toList]

end Sample

open Sample in
theorem replies_delivered_connectionActions :
    ∃ ts s, Run ConnectionStep .init ts s ∧ RepliesDelivered ts s ∧
      s.position "a".toList = some (.returned (message "a" 2)) ∧
      s.position "b".toList = some (.raised .timeoutError) ∧
      s.position "c".toList = some (.raised .disconnectError) ∧
      s.received = [message "event" 1] ∧ s.queue = [message "a" 4] := by
  have hfinal : (Run.exec Connection.step .init connectionActions).any
      (fun s => decide (s.position "a".toList = some (.returned (message "a" 2)) ∧
        s.position "b".toList = some (.raised .timeoutError) ∧
        s.position "c".toList = some (.raised .disconnectError) ∧
        s.received = [message "event" 1] ∧ s.queue = [message "a" 4])) = true := by
    decide +kernel
  obtain ⟨ts, s, hrun, hstate⟩ := Run.exists_of_any hfinal
  exact ⟨ts, s, hrun, replies_delivered hrun, hstate⟩

end Remme.Shared.Messaging
