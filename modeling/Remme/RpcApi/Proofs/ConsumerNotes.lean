import Remme.RpcApi.Proofs.Consumers
/-!
# What the consumers send

Between two awaits a consumer sends nothing or begins one send, whose hash is
that of the notification.  In every run the hashes that were sent are those of
the notifications, and no other hash is in the set.
-/

namespace Remme.RpcApi

open Remme.Lib Remme.Protos Remme.Shared Remme.Tp

/-! ## What a consumer sends -/

/-- What is left for a task that awaits. -/
def Position.rest : Position → Work
  | .fetching _ _ _ rest => rest
  | .sending _ rest => rest
  | _ => []

section Notes

variable {B : Type} {π : Platform B} {allowed : EventName → Prop} {ws : WsState} {n : EventName}
  {rest : Work}

variable (π allowed) in
/-- What a task does between two awaits: it sends nothing, or begins one send.  Only the names that
are allowed are sent, and left for later. -/
structure Progress.Notes (ws : WsState) (p : Progress) : Prop where
  sent : (p.began = none ∧ p.ws.sent = ws.sent) ∨
    ∃ notification h, p.began = some h ∧ p.ws.sent = ws.sent ++ [notification] ∧
      prepareEvtHash π notification.eventType notification.attributes = .ok h ∧
      allowed notification.eventType
  rest : ∀ item ∈ p.position.rest, allowed item.2

theorem Progress.notes_fail (ws : WsState) (err : PyError) :
    (Progress.fail ws err).Notes π allowed ws where
  sent := .inl ⟨rfl, rfl⟩
  rest := fun _ hitem => by cases hitem

/-- A notification goes with the hash of its response. -/
theorem toSend_eq_ok {msgId : PyVal} {response : Option PyVal} {notification : Notification}
    {evthash : Str} (h : toSend π ws n msgId response = .ok (some (notification, evthash))) :
    notification.eventType = n ∧ prepareEvtHash π n notification.attributes = .ok evthash := by
  unfold toSend at h
  cases response with
  | none => cases h
  | some response =>
      simp only at h
      split_ifs at h with hfalsy
      · cases h
      cases hhash : prepareEvtHash π n response with
      | error err => simp [hhash, Bind.bind, Except.bind] at h
      | ok found =>
          cases hseen : ws.evthashes with
          | none => simp [hhash, hseen, Bind.bind, Except.bind] at h
          | some evthashes =>
              simp only [hhash, hseen, Bind.bind, Except.bind, pure, Except.pure,
                Except.ok.injEq] at h
              split_ifs at h with hmem
              cases h
              exact ⟨rfl, hhash⟩

theorem offer_notes {next : Progress} (hn : allowed n) (hrest : ∀ item ∈ rest, allowed item.2)
    (hnext : next.Notes π allowed ws) (msgId : PyVal) (response : Option PyVal) :
    (offer π ws n msgId response rest next).Notes π allowed ws := by
  unfold offer
  cases hsend : toSend π ws n msgId response with
  | error err => exact Progress.notes_fail ws err
  | ok out =>
      cases out with
      | none => exact hnext
      | some found =>
          obtain ⟨notification, evthash⟩ := found
          obtain ⟨heventType, hhash⟩ := toSend_eq_ok hsend
          refine ⟨.inr ⟨notification, evthash, rfl, rfl, ?_, ?_⟩, hrest⟩
          · rwa [heventType]
          · rwa [heventType]

theorem advance_notes {work : Work} (hwork : ∀ item ∈ work, allowed item.2) :
    (advance π ws work).Notes π allowed ws := by
  fun_induction advance π ws work with
  | case1 ws => exact ⟨.inl ⟨rfl, rfl⟩, fun _ hitem => by cases hitem⟩
  | case2 ws evt n rest hnone ih =>
      exact ih fun item hitem => hwork item (List.mem_cons_of_mem _ hitem)
  | case3 ws evt n rest subscription hnone hsome ih =>
      have hnotes := ih fun item hitem => hwork item (List.mem_cons_of_mem _ hitem)
      exact ⟨hnotes.sent, hnotes.rest⟩
  | case4 => exact Progress.notes_fail _ _
  | case5 ws evt n rest subscription seen hseen hsubscribed hstate ih =>
      exact ih fun item hitem => hwork item (List.mem_cons_of_mem _ hitem)
  | case6 ws evt n rest subscription seen hseen hsubscribed state hstate hfalsy ih =>
      exact ih fun item hitem => hwork item (List.mem_cons_of_mem _ hitem)
  | case7 => exact Progress.notes_fail _ _
  | case8 ws evt n rest =>
      exact ⟨.inl ⟨rfl, rfl⟩, fun item hitem => hwork item (List.mem_cons_of_mem _ hitem)⟩
  | case9 ws evt n rest subscription seen hseen hsubscribed state hstate hfalsy response hresponse
      ih =>
      have hrest : ∀ item ∈ rest, allowed item.2 :=
        fun item hitem => hwork item (List.mem_cons_of_mem _ hitem)
      exact offer_notes (hwork _ List.mem_cons_self) hrest (ih hrest) _ _

theorem resumeFetch_notes (hblocks : allowed .blocks) (hrest : ∀ item ∈ rest, allowed item.2)
    (msgId state : PyVal) (information : Except PyError BlockInfo) :
    (resumeFetch π ws msgId state rest information).Notes π allowed ws := by
  cases information with
  | error err => exact Progress.notes_fail ws err
  | ok information => exact offer_notes hblocks hrest (advance_notes hrest) _ _

theorem resumeSend_notes (hrest : ∀ item ∈ rest, allowed item.2) (evthash : Str) :
    (resumeSend π ws evthash rest).Notes π allowed ws := by
  unfold resumeSend
  cases hseen : ws.evthashes with
  | none => exact Progress.notes_fail ws _
  | some evthashes =>
      have hnotes : Progress.Notes π allowed { ws with evthashes := some (evthash :: evthashes) }
          (advance π { ws with evthashes := some (evthash :: evthashes) } rest) :=
        advance_notes hrest
      exact ⟨hnotes.sent, hnotes.rest⟩

end Notes

/-! ## The steps of the consumers -/

/-- The batch events of a message, while the websocket is subscribed to them. -/
def WsState.heard (ws : WsState) (msg : StreamMessage) : List Event :=
  if (ws.subsevt .batch).isSome then
    msg.events.filter fun evt => evt.eventType = EventType.remmeBatchDelta.value
  else []

/-- The batch events that a consumer takes. -/
def Consumers.heard (c : Consumers) (action : ConsumerAction) : List Event :=
  match action, c.queue with
  | .receive _, msg :: _ => c.ws.heard msg
  | _, _ => []

section Steps

variable {B : Type} {π : Platform B} {c c' : Consumers} {action : ConsumerAction} {task : ℕ}
  {queue : List StreamMessage} {p : Progress}

/-- Which task goes on, and with what. -/
theorem progress_cases (h : c.progress π action = some (task, queue, p)) :
    (∃ msg, action = .receive task ∧ c.queue = msg :: queue ∧ p = advance π c.ws msg.work) ∨
    queue = c.queue ∧
      ((∃ information msgId state index rest, action = .fetched task information ∧
        c.tasks[task]? = some (.fetching msgId state index rest) ∧
        p = resumeFetch π c.ws msgId state rest information) ∨
      ∃ evthash rest, action = .sent task ∧ c.tasks[task]? = some (.sending evthash rest) ∧
        p = resumeSend π c.ws evthash rest) := by
  unfold Consumers.progress at h
  split at h
  · split at h
    · rename_i hqueue
      cases h
      exact .inl ⟨_, rfl, hqueue, rfl⟩
    · cases h
  · split at h
    · rename_i htask
      cases h
      exact .inr ⟨rfl, .inl ⟨_, _, _, _, _, rfl, htask, rfl⟩⟩
    · cases h
  · split at h
    · rename_i htask
      cases h
      exact .inr ⟨rfl, .inr ⟨_, _, rfl, htask, rfl⟩⟩
    · cases h
  · cases h

/-- Any names are sent. -/
theorem progress_notes (h : c.progress π action = some (task, queue, p)) :
    p.Notes π (fun _ => True) c.ws := by
  obtain ⟨msg, -, -, rfl⟩ | ⟨-, ⟨information, msgId, state, index, rest, -, -, rfl⟩ |
    ⟨evthash, rest, -, -, rfl⟩⟩ := progress_cases h
  · exact advance_notes fun _ _ => trivial
  · exact resumeFetch_notes trivial (fun _ _ => trivial) _ _ _
  · exact resumeSend_notes (fun _ _ => trivial) _

/-- A call or an arrival: nothing is sent. -/
structure Idle (action : ConsumerAction) (c c' : Consumers) : Prop where
  heard : c.heard action = []
  sent : c'.ws.sent = c.ws.sent
  tasks : ∀ position ∈ c'.tasks, position ∈ c.tasks ∨ position = .receiving
  queue : ∀ msg ∈ c'.queue, msg ∈ c.queue ∨ action = .arrive msg

theorem idle_of_step (hnone : c.progress π action = none) (h : c.step π action = some c') :
    Idle action c c' := by
  cases action with
  | subscribe n subscription =>
      simp only [Consumers.step] at h
      split at h
      · cases h
      · cases h
        refine ⟨rfl, rfl, fun position hposition => ?_, fun msg hmsg => .inl hmsg⟩
        rcases List.mem_append.mp hposition with hold | hnew
        · exact .inl hold
        · exact .inr (List.mem_singleton.mp hnew)
  | unsubscribe n =>
      simp only [Consumers.step] at h
      split at h
      · cases h
      · cases h
        exact ⟨rfl, rfl, fun _ hposition => .inl hposition, fun _ hmsg => .inl hmsg⟩
  | arrive msg =>
      cases h
      refine ⟨rfl, rfl, fun _ hposition => .inl hposition, fun msg' hmsg => ?_⟩
      rcases List.mem_append.mp hmsg with hold | hnew
      · exact .inl hold
      · exact .inr (List.mem_singleton.mp hnew ▸ rfl)
  | receive task => simp [Consumers.step, hnone] at h
  | fetched task information => simp [Consumers.step, hnone] at h
  | sent task => simp [Consumers.step, hnone] at h

/-- What is in the queue was there, or has just arrived. -/
theorem mem_queue_of_step (h : c.step π action = some c') {msg : StreamMessage}
    (hmsg : msg ∈ c'.queue) : msg ∈ c.queue ∨ action = .arrive msg := by
  obtain ⟨hnone, -⟩ | ⟨task, queue, p, hprogress, rfl⟩ := step_cases h
  · exact (idle_of_step hnone h).queue msg hmsg
  · obtain ⟨msg', -, hqueue, -⟩ | ⟨hqueue, -⟩ := progress_cases hprogress
    · rw [hqueue]
      exact .inl (List.mem_cons_of_mem _ hmsg)
    · exact .inl (hqueue ▸ hmsg)

variable (π) in
/-- The hashes that were sent are those of the notifications, and only they are in the set. -/
structure Consumers.Kept (c : Consumers) : Prop where
  tracked : SendsTracked c
  seen : ∀ h ∈ c.ws.hashes, h ∈ c.sends
  hashed : ∀ h, h ∈ c.sends ↔ ∃ notification ∈ c.ws.sent,
    prepareEvtHash π notification.eventType notification.attributes = .ok h

theorem Consumers.kept_init : Consumers.init.Kept π where
  tracked := sendsTracked_init
  seen := fun h hh => by cases hh
  hashed := by simp [Consumers.init]

theorem Consumers.Kept.step (hkept : c.Kept π) (h : c.step π action = some c') : c'.Kept π := by
  have htracked := hkept.tracked.step h
  obtain ⟨hnone, hquiet⟩ | ⟨task, queue, p, hprogress, rfl⟩ := step_cases h
  · refine ⟨htracked, ?_, ?_⟩
    · rw [hquiet.hashes, hquiet.sends]
      exact hkept.seen
    · rw [hquiet.sends, (idle_of_step hnone h).sent]
      exact hkept.hashed
  · have hrun := hkept.tracked.taskRun hprogress
    refine ⟨htracked, fun h hh => ?_, fun h => ?_⟩
    · apply List.mem_append_left
      rcases (hrun.hashes h).mp hh with hseen | hsending
      · exact hkept.seen h hseen
      · exact hkept.tracked.counted task h hsending
    · change h ∈ c.sends ++ p.began.toList ↔ ∃ notification ∈ p.ws.sent, _
      obtain ⟨hbegan, hsent⟩ | ⟨notification, h', hbegan, hsent, hhash, -⟩ :=
        (progress_notes hprogress).sent
      · rw [hbegan, hsent, Option.toList_none, List.append_nil]
        exact hkept.hashed h
      · rw [hbegan, hsent, Option.toList_some, List.mem_append, List.mem_singleton, hkept.hashed]
        simp only [List.mem_append, List.mem_singleton, or_and_right, exists_or, exists_eq_left,
          hhash, Except.ok.injEq]
        exact or_congr Iff.rfl eq_comm

end Steps

end Remme.RpcApi
