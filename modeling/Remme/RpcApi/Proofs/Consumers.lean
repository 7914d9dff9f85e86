import Remme.RpcApi.Consumers
import Remme.Tp.Script
/-!
# Sends of several consumers

Between the check of a hash and its insertion a consumer awaits its send.  A
second consumer that comes to the same hash in between finds it missing and
sends again; that is the only way to a second send of one hash.  Every hash
that was sent is in the set or is being sent, so a send repeats a hash exactly
if another task still awaits the send of it.
-/

namespace Remme.RpcApi

open Remme.Lib Remme.Protos Remme.Shared Remme.Tp

variable {B : Type} (π : Platform B)

/-! ## Running to the next await -/

/-- The hashes of the websocket. -/
def WsState.hashes (ws : WsState) : List Str := ws.evthashes.getD []

/-- What a task does between two awaits: it adds no hash, and a send that it begins is of a new
hash. -/
structure Progress.Fair (ws : WsState) (p : Progress) : Prop where
  hashes : p.ws.evthashes = ws.evthashes
  began : ∀ h, p.began = some h ↔ ∃ rest, p.position = .sending h rest
  isNew : ∀ h, p.began = some h → h ∉ ws.hashes

theorem Progress.fair_fail (ws : WsState) (err : PyError) : (Progress.fail ws err).Fair ws where
  hashes := rfl
  began := by simp [Progress.fail]
  isNew := by simp [Progress.fail]

theorem Progress.fair_send {ws : WsState} (notification : Notification) {evthash : Str}
    (rest : Work) (hnew : evthash ∉ ws.hashes) :
    (Progress.send ws notification evthash rest).Fair ws where
  hashes := rfl
  began := by simp [Progress.send]
  isNew := by
    rintro h hbegan
    obtain rfl : evthash = h := Option.some.inj hbegan
    exact hnew

/-- A response is sent for a hash that is missing. -/
theorem not_mem_of_toSend {ws : WsState} {n : EventName} {msgId : PyVal} {response : Option PyVal}
    {notification : Notification} {evthash : Str}
    (h : toSend π ws n msgId response = .ok (some (notification, evthash))) :
    evthash ∉ ws.hashes := by
  unfold toSend at h
  cases response with
  | none => simp at h
  | some response =>
      simp only at h
      split_ifs at h with hfalsy
      · cases h
      cases hhash : prepareEvtHash π n response with
      | error err => simp [hhash, bind, Except.bind] at h
      | ok found =>
          cases hseen : ws.evthashes with
          | none => simp [hhash, hseen, bind, Except.bind] at h
          | some evthashes =>
              simp only [hhash, hseen, bind, Except.bind, pure, Except.pure, Except.ok.injEq] at h
              split_ifs at h with hmem
              simp only [Option.some.injEq, Prod.mk.injEq] at h
              rw [WsState.hashes, hseen, ← h.2]
              exact hmem

theorem offer_fair {ws : WsState} {next : Progress} (h : next.Fair ws) (n : EventName)
    (msgId : PyVal) (response : Option PyVal) (rest : Work) :
    (offer π ws n msgId response rest next).Fair ws := by
  unfold offer
  cases hsend : toSend π ws n msgId response with
  | error err => exact Progress.fair_fail ws err
  | ok out =>
      cases out with
      | none => exact h
      | some found => exact Progress.fair_send found.1 rest (not_mem_of_toSend π hsend)

theorem advance_fair (ws : WsState) (work : Work) : (advance π ws work).Fair ws := by
  fun_induction advance π ws work with
  | case1 ws => exact ⟨rfl, by simp, by simp⟩
  | case2 ws evt n rest hnone ih => exact ih
  | case3 ws evt n rest subscription hnone hsome ih => exact ⟨ih.hashes, ih.began, ih.isNew⟩
  | case4 => exact Progress.fair_fail _ _
  | case5 => assumption
  | case6 => assumption
  | case7 => exact Progress.fair_fail _ _
  | case8 => exact ⟨rfl, by simp, by simp⟩
  | case9 ws evt n rest subscription seen hseen hsubscribed state hstate hfalsy response hresponse
      ih => exact offer_fair π ih n subscription.msgId response rest

theorem resumeFetch_fair (ws : WsState) (msgId state : PyVal) (rest : Work)
    (information : Except PyError BlockInfo) :
    (resumeFetch π ws msgId state rest information).Fair ws := by
  cases information with
  | error err => exact Progress.fair_fail ws err
  | ok information => exact offer_fair π (advance_fair π ws rest) _ _ _ _

/-! ## A consumer alone -/

/-- A task goes on from an await until it waits for the next message, with nothing in between. -/
inductive Completes (getBlockInfo : ℤ → Except PyError BlockInfo) :
    WsState → Position → WsState → Prop
  | receiving {ws : WsState} : Completes getBlockInfo ws .receiving ws
  | fetched {ws ws' : WsState} {msgId state : PyVal} {index : ℤ} {rest : Work}
      (h : Completes getBlockInfo (resumeFetch π ws msgId state rest (getBlockInfo index)).ws
        (resumeFetch π ws msgId state rest (getBlockInfo index)).position ws') :
      Completes getBlockInfo ws (.fetching msgId state index rest) ws'
  | sent {ws ws' : WsState} {evthash : Str} {rest : Work}
      (h : Completes getBlockInfo (resumeSend π ws evthash rest).ws
        (resumeSend π ws evthash rest).position ws') :
      Completes getBlockInfo ws (.sending evthash rest) ws'

section Alone

variable {getBlockInfo : ℤ → Except PyError BlockInfo} {ws ws₁ ws' : WsState}

/-- A response as the synchronous loop body deals with it. -/
def settle (ws : WsState) (n : EventName) (msgId : PyVal) (response : Option PyVal) :
    Except PyError WsState :=
  (toSend π ws n msgId response).map fun
    | none => ws
    | some (notification, evthash) =>
        { ws with
          evthashes := ws.evthashes.map (evthash :: ·)
          sent := ws.sent ++ [notification] }

theorem completes_offer {n : EventName} {msgId : PyVal} {response : Option PyVal} {rest : Work}
    (hopen : ws.evthashes.isSome) (hsettle : settle π ws n msgId response = .ok ws₁)
    (hrest : Completes π getBlockInfo (advance π ws₁ rest).ws (advance π ws₁ rest).position ws') :
    Completes π getBlockInfo (offer π ws n msgId response rest (advance π ws rest)).ws
      (offer π ws n msgId response rest (advance π ws rest)).position ws' := by
  obtain ⟨seen, hseen⟩ := Option.isSome_iff_exists.mp hopen
  unfold settle at hsettle
  unfold offer
  cases hsend : toSend π ws n msgId response with
  | error err =>
      rw [hsend] at hsettle
      cases hsettle
  | ok out =>
      rw [hsend] at hsettle
      cases out with
      | none =>
          obtain rfl : ws = ws₁ := Except.ok.inj hsettle
          exact hrest
      | some found =>
          obtain ⟨notification, evthash⟩ := found
          have hws : { ws with evthashes := ws.evthashes.map (evthash :: ·),
                               sent := ws.sent ++ [notification] } = ws₁ :=
            Except.ok.inj hsettle
          rw [hseen, Option.map_some] at hws
          apply Completes.sent
          simp only [Progress.send, resumeSend, hseen]
          rw [hws]
          exact hrest

/-- The synchronous loop body: what it prepares, it settles. -/
theorem settle_of_processName {evt : Event} {n : EventName} {subscription : Subscription n}
    {seen : List Str} {state : PyVal} (hsubscribed : ws.subsevt n = some subscription)
    (hseen : ws.evthashes = some seen) (hstate : parseEvt n evt = .ok (some state))
    (hfalsy : ¬state.isFalsy = true)
    (h : processName π getBlockInfo evt n ws = .ok () ws₁) :
    ∃ response, prepareResponse getBlockInfo n state subscription.validatedData = .ok response ∧
      settle π ws n subscription.msgId response = .ok ws₁ := by
  unfold processName at h
  simp only [hsubscribed, hseen, prepareNotification, hstate, bind, Except.bind,
    hfalsy] at h
  cases hresponse : prepareResponse getBlockInfo n state subscription.validatedData with
  | error err => simp [hresponse] at h
  | ok response =>
      refine ⟨response, rfl, ?_⟩
      simp only [hresponse] at h
      unfold settle toSend
      cases response with
      | none => simpa [pure, Except.pure, Except.map] using h
      | some response =>
          by_cases hempty : response.isFalsy = true
          · simpa [hempty, pure, Except.pure, Except.map] using h
          · cases hhash : prepareEvtHash π n response with
            | error err => simp [hempty, hhash] at h
            | ok evthash =>
                by_cases hmem : evthash ∈ seen
                · simpa [hempty, hhash, hseen, hmem, bind, Except.bind, pure, Except.pure,
                    Except.map] using h
                · simpa [hempty, hhash, hseen, hmem, bind, Except.bind, pure, Except.pure,
                    Except.map] using h

theorem eq_blocks_of_fetch {n : EventName} {state : PyVal} {validatedData : n.ValidatedData}
    {index : ℤ} (h : startResponse n state validatedData = .ok (.fetch index)) : n = .blocks := by
  match n, validatedData with
  | .blocks, _ => rfl
  | .batch, _ => cases h
  | .transfer, address =>
      simp only [startResponse] at h
      cases hresponse : prepareTransferResponse state address <;>
        simp [hresponse, Except.map] at h
  | .atomicSwap, (_, id) =>
      simp only [startResponse] at h
      cases hresponse : prepareSwapResponse state id <;> simp [hresponse, Except.map] at h

/-- The loop body with a response to prepare, before or after a fetch. -/
theorem completes_startResponse {n : EventName} {subscription : Subscription n} {state : PyVal}
    {response : Option PyVal} {rest : Work} (hopen : ws.evthashes.isSome)
    (hresponse : prepareResponse getBlockInfo n state subscription.validatedData = .ok response)
    (hsettle : settle π ws n subscription.msgId response = .ok ws₁)
    (hrest : Completes π getBlockInfo (advance π ws₁ rest).ws (advance π ws₁ rest).position ws')
    {p : Progress}
    (hp : p = match startResponse n state subscription.validatedData with
      | .error err => .fail ws err
      | .ok (.fetch index) =>
          { ws := ws, position := .fetching subscription.msgId state index rest, began := none }
      | .ok (.response response) =>
          offer π ws n subscription.msgId response rest (advance π ws rest)) :
    Completes π getBlockInfo p.ws p.position ws' := by
  rw [prepareResponse_eq] at hresponse
  cases hstart : startResponse n state subscription.validatedData with
  | error err =>
      rw [hstart] at hresponse
      cases hresponse
  | ok prepared =>
      rw [hstart] at hresponse hp
      cases prepared with
      | response response' =>
          obtain rfl : response' = response := Except.ok.inj hresponse
          rw [hp]
          exact completes_offer π hopen hsettle hrest
      | fetch index =>
          obtain rfl := eq_blocks_of_fetch hstart
          change (getBlockInfo index).map _ = _ at hresponse
          rw [hp]
          apply Completes.fetched
          cases hinfo : getBlockInfo index with
          | error err =>
              rw [hinfo] at hresponse
              cases hresponse
          | ok information =>
              rw [hinfo] at hresponse
              obtain rfl : some (blockResponse state information) = response :=
                Except.ok.inj hresponse
              exact completes_offer π hopen hsettle hrest

/-- One turn of the synchronous loop, in front of what a task alone does. -/
theorem completes_cons {evt : Event} {n : EventName} {rest : Work}
    (hone : processName π getBlockInfo evt n ws = .ok () ws₁)
    (hnext : Completes π getBlockInfo (advance π ws₁ rest).ws (advance π ws₁ rest).position ws') :
    Completes π getBlockInfo (advance π ws ((evt, n) :: rest)).ws
      (advance π ws ((evt, n) :: rest)).position ws' := by
  match hsubscribed : ws.subsevt n, hseen : ws.evthashes, hparse : parseEvt n evt with
  | none, _, _ =>
      simp only [processName, hsubscribed] at hone
      simp only [advance, hsubscribed]
      obtain rfl : ws = ws₁ := (EStateM.Result.ok.inj hone).2
      exact hnext
  | some subscription, none, _ =>
      simp only [processName, hsubscribed, hseen] at hone
      simp only [advance, hsubscribed, hseen]
      rw [(EStateM.Result.ok.inj hone).2]
      exact hnext
  | some subscription, some seen, .error err =>
      simp [processName, hsubscribed, hseen, prepareNotification, hparse, bind,
        Except.bind] at hone
  | some subscription, some seen, .ok none =>
      simp only [processName, hsubscribed, hseen, prepareNotification, hparse, bind, Except.bind,
        pure, Except.pure] at hone
      simp only [advance, hsubscribed, hseen, hparse]
      obtain rfl : ws = ws₁ := (EStateM.Result.ok.inj hone).2
      exact hnext
  | some subscription, some seen, .ok (some state) =>
      by_cases hfalsy : state.isFalsy = true
      · simp only [processName, hsubscribed, hseen, prepareNotification, hparse, bind,
          Except.bind, pure, Except.pure, hfalsy, if_true] at hone
        simp only [advance, hsubscribed, hseen, hparse, hfalsy, if_true]
        obtain rfl : ws = ws₁ := (EStateM.Result.ok.inj hone).2
        exact hnext
      · obtain ⟨response, hresponse, hsettle⟩ :=
          settle_of_processName π hsubscribed hseen hparse hfalsy hone
        have hopen : ws.evthashes.isSome := by simp [hseen]
        apply completes_startResponse π hopen hresponse hsettle hnext
        simp only [advance, hsubscribed, hseen, hparse, hfalsy]
        rfl

theorem completes_of_forM {work : Work}
    (h : work.forM (fun item => processName π getBlockInfo item.1 item.2) ws = .ok () ws') :
    Completes π getBlockInfo (advance π ws work).ws (advance π ws work).position ws' := by
  induction work generalizing ws with
  | nil =>
      obtain rfl : ws = ws' := (EStateM.Result.ok.inj h).2
      exact .receiving
  | cons item rest ih =>
      change (processName π getBlockInfo item.1 item.2 >>= fun _ =>
        rest.forM fun item => processName π getBlockInfo item.1 item.2) ws = _ at h
      simp only [bind, EStateM.bind] at h
      split at h
      · rename_i ws₁ hone
        exact completes_cons π hone (ih h)
      · cases h

theorem processMsg_eq (msg : StreamMessage) :
    processMsg π getBlockInfo msg =
      msg.work.forM fun item => processName π getBlockInfo item.1 item.2 := by
  unfold StreamMessage.work
  cases msg with
  | other => rfl
  | clientEvents events =>
      change events.forM (processEvent π getBlockInfo) = _
      simp only [StreamMessage.events]
      induction events with
      | nil => rfl
      | cons evt events ih =>
          simp only [List.forM_eq_forM] at ih ⊢
          rw [List.flatMap_cons, List.forM_append, ← ih, List.forM_map]
          rfl

/-- What `processMsg` does with a message, a task alone does from await to await. -/
theorem completes_of_processMsg {msg : StreamMessage}
    (h : processMsg π getBlockInfo msg ws = .ok () ws') :
    Completes π getBlockInfo (advance π ws msg.work).ws (advance π ws msg.work).position ws' := by
  rw [processMsg_eq] at h
  exact completes_of_forM π h

end Alone

/-! ## One step -/

/-- The task awaits the end of a send of the hash. -/
def Sending (s : Consumers) (task : ℕ) (evthash : Str) : Prop :=
  ∃ rest, s.tasks[task]? = some (Position.sending evthash rest)

/-- The run of a task, as far as hashes go. -/
structure TaskRun (s : Consumers) (task : ℕ) (p : Progress) : Prop where
  isOpen : p.ws.evthashes.isSome
  /-- The hashes stay, and that of a send that ended is added. -/
  hashes : ∀ h, h ∈ p.ws.hashes ↔ h ∈ s.ws.hashes ∨ Sending s task h
  began : ∀ h, p.began = some h ↔ ∃ rest, p.position = .sending h rest
  isNew : ∀ h, p.began = some h → h ∉ p.ws.hashes

variable {π} {s s' : Consumers} {action : ConsumerAction} {task : ℕ} {p : Progress}
  {queue : List StreamMessage}

/-- A task that awaited something else than a send adds no hash. -/
theorem Progress.Fair.taskRun (h : p.Fair s.ws) (hopen : s.ws.evthashes.isSome)
    (hposition : ∀ h, ¬Sending s task h) : TaskRun s task p where
  isOpen := by
    rw [h.hashes]
    exact hopen
  hashes := by
    intro evthash
    rw [WsState.hashes, h.hashes]
    constructor
    · exact .inl
    · rintro (hmem | hsending)
      · exact hmem
      · exact absurd hsending (hposition evthash)
  began := h.began
  isNew := by
    intro evthash hbegan
    rw [WsState.hashes, h.hashes]
    exact h.isNew evthash hbegan

theorem taskRun_sent {evthash : Str} {rest : Work} (hopen : s.ws.evthashes.isSome)
    (hsending : s.tasks[task]? = some (.sending evthash rest)) :
    TaskRun s task (resumeSend π s.ws evthash rest) := by
  obtain ⟨evthashes, hhashes⟩ := Option.isSome_iff_exists.mp hopen
  have hfair := advance_fair π { s.ws with evthashes := some (evthash :: evthashes) } rest
  have hresume : resumeSend π s.ws evthash rest =
      advance π { s.ws with evthashes := some (evthash :: evthashes) } rest := by
    simp only [resumeSend, hhashes]
  have hafter : (advance π { s.ws with evthashes := some (evthash :: evthashes) } rest).ws.hashes =
      evthash :: s.ws.hashes := by
    rw [WsState.hashes, hfair.hashes, WsState.hashes, hhashes]
    rfl
  rw [hresume]
  refine ⟨by rw [hfair.hashes]; rfl, fun h => ?_, hfair.began, fun h hbegan => ?_⟩
  · rw [hafter, List.mem_cons, Sending, hsending]
    simp only [Option.some.injEq, Position.sending.injEq, exists_and_left, exists_eq', and_true]
    tauto
  · rw [WsState.hashes, hfair.hashes]
    exact hfair.isNew h hbegan

theorem taskRun_of_progress (hopen : s.ws.evthashes.isSome)
    (h : s.progress π action = some (task, queue, p)) : TaskRun s task p := by
  unfold Consumers.progress at h
  split at h
  · split at h
    · rename_i htask _
      cases h
      exact (advance_fair π s.ws _).taskRun hopen (by simp [Sending, htask])
    · cases h
  · split at h
    · rename_i htask
      cases h
      exact (resumeFetch_fair π s.ws _ _ _ _).taskRun hopen (by simp [Sending, htask])
    · cases h
  · split at h
    · rename_i htask
      cases h
      exact taskRun_sent hopen htask
    · cases h
  · cases h

/-- A call or an arrival: no task goes on. -/
structure Quiet (s s' : Consumers) : Prop where
  sends : s'.sends = s.sends
  hashes : s'.ws.hashes = s.ws.hashes
  isOpen : s'.ws.evthashes.isSome ∨
    s'.ws.evthashes = s.ws.evthashes ∧ s'.tasks = s.tasks
  sending : ∀ task h, Sending s' task h ↔ Sending s task h

theorem quiet_subscribe (n : EventName) (subscription : Subscription n) :
    Quiet s { s with
      ws := { s.ws with
        subsevt := Function.update s.ws.subsevt n (some subscription)
        evthashes := some (s.ws.evthashes.getD []) }
      tasks := s.tasks ++ [.receiving] } where
  sends := rfl
  hashes := rfl
  isOpen := .inl rfl
  sending := by
    intro task h
    unfold Sending
    rw [List.getElem?_append]
    split_ifs with hlt
    · rfl
    · have hnone : s.tasks[task]? = none := List.getElem?_eq_none (by omega)
      rw [hnone]
      cases htask : task - s.tasks.length with
      | zero => simp
      | succ k => simp

/-- A step is quiet, or it is the run of a task to its next await. -/
theorem step_cases (h : s.step π action = some s') :
    (s.progress π action = none ∧ Quiet s s') ∨
    ∃ task queue p, s.progress π action = some (task, queue, p) ∧
      s' = { ws := p.ws, queue := queue, tasks := s.tasks.set task p.position,
             sends := s.sends ++ p.began.toList } := by
  have hrun : ∀ {a}, (s.progress π a).map (fun out : ℕ × List StreamMessage × Progress =>
      ({ ws := out.2.2.ws, queue := out.2.1, tasks := s.tasks.set out.1 out.2.2.position,
         sends := s.sends ++ out.2.2.began.toList } : Consumers)) = some s' →
      ∃ task queue p, s.progress π a = some (task, queue, p) ∧
        s' = { ws := p.ws, queue := queue, tasks := s.tasks.set task p.position,
               sends := s.sends ++ p.began.toList } := by
    intro a hmap
    obtain ⟨⟨task, queue, p⟩, hprogress, rfl⟩ := Option.map_eq_some_iff.mp hmap
    exact ⟨task, queue, p, hprogress, rfl⟩
  cases action with
  | subscribe n subscription =>
      left
      simp only [Consumers.step] at h
      split at h
      · cases h
      · cases h
        exact ⟨rfl, quiet_subscribe n subscription⟩
  | unsubscribe n =>
      left
      simp only [Consumers.step] at h
      split at h
      · cases h
      · cases h
        exact ⟨rfl, rfl, rfl, .inr ⟨rfl, rfl⟩, fun _ _ => Iff.rfl⟩
  | arrive msg =>
      left
      cases h
      exact ⟨rfl, rfl, rfl, .inr ⟨rfl, rfl⟩, fun _ _ => Iff.rfl⟩
  | receive task => exact .inr (hrun h)
  | fetched task information => exact .inr (hrun h)
  | sent task => exact .inr (hrun h)

/-! ## Sends and hashes -/

/-- Every hash that was sent is in the set or is being sent. -/
structure SendsTracked (s : Consumers) : Prop where
  isOpen : s.tasks ≠ [] → s.ws.evthashes.isSome
  covered : ∀ h ∈ s.sends, h ∈ s.ws.hashes ∨ ∃ task, Sending s task h
  counted : ∀ task h, Sending s task h → h ∈ s.sends

theorem sendsTracked_init : SendsTracked .init where
  isOpen := by simp [Consumers.init]
  covered := by simp [Consumers.init]
  counted := by simp [Consumers.init, Sending]

theorem SendsTracked.quiet (hs : SendsTracked s) (h : Quiet s s') : SendsTracked s' where
  isOpen := by
    intro hne
    rcases h.isOpen with hopen | ⟨hhashes, htasks⟩
    · exact hopen
    · rw [hhashes]
      exact hs.isOpen (htasks ▸ hne)
  covered := by
    intro evthash hmem
    rw [h.sends] at hmem
    rw [h.hashes]
    rcases hs.covered evthash hmem with hseen | ⟨task, hsending⟩
    · exact .inl hseen
    · exact .inr ⟨task, (h.sending task evthash).mpr hsending⟩
  counted := by
    intro task evthash hsending
    rw [h.sends]
    exact hs.counted task evthash ((h.sending task evthash).mp hsending)

theorem exists_task (h : s.progress π action = some (task, queue, p)) :
    task < s.tasks.length := by
  have hsome : ∃ position, s.tasks[task]? = some position := by
    unfold Consumers.progress at h
    split at h
    · split at h
      · rename_i htask _
        cases h
        exact ⟨_, htask⟩
      · cases h
    · split at h
      · rename_i htask
        cases h
        exact ⟨_, htask⟩
      · cases h
    · split at h
      · rename_i htask
        cases h
        exact ⟨_, htask⟩
      · cases h
    · cases h
  obtain ⟨position, hposition⟩ := hsome
  exact (List.getElem?_eq_some_iff.mp hposition).1

theorem SendsTracked.taskRun (hs : SendsTracked s)
    (h : s.progress π action = some (task, queue, p)) : TaskRun s task p := by
  have hlt := exists_task h
  exact taskRun_of_progress (hs.isOpen (by rintro heq; simp [heq] at hlt)) h

theorem sending_set (hlt : task < s.tasks.length) (ws : WsState) (queue : List StreamMessage)
    (position : Position) (sends : List Str) (other : ℕ) (evthash : Str) :
    Sending { ws := ws, queue := queue, tasks := s.tasks.set task position, sends := sends }
        other evthash ↔
      if other = task then ∃ rest, position = .sending evthash rest
      else Sending s other evthash := by
  unfold Sending
  simp only [List.getElem?_set]
  split_ifs with heq hne hne
  · simp
  · omega
  · omega
  · rfl

theorem SendsTracked.progress (hs : SendsTracked s)
    (h : s.progress π action = some (task, queue, p)) :
    SendsTracked { ws := p.ws, queue := queue, tasks := s.tasks.set task p.position,
                   sends := s.sends ++ p.began.toList } := by
  have hrun := hs.taskRun h
  have hsending := sending_set (exists_task h) p.ws queue p.position (s.sends ++ p.began.toList)
  refine ⟨fun _ => hrun.isOpen, ?_, ?_⟩
  · intro evthash hmem
    rcases List.mem_append.mp hmem with hmem | hmem
    · rcases hs.covered evthash hmem with hseen | ⟨other, hother⟩
      · exact .inl ((hrun.hashes evthash).mpr (.inl hseen))
      · by_cases heq : other = task
        · exact .inl ((hrun.hashes evthash).mpr (.inr (heq ▸ hother)))
        · refine .inr ⟨other, (hsending other evthash).mpr ?_⟩
          rwa [if_neg heq]
    · refine .inr ⟨task, (hsending task evthash).mpr ?_⟩
      rw [if_pos rfl]
      exact (hrun.began evthash).mp (by simpa using hmem)
  · intro other evthash hother
    rw [hsending] at hother
    apply List.mem_append.mpr
    split_ifs at hother with heq
    · right
      simpa using (hrun.began evthash).mpr hother
    · left
      exact hs.counted other evthash hother

/-- The action lets a task begin the send of a hash while another task awaits a send of it. -/
def Overlaps (π : Platform B) (s : Consumers) (action : ConsumerAction) : Prop :=
  ∃ task queue p h, s.progress π action = some (task, queue, p) ∧ p.began = some h ∧
    ∃ other, other ≠ task ∧ Sending s other h

/-- A send repeats a hash exactly if it overlaps with another send of it. -/
theorem SendsTracked.mem_sends_iff (hs : SendsTracked s)
    (h : s.progress π action = some (task, queue, p)) {evthash : Str}
    (hbegan : p.began = some evthash) : evthash ∈ s.sends ↔ Overlaps π s action := by
  have hrun := hs.taskRun h
  have hnew : ¬(evthash ∈ s.ws.hashes ∨ Sending s task evthash) := by
    rw [← hrun.hashes]
    exact hrun.isNew evthash hbegan
  constructor
  · intro hmem
    rcases hs.covered evthash hmem with hseen | ⟨other, hother⟩
    · exact absurd (.inl hseen) hnew
    · refine ⟨task, queue, p, evthash, h, hbegan, other, ?_, hother⟩
      rintro rfl
      exact hnew (.inr hother)
  · rintro ⟨task', queue', p', evthash', h', hbegan', other, -, hother⟩
    rw [h, Option.some.injEq, Prod.mk.injEq, Prod.mk.injEq] at h'
    obtain ⟨rfl, rfl, rfl⟩ := h'
    rw [hbegan, Option.some.injEq] at hbegan'
    rw [hbegan']
    exact hs.counted other evthash' hother

theorem SendsTracked.step (hs : SendsTracked s) (h : s.step π action = some s') :
    SendsTracked s' := by
  rcases step_cases h with ⟨-, hquiet⟩ | ⟨task, queue, p, hprogress, rfl⟩
  · exact hs.quiet hquiet
  · exact hs.progress hprogress

/-! ## Runs -/

/-- The machine as a step relation. -/
abbrev ConsumerStep (π : Platform B) (s : Consumers) (action : ConsumerAction) (s' : Consumers) :
    Prop :=
  s.step π action = some s'

/-- After a run, what was sent is tracked, and repeats no hash exactly if no send overlapped. -/
theorem sends_of_run {ts : List (Transition Consumers ConsumerAction)}
    (hrun : Run (ConsumerStep π) .init ts s) :
    SendsTracked s ∧ (s.sends.Nodup ↔ ∀ e ∈ ts, ¬Overlaps π e.pre e.label) := by
  apply hrun.history (P := fun ts s => SendsTracked s ∧
    (s.sends.Nodup ↔ ∀ e ∈ ts, ¬Overlaps π e.pre e.label))
  · exact ⟨sendsTracked_init, by simp [Consumers.init]⟩
  · rintro xs e ys - hstep ⟨htracked, hiff⟩
    have hall : (∀ e' ∈ xs ++ [e], ¬Overlaps π e'.pre e'.label) ↔
        (∀ e' ∈ xs, ¬Overlaps π e'.pre e'.label) ∧ ¬Overlaps π e.pre e.label := by
      simp only [List.mem_append, List.mem_singleton, or_imp, forall_and, forall_eq]
    rcases step_cases hstep with ⟨hnone, hquiet⟩ | ⟨task, queue, p, hprogress, hpost⟩
    · refine ⟨htracked.quiet hquiet, ?_⟩
      have hno : ¬Overlaps π e.pre e.label := by
        rintro ⟨task, queue, p, h, hsome, -⟩
        rw [hnone] at hsome
        cases hsome
      rw [hquiet.sends, hall, hiff]
      exact (and_iff_left hno).symm
    · rw [hpost]
      refine ⟨htracked.progress hprogress, ?_⟩
      rw [hall, ← hiff]
      cases hbegan : p.began with
      | none =>
          have hno : ¬Overlaps π e.pre e.label := by
            rintro ⟨task', queue', p', h, hsome, hbegan', -⟩
            rw [hprogress, Option.some.injEq, Prod.mk.injEq, Prod.mk.injEq] at hsome
            obtain ⟨-, -, rfl⟩ := hsome
            rw [hbegan] at hbegan'
            cases hbegan'
          simp [hno]
      | some evthash =>
          rw [← htracked.mem_sends_iff hprogress hbegan, Option.toList_some, List.nodup_append']
          simp

/-- No two sends of a run carry the same hash exactly if no consumer begins the send of a hash
while another one awaits its send. -/
theorem one_send_per_hash_iff {ts : List (Transition Consumers ConsumerAction)}
    (hrun : Run (ConsumerStep π) .init ts s) :
    s.sends.Nodup ↔ ∀ e ∈ ts, ¬Overlaps π e.pre e.label :=
  (sends_of_run hrun).2

namespace Sample

open Remme.Tp.Sample

def batchId : Str := Text.hexFixed 128 7

/-- The status of a batch, as the producer writes it. -/
def batchMessage : StreamMessage :=
  .clientEvents
    [{ eventType := EventType.remmeBatchDelta.value
       attributes := [("id".toList, .plain batchId), ("status".toList, .plain "PENDING".toList)] }]

/-- Two subscriptions, so two consumers, and a message that comes twice. -/
def twoConsumers : List ConsumerAction :=
  [.subscribe .batch ⟨.text "1".toList, batchId⟩,
   .subscribe .transfer ⟨.text "2".toList, accountAddress platform alice⟩,
   .arrive batchMessage, .arrive batchMessage]

end Sample

open Remme.Tp.Sample Sample in
/-- The second consumer takes the message after the first one's send has ended. -/
theorem one_send_per_hash_inTurn :
    ∃ ts s, Run (ConsumerStep platform) .init ts s ∧ s.sends.length = 1 ∧
      ∀ e ∈ ts, ¬Overlaps platform e.pre e.label := by
  have hsends : (Run.exec (Consumers.step platform) .init
      (twoConsumers ++ [.receive 0, .sent 0, .receive 1])).any
        (fun s => decide (s.sends.length = 1)) = true := by
    decide +kernel
  obtain ⟨ts, s, hrun, hone⟩ := Run.exists_of_any hsends
  refine ⟨ts, s, hrun, hone, (one_send_per_hash_iff hrun).mp ?_⟩
  obtain ⟨h, hsends⟩ := List.length_eq_one_iff.mp hone
  simp [hsends]

open Remme.Tp.Sample Sample in
/-- The second consumer takes the repeated message while the first one awaits its send. -/
theorem overlapping_sends_repeat :
    ∃ ts s, Run (ConsumerStep platform) .init ts s ∧ ¬s.sends.Nodup := by
  have hsends : (Run.exec (Consumers.step platform) .init
      (twoConsumers ++ [.receive 0, .receive 1])).any (fun s => decide ¬s.sends.Nodup) = true := by
    decide +kernel
  exact Run.exists_of_any hsends

end Remme.RpcApi
