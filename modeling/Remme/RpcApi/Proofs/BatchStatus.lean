import Remme.Lib.Fresh
import Remme.RpcApi.Proofs.BatchReports
import Remme.RpcApi.Proofs.ConsumerNotes
/-!
# Notifications of batch statuses

However the producers, the consumers and the changes of the subscriptions take
turns, the client of a websocket is told each status of a batch when it is first
reported, with the error of that report.  A status that comes back, as after a
fork, is not told again, unless a consumer takes the report while another one
awaits the send of an equal one.
-/

namespace Remme.RpcApi

open Remme.Lib Remme.Lib.Dialogue Remme.Protos Remme.Shared Remme.Tp

/-! ## A report that is taken -/

section Process

variable {B T τ : Type} [Preorder T] {π : Platform B}
  {answers : T → (q : Request τ) → Reply q → Prop} {ws : WsState} {now now' : T}

theorem work_report (r : BatchReport) :
    (StreamMessage.clientEvents [r.event]).work = [(r.event, .batch)] := by
  have hnames : sawtoothToRemmeEvent r.event.eventType = [.batch] := by
    change sawtoothToRemmeEvent EventType.remmeBatchDelta.value = _
    decide
  change (sawtoothToRemmeEvent r.event.eventType).map (r.event, ·) ++ [] = _
  rw [hnames]
  rfl

/-- Events of other types are for other names. -/
theorem work_other {msg : StreamMessage}
    (hother : ∀ evt ∈ msg.events, evt.eventType ≠ EventType.remmeBatchDelta.value) :
    ∀ item ∈ msg.work, item.2 ≠ .batch := by
  intro item hitem hbatch
  obtain ⟨evt, hevt, hmem⟩ := List.mem_flatMap.mp hitem
  obtain ⟨n, hn, rfl⟩ := List.mem_map.mp hmem
  obtain rfl : n = .batch := hbatch
  have htype : evt.eventType ∈ EventName.batch.events.map (·.value) := by
    simpa [sawtoothToRemmeEvent] using hn
  exact hother evt hevt (by simpa [EventName.events] using htype)

theorem heard_other {msg : StreamMessage}
    (hother : ∀ evt ∈ msg.events, evt.eventType ≠ EventType.remmeBatchDelta.value) :
    ws.heard msg = [] := by
  have hnone : (msg.events.filter fun evt =>
      evt.eventType = EventType.remmeBatchDelta.value) = [] := by
    rw [List.filter_eq_nil_iff]
    intro evt hevt
    simpa using hother evt hevt
  unfold WsState.heard
  rw [hnone, ite_self]

theorem heard_unsubscribed {msg : StreamMessage} (hsubscribed : ws.subsevt .batch = none) :
    ws.heard msg = [] := by
  simp [WsState.heard, hsubscribed]

theorem heard_report (r : BatchReport) {subscription : Subscription .batch}
    (hsubscribed : ws.subsevt .batch = some subscription) :
    ws.heard (.clientEvents [r.event]) = [r.event] := by
  unfold WsState.heard
  rw [hsubscribed]
  rfl

theorem advance_unsubscribed (r : BatchReport) (hsubscribed : ws.subsevt .batch = none) :
    advance π ws [(r.event, .batch)] = { ws := ws, position := .receiving, began := none } := by
  simp [advance, hsubscribed]

/-- A report is told if its hash is new. -/
theorem advance_subscribed (r : BatchReport) {subscription : Subscription .batch}
    {seen : List Str} (hsubscribed : ws.subsevt .batch = some subscription)
    (hhashes : ws.evthashes = some seen) :
    advance π ws [(r.event, .batch)] =
      if r.evtHash π ∈ seen then { ws := ws, position := .receiving, began := none }
      else .send ws ⟨subscription.msgId, .batch, r.value⟩ (r.evtHash π) [] := by
  have hparse : parseEvt .batch r.event = .ok (some r.value) := by
    rw [← BatchReport.parseAttributes_event]
    rfl
  have hfalsy : r.value.isFalsy = false := rfl
  have hsend : toSend π ws .batch subscription.msgId (some r.value) =
      .ok (if r.evtHash π ∈ seen then none
        else some (⟨subscription.msgId, .batch, r.value⟩, r.evtHash π)) := by
    simp only [toSend, hfalsy, BatchReport.prepareEvtHash_value, hhashes]
    rfl
  have hoffer : advance π ws [(r.event, .batch)] =
      offer π ws .batch subscription.msgId (some r.value) [] (advance π ws []) := by
    simp only [advance, hsubscribed, hhashes, hparse, hfalsy]
    rfl
  rw [hoffer]
  unfold offer
  rw [hsend]
  split_ifs <;> rfl

theorem Reported.mono {r : BatchReport} (h : Reported answers now r) (hle : now ≤ now') :
    Reported answers now' r := by
  obtain ⟨hvalid, m, response, batch, rest, hm, htold⟩ := h
  exact ⟨hvalid, m, response, batch, rest, hm.trans hle, htold⟩

variable (answers) in
/-- A message that a producer made, or one of the validator. -/
def IsQueued (now : T) (msg : StreamMessage) : Prop :=
  (∃ r, Reported answers now r ∧ msg = .clientEvents [r.event]) ∨
    ∀ evt ∈ msg.events, evt.eventType ≠ EventType.remmeBatchDelta.value

theorem IsQueued.mono {msg : StreamMessage} (h : IsQueued answers now msg) (hle : now ≤ now') :
    IsQueued answers now' msg := by
  rcases h with ⟨r, hr, rfl⟩ | hother
  · exact .inl ⟨r, hr.mono hle, rfl⟩
  · exact .inr hother

variable (π answers) in
/-- What a step of the consumers has to do with batches: nothing, or a report is taken whose hash
was sent before, or a report is taken and sent. -/
inductive Tells (now : T) (c : Consumers) (action : ConsumerAction) (c' : Consumers) : Prop
  | nothing (hheard : c.heard action = [])
      (hsent : ∃ sent, c'.ws.sent = c.ws.sent ++ sent ∧ ∀ n ∈ sent, n.eventType ≠ .batch)
  | known {r : BatchReport} (hr : Reported answers now r) (hheard : c.heard action = [r.event])
      (hsent : c'.ws.sent = c.ws.sent) (hknown : r.evtHash π ∈ c.sends)
      (hcalm : ¬Overlaps π c action)
  | new {r : BatchReport} {msgId : PyVal} (hr : Reported answers now r)
      (hheard : c.heard action = [r.event])
      (hsent : c'.ws.sent = c.ws.sent ++ [⟨msgId, .batch, r.value⟩])
      (hrepeats : Overlaps π c action ↔ r.evtHash π ∈ c.sends)

variable {c c' : Consumers} {action : ConsumerAction} {task : ℕ} {queue : List StreamMessage}
  {p : Progress}

theorem Progress.Notes.tells (h : p.Notes π (· ≠ .batch) c.ws) (hheard : c.heard action = [])
    (hsent : c'.ws.sent = p.ws.sent) : Tells π answers now c action c' := by
  obtain ⟨-, hsame⟩ | ⟨notification, -, -, hone, -, hbatch⟩ := h.sent
  · exact .nothing hheard ⟨[], by rw [hsent, hsame, List.append_nil], by simp⟩
  · exact .nothing hheard ⟨[notification], by rw [hsent, hone], by simpa using hbatch⟩

/-- A report is taken by a websocket that is subscribed to batches. -/
theorem Consumers.Kept.tells (hkept : c.Kept π) {r : BatchReport}
    {subscription : Subscription .batch} (hr : Reported answers now r)
    (hsubscribed : c.ws.subsevt .batch = some subscription)
    (hprogress : c.progress π action = some (task, queue, p))
    (hp : p = advance π c.ws [(r.event, .batch)]) (hheard : c.heard action = [r.event])
    (c' : Consumers) (hsent : c'.ws.sent = p.ws.sent) :
    Tells π answers now c action c' ∧ p.position.rest = [] := by
  have htasks : c.tasks ≠ [] := by
    intro hnil
    have hlt := exists_task hprogress
    rw [hnil] at hlt
    exact absurd hlt (Nat.not_lt_zero _)
  obtain ⟨seen, hhashes⟩ := Option.isSome_iff_exists.mp (hkept.tracked.isOpen htasks)
  rw [advance_subscribed r hsubscribed hhashes] at hp
  split_ifs at hp with hseen
  · subst hp
    refine ⟨.known hr hheard hsent (hkept.seen _ ?_) ?_, rfl⟩
    · rwa [WsState.hashes, hhashes]
    · rintro ⟨task', queue', p', h, hprogress', hbegan, -⟩
      rw [hprogress, Option.some.injEq, Prod.mk.injEq, Prod.mk.injEq] at hprogress'
      obtain ⟨-, -, rfl⟩ := hprogress'
      cases hbegan
  · subst hp
    exact ⟨.new hr hheard hsent (hkept.tracked.mem_sends_iff hprogress rfl).symm, rfl⟩

/-- A message is taken from the queue. -/
theorem Consumers.Kept.tells_of_message (hkept : c.Kept π) {msg : StreamMessage}
    (hprogress : c.progress π action = some (task, queue, p))
    (hp : p = advance π c.ws msg.work) (hheard : c.heard action = c.ws.heard msg)
    (hmsg : IsQueued answers now msg) (hsent : c'.ws.sent = p.ws.sent) :
    Tells π answers now c action c' ∧ ∀ item ∈ p.position.rest, item.2 ≠ .batch := by
  rcases hmsg with ⟨r, hr, rfl⟩ | hother
  · rw [work_report] at hp
    cases hsubscribed : c.ws.subsevt .batch with
    | none =>
        rw [advance_unsubscribed r hsubscribed] at hp
        subst hp
        have hnotes : Progress.Notes π (· ≠ .batch) c.ws
            { ws := c.ws, position := .receiving, began := none } :=
          ⟨.inl ⟨rfl, rfl⟩, fun _ hitem => by cases hitem⟩
        exact ⟨hnotes.tells (hheard.trans (heard_unsubscribed hsubscribed)) hsent, hnotes.rest⟩
    | some subscription =>
        obtain ⟨htells, hrest⟩ := hkept.tells hr hsubscribed hprogress hp
          (hheard.trans (heard_report r hsubscribed)) c' hsent
        exact ⟨htells, by rw [hrest]; exact fun _ hitem => by cases hitem⟩
  · have hnotes : Progress.Notes π (· ≠ .batch) c.ws (advance π c.ws msg.work) :=
      advance_notes (work_other hother)
    rw [← hp] at hnotes
    exact ⟨hnotes.tells (hheard.trans (heard_other hother)) hsent, hnotes.rest⟩

/-- Whatever a step of the consumers does, it leaves no batch event half processed. -/
theorem tells_of_step (hkept : c.Kept π) (hqueued : ∀ msg ∈ c.queue, IsQueued answers now msg)
    (hrests : ∀ position ∈ c.tasks, ∀ item ∈ position.rest, item.2 ≠ .batch)
    (hstep : c.step π action = some c') :
    Tells π answers now c action c' ∧
      ∀ position ∈ c'.tasks, ∀ item ∈ position.rest, item.2 ≠ .batch := by
  obtain ⟨hnone, -⟩ | ⟨task, queue, p, hprogress, rfl⟩ := step_cases hstep
  · have hidle := idle_of_step hnone hstep
    refine ⟨.nothing hidle.heard ⟨[], by rw [hidle.sent, List.append_nil], by simp⟩, ?_⟩
    intro position hposition item hitem
    rcases hidle.tasks position hposition with hold | rfl
    · exact hrests position hold item hitem
    · cases hitem
  · suffices h : Tells π answers now c action
        { ws := p.ws, queue := queue, tasks := c.tasks.set task p.position,
          sends := c.sends ++ p.began.toList } ∧
        ∀ item ∈ p.position.rest, item.2 ≠ .batch by
      refine ⟨h.1, fun position hposition item hitem => ?_⟩
      rcases List.mem_or_eq_of_mem_set hposition with hold | rfl
      · exact hrests position hold item hitem
      · exact h.2 item hitem
    obtain ⟨msg, rfl, hqueue, hp⟩ | ⟨-, ⟨information, msgId, state, index, rest, rfl, htask, hp⟩ |
      ⟨evthash, rest, rfl, htask, hp⟩⟩ := progress_cases hprogress
    · have hheard : c.heard (.receive task) = c.ws.heard msg := by
        simp only [Consumers.heard, hqueue]
      have hmsg : IsQueued answers now msg := hqueued msg (hqueue ▸ List.mem_cons_self)
      exact hkept.tells_of_message hprogress hp hheard hmsg rfl
    · have hrest : ∀ item ∈ rest, item.2 ≠ .batch := hrests _ (List.mem_of_getElem? htask)
      have hnotes : Progress.Notes π (· ≠ .batch) c.ws
          (resumeFetch π c.ws msgId state rest information) :=
        resumeFetch_notes (by decide) hrest msgId state information
      rw [← hp] at hnotes
      exact ⟨hnotes.tells rfl rfl, hnotes.rest⟩
    · have hrest : ∀ item ∈ rest, item.2 ≠ .batch := hrests _ (List.mem_of_getElem? htask)
      have hnotes : Progress.Notes π (· ≠ .batch) c.ws (resumeSend π c.ws evthash rest) :=
        resumeSend_notes hrest evthash
      rw [← hp] at hnotes
      exact ⟨hnotes.tells rfl rfl, hnotes.rest⟩

end Process

/-! ## Runs of a websocket -/

section Runs

variable {B τ T : Type} {π : Platform B} {sdk : Sdk τ}
  {answers : T → (q : Request τ) → Reply q → Prop}

/-- The batch events that are taken in a step. -/
def heardIn (e : Transition (BatchFeed T) FeedLabel) : List Event :=
  match e.label with
  | .consumers action => e.pre.consumers.heard action
  | _ => []

/-- The statuses that the client was told, oldest first. -/
def BatchFeed.told (s : BatchFeed T) : List PyVal :=
  (s.consumers.ws.sent.filter fun notification => notification.eventType = .batch).map
    (·.attributes)

variable (π) in
/-- A consumer takes a report and begins the send of it while another one awaits the send of an
equal one. -/
def RepeatsStatus (e : Transition (BatchFeed T) FeedLabel) : Prop :=
  ∃ action, e.label = .consumers action ∧ e.pre.consumers.heard action ≠ [] ∧
    Overlaps π e.pre.consumers action

variable (π) in
/-- The texts that were hashed for the reports and for the notifications. -/
def IsHashed (ts : List (Transition (BatchFeed T) FeedLabel)) (s : BatchFeed T) (x : Str) : Prop :=
  (∃ evt ∈ ts.flatMap heardIn, evtHashText π .batch (parseAttributes evt) = .ok x) ∨
    ∃ notification ∈ s.consumers.ws.sent,
      evtHashText π notification.eventType notification.attributes = .ok x

variable (π) in
/-- No two of the texts have one SHA-256 digest. -/
def Sha256ApartFeed (ts : List (Transition (BatchFeed T) FeedLabel)) (s : BatchFeed T) : Prop :=
  ∀ x y, IsHashed π ts s x → IsHashed π ts s y →
    π.sha256 (Text.encodeUtf8 x) = π.sha256 (Text.encodeUtf8 y) →
    Text.encodeUtf8 x = Text.encodeUtf8 y

variable {ts : List (Transition (BatchFeed T) FeedLabel)} {s s' : BatchFeed T}
  {label : FeedLabel} {reports sent : List BatchReport} {r : BatchReport}

theorem flatMap_concat (e : Transition (BatchFeed T) FeedLabel) :
    (ts ++ [e]).flatMap heardIn = ts.flatMap heardIn ++ heardIn e := by
  rw [List.flatMap_append, List.flatMap_singleton]

/-- What was hashed stays hashed. -/
theorem Sha256ApartFeed.of_concat {e : Transition (BatchFeed T) FeedLabel}
    (h : Sha256ApartFeed π (ts ++ [e]) s')
    (hsent : ∀ notification ∈ s.consumers.ws.sent, notification ∈ s'.consumers.ws.sent) :
    Sha256ApartFeed π ts s := by
  have hlater : ∀ x, IsHashed π ts s x → IsHashed π (ts ++ [e]) s' x := by
    rintro x (⟨evt, hevt, hx⟩ | ⟨notification, hmem, hx⟩)
    · refine .inl ⟨evt, ?_, hx⟩
      rw [flatMap_concat]
      exact List.mem_append_left _ hevt
    · exact .inr ⟨notification, hsent _ hmem, hx⟩
  exact fun x y hx hy => h x y (hlater x hx) (hlater y hy)

theorem prepareEvtHash_eq_ok {n : EventName} {response : PyVal} {evthash : Str}
    (h : prepareEvtHash π n response = .ok evthash) :
    ∃ text, evtHashText π n response = .ok text ∧ π.sha256 (Text.encodeUtf8 text) = evthash := by
  unfold prepareEvtHash at h
  cases htext : evtHashText π n response with
  | error err =>
      rw [htext] at h
      cases h
  | ok text =>
      rw [htext] at h
      exact ⟨text, rfl, Except.ok.inj h⟩

/-- Only a notification of 'batch' has the text of a report. -/
theorem eq_batch_of_hashText {n : EventName} {response : PyVal}
    (h : evtHashText π n response = .ok r.hashText) : n = .batch := by
  unfold evtHashText at h
  cases hvalues : (n.hashKeys.mapM fun key => getItem key response) with
  | error err =>
      rw [hvalues] at h
      cases h
  | ok values =>
      rw [hvalues] at h
      -- the first two letters tell the names apart
      have htext : n.name.take 2 = "batch".toList.take 2 := by
        have htake := congrArg (List.take 2) (Except.ok.inj h)
        cases n <;> exact htake
      revert htext
      cases n <;> decide

theorem repeatsStatus_consumers {action : ConsumerAction} :
    RepeatsStatus π ⟨s, .consumers action, s'⟩ ↔
      s.consumers.heard action ≠ [] ∧ Overlaps π s.consumers action := by
  simp [RepeatsStatus]

theorem forall_concat_iff {e : Transition (BatchFeed T) FeedLabel} :
    (∀ e' ∈ ts ++ [e], ¬RepeatsStatus π e') ↔
      (∀ e' ∈ ts, ¬RepeatsStatus π e') ∧ ¬RepeatsStatus π e := by
  simp only [List.mem_append, List.mem_singleton, or_imp, forall_and, forall_eq]

theorem told_concat {sent : List Notification}
    (hsent : s'.consumers.ws.sent = s.consumers.ws.sent ++ sent) :
    s'.told = s.told ++
      (sent.filter fun notification => notification.eventType = .batch).map (·.attributes) := by
  unfold BatchFeed.told
  rw [hsent, List.filter_append, List.map_append]

variable [Preorder T]

variable (π answers) in
/-- What the reports that were taken left behind. -/
structure Told (ts : List (Transition (BatchFeed T) FeedLabel)) (s : BatchFeed T)
    (reports sent : List BatchReport) : Prop where
  received : ts.flatMap heardIn = reports.map BatchReport.event
  reported : ∀ r ∈ reports, Reported answers s.now r
  told : s.told = sent.map BatchReport.value
  sublist : sent.Sublist reports
  first : fresh BatchReport.key [] sent = fresh BatchReport.key [] reports
  once : (sent.map BatchReport.key).Nodup ↔ ∀ e ∈ ts, ¬RepeatsStatus π e

theorem Told.mem_keys_iff (h : Told π answers ts s reports sent) {k : Str × BatchStatus} :
    k ∈ sent.map BatchReport.key ↔ k ∈ reports.map BatchReport.key := by
  rw [← mem_keys_fresh, h.first, mem_keys_fresh]

/-- The hash of a report was sent exactly if its status was told. -/
theorem Told.mem_sends_iff (h : Told π answers ts s reports sent) (hkept : s.consumers.Kept π)
    (hr : Reported answers s.now r)
    (hapart : ∀ notification ∈ s.consumers.ws.sent, ∀ text,
      evtHashText π notification.eventType notification.attributes = .ok text →
      π.sha256 (Text.encodeUtf8 text) = r.evtHash π →
      Text.encodeUtf8 text = Text.encodeUtf8 r.hashText) :
    r.evtHash π ∈ s.consumers.sends ↔ r.key ∈ sent.map BatchReport.key := by
  rw [hkept.hashed]
  constructor
  · rintro ⟨notification, hmem, hhash⟩
    obtain ⟨text, htext, hdigest⟩ := prepareEvtHash_eq_ok hhash
    have hsame : text = r.hashText :=
      Text.encodeUtf8_injective (hapart notification hmem text htext hdigest)
    have hbatch : notification.eventType = .batch := eq_batch_of_hashText (hsame ▸ htext)
    have htold : notification.attributes ∈ s.told :=
      List.mem_map_of_mem (List.mem_filter.mpr ⟨hmem, by simpa using hbatch⟩)
    rw [h.told] at htold
    obtain ⟨r', hr', hvalue⟩ := List.mem_map.mp htold
    rw [hbatch, ← hvalue, BatchReport.evtHashText_value, hsame] at htext
    have hreported := h.reported r' (h.sublist.subset hr')
    have hkey : r'.key = r.key :=
      BatchReport.hashText_injective (BatchReport.dash_not_mem hreported.1)
        (BatchReport.dash_not_mem hr.1) (Except.ok.inj htext)
    exact hkey ▸ List.mem_map_of_mem hr'
  · intro hkey
    obtain ⟨r', hr', hkey⟩ := List.mem_map.mp hkey
    have hvalue : r'.value ∈ s.told := by
      rw [h.told]
      exact List.mem_map_of_mem hr'
    obtain ⟨notification, hmem, hattributes⟩ := List.mem_map.mp hvalue
    obtain ⟨hmem, hbatch⟩ := List.mem_filter.mp hmem
    refine ⟨notification, hmem, ?_⟩
    rw [of_decide_eq_true hbatch, hattributes, BatchReport.prepareEvtHash_value]
    obtain ⟨hid, hstatus⟩ := Prod.ext_iff.mp hkey
    unfold BatchReport.evtHash BatchReport.hashText
    rw [show r'.id = r.id from hid, show r'.status = r.status from hstatus]

variable (π answers) in
structure FeedKept (s : BatchFeed T) : Prop where
  consumers : s.consumers.Kept π
  queued : ∀ msg ∈ s.consumers.queue, IsQueued answers s.now msg
  rests : ∀ position ∈ s.consumers.tasks, ∀ item ∈ position.rest, item.2 ≠ .batch

theorem FeedKept.step (h : FeedKept π answers s) (htells : TellsStatuses answers)
    (hstep : FeedStep π sdk answers s label s') : FeedKept π answers s' := by
  cases hstep with
  | @consumers action consumers hother hstep =>
      have htold := tells_of_step h.consumers h.queued h.rests hstep
      refine ⟨h.consumers.step hstep, fun msg hmsg => ?_, htold.2⟩
      rcases mem_queue_of_step hstep hmsg with hold | harrived
      · exact h.queued msg hold
      · exact .inr (hother msg harrived)
  | pass hposition => exact ⟨h.consumers, h.queued, h.rests⟩
  | @status producer used batchId since msg again hposition hgoes =>
      refine ⟨?_, fun msg' hmsg => ?_, h.rests⟩
      · exact ⟨⟨h.consumers.tracked.isOpen, h.consumers.tracked.covered,
          h.consumers.tracked.counted⟩, h.consumers.seen, h.consumers.hashed⟩
      · rcases List.mem_append.mp hmsg with hold | hnew
        · exact h.queued msg' hold
        · obtain rfl | ⟨r, hr, rfl⟩ := reported_of_poll htells hgoes
          · cases hnew
          · exact .inl ⟨r, hr, List.mem_singleton.mp hnew⟩
  | fail hposition hgoes => exact ⟨h.consumers, h.queued, h.rests⟩
  | tick hle => exact ⟨h.consumers, fun msg hmsg => (h.queued msg hmsg).mono hle, h.rests⟩

theorem Told.quiet (h : Told π answers ts s reports sent) {e : Transition (BatchFeed T) FeedLabel}
    (hlabel : ∀ action, e.label ≠ .consumers action) (htold : s'.told = s.told)
    (hnow : s.now ≤ s'.now) : Told π answers (ts ++ [e]) s' reports sent := by
  have hheard : heardIn e = [] := by
    unfold heardIn
    split
    · rename_i action heq
      exact absurd heq (hlabel action)
    · rfl
  have hcalm : ¬RepeatsStatus π e := fun ⟨action, heq, _⟩ => hlabel action heq
  refine ⟨?_, fun r hr => (h.reported r hr).mono hnow, htold.trans h.told, h.sublist, h.first, ?_⟩
  · rw [flatMap_concat, hheard, List.append_nil, h.received]
  · rw [forall_concat_iff, ← h.once]
    exact (and_iff_left hcalm).symm

/-! ## A report that is taken in a run -/

section Consumers

variable {action : ConsumerAction}

/-- The report that a step takes is the last one. -/
theorem Told.received_concat (h : Told π answers ts s reports sent)
    (hheard : s.consumers.heard action = [r.event]) :
    List.flatMap heardIn (ts ++ [⟨s, .consumers action, s'⟩]) =
      (reports ++ [r]).map BatchReport.event := by
  have hlast : heardIn ⟨s, .consumers action, s'⟩ = [r.event] := hheard
  rw [flatMap_concat, hlast, h.received, List.map_append, List.map_singleton]

theorem Told.reported_concat (h : Told π answers ts s reports sent)
    (hr : Reported answers s.now r) (hnow : s'.now = s.now) :
    ∀ r' ∈ reports ++ [r], Reported answers s'.now r' := by
  intro r' hr'
  rw [hnow]
  rcases List.mem_append.mp hr' with hold | hnew
  · exact h.reported r' hold
  · rwa [List.mem_singleton.mp hnew]

/-- Of a report that is taken: its hash was sent before exactly if its status was told before. -/
theorem Told.sends_iff_of_taken (h : Told π answers ts s reports sent)
    (hkept : s.consumers.Kept π) (hr : Reported answers s.now r)
    (hheard : s.consumers.heard action = [r.event])
    (hmono : ∀ n ∈ s.consumers.ws.sent, n ∈ s'.consumers.ws.sent)
    (hapart : Sha256ApartFeed π (ts ++ [⟨s, .consumers action, s'⟩]) s') :
    r.evtHash π ∈ s.consumers.sends ↔ r.key ∈ sent.map BatchReport.key := by
  have htaken : IsHashed π (ts ++ [⟨s, .consumers action, s'⟩]) s' r.hashText := by
    refine .inl ⟨r.event, ?_, ?_⟩
    · rw [h.received_concat hheard]
      exact List.mem_map_of_mem (List.mem_append_right _ List.mem_cons_self)
    · rw [BatchReport.parseAttributes_event, BatchReport.evtHashText_value]
  refine h.mem_sends_iff hkept hr fun notification hmem text htext hdigest => ?_
  exact hapart text r.hashText (.inr ⟨notification, hmono _ hmem, htext⟩) htaken hdigest

/-- No report is taken. -/
theorem Told.nothing (h : Told π answers ts s reports sent) (hnow : s'.now = s.now)
    (hheard : s.consumers.heard action = []) {others : List Notification}
    (hsent : s'.consumers.ws.sent = s.consumers.ws.sent ++ others)
    (hothers : ∀ n ∈ others, n.eventType ≠ .batch) :
    Told π answers (ts ++ [⟨s, .consumers action, s'⟩]) s' reports sent := by
  have hlast : heardIn ⟨s, .consumers action, s'⟩ = [] := hheard
  have hnone : others.filter (fun notification => notification.eventType = .batch) = [] := by
    simpa using hothers
  have hcalm : ¬RepeatsStatus π ⟨s, .consumers action, s'⟩ :=
    fun hrepeats => (repeatsStatus_consumers.mp hrepeats).1 hheard
  refine ⟨?_, ?_, ?_, h.sublist, h.first, ?_⟩
  · rw [flatMap_concat, hlast, List.append_nil, h.received]
  · rw [hnow]
    exact h.reported
  · rw [told_concat hsent, hnone, List.map_nil, List.append_nil, h.told]
  · rw [forall_concat_iff, ← h.once]
    exact (and_iff_left hcalm).symm

/-- A report is taken whose status was told before, and it is not told. -/
theorem Told.known (h : Told π answers ts s reports sent) (hnow : s'.now = s.now)
    (hr : Reported answers s.now r) (hheard : s.consumers.heard action = [r.event])
    (hsent : s'.consumers.ws.sent = s.consumers.ws.sent)
    (hkey : r.key ∈ sent.map BatchReport.key) (hcalm : ¬Overlaps π s.consumers action) :
    Told π answers (ts ++ [⟨s, .consumers action, s'⟩]) s' (reports ++ [r]) sent := by
  have hcalm : ¬RepeatsStatus π ⟨s, .consumers action, s'⟩ :=
    fun hrepeats => hcalm (repeatsStatus_consumers.mp hrepeats).2
  refine ⟨h.received_concat hheard, h.reported_concat hr hnow, ?_,
    h.sublist.trans (List.sublist_append_left ..), ?_, ?_⟩
  · unfold BatchFeed.told
    rw [hsent]
    exact h.told
  · rw [fresh_concat, if_pos (.inr (h.mem_keys_iff.mp hkey)), List.append_nil, h.first]
  · rw [forall_concat_iff, ← h.once]
    exact (and_iff_left hcalm).symm

/-- A report is taken and told; it repeats a status exactly if the status was told before. -/
theorem Told.new (h : Told π answers ts s reports sent) (hnow : s'.now = s.now)
    (hr : Reported answers s.now r) (hheard : s.consumers.heard action = [r.event]) {msgId : PyVal}
    (hsent : s'.consumers.ws.sent = s.consumers.ws.sent ++ [⟨msgId, .batch, r.value⟩])
    (hrepeats : Overlaps π s.consumers action ↔ r.key ∈ sent.map BatchReport.key) :
    Told π answers (ts ++ [⟨s, .consumers action, s'⟩]) s' (reports ++ [r]) (sent ++ [r]) := by
  refine ⟨h.received_concat hheard, h.reported_concat hr hnow, ?_, h.sublist.append (.refl _),
    fresh_concat_congr h.first r, ?_⟩
  · rw [told_concat hsent, h.told, List.map_append]
    rfl
  · have hone : RepeatsStatus π ⟨s, .consumers action, s'⟩ ↔
        r.key ∈ sent.map BatchReport.key := by
      rw [repeatsStatus_consumers, hrepeats]
      exact and_iff_right (by rw [hheard]; simp)
    rw [forall_concat_iff, ← h.once, hone, List.map_append, List.nodup_append']
    simp

theorem Told.consumers (h : Told π answers ts s reports sent) (hkept : s.consumers.Kept π)
    (hnow : s'.now = s.now) (htells : Tells π answers s.now s.consumers action s'.consumers)
    (hapart : Sha256ApartFeed π (ts ++ [⟨s, .consumers action, s'⟩]) s') :
    ∃ reports sent, Told π answers (ts ++ [⟨s, .consumers action, s'⟩]) s' reports sent := by
  cases htells with
  | nothing hheard hsent =>
      obtain ⟨others, hsent, hothers⟩ := hsent
      exact ⟨reports, sent, h.nothing hnow hheard hsent hothers⟩
  | @known r hr hheard hsent hknown hcalm =>
      have hmono : ∀ n ∈ s.consumers.ws.sent, n ∈ s'.consumers.ws.sent := by
        rw [hsent]
        exact fun n hn => hn
      have hkey := (h.sends_iff_of_taken hkept hr hheard hmono hapart).mp hknown
      exact ⟨reports ++ [r], sent, h.known hnow hr hheard hsent hkey hcalm⟩
  | @new r msgId hr hheard hsent hrepeats =>
      have hmono : ∀ n ∈ s.consumers.ws.sent, n ∈ s'.consumers.ws.sent := by
        rw [hsent]
        exact fun n hn => List.mem_append_left _ hn
      rw [h.sends_iff_of_taken hkept hr hheard hmono hapart] at hrepeats
      exact ⟨reports ++ [r], sent ++ [r], h.new hnow hr hheard hsent hrepeats⟩

end Consumers

/-! ## Every run -/

theorem told_of_step (hkept : FeedKept π answers s) (hstep : FeedStep π sdk answers s label s')
    (htold : Sha256ApartFeed π ts s → ∃ reports sent, Told π answers ts s reports sent)
    (hapart : Sha256ApartFeed π (ts ++ [⟨s, label, s'⟩]) s') :
    ∃ reports sent, Told π answers (ts ++ [⟨s, label, s'⟩]) s' reports sent := by
  have hquiet : (∀ action, label ≠ .consumers action) → s'.consumers.ws = s.consumers.ws →
      s.now ≤ s'.now → ∃ reports sent, Told π answers (ts ++ [⟨s, label, s'⟩]) s' reports sent := by
    intro hlabel hws hnow
    obtain ⟨reports, sent, h⟩ := htold (hapart.of_concat (by rw [hws]; exact fun _ hn => hn))
    exact ⟨reports, sent, h.quiet hlabel (by unfold BatchFeed.told; rw [hws]) hnow⟩
  cases hstep with
  | @consumers action consumers hother hstep =>
      obtain ⟨htells, -⟩ := tells_of_step hkept.consumers hkept.queued hkept.rests hstep
      have hmono : ∀ n ∈ s.consumers.ws.sent, n ∈ consumers.ws.sent := by
        intro n hn
        cases htells with
        | nothing _ hsent =>
            obtain ⟨others, hsent, -⟩ := hsent
            rw [hsent]
            exact List.mem_append_left _ hn
        | known _ _ hsent => rwa [hsent]
        | new _ _ hsent =>
            rw [hsent]
            exact List.mem_append_left _ hn
      obtain ⟨reports, sent, h⟩ := htold (hapart.of_concat hmono)
      exact h.consumers hkept.consumers rfl htells hapart
  | pass hposition => exact hquiet (by simp) rfl le_rfl
  | status hposition hgoes => exact hquiet (by simp) rfl le_rfl
  | fail hposition hgoes => exact hquiet (by simp) rfl le_rfl
  | tick hle => exact hquiet (by simp) rfl hle

theorem told_of_run (htells : TellsStatuses answers) {now : T}
    (hrun : Run (FeedStep π sdk answers) (.init now) ts s) :
    FeedKept π answers s ∧
      (Sha256ApartFeed π ts s → ∃ reports sent, Told π answers ts s reports sent) := by
  apply hrun.history (P := fun ts s => FeedKept π answers s ∧
    (Sha256ApartFeed π ts s → ∃ reports sent, Told π answers ts s reports sent))
  · refine ⟨⟨Consumers.kept_init, fun _ hmsg => ?_, fun _ hposition => ?_⟩, fun _ => ⟨[], [], ?_⟩⟩
    · cases hmsg
    · cases hposition
    · exact ⟨rfl, by simp, rfl, .slnil, rfl, by simp⟩
  · rintro xs e ys - hstep ⟨hkept, htold⟩
    exact ⟨hkept.step htells hstep, told_of_step hkept hstep htold⟩

/-! ## What ends a task -/

/-- No report makes a consumer raise. -/
theorem FeedKept.not_raised (h : FeedKept π answers s) {msg : StreamMessage} {task task' : ℕ}
    {rest queue : List StreamMessage} {p : Progress} (hqueue : s.consumers.queue = msg :: rest)
    (hbatch : ∃ evt ∈ msg.events, evt.eventType = EventType.remmeBatchDelta.value)
    (hprogress : s.consumers.progress π (.receive task) = some (task', queue, p))
    (err : PyError) : p.position ≠ .raised err := by
  obtain ⟨r, -, rfl⟩ | hother := h.queued msg (by rw [hqueue]; exact List.mem_cons_self)
  · have hp : p = advance π s.consumers.ws [(r.event, .batch)] := by
      obtain ⟨msg', -, hqueue', hp⟩ | ⟨-, ⟨_, _, _, _, _, haction, -⟩ | ⟨_, _, haction, -⟩⟩ :=
        progress_cases hprogress
      · rw [hqueue] at hqueue'
        cases hqueue'
        rwa [work_report] at hp
      · cases haction
      · cases haction
    have htasks : s.consumers.tasks ≠ [] := by
      intro hnil
      have hlt := exists_task hprogress
      rw [hnil] at hlt
      exact absurd hlt (Nat.not_lt_zero _)
    obtain ⟨seen, hhashes⟩ := Option.isSome_iff_exists.mp (h.consumers.tracked.isOpen htasks)
    cases hsubscribed : s.consumers.ws.subsevt .batch with
    | none =>
        rw [advance_unsubscribed r hsubscribed] at hp
        subst hp
        simp
    | some subscription =>
        rw [advance_subscribed r hsubscribed hhashes] at hp
        split_ifs at hp with hseen
        · subst hp
          simp
        · subst hp
          simp [Progress.send]
  · obtain ⟨evt, hevt, htype⟩ := hbatch
    exact absurd htype (hother evt hevt)

/-- A producer ends where the dictionary has changed its size in the pass, or where a response
tells no status. -/
theorem raised_of_step (htells : TellsStatuses answers)
    (hstep : FeedStep π sdk answers s label s') {i : ℕ}
    (hraised : s'.producers[i]? = some .raised) :
    s.producers[i]? = some .raised ∨ ∃ batchId used since,
      s.producers[i]? = some (.fetching batchId used since) ∧
      (used ≠ s.consumers.ws.subscriptions ∨ ∃ m response, since ≤ m ∧ m ≤ s.now ∧
        answers m (.batchStatus (splitCommas batchId)) (.ok (some response)) ∧
        response.content = .array []) := by
  have hset : ∀ {producer : ℕ} {position : StatusProducer T},
      (s.producers.set producer position)[i]? = some .raised →
      s.producers[i]? = some .raised ∨ producer = i ∧ position = .raised := by
    intro producer position h
    rw [List.getElem?_set] at h
    split_ifs at h with heq hlt
    · exact .inr ⟨heq, Option.some.inj h⟩
    · exact .inl h
  have hbegin : ∀ fetches, s.beginPass fetches ≠ .raised := by
    intro fetches
    unfold BatchFeed.beginPass BatchFeed.fetch
    split_ifs
    · split <;> simp
    · simp
  cases hstep with
  | @consumers action consumers hother hstep =>
      left
      change (s.producers ++ BatchFeed.started action)[i]? = _ at hraised
      rw [List.getElem?_append] at hraised
      split_ifs at hraised with hlt
      · exact hraised
      · have hmem := List.mem_of_getElem? hraised
        unfold BatchFeed.started at hmem
        split at hmem <;> simp at hmem
  | pass hposition =>
      obtain hold | ⟨-, hnew⟩ := hset hraised
      · exact .inl hold
      · exact absurd hnew (hbegin _)
  | @status producer used batchId since msg again hposition hgoes =>
      obtain hold | ⟨rfl, hnew⟩ := hset hraised
      · exact .inl hold
      · refine .inr ⟨batchId, used, since, hposition, .inl fun hsame => ?_⟩
        unfold BatchFeed.nextEntry at hnew
        rw [if_neg (not_not.mpr hsame)] at hnew
        exact hbegin again hnew
  | @fail producer used batchId since err hposition hgoes =>
      obtain hold | ⟨rfl, -⟩ := hset hraised
      · exact .inl hold
      · exact .inr ⟨batchId, used, since, hposition, .inr (poll_raises htells hgoes)⟩
  | tick hle => exact .inl hraised

/-! ## Each status once -/

/-- In every run of a websocket's tasks the client is told, of the reports that were taken, the
first one of each batch and status, in order; it is told these only, exactly if no consumer begins
to send a report while another one awaits the send of an equal one.  No report makes a consumer
raise, and a producer ends only where the dictionary of subscriptions has changed its size in the
pass, or where a response tells no status. -/
theorem batch_statuses_told_once (htells : TellsStatuses answers) {now : T}
    (hrun : Run (FeedStep π sdk answers) (.init now) ts s) (hsha : Sha256ApartFeed π ts s) :
    (∃ reports sent : List BatchReport,
      ts.flatMap heardIn = reports.map BatchReport.event ∧
      (∀ r ∈ reports, Reported answers s.now r) ∧
      s.told = sent.map BatchReport.value ∧ sent.Sublist reports ∧
      fresh BatchReport.key [] sent = fresh BatchReport.key [] reports ∧
      (sent = fresh BatchReport.key [] reports ↔ ∀ e ∈ ts, ¬RepeatsStatus π e)) ∧
    (∀ msg rest task task' queue p, s.consumers.queue = msg :: rest →
      (∃ evt ∈ msg.events, evt.eventType = EventType.remmeBatchDelta.value) →
      s.consumers.progress π (.receive task) = some (task', queue, p) →
      ∀ err, p.position ≠ .raised err) ∧
    ∀ e ∈ ts, ∀ i : ℕ, e.post.producers[i]? = some .raised →
      e.pre.producers[i]? = some .raised ∨ ∃ batchId used since,
        e.pre.producers[i]? = some (.fetching batchId used since) ∧
        (used ≠ e.pre.consumers.ws.subscriptions ∨ ∃ m response, since ≤ m ∧ m ≤ e.pre.now ∧
          answers m (.batchStatus (splitCommas batchId)) (.ok (some response)) ∧
          response.content = .array []) := by
  obtain ⟨hkept, htold⟩ := told_of_run htells hrun
  obtain ⟨reports, sent, h⟩ := htold hsha
  refine ⟨⟨reports, sent, h.received, h.reported, h.told, h.sublist, h.first, ?_⟩, ?_, ?_⟩
  · rw [← h.once]
    constructor
    · intro hsent
      rw [hsent]
      exact nodup_keys_fresh [] reports
    · intro hnodup
      rw [← h.first]
      exact (fresh_eq_self (fun _ _ => List.not_mem_nil) hnodup).symm
  · intro msg rest task task' queue p hqueue hbatch hprogress err
    exact hkept.not_raised hqueue hbatch hprogress err
  · intro e he i hraised
    exact raised_of_step htells (hrun.step_of_mem he) hraised

end Runs

/-! ## A status that comes back -/

namespace Sample

open Remme.Tp.Sample

/-- The digest of one more batch notification. -/
def committedTable : List (ℕ × ℕ) :=
  [(0x0162617463683a30303030303030303030303030303030303030303030303030303030303030303030303030303030303030303030303030303030303030303030303030303030303030303030303030303030303030303030303030303030303030303030303030303030303030303030303030303030303030303030303030303030303030372d434f4d4d4954544544,
    0x3e69181ead58cfece66ca2b1995a5d21bdfe142bb39d57963d39dc918fc80b59)]

def statusPlatform : Platform Data :=
  { platform with
    sha256 := fun d => Text.hexFixed 64 (tableAt (sha256Table ++ committedTable) d) }

def statusSdk : Sdk Unit where
  statusEnum := fun _ => { ok := 1, noResource := some 5, notReady := none }
  blockHeader := fun _ => none
  batchHeader := fun _ => none
  transactionHeader := fun _ => none

def polledId : Str := Text.hexFixed 128 7

/-- The batch is committed, taken back and committed again. -/
def statusAt (m : ℕ) : BatchStatus := if m % 2 = 0 then .pending else .committed

def tells : ℕ → (q : Request Unit) → Reply q → Prop
  | m, .batchStatus ids, reply => reply = .ok (some ⟨1, .array ((ids.map fun id =>
      (⟨id, statusAt m, []⟩ : ClientBatchStatus)).map ClientBatchStatus.toDict)⟩)
  | _, _, _ => False

def reportAt (m : ℕ) : BatchReport := ⟨polledId, statusAt m, none⟩

def pollSubscription : Subscription .batch := ⟨.text "1".toList, polledId⟩

theorem tells_statuses : TellsStatuses tells := by
  intro m ids response hanswer
  cases hanswer
  exact ⟨_, rfl⟩

theorem poll_tells (m : ℕ) :
    Dialogue.Goes tells m (produceCustomMsg statusSdk polledId)
      (.ok (some (.clientEvents [(reportAt m).event]))) m := by
  have hid : IsHexText 128 polledId :=
    ⟨Text.hexFixed_length 128 7, Text.isLowerHex_hexFixed 128 7⟩
  have hcomma : ',' ∉ polledId := fun hmem => absurd (hid.2 ',' hmem) (by decide)
  have hsplit : splitCommas polledId = [polledId] := List.splitOn_eq_singleton hcomma
  refine goes_of_answer ⟨polledId, statusAt m, []⟩ [] ?_ rfl rfl ?_
  · rw [hsplit]
    exact fun i hi => List.mem_singleton.mp hi ▸ hid
  · rw [hsplit]
    rfl

variable {s : BatchFeed ℕ}

/-- One consumer waits for a message, and one producer for its next pass. -/
structure AtRest (s : BatchFeed ℕ) : Prop where
  queue : s.consumers.queue = []
  tasks : s.consumers.tasks = [.receiving]
  producers : s.producers = [.created] ∨ s.producers = [.sleeping]
  subscribed : s.consumers.ws.subsevt .batch = some pollSubscription
  hashes : s.consumers.ws.evthashes.isSome
  sent : ∀ notification ∈ s.consumers.ws.sent,
    notification.eventType = .batch ∧ ∃ m, notification.attributes = (reportAt m).value

/-- With one consumer no sends overlap. -/
theorem not_overlaps_of_one {c : Consumers} {action : ConsumerAction} (h : c.tasks.length ≤ 1) :
    ¬Overlaps statusPlatform c action := by
  rintro ⟨task, queue, p, evthash, hprogress, -, other, hne, rest, hother⟩
  have hlt := exists_task hprogress
  have hlt' := (List.getElem?_eq_some_iff.mp hother).1
  omega

/-- The report of a pass is in the queue. -/
def polled (s : BatchFeed ℕ) : BatchFeed ℕ :=
  { s with
    consumers :=
      { s.consumers with
        queue := [.clientEvents [(reportAt s.now).event]]
        tasks := [.receiving] }
    producers := [.sleeping] }

/-- A pass of the producer, and the status that it is told. -/
theorem AtRest.poll (h : AtRest s) :
    ∃ ts, Run (FeedStep statusPlatform statusSdk tells) s ts (polled s) ∧
      ts.flatMap heardIn = [] ∧ ∀ e ∈ ts, e.pre.consumers.tasks.length ≤ 1 := by
  let used := s.consumers.ws.subscriptions
  let fetching : BatchFeed ℕ := { s with producers := [.fetching polledId used s.now] }
  have hpass : FeedStep statusPlatform statusSdk tells s (.pass 0 true) fetching := by
    have hbegin : s.beginPass true = .fetching polledId used s.now := by
      simp [BatchFeed.beginPass, BatchFeed.fetch, h.subscribed, pollSubscription, used]
    have hposition : s.producers[0]? = some .created ∨ s.producers[0]? = some .sleeping := by
      rcases h.producers with heq | heq
      · exact .inl (by rw [heq]; rfl)
      · exact .inr (by rw [heq]; rfl)
    have hset : s.producers.set 0 (s.beginPass true) = fetching.producers := by
      rw [hbegin]
      rcases h.producers with heq | heq <;> rw [heq] <;> rfl
    have hstep : FeedStep statusPlatform statusSdk tells s (.pass 0 true)
        { s with producers := s.producers.set 0 (s.beginPass true) } := .pass hposition
    rwa [hset] at hstep
  have hstatus : FeedStep statusPlatform statusSdk tells fetching
      (.status 0 (some (.clientEvents [(reportAt s.now).event])) false) (polled s) := by
    have hnext : fetching.nextEntry used false = .sleeping := by
      simp [BatchFeed.nextEntry, BatchFeed.beginPass, fetching, used]
    have hroute : fetching.route (some (.clientEvents [(reportAt s.now).event])) =
        (polled s).consumers := by
      simp [BatchFeed.route, fetching, polled, h.queue, h.tasks]
    have hstep : FeedStep statusPlatform statusSdk tells fetching
        (.status 0 (some (.clientEvents [(reportAt s.now).event])) false)
        { fetching with
          consumers := fetching.route (some (.clientEvents [(reportAt s.now).event]))
          producers := fetching.producers.set 0 (fetching.nextEntry used false) } :=
      .status (s := fetching) rfl (poll_tells s.now)
    rw [hnext, hroute] at hstep
    exact hstep
  have hlength : s.consumers.tasks.length ≤ 1 := by rw [h.tasks]; exact le_rfl
  refine ⟨_, Run.cons hpass (Run.cons hstatus Run.nil), rfl, fun e he => ?_⟩
  simp only [List.mem_cons, List.not_mem_nil, or_false] at he
  rcases he with rfl | rfl <;> exact hlength

/-- The consumer takes the report and tells it, if it is new. -/
theorem AtRest.take (h : AtRest s) :
    ∃ ts s', Run (FeedStep statusPlatform statusSdk tells) (polled s) ts s' ∧ AtRest s' ∧
      s'.now = s.now + 1 ∧ ts.flatMap heardIn = [(reportAt s.now).event] ∧
      ∀ e ∈ ts, e.pre.consumers.tasks.length ≤ 1 := by
  obtain ⟨seen, hseen⟩ := Option.isSome_iff_exists.mp h.hashes
  let ws := s.consumers.ws
  let rested (p : Progress) : BatchFeed ℕ :=
    ⟨s.now, ⟨p.ws, [], [p.position], s.consumers.sends ++ p.began.toList⟩, [.sleeping]⟩
  have hreceive : ∀ p, advance statusPlatform ws [((reportAt s.now).event, .batch)] = p →
      FeedStep statusPlatform statusSdk tells (polled s) (.consumers (.receive 0)) (rested p) := by
    rintro p rfl
    rw [← work_report]
    exact .consumers (fun _ heq => by cases heq) rfl
  have hheard : (polled s).consumers.heard (.receive 0) = [(reportAt s.now).event] :=
    heard_report (reportAt s.now) h.subscribed
  have hadvance := advance_subscribed (π := statusPlatform) (reportAt s.now) h.subscribed hseen
  by_cases hold : (reportAt s.now).evtHash statusPlatform ∈ seen
  · rw [if_pos hold] at hadvance
    have hrun := Run.cons (hreceive _ hadvance) (Run.cons (.tick (Nat.le_succ s.now)) Run.nil)
    refine ⟨_, _, hrun, ⟨rfl, rfl, .inr rfl, h.subscribed, h.hashes, h.sent⟩, rfl,
      (List.append_nil _).trans hheard, fun e he => ?_⟩
    simp only [List.mem_cons, List.not_mem_nil, or_false] at he
    rcases he with rfl | rfl <;> exact le_rfl
  · rw [if_neg hold] at hadvance
    let notification : Notification := ⟨.text "1".toList, .batch, (reportAt s.now).value⟩
    let evthash := (reportAt s.now).evtHash statusPlatform
    let told : WsState := ⟨ws.subsevt, some (evthash :: seen), ws.sent ++ [notification]⟩
    have hsent : FeedStep statusPlatform statusSdk tells (rested (.send ws notification evthash []))
        (.consumers (.sent 0))
        ⟨s.now, ⟨told, [], [.receiving], s.consumers.sends ++ [evthash] ++ []⟩, [.sleeping]⟩ := by
      refine .consumers (fun _ heq => by cases heq) ?_
      simp only [Consumers.step, Consumers.progress, rested, Progress.send, resumeSend, ws, hseen]
      rfl
    have hrun := Run.cons (hreceive _ hadvance)
      (Run.cons hsent (Run.cons (.tick (Nat.le_succ s.now)) Run.nil))
    refine ⟨_, _, hrun, ⟨rfl, rfl, .inr rfl, h.subscribed, rfl, ?_⟩, rfl,
      (List.append_nil _).trans hheard, fun e he => ?_⟩
    · intro notification hmem
      rcases List.mem_append.mp hmem with hmem | hmem
      · exact h.sent notification hmem
      · rw [List.mem_singleton.mp hmem]
        exact ⟨rfl, s.now, rfl⟩
    · simp only [List.mem_cons, List.not_mem_nil, or_false] at he
      rcases he with rfl | rfl | rfl <;> exact le_rfl

/-- A round of the producer and the consumer. -/
theorem exists_round (h : AtRest s) :
    ∃ ts s', Run (FeedStep statusPlatform statusSdk tells) s ts s' ∧ AtRest s' ∧
      s'.now = s.now + 1 ∧ ts.flatMap heardIn = [(reportAt s.now).event] ∧
      ∀ e ∈ ts, e.pre.consumers.tasks.length ≤ 1 := by
  obtain ⟨ts, hpoll, hnothing, hone⟩ := h.poll
  obtain ⟨ts', s', htake, hrest, hnow, hheard, hone'⟩ := h.take
  refine ⟨ts ++ ts', s', Run.append_iff.mpr ⟨_, hpoll, htake⟩, hrest, hnow, ?_, fun e he => ?_⟩
  · rw [List.flatMap_append, hnothing, List.nil_append, hheard]
  · rcases List.mem_append.mp he with he | he
    · exact hone e he
    · exact hone' e he

/-- The two reports have different digests. -/
theorem reports_apart (m m' : ℕ)
    (h : (reportAt m).evtHash statusPlatform = (reportAt m').evtHash statusPlatform) :
    Text.encodeUtf8 (reportAt m).hashText = Text.encodeUtf8 (reportAt m').hashText := by
  have hne : (⟨polledId, .pending, none⟩ : BatchReport).evtHash statusPlatform ≠
      (⟨polledId, .committed, none⟩ : BatchReport).evtHash statusPlatform := by
    decide +kernel
  have hcases : ∀ m, reportAt m = ⟨polledId, .pending, none⟩ ∨
      reportAt m = ⟨polledId, .committed, none⟩ := by
    intro m
    unfold reportAt statusAt
    split_ifs
    · exact .inl rfl
    · exact .inr rfl
  rcases hcases m with hm | hm <;> rcases hcases m' with hm' | hm'
  · rw [hm, hm']
  · rw [hm, hm'] at h
    exact absurd h hne
  · rw [hm, hm'] at h
    exact absurd h.symm hne
  · rw [hm, hm']

/-- Pending, committed, pending again after a fork, and committed again: two of the four reports
are told. -/
theorem batch_statuses_told_once_fork :
    ∃ ts s, Run (FeedStep statusPlatform statusSdk tells) (.init 0) ts s ∧
      ts.flatMap heardIn = ([0, 1, 2, 3].map reportAt).map BatchReport.event ∧
      s.told = ([0, 1].map reportAt).map BatchReport.value := by
  let subscribed : BatchFeed ℕ :=
    ⟨0, ⟨⟨Function.update (fun _ => none) .batch (some pollSubscription), some [], []⟩, [],
      [.receiving], []⟩, [.created]⟩
  have hsubscribe : FeedStep statusPlatform statusSdk tells (.init 0)
      (.consumers (.subscribe .batch pollSubscription)) subscribed :=
    .consumers (fun _ heq => by cases heq) rfl
  have hrest : AtRest subscribed :=
    ⟨rfl, rfl, .inl rfl, rfl, rfl, fun _ hmem => by cases hmem⟩
  obtain ⟨ts₁, s₁, hrun₁, hrest₁, hnow₁, hheard₁, hone₁⟩ := exists_round hrest
  obtain ⟨ts₂, s₂, hrun₂, hrest₂, hnow₂, hheard₂, hone₂⟩ := exists_round hrest₁
  obtain ⟨ts₃, s₃, hrun₃, hrest₃, hnow₃, hheard₃, hone₃⟩ := exists_round hrest₂
  obtain ⟨ts₄, s₄, hrun₄, hrest₄, -, hheard₄, hone₄⟩ := exists_round hrest₃
  let ts : List (Transition (BatchFeed ℕ) FeedLabel) :=
    ⟨.init 0, .consumers (.subscribe .batch pollSubscription), subscribed⟩ ::
      (ts₁ ++ (ts₂ ++ (ts₃ ++ ts₄)))
  have hrun : Run (FeedStep statusPlatform statusSdk tells) (.init 0) ts s₄ :=
    Run.cons hsubscribe (Run.append_iff.mpr ⟨_, hrun₁, Run.append_iff.mpr
      ⟨_, hrun₂, Run.append_iff.mpr ⟨_, hrun₃, hrun₄⟩⟩⟩)
  have hevents : ts.flatMap heardIn = ([0, 1, 2, 3].map reportAt).map BatchReport.event := by
    rw [List.flatMap_cons, List.flatMap_append, List.flatMap_append, List.flatMap_append, hheard₁,
      hheard₂, hheard₃, hheard₄, hnow₃, hnow₂, hnow₁]
    rfl
  have hone : ∀ e ∈ ts, e.pre.consumers.tasks.length ≤ 1 := by
    simp only [ts, List.mem_cons, List.mem_append]
    rintro e (rfl | he | he | he | he)
    · exact Nat.zero_le 1
    · exact hone₁ e he
    · exact hone₂ e he
    · exact hone₃ e he
    · exact hone₄ e he
  have hhashed : ∀ x, IsHashed statusPlatform ts s₄ x → ∃ m, x = (reportAt m).hashText := by
    rintro x (⟨evt, hevt, hx⟩ | ⟨notification, hmem, hx⟩)
    · rw [hevents] at hevt
      obtain ⟨r, hr, rfl⟩ := List.mem_map.mp hevt
      obtain ⟨m, -, rfl⟩ := List.mem_map.mp hr
      rw [BatchReport.parseAttributes_event, BatchReport.evtHashText_value] at hx
      exact ⟨m, (Except.ok.inj hx).symm⟩
    · obtain ⟨hbatch, m, hattributes⟩ := hrest₄.sent notification hmem
      rw [hbatch, hattributes, BatchReport.evtHashText_value] at hx
      exact ⟨m, (Except.ok.inj hx).symm⟩
  obtain ⟨⟨reports, sent, hreports, -, htold, -, -, honce⟩, -⟩ :=
    batch_statuses_told_once tells_statuses hrun fun x y hx hy hdigest => by
      obtain ⟨m, rfl⟩ := hhashed x hx
      obtain ⟨m', rfl⟩ := hhashed y hy
      exact reports_apart m m' hdigest
  refine ⟨ts, s₄, hrun, hevents, ?_⟩
  have hcalm := honce.mpr fun e he ⟨action, _, _, hoverlaps⟩ =>
    not_overlaps_of_one (hone e he) hoverlaps
  rw [hevents] at hreports
  rw [htold, hcalm, ← List.map_injective_iff.mpr BatchReport.event_injective hreports]
  congr 1

end Sample

end Remme.RpcApi
