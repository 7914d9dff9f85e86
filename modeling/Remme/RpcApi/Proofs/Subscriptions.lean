import Remme.RpcApi.Subscriptions
import Remme.RpcApi.Proofs.Producers
/-!
# The validator covers every subscription

`event_lock` is held from the reading of the table to the reply, so no two
requests of a websocket overlap, and the one that is agreed to was the last one
written.  All others, also those that nobody waits for any more, name at least
the events that are in the table.
-/

namespace Remme.RpcApi

open Remme.Lib Remme.Shared Remme.Tp

variable {s s' : Sessions} {action : SessionAction} {task ws : ℕ} {t : RequestTask}

/-! ## The tasks and the lock in one step -/

/-- The task awaits the validator. -/
def RequestPosition.Awaits : RequestPosition → Prop
  | .listing _ => True
  | .subscribing _ => True
  | _ => False

/-- The task may have written its request. -/
def RequestPosition.Asked : RequestPosition → Prop
  | .subscribing _ => True
  | .ended => True
  | _ => False

/-- How an action moves a task to a position, and the lock with it. -/
inductive Move (task : ℕ) :
    SessionAction → RequestTask → RequestPosition → Option ℕ → Option ℕ → Prop
  | start {t : RequestTask} {position : RequestPosition} {l : Option ℕ}
      (h : t.position = .created) (hposition : position = .locking ∨ position = .ended) :
      Move task (.start task) t position l l
  | hold {t : RequestTask} {position : RequestPosition} {eventType : EventName}
      {validated : Except PyError (Option Str)} (h : t.position = .locking)
      (hrequest : t.request = .subscribe (some eventType) validated)
      (hposition : position = .listing none ∨ position = .subscribing none) :
      Move task (.acquire task) t position none (some task)
  | refuse {t : RequestTask} (h : t.position = .locking) :
      Move task (.acquire task) t .ended none none
  | list {t : RequestTask} {reply : ListReply} {l : Option ℕ} (h : t.position = .listing none) :
      Move task (.listed task reply) t (.listing (some reply)) l l
  | reply {t : RequestTask} {reply : SubscribeReply} {l : Option ℕ}
      (h : t.position = .subscribing none) :
      Move task (.replied task reply) t (.subscribing (some reply)) l l
  | ask {t : RequestTask} {l : Option ℕ} (h : t.position = .listing (some .head)) :
      Move task (.resume task) t (.subscribing none) l (some task)
  | finish {t : RequestTask} {l : Option ℕ} (h : t.position.Awaits) :
      Move task (.resume task) t .ended l none

inductive TaskStep (s s' : Sessions) : SessionAction → Prop
  | opened {ws : ℕ} (htasks : s'.tasks = s.tasks) (hlock : s'.lock = s.lock) :
      TaskStep s s' (.open ws)
  | requested {ws : ℕ} {request : SubscriptionRequest}
      (htasks : s'.tasks = s.tasks ++ [⟨ws, request, .created⟩]) (hlock : s'.lock = s.lock) :
      TaskStep s s' (.request ws request)
  | moved {action : SessionAction} {task : ℕ} {t : RequestTask} {position : RequestPosition}
      (htask : s.tasks[task]? = some t) (hmove : Move task action t position s.lock s'.lock)
      (htasks : s'.tasks = (s.moveTo task position).tasks) : TaskStep s s' action
  | closed {ws : ℕ} (htasks : s'.tasks = s.tasks.map (Sessions.disconnect ws))
      (hlock : s'.lock = s.lock) : TaskStep s s' (.close ws)

/-- `subscribe` with the lock goes on to an await, or ends. -/
theorem taskStep_subscribe {eventType : EventName} {validated : Except PyError (Option Str)}
    (htask : s.tasks[task]? = some ⟨ws, .subscribe (some eventType) validated, .locking⟩)
    (hlock : s.lock = none) :
    TaskStep s (s.subscribe task ws eventType validated) (.acquire task) := by
  have hrefuse : TaskStep s ((s.setdefault ws).finish task) (.acquire task) := by
    refine .moved htask ?_ rfl
    rw [hlock]
    exact .refuse rfl
  have hhold : ∀ position, position = .listing none ∨ position = .subscribing none →
      TaskStep s ((s.setdefault ws).hold task position) (.acquire task) := by
    intro position hposition
    refine .moved htask ?_ rfl
    rw [hlock]
    exact .hold rfl rfl hposition
  unfold Sessions.subscribe
  simp only
  split_ifs
  · exact hrefuse
  · exact hrefuse
  · match validated with
    | .error _ => exact hrefuse
    | .ok none => exact hhold _ (.inl rfl)
    | .ok (some []) => exact hhold _ (.inl rfl)
    | .ok (some (_ :: _)) => exact hhold _ (.inr rfl)

theorem taskStep_of_resume (h : s.step (.resume task) = some s') :
    TaskStep s s' (.resume task) := by
  simp only [Sessions.step] at h
  split at h
  · rename_i htask
    split_ifs at h
    · cases h
      exact .moved htask (.ask rfl) rfl
    · cases h
      exact .moved htask (.finish trivial) rfl
  · rename_i htask
    cases h
    exact .moved htask (.finish trivial) rfl
  · rename_i htask
    cases h
    exact .moved htask (.finish trivial) rfl
  · rename_i htask
    cases h
    exact .moved htask (.finish trivial) rfl
  · cases h

theorem taskStep_of_acquire (h : s.step (.acquire task) = some s') :
    TaskStep s s' (.acquire task) := by
  simp only [Sessions.step] at h
  split at h
  · rename_i hlock htask
    cases h
    exact taskStep_subscribe htask hlock
  · rename_i hlock htask
    cases h
    refine .moved htask ?_ rfl
    rw [hlock]
    exact .refuse rfl
  · cases h

theorem taskStep_of_step (h : s.step action = some s') : TaskStep s s' action := by
  cases action with
  | «open» ws =>
      simp only [Sessions.step] at h
      split_ifs at h
      cases h
      exact .opened rfl rfl
  | request ws request =>
      simp only [Sessions.step] at h
      split_ifs at h
      cases h
      exact .requested rfl rfl
  | start task =>
      simp only [Sessions.step] at h
      split at h
      · rename_i htask
        cases h
        exact .moved htask (.start rfl (.inr rfl)) rfl
      · rename_i htask
        cases h
        exact .moved htask (.start rfl (.inr rfl)) rfl
      · rename_i htask
        cases h
        exact .moved htask (.start rfl (.inl rfl)) rfl
      · cases h
  | acquire task => exact taskStep_of_acquire h
  | listed task reply =>
      simp only [Sessions.step] at h
      split at h
      · rename_i htask
        cases h
        exact .moved htask (.list rfl) rfl
      · cases h
  | replied task reply =>
      simp only [Sessions.step] at h
      split at h
      · rename_i htask
        cases h
        exact .moved htask (.reply rfl) rfl
      · cases h
  | resume task => exact taskStep_of_resume h
  | close ws =>
      simp only [Sessions.step] at h
      split_ifs at h
      cases h
      exact .closed rfl rfl

/-! ## Looking tasks up after a step -/

theorem getElem?_moveTo (s : Sessions) (task i : ℕ) (position : RequestPosition) :
    (s.moveTo task position).tasks[i]? =
      if i = task then s.tasks[i]?.map fun t => { t with position := position }
      else s.tasks[i]? := by
  simp only [Sessions.moveTo, List.getElem?_modify]
  split_ifs with htask hindex hindex
  · rfl
  · exact absurd htask.symm hindex
  · exact absurd hindex.symm htask
  · simp

theorem disconnect_ws (ws : ℕ) (t : RequestTask) :
    (Sessions.disconnect ws t).ws = t.ws ∧ (Sessions.disconnect ws t).request = t.request := by
  unfold Sessions.disconnect
  split_ifs
  · split <;> exact ⟨rfl, rfl⟩
  · exact ⟨rfl, rfl⟩

/-- The clean-up makes a pending wait fail, and moves no task otherwise. -/
theorem disconnect_position (ws : ℕ) (t : RequestTask) :
    ((Sessions.disconnect ws t).position.Awaits ↔ t.position.Awaits) ∧
      ((Sessions.disconnect ws t).position.Asked ↔ t.position.Asked) ∧
      ((Sessions.disconnect ws t).position = .subscribing (some .ok) ↔
        t.position = .subscribing (some .ok)) := by
  unfold Sessions.disconnect
  split_ifs
  · split
    · rename_i h
      simp [h, RequestPosition.Awaits, RequestPosition.Asked]
    · rename_i h
      simp [h, RequestPosition.Awaits, RequestPosition.Asked]
    · exact ⟨.rfl, .rfl, .rfl⟩
  · exact ⟨.rfl, .rfl, .rfl⟩

/-- A task that awaits after a step of another task's did so before, in the same stage. -/
structure SameStage (t t' : RequestTask) : Prop where
  ws : t'.ws = t.ws
  request : t'.request = t.request
  awaits : t'.position.Awaits ↔ t.position.Awaits
  asked : t'.position.Asked ↔ t.position.Asked
  agreed : t'.position = .subscribing (some .ok) ↔ t.position = .subscribing (some .ok)

theorem SameStage.refl (t : RequestTask) : SameStage t t := ⟨rfl, rfl, .rfl, .rfl, .rfl⟩

theorem sameStage_disconnect (ws : ℕ) (t : RequestTask) :
    SameStage t (Sessions.disconnect ws t) :=
  have hposition := disconnect_position ws t
  ⟨(disconnect_ws ws t).1, (disconnect_ws ws t).2, hposition.1, hposition.2.1, hposition.2.2⟩

/-! ## The lock -/

/-- A task that awaits the validator is a `subscribe` that holds the lock. -/
def LockHeld (s : Sessions) : Prop :=
  ∀ task t, s.tasks[task]? = some t → t.position.Awaits →
    s.lock = some task ∧ ∃ eventType validated, t.request = .subscribe (some eventType) validated

theorem LockHeld.unique (h : LockHeld s) {task' : ℕ} {t' : RequestTask}
    (htask : s.tasks[task]? = some t) (hawaits : t.position.Awaits)
    (htask' : s.tasks[task']? = some t') (hawaits' : t'.position.Awaits) : task' = task := by
  have hlock := (h task t htask hawaits).1
  have hlock' := (h task' t' htask' hawaits').1
  rw [hlock] at hlock'
  exact (Option.some.inj hlock').symm

/-- The task that moves is the only one to await, if any is. -/
theorem Move.alone {position : RequestPosition} {l' : Option ℕ} (h : LockHeld s)
    (htask : s.tasks[task]? = some t) (hmove : Move task action t position s.lock l')
    (hlock : l' ≠ s.lock) {i : ℕ} {t' : RequestTask} (hi : i ≠ task)
    (ht' : s.tasks[i]? = some t') : ¬t'.position.Awaits := by
  intro hawaits
  have hheld := (h i t' ht' hawaits).1
  generalize s.lock = l at hmove hlock hheld
  subst hheld
  cases hmove with
  | start => exact hlock rfl
  | list => exact hlock rfl
  | reply => exact hlock rfl
  | ask hposition =>
      exact hi (h.unique htask (by rw [hposition]; trivial) ht' hawaits)
  | finish hawaiting => exact hi (h.unique htask hawaiting ht' hawaits)

theorem LockHeld.step (h : LockHeld s) (hstep : s.step action = some s') : LockHeld s' := by
  cases taskStep_of_step hstep with
  | opened htasks hlock =>
      intro task t htask hawaits
      rw [hlock]
      rw [htasks] at htask
      exact h task t htask hawaits
  | requested htasks hlock =>
      intro task t htask hawaits
      rw [hlock]
      rw [htasks, List.getElem?_append] at htask
      split_ifs at htask with hold
      · exact h task t htask hawaits
      · have hmem := List.mem_of_getElem? htask
        rw [List.mem_singleton.mp hmem] at hawaits
        cases hawaits
  | @closed ws htasks hlock =>
      intro task t htask hawaits
      rw [hlock]
      rw [htasks, List.getElem?_map] at htask
      obtain ⟨t₀, ht₀, rfl⟩ := Option.map_eq_some_iff.mp htask
      have hstage := sameStage_disconnect ws t₀
      rw [hstage.request]
      exact h task t₀ ht₀ (hstage.awaits.mp hawaits)
  | @moved _ mover t₀ position ht₀ hmove htasks =>
      intro task t htask hawaits
      rw [htasks, getElem?_moveTo] at htask
      split_ifs at htask with hmover
      · subst hmover
        rw [ht₀] at htask
        cases htask
        have hheld := h task t₀ ht₀
        generalize s.lock = l at hmove hheld
        generalize s'.lock = l' at hmove
        cases hmove with
        | start _ hposition =>
            rcases hposition with rfl | rfl
            · cases hawaits
            · cases hawaits
        | hold _ hrequest => exact ⟨rfl, _, _, hrequest⟩
        | refuse => cases hawaits
        | list hposition => exact hheld (by rw [hposition]; trivial)
        | reply hposition => exact hheld (by rw [hposition]; trivial)
        | ask hposition => exact ⟨rfl, (hheld (by rw [hposition]; trivial)).2⟩
        | finish => cases hawaits
      · have hheld := h task t htask hawaits
        refine ⟨?_, hheld.2⟩
        by_contra hlock
        refine Move.alone h ht₀ hmove ?_ hmover htask hawaits
        intro hsame
        rw [hsame] at hlock
        exact hlock hheld.1

/-! ## The tables -/

/-- The table of a websocket gets an event when its request was agreed to, and no other way. -/
theorem events_of_step (hstep : s.step action = some s') {n : EventName} (hn : n ∈ s'.events ws) :
    n ∈ s.events ws ∨ ∃ task validated, action = .resume task ∧
      s.tasks[task]? = some ⟨ws, .subscribe (some n) validated, .subscribing (some .ok)⟩ := by
  cases tableStep_of_step hstep with
  | same _ h => exact .inl (by rwa [Sessions.events, (tables_eq h).2.1] at hn)
  | opened _ h => exact .inl (by rwa [Sessions.events, (tables_eq h).2.1] at hn)
  | @locked _ ws' _ _ _ h =>
      rw [Sessions.events, (tables_eq h).2.1] at hn
      rcases eq_or_ne ws ws' with rfl | hne
      · exact .inl (by simpa [Sessions.setdefault, Sessions.events] using hn)
      · exact .inl (by simpa [Sessions.setdefault, Sessions.events, hne] using hn)
  | @unsubscribed _ ws' eventType _ h =>
      rw [Sessions.events, (tables_eq h).2.1] at hn
      rcases eq_or_ne ws ws' with rfl | hne
      · rw [Function.update_self] at hn
        cases hsubsevt : s.subsevt ws with
        | none => simp [hsubsevt] at hn
        | some events =>
            rw [hsubsevt] at hn
            rw [Sessions.events, hsubsevt]
            exact .inl (List.mem_of_mem_erase hn)
      · rw [Function.update_of_ne hne] at hn
        exact .inl hn
  | @agreed task ws' eventType validated htask h =>
      rw [Sessions.events, (tables_eq h).2.1] at hn
      rcases eq_or_ne ws ws' with rfl | hne
      · rw [Function.update_self] at hn
        cases hsubsevt : s.subsevt ws with
        | none => simp [hsubsevt] at hn
        | some events =>
            rw [hsubsevt] at hn
            rcases List.mem_cons.mp hn with rfl | hold
            · exact .inr ⟨task, validated, rfl, htask⟩
            · exact .inl (by rwa [Sessions.events, hsubsevt])
      · rw [Function.update_of_ne hne] at hn
        exact .inl hn
  | @closed ws' _ h =>
      rw [Sessions.events, (tables_eq h).2.1] at hn
      rcases eq_or_ne ws ws' with rfl | hne
      · simp at hn
      · rw [Function.update_of_ne hne] at hn
        exact .inl hn

/-! ## Coverage -/

/-- The event types include those of every name. -/
def Covers (subscriptions : List EventType) (names : List EventName) : Prop :=
  ∀ n ∈ names, ∀ eventType ∈ n.events, eventType ∈ subscriptions

theorem covers_prepareEvents {eventTypes names : List EventName} (h : ∀ n ∈ names, n ∈ eventTypes) :
    Covers (prepareEvents eventTypes) names :=
  fun n hn _ hevent => List.mem_flatMap.mpr ⟨n, h n hn, hevent⟩

/-- What a task in wait for its reply left on the connection: its request was taken, and was the
last one; or it is the last one on its way; or it was lost. -/
structure Asking (s : Subscriptions) (task ws : ℕ) : Prop where
  taken : s.taken task = true → s.inFlight ws = [] ∧
    s.subscribed ws = prepareEvents (s.eventTypes task)
  pending : s.taken task = false → ∃ older, (∀ m ∈ older, m.task ≠ task) ∧
    (s.inFlight ws = older ∨
      s.inFlight ws = older ++ [⟨task, prepareEvents (s.eventTypes task)⟩])

structure Coverage (s : Subscriptions) : Prop where
  lock : LockHeld s.sessions
  subscribed : ∀ ws, Covers (s.subscribed ws) (s.sessions.events ws)
  inFlight : ∀ ws, ∀ m ∈ s.inFlight ws, Covers m.subscriptions (s.sessions.events ws)
  sent : ∀ ws, ∀ m ∈ s.inFlight ws,
    ∃ t, s.sessions.tasks[m.task]? = some t ∧ t.ws = ws ∧ t.position.Asked
  taken : ∀ task, s.taken task = true →
    ∃ t, s.sessions.tasks[task]? = some t ∧ t.position.Asked
  /-- `event_types` has the task's own event and, as nothing is added meanwhile, the table's. -/
  eventTypes : ∀ task t eventType validated, s.sessions.tasks[task]? = some t →
    t.position.Awaits → t.request = .subscribe (some eventType) validated →
      ∀ n ∈ eventType :: s.sessions.events t.ws, n ∈ s.eventTypes task
  asking : ∀ task t, s.sessions.tasks[task]? = some t → t.position.Awaits → t.position.Asked →
    Asking s task t.ws
  agreed : ∀ task t, s.sessions.tasks[task]? = some t →
    t.position = .subscribing (some .ok) → s.taken task = true

theorem coverage_init : Coverage .init where
  lock := by simp [LockHeld, Subscriptions.init, Sessions.init]
  subscribed := by simp [Covers, Subscriptions.init, Sessions.init, Sessions.events]
  inFlight := by simp [Subscriptions.init]
  sent := by simp [Subscriptions.init]
  taken := by simp [Subscriptions.init]
  eventTypes := by simp [Subscriptions.init, Sessions.init]
  asking := by simp [Subscriptions.init, Sessions.init]
  agreed := by simp [Subscriptions.init, Sessions.init]

/-! ## The validator's steps -/

section Validator

variable {s : Subscriptions} {m : SubscribeMessage} {rest : List SubscribeMessage}

/-- The state after the validator took the oldest request of a connection. -/
def Subscriptions.afterTake (s : Subscriptions) (ws : ℕ) (m : SubscribeMessage)
    (rest : List SubscribeMessage) : Subscriptions :=
  { s with
    inFlight := Function.update s.inFlight ws rest
    subscribed := Function.update s.subscribed ws m.subscriptions
    taken := Function.update s.taken m.task true }

theorem mem_inFlight_of_afterTake (hfirst : s.inFlight ws = m :: rest) {ws' : ℕ}
    {m' : SubscribeMessage} (h : m' ∈ (s.afterTake ws m rest).inFlight ws') :
    m' ∈ s.inFlight ws' := by
  rcases eq_or_ne ws' ws with rfl | hne
  · have hmem : m' ∈ rest := by simpa [Subscriptions.afterTake] using h
    simp [hfirst, hmem]
  · simpa [Subscriptions.afterTake, hne] using h

/-- The request that is taken is the task's own only if it is the last one. -/
theorem Asking.take (h : Asking s task ws) (hfirst : s.inFlight ws = m :: rest) :
    Asking (s.afterTake ws m rest) task ws := by
  have huntaken : s.taken task = false := by
    by_contra htaken
    have hempty := (h.taken (by simpa using htaken)).1
    rw [hfirst] at hempty
    cases hempty
  obtain ⟨older, holder, hcases⟩ := h.pending huntaken
  rw [hfirst] at hcases
  rcases hcases with rfl | heq
  · have hne : task ≠ m.task := fun heq => holder m (by simp) heq.symm
    refine ⟨fun htaken => ?_, fun _ => ⟨rest, fun m' hm' => holder m' (by simp [hm']), ?_⟩⟩
    · simp [Subscriptions.afterTake, hne, huntaken] at htaken
    · exact .inl (by simp [Subscriptions.afterTake])
  · cases older with
    | nil =>
        obtain ⟨rfl, rfl⟩ := List.cons.inj heq
        refine ⟨fun _ => by simp [Subscriptions.afterTake], fun htaken => ?_⟩
        simp [Subscriptions.afterTake] at htaken
    | cons first older =>
        obtain ⟨rfl, rfl⟩ := List.cons.inj heq
        have hne : task ≠ m.task := fun heq => holder m (by simp) heq.symm
        refine ⟨fun htaken => ?_, fun _ => ⟨older, fun m' hm' => holder m' (by simp [hm']), ?_⟩⟩
        · simp [Subscriptions.afterTake, hne, huntaken] at htaken
        · exact .inr (by simp [Subscriptions.afterTake])

theorem Coverage.take (h : Coverage s) (hfirst : s.inFlight ws = m :: rest) :
    Coverage (s.afterTake ws m rest) := by
  have hmem : m ∈ s.inFlight ws := by simp [hfirst]
  obtain ⟨writer, hwriter, hws, hasked⟩ := h.sent ws m hmem
  refine ⟨h.lock, ?_, ?_, ?_, ?_, h.eventTypes, ?_, ?_⟩
  · intro ws'
    rcases eq_or_ne ws' ws with rfl | hne
    · simpa [Subscriptions.afterTake] using h.inFlight ws' m hmem
    · simpa [Subscriptions.afterTake, hne] using h.subscribed ws'
  · exact fun ws' m' hm' => h.inFlight ws' m' (mem_inFlight_of_afterTake hfirst hm')
  · exact fun ws' m' hm' => h.sent ws' m' (mem_inFlight_of_afterTake hfirst hm')
  · intro task htaken
    rcases eq_or_ne task m.task with rfl | hne
    · exact ⟨writer, hwriter, hasked⟩
    · exact h.taken task (by simpa [Subscriptions.afterTake, hne] using htaken)
  · intro task t htask hawaits hasked
    have hold := h.asking task t htask hawaits hasked
    rcases eq_or_ne t.ws ws with rfl | hne
    · exact hold.take hfirst
    · have htaskne : task ≠ m.task := by
        rintro rfl
        have hsame : writer = t := Option.some.inj (hwriter.symm.trans htask)
        exact hne (hsame ▸ hws)
      constructor
      · simpa [Subscriptions.afterTake, hne, htaskne] using hold.taken
      · simpa [Subscriptions.afterTake, hne, htaskne] using hold.pending
  · intro task t htask hagreed
    have htaken := h.agreed task t htask hagreed
    rcases eq_or_ne task m.task with rfl | hne
    · simp [Subscriptions.afterTake]
    · simpa [Subscriptions.afterTake, hne] using htaken

theorem Coverage.lose (h : Coverage s) (ws index : ℕ) :
    Coverage
      { s with inFlight := Function.update s.inFlight ws ((s.inFlight ws).eraseIdx index) } := by
  have hrest : ∀ ws', ∀ m' ∈ Function.update s.inFlight ws ((s.inFlight ws).eraseIdx index) ws',
      m' ∈ s.inFlight ws' := by
    intro ws' m' hm'
    rcases eq_or_ne ws' ws with rfl | hne
    · rw [Function.update_self] at hm'
      exact List.mem_of_mem_eraseIdx hm'
    · rwa [Function.update_of_ne hne] at hm'
  refine ⟨h.lock, h.subscribed, ?_, ?_, h.taken, h.eventTypes, ?_, h.agreed⟩
  · exact fun ws' m' hm' => h.inFlight ws' m' (hrest ws' m' hm')
  · exact fun ws' m' hm' => h.sent ws' m' (hrest ws' m' hm')
  · intro task t htask hawaits hasked
    have hold := h.asking task t htask hawaits hasked
    rcases eq_or_ne t.ws ws with rfl | hne
    · constructor
      · intro htaken
        obtain ⟨hempty, hsubscribed⟩ := hold.taken htaken
        exact ⟨by simp [hempty], hsubscribed⟩
      · intro huntaken
        obtain ⟨older, holder, hcases⟩ := hold.pending huntaken
        have hlater : ∀ m' ∈ older.eraseIdx index, m'.task ≠ task :=
          fun m' hm' => holder m' (List.mem_of_mem_eraseIdx hm')
        rcases hcases with heq | heq
        · exact ⟨older.eraseIdx index, hlater, .inl (by simp [heq])⟩
        · simp only [heq, Function.update_self, List.eraseIdx_append]
          split_ifs with hindex
          · exact ⟨older.eraseIdx index, hlater, .inr rfl⟩
          · refine ⟨older, holder, ?_⟩
            cases hlast : index - older.length with
            | zero => exact .inl (by simp)
            | succ k => exact .inr (by simp)
    · constructor
      · simpa [hne] using hold.taken
      · simpa [hne] using hold.pending

end Validator

/-! ## The steps of the sessions -/

/-- How a task comes to await after a step. -/
inductive Stage (s : Sessions) (action : SessionAction) (task : ℕ) (t' : RequestTask) : Prop
  /-- It awaited before, and did not run in the step. -/
  | same {t : RequestTask} (hquiet : action ≠ .acquire task ∧ action ≠ .resume task)
      (htask : s.tasks[task]? = some t) (hws : t'.ws = t.ws)
      (hrequest : t'.request = t.request) (hawaits : t.position.Awaits)
      (hasked : t'.position.Asked → t.position.Asked)
      (hagreed : t'.position = .subscribing (some .ok) →
        t.position = .subscribing (some .ok) ∨ action = .replied task .ok)
  /-- It got the lock. -/
  | holds {t : RequestTask} (haction : action = .acquire task) (htask : s.tasks[task]? = some t)
      (hws : t'.ws = t.ws) (hrequest : t'.request = t.request) (hposition : t.position = .locking)
      (hposition' : t'.position = .listing none ∨ t'.position = .subscribing none)
  /-- It goes on from `list_blocks` to its request. -/
  | asks {t : RequestTask} (haction : action = .resume task) (htask : s.tasks[task]? = some t)
      (hws : t'.ws = t.ws) (hrequest : t'.request = t.request)
      (hposition : t.position = .listing (some .head))
      (hposition' : t'.position = .subscribing none)

theorem Move.task_eq {mover : ℕ} {position : RequestPosition} {l l' : Option ℕ}
    (h : Move mover action t position l l')
    (haction : action = .acquire task ∨ action = .resume task) : mover = task := by
  rcases haction with rfl | rfl
  · cases h <;> rfl
  · cases h <;> rfl

theorem stage_of_step (hstep : s.step action = some s') (htask : s'.tasks[task]? = some t)
    (hawaits : t.position.Awaits) : Stage s action task t := by
  cases taskStep_of_step hstep with
  | opened htasks =>
      rw [htasks] at htask
      exact .same (by simp) htask rfl rfl hawaits id .inl
  | requested htasks =>
      rw [htasks, List.getElem?_append] at htask
      split_ifs at htask with hold
      · exact .same (by simp) htask rfl rfl hawaits id .inl
      · rw [List.mem_singleton.mp (List.mem_of_getElem? htask)] at hawaits
        cases hawaits
  | @closed ws htasks =>
      rw [htasks, List.getElem?_map] at htask
      obtain ⟨t₀, ht₀, rfl⟩ := Option.map_eq_some_iff.mp htask
      have hstage := sameStage_disconnect ws t₀
      exact .same (by simp) ht₀ hstage.ws hstage.request (hstage.awaits.mp hawaits) hstage.asked.mp
        fun hagreed => .inl (hstage.agreed.mp hagreed)
  | @moved _ mover t₀ position ht₀ hmove htasks =>
      rw [htasks, getElem?_moveTo] at htask
      split_ifs at htask with hmover
      · subst hmover
        rw [ht₀] at htask
        cases htask
        generalize s.lock = l at hmove
        generalize s'.lock = l' at hmove
        cases hmove with
        | start _ hposition =>
            rcases hposition with rfl | rfl
            · cases hawaits
            · cases hawaits
        | hold h _ hposition => exact .holds rfl ht₀ rfl rfl h hposition
        | refuse => cases hawaits
        | list h =>
            refine .same (by simp) ht₀ rfl rfl (by rw [h]; trivial) (fun hasked => ?_)
              fun hagreed => ?_
            · cases hasked
            · cases hagreed
        | reply h =>
            refine .same (by simp) ht₀ rfl rfl (by rw [h]; trivial) (fun _ => by rw [h]; trivial) ?_
            intro hagreed
            cases hagreed
            exact .inr rfl
        | ask h => exact .asks rfl ht₀ rfl rfl h rfl
        | finish => cases hawaits
      · refine .same ⟨fun haction => ?_, fun haction => ?_⟩ htask rfl rfl hawaits id .inl
        · exact hmover (hmove.task_eq (.inl haction)).symm
        · exact hmover (hmove.task_eq (.inr haction)).symm

/-- A request that was written stays written. -/
theorem asked_of_step (hstep : s.step action = some s') (htask : s.tasks[task]? = some t)
    (hasked : t.position.Asked) :
    ∃ t', s'.tasks[task]? = some t' ∧ t'.ws = t.ws ∧ t'.position.Asked := by
  cases taskStep_of_step hstep with
  | opened htasks => exact ⟨t, by rw [htasks]; exact htask, rfl, hasked⟩
  | requested htasks =>
      refine ⟨t, ?_, rfl, hasked⟩
      rw [htasks, List.getElem?_append_left (List.getElem?_eq_some_iff.mp htask).1]
      exact htask
  | @closed ws htasks =>
      have hstage := sameStage_disconnect ws t
      refine ⟨_, ?_, hstage.ws, hstage.asked.mpr hasked⟩
      rw [htasks, List.getElem?_map, htask]
      rfl
  | @moved _ mover t₀ position ht₀ hmove htasks =>
      rw [htasks, getElem?_moveTo]
      split_ifs with hmover
      · subst hmover
        rw [ht₀, Option.some.injEq] at htask
        subst htask
        refine ⟨{ t₀ with position := position }, by rw [ht₀]; rfl, rfl, ?_⟩
        generalize s.lock = l at hmove
        generalize s'.lock = l' at hmove
        cases hmove with
        | start h =>
            rw [h] at hasked
            cases hasked
        | hold h =>
            rw [h] at hasked
            cases hasked
        | refuse => trivial
        | list h =>
            rw [h] at hasked
            cases hasked
        | reply => trivial
        | ask => trivial
        | finish => trivial
      · exact ⟨t, htask, rfl, hasked⟩

/-- The task that gets the lock waited for it. -/
theorem locking_of_acquire (hstep : s.step (.acquire task) = some s')
    (htask : s.tasks[task]? = some t) : t.position = .locking := by
  simp only [Sessions.step, htask] at hstep
  split at hstep
  · rename_i heq
    rw [Option.some.inj heq]
  · rename_i heq
    rw [Option.some.inj heq]
  · cases hstep

section Session

variable {s : Subscriptions} {sessions : Sessions}

/-- `event_types` changes only for the task that gets the lock. -/
theorem computed_of_awaits (hstep : s.sessions.step action = some sessions)
    (htask : s.sessions.tasks[task]? = some t) (hawaits : t.position.Awaits) :
    s.computed action task = s.eventTypes task := by
  cases action with
  | acquire holder =>
      have hne : task ≠ holder := by
        rintro rfl
        rw [locking_of_acquire hstep htask] at hawaits
        cases hawaits
      cases hholder : s.sessions.tasks[holder]? with
      | none => simp [Subscriptions.computed, hholder]
      | some t₀ =>
          obtain ⟨ws, request, position⟩ := t₀
          cases request with
          | subscribe eventType validated =>
              cases eventType <;> simp [Subscriptions.computed, hholder, hne]
          | unsubscribe eventType => simp [Subscriptions.computed, hholder]
  | _ => rfl

/-- Whoever writes a request awaits its reply. -/
theorem asks_eq_some {m : SubscribeMessage} (h : s.asks sessions action = some (ws, m)) :
    (action = .acquire m.task ∨ action = .resume m.task) ∧
      m.subscriptions = prepareEvents (s.computed action m.task) ∧
      ∃ t, sessions.tasks[m.task]? = some t ∧ t.ws = ws ∧ t.position = .subscribing none := by
  unfold Subscriptions.asks at h
  split at h
  · split at h
    · rename_i htask
      cases h
      exact ⟨.inl rfl, rfl, _, htask, rfl, rfl⟩
    · cases h
  · split at h
    · rename_i htask
      cases h
      exact ⟨.inr rfl, rfl, _, htask, rfl, rfl⟩
    · cases h
  · cases h

theorem asks_of_subscribing (haction : action = .acquire task ∨ action = .resume task)
    (htask : sessions.tasks[task]? = some t) (hposition : t.position = .subscribing none) :
    s.asks sessions action =
      some (t.ws, ⟨task, prepareEvents (s.computed action task)⟩) := by
  obtain ⟨ws, request, position⟩ := t
  cases hposition
  rcases haction with rfl | rfl
  · simp [Subscriptions.asks, htask]
  · simp [Subscriptions.asks, htask]

/-- While a task awaits, no event is added to a table. -/
theorem events_of_awaits (h : Coverage s) (hstep : s.sessions.step action = some sessions)
    (htask : sessions.tasks[task]? = some t) (hawaits : t.position.Awaits) {n : EventName}
    (hn : n ∈ sessions.events ws) : n ∈ s.sessions.events ws := by
  rcases events_of_step hstep hn with hold | ⟨other, validated, rfl, hother⟩
  · exact hold
  · -- The agreed task was the only one to await, and has ended with this step.
    exfalso
    have hended : sessions.tasks[other]?.any (·.position = .ended) = true := by
      have hagree : sessions = s.sessions.agree other ws n := by
        simpa [Sessions.step, hother] using hstep.symm
      rw [hagree]
      simp [Sessions.agree, Sessions.finish, getElem?_moveTo, hother]
    have hsame : ∀ {t₀ : RequestTask}, s.sessions.tasks[task]? = some t₀ →
        t₀.position.Awaits → False := by
      intro t₀ ht₀ hawaits₀
      obtain rfl : task = other := h.lock.unique hother trivial ht₀ hawaits₀
      rw [htask] at hended
      have hposition : t.position = .ended := by simpa using hended
      rw [hposition] at hawaits
      cases hawaits
    cases stage_of_step hstep htask hawaits with
    | same _ ht₀ _ _ hawaits₀ => exact hsame ht₀ hawaits₀
    | holds haction => cases haction
    | asks _ ht₀ _ _ hposition => exact hsame ht₀ (by rw [hposition]; trivial)

theorem eventTypes_of_step (h : Coverage s) (hstep : s.sessions.step action = some sessions)
    {eventType : EventName} {validated : Except PyError (Option Str)}
    (htask : sessions.tasks[task]? = some t) (hawaits : t.position.Awaits)
    (hrequest : t.request = .subscribe (some eventType) validated) :
    ∀ n ∈ eventType :: sessions.events t.ws, n ∈ s.computed action task := by
  have hevents : ∀ n ∈ eventType :: sessions.events t.ws,
      n ∈ eventType :: s.sessions.events t.ws := by
    intro n hn
    rcases List.mem_cons.mp hn with rfl | hn
    · exact List.mem_cons_self
    · exact List.mem_cons_of_mem _ (events_of_awaits h hstep htask hawaits hn)
  intro n hn
  cases stage_of_step hstep htask hawaits with
  | same _ ht₀ hws hrequest₀ hawaits₀ =>
      rw [computed_of_awaits hstep ht₀ hawaits₀]
      exact h.eventTypes task _ eventType validated ht₀ hawaits₀ (hrequest₀ ▸ hrequest) n
        (hws ▸ hevents n hn)
  | @holds t₀ haction ht₀ hws hrequest₀ =>
      subst haction
      obtain ⟨ws₀, request₀, position₀⟩ := t₀
      obtain rfl : request₀ = .subscribe (some eventType) validated :=
        hrequest₀.symm.trans hrequest
      obtain rfl : t.ws = ws₀ := hws
      simpa [Subscriptions.computed, ht₀] using hevents n hn
  | @asks t₀ _ ht₀ hws hrequest₀ hposition =>
      have hawaits₀ : t₀.position.Awaits := by
        rw [hposition]
        trivial
      rw [computed_of_awaits hstep ht₀ hawaits₀]
      exact h.eventTypes task _ eventType validated ht₀ hawaits₀ (hrequest₀ ▸ hrequest) n
        (hws ▸ hevents n hn)

/-- What is on the connection after a step: a task that wrote nothing leaves it as it was. -/
theorem asking_of_step (h : Coverage s) (hstep : s.sessions.step action = some sessions)
    {inFlight : ℕ → List SubscribeMessage}
    (hinFlight : inFlight = match s.asks sessions action with
      | some (ws, message) => s.write ws message
      | none => s.inFlight)
    (htask : sessions.tasks[task]? = some t) (hawaits : t.position.Awaits)
    (hasked : t.position.Asked) :
    Asking { s with sessions := sessions, eventTypes := s.computed action, inFlight := inFlight }
      task t.ws := by
  -- A task that comes to this position with the step finds its request nowhere yet.
  have hwrites : ∀ {t₀ : RequestTask}, s.sessions.tasks[task]? = some t₀ →
      ¬t₀.position.Asked → (action = .acquire task ∨ action = .resume task) →
      t.position = .subscribing none →
      Asking { s with sessions := sessions, eventTypes := s.computed action, inFlight := inFlight }
        task t.ws := by
    intro t₀ ht₀ hunasked haction hposition
    have huntaken : s.taken task = false := by
      by_contra htaken
      obtain ⟨t₁, ht₁, hasked₁⟩ := h.taken task (by simpa using htaken)
      rw [ht₀, Option.some.injEq] at ht₁
      exact hunasked (ht₁ ▸ hasked₁)
    refine ⟨fun htaken => ?_, fun _ => ⟨s.inFlight t.ws, ?_, .inr ?_⟩⟩
    · simp [huntaken] at htaken
    · rintro m hm rfl
      obtain ⟨t₁, ht₁, -, hasked₁⟩ := h.sent t.ws m hm
      rw [ht₀, Option.some.injEq] at ht₁
      exact hunasked (ht₁ ▸ hasked₁)
    · rw [hinFlight, asks_of_subscribing haction htask hposition]
      simp [Subscriptions.write]
  cases stage_of_step hstep htask hawaits with
  | @same t₀ hidle ht₀ hws _ hawaits₀ hasked₀ =>
      have hold := h.asking task t₀ ht₀ hawaits₀ (hasked₀ hasked)
      have hquiet : s.asks sessions action = none := by
        by_contra hasks
        obtain ⟨⟨ws', m⟩, hm⟩ := Option.ne_none_iff_exists'.mp hasks
        obtain ⟨haction, -, t₁, ht₁, -, hposition⟩ := asks_eq_some hm
        have hwriter : m.task = task :=
          (h.lock.step hstep).unique htask hawaits ht₁ (by rw [hposition]; trivial)
        rw [hwriter] at haction
        exact haction.elim hidle.1 hidle.2
      rw [hquiet] at hinFlight
      subst hinFlight
      rw [hws]
      constructor
      · simpa [computed_of_awaits hstep ht₀ hawaits₀] using hold.taken
      · simpa [computed_of_awaits hstep ht₀ hawaits₀] using hold.pending
  | holds haction ht₀ _ _ hposition₀ hposition =>
      refine hwrites ht₀ (by rw [hposition₀]; exact id) (.inl haction) ?_
      rcases hposition with hposition | hposition
      · rw [hposition] at hasked
        cases hasked
      · exact hposition
  | asks haction ht₀ _ _ hposition₀ hposition =>
      exact hwrites ht₀ (by rw [hposition₀]; exact id) (.inr haction) hposition

theorem mem_of_asks {m : SubscribeMessage}
    (h : m ∈ (match s.asks sessions action with
      | some (ws, message) => s.write ws message
      | none => s.inFlight) ws) :
    m ∈ s.inFlight ws ∨ s.asks sessions action = some (ws, m) := by
  cases hasks : s.asks sessions action with
  | none =>
      rw [hasks] at h
      exact .inl h
  | some written =>
      obtain ⟨ws', m'⟩ := written
      rw [hasks] at h
      rcases eq_or_ne ws ws' with rfl | hne
      · have hmem : m ∈ s.inFlight ws ∨ m = m' := by simpa [Subscriptions.write] using h
        rcases hmem with hold | rfl
        · exact .inl hold
        · exact .inr rfl
      · exact .inl (by simpa [Subscriptions.write, hne] using h)

/-- The request of a task that was agreed to is the last one that the validator took. -/
theorem asking_of_agreed (h : Coverage s)
    (htask : s.sessions.tasks[task]? = some t) (hagreed : t.position = .subscribing (some .ok)) :
    s.inFlight t.ws = [] ∧ s.subscribed t.ws = prepareEvents (s.eventTypes task) := by
  have hasking := h.asking task t htask (by rw [hagreed]; trivial) (by rw [hagreed]; trivial)
  exact hasking.taken (h.agreed task t htask hagreed)

theorem subscribed_of_step (h : Coverage s) (hstep : s.sessions.step action = some sessions) :
    Covers (s.subscribed ws) (sessions.events ws) := by
  intro n hn
  rcases events_of_step hstep hn with hold | ⟨task, validated, -, htask⟩
  · exact h.subscribed ws n hold
  · have hsubscribed : s.subscribed ws = prepareEvents (s.eventTypes task) :=
      (asking_of_agreed h htask rfl).2
    have hown := h.eventTypes task _ n validated htask trivial rfl n List.mem_cons_self
    intro eventType hevent
    rw [hsubscribed]
    exact List.mem_flatMap.mpr ⟨n, hown, hevent⟩

theorem inFlight_of_step (h : Coverage s) (hstep : s.sessions.step action = some sessions)
    {m : SubscribeMessage} (hm : m ∈ s.inFlight ws) :
    Covers m.subscriptions (sessions.events ws) := by
  intro n hn
  rcases events_of_step hstep hn with hold | ⟨task, validated, -, htask⟩
  · exact h.inFlight ws m hm n hold
  · have hempty : s.inFlight ws = [] := (asking_of_agreed h htask rfl).1
    rw [hempty] at hm
    cases hm

theorem Coverage.session (h : Coverage s) (hstep : s.sessions.step action = some sessions)
    (henabled : s.enabled action = true) {inFlight : ℕ → List SubscribeMessage}
    (hinFlight : inFlight = match s.asks sessions action with
      | some (ws, message) => s.write ws message
      | none => s.inFlight) :
    Coverage
      { s with sessions := sessions, eventTypes := s.computed action, inFlight := inFlight } := by
  have hlock := h.lock.step hstep
  have hmem : ∀ ws, ∀ m ∈ inFlight ws,
      m ∈ s.inFlight ws ∨ s.asks sessions action = some (ws, m) :=
    fun ws m hm => mem_of_asks (hinFlight ▸ hm)
  have hsubscribed : ∀ ws, Covers (s.subscribed ws) (sessions.events ws) :=
    fun ws => subscribed_of_step h hstep
  refine ⟨hlock, hsubscribed, ?_, ?_, ?_, ?_, ?_, ?_⟩
  · intro ws m hm
    rcases hmem ws m hm with hold | hnew
    · exact inFlight_of_step h hstep hold
    · obtain ⟨-, hsubscriptions, t, ht, rfl, hposition⟩ := asks_eq_some hnew
      have hawaits : t.position.Awaits := by
        rw [hposition]
        trivial
      obtain ⟨-, eventType, validated, hrequest⟩ := hlock m.task t ht hawaits
      rw [hsubscriptions]
      exact covers_prepareEvents fun n hn =>
        eventTypes_of_step h hstep ht hawaits hrequest n (List.mem_cons_of_mem _ hn)
  · intro ws m hm
    rcases hmem ws m hm with hold | hnew
    · obtain ⟨t, ht, rfl, hasked⟩ := h.sent ws m hold
      exact asked_of_step hstep ht hasked
    · obtain ⟨-, -, t, ht, hws, hposition⟩ := asks_eq_some hnew
      exact ⟨t, ht, hws, by rw [hposition]; trivial⟩
  · intro task htaken
    obtain ⟨t, ht, hasked⟩ := h.taken task htaken
    obtain ⟨t', ht', -, hasked'⟩ := asked_of_step hstep ht hasked
    exact ⟨t', ht', hasked'⟩
  · intro task t eventType validated htask hawaits hrequest
    exact eventTypes_of_step h hstep htask hawaits hrequest
  · intro task t htask hawaits hasked
    exact asking_of_step h hstep hinFlight htask hawaits hasked
  · intro task t htask hagreed
    have hawaits : t.position.Awaits := by
      rw [hagreed]
      trivial
    cases stage_of_step hstep htask hawaits with
    | same _ ht₀ _ _ _ _ hagreed₀ =>
        rcases hagreed₀ hagreed with hold | haction
        · exact h.agreed task _ ht₀ hold
        · subst haction
          exact henabled
    | holds _ _ _ _ _ hposition =>
        rcases hposition with hposition | hposition
        · rw [hposition] at hagreed
          cases hagreed
        · rw [hposition] at hagreed
          cases hagreed
    | asks _ _ _ _ _ hposition =>
        rw [hposition] at hagreed
        cases hagreed

end Session

/-! ## Whole runs -/

theorem Coverage.step {s s' : Subscriptions} {action : SubscriptionAction} (h : Coverage s)
    (hstep : s.step action = some s') : Coverage s' := by
  cases action with
  | session action =>
      simp only [Subscriptions.step] at hstep
      split_ifs at hstep with henabled
      obtain ⟨sessions, hsessions, rfl⟩ := Option.map_eq_some_iff.mp hstep
      exact h.session hsessions henabled rfl
  | take ws =>
      simp only [Subscriptions.step] at hstep
      cases hfirst : s.inFlight ws with
      | nil =>
          rw [hfirst] at hstep
          cases hstep
      | cons m rest =>
          rw [hfirst] at hstep
          cases hstep
          exact h.take hfirst
  | lose ws index =>
      cases hstep
      exact h.lose ws index

/-- In every interleaving of the tasks of any number of websockets, the closing of websockets and
the validator: whatever is in the table of a websocket, the validator's subscription for its
connection has all its event types. -/
theorem validator_covers_subscriptions {s : Subscriptions}
    {ts : List (Transition Subscriptions SubscriptionAction)}
    (hrun : Run (fun s action s' => s.step action = some s') Subscriptions.init ts s) (ws : ℕ) :
    ∀ n ∈ s.sessions.events ws, ∀ eventType ∈ n.events, eventType ∈ s.subscribed ws := by
  have hcoverage : Coverage s := hrun.invariant coverage_init fun e _ hstep h => h.step hstep
  exact hcoverage.subscribed ws

/-- A `subscribe` up to its request. -/
def requestEvent (task : ℕ) (eventType : EventName) : List SubscriptionAction :=
  [.session (.request 0 (.subscribe (some eventType) (.ok none))), .session (.start task),
   .session (.acquire task), .session (.listed task .head), .session (.resume task)]

/-- The first request times out and is taken after the second one was written. -/
def lateRequest : List SubscriptionAction :=
  [.session (.open 0)] ++ requestEvent 0 .blocks ++
  [.session (.replied 0 .raised), .session (.resume 0)] ++ requestEvent 1 .transfer ++
  [.take 0, .take 0, .session (.replied 1 .ok), .session (.resume 1)]

theorem lateRequest_covered :
    ∃ ts s, Run (fun s action s' => Subscriptions.step s action = some s') Subscriptions.init ts s ∧
      s.sessions.events 0 = [.transfer] ∧
      ∀ n ∈ s.sessions.events 0, ∀ eventType ∈ n.events, eventType ∈ s.subscribed 0 := by
  have hplayed : (Run.exec Subscriptions.step .init lateRequest).any
      (fun s => decide (s.sessions.events 0 = [.transfer])) = true := by decide +kernel
  obtain ⟨ts, s, hrun, hevents⟩ := Run.exists_of_any hplayed
  exact ⟨ts, s, hrun, hevents, validator_covers_subscriptions hrun 0⟩

end Remme.RpcApi
