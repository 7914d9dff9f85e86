import Remme.RpcApi.Producers
import Remme.RpcApi.Proofs.Sessions
/-!
# Producers and subscription changes

Nothing keeps `subscribe` and `unsubscribe` from changing the dictionary that a
producer is walking over, so a change of its size while the producer awaits a
status ends the producer.  That is the only way for one of an open websocket to
end: without such a step no producer is lost, and one exists as long as 'batch'
is subscribed.
-/

namespace Remme.RpcApi

open Remme.Lib Remme.Shared

variable {s s' : Producers} {action : ProducerAction} {w : ℕ}

/-- Neither the peer nor the clean-up closed the websocket. -/
def Producers.Open (s : Producers) (w : ℕ) : Prop :=
  s.sessions.status w ≠ .closed ∧ s.wsClosed w = false

/-- The task has not come to an end. -/
def ProducerTask.Live (p : ProducerTask) : Prop := p.position ≠ .raised ∧ p.position ≠ .ended

/-- No producer of the websocket ended, the passes under way see the size they began with, and
while 'batch' is subscribed there is a producer. -/
structure ProducersSurvive (s : Producers) (w : ℕ) : Prop where
  live : ∀ p ∈ s.producers, p.ws = w → p.Live
  size : ∀ p ∈ s.producers, p.ws = w → ∀ used, p.position = .fetching used →
    0 < used ∧ used = (s.sessions.events w).length
  producer : .batch ∈ s.sessions.events w → ∃ p ∈ s.producers, p.ws = w ∧ p.Live

/-- The step adds an event to the websocket's dictionary, or takes one out of it. -/
inductive Resizes (w : ℕ) (s : Sessions) : SessionAction → Prop
  | subscribe {task : ℕ} {eventType : EventName} {validated : Except PyError (Option Str)}
      (htask : s.tasks[task]? =
        some ⟨w, .subscribe (some eventType) validated, .subscribing (some .ok)⟩) :
      Resizes w s (.resume task)
  | unsubscribe {task : ℕ} {eventType : EventName}
      (htask : s.tasks[task]? = some ⟨w, .unsubscribe (some eventType), .locking⟩)
      (hevent : eventType ∈ s.events w) : Resizes w s (.acquire task)

/-- A producer of the websocket awaits a status while the dictionary changes its size. -/
def Disturbs (w : ℕ) (s : Producers) : ProducerAction → Prop
  | .session action => Resizes w s.sessions action ∧
      ∃ p ∈ s.producers, p.ws = w ∧ ∃ used, p.position = .fetching used
  | _ => False

/-! ## One step of the sessions -/

/-- Only these two steps change the dictionary of a websocket that is not closed. -/
theorem TableStep.events_eq {s s' : Sessions} {action : SessionAction}
    (h : TableStep s s' action) (hopen : s'.status w ≠ .closed) (hquiet : ¬Resizes w s action) :
    s'.events w = s.events w := by
  cases h with
  | same _ h => rw [Sessions.events, (tables_eq h).2.1, Sessions.events]
  | opened _ h => rw [Sessions.events, (tables_eq h).2.1, Sessions.events]
  | @locked _ ws _ _ _ h =>
      rw [Sessions.events, (tables_eq h).2.1, Sessions.events]
      rcases eq_or_ne w ws with rfl | hne
      · simp [Sessions.setdefault]
      · simp [Sessions.setdefault, hne]
  | @unsubscribed _ ws eventType htask h =>
      rw [Sessions.events, (tables_eq h).2.1, Sessions.events]
      rcases eq_or_ne w ws with rfl | hne
      · have habsent : eventType ∉ s.events w := fun hevent => hquiet (.unsubscribe htask hevent)
        rw [Function.update_self]
        cases hsubsevt : s.subsevt w with
        | none => rfl
        | some events =>
            rw [Sessions.events, hsubsevt] at habsent
            exact List.erase_of_not_mem habsent
      · rw [Function.update_of_ne hne]
  | @agreed _ ws _ _ htask h =>
      have hne : w ≠ ws := by
        rintro rfl
        exact hquiet (.subscribe htask)
      rw [Sessions.events, (tables_eq h).2.1, Function.update_of_ne hne, Sessions.events]
  | @closed ws _ h =>
      have hne : w ≠ ws := by
        rintro rfl
        rw [(tables_eq h).1, Function.update_self] at hopen
        exact hopen rfl
      rw [Sessions.events, (tables_eq h).2.1, Function.update_of_ne hne, Sessions.events]

/-- Whatever subscribes to 'batch' starts a producer. -/
theorem batch_of_step {action : SessionAction} {sessions : Sessions}
    (h : s.sessions.step action = some sessions) (hopen : sessions.status w ≠ .closed)
    (hbatch : .batch ∈ sessions.events w) :
    .batch ∈ s.sessions.events w ∨ ⟨w, .created⟩ ∈ s.started action := by
  have htables := tableStep_of_step h
  by_cases hresizes : Resizes w s.sessions action
  · cases htables with
    | same _ htables => exact .inl (by rwa [Sessions.events, (tables_eq htables).2.1] at hbatch)
    | opened => cases hresizes
    | closed => cases hresizes
    | locked htask =>
        cases hresizes with
        | unsubscribe htask' =>
            rw [htask] at htask'
            cases htask'
    | @unsubscribed _ ws eventType _ htables =>
        rw [Sessions.events, (tables_eq htables).2.1] at hbatch
        rcases eq_or_ne w ws with rfl | hne
        · rw [Function.update_self] at hbatch
          cases hsubsevt : s.sessions.subsevt w with
          | none => simp [hsubsevt] at hbatch
          | some events =>
              rw [hsubsevt] at hbatch
              rw [Sessions.events, hsubsevt]
              exact .inl (List.mem_of_mem_erase hbatch)
        · rw [Function.update_of_ne hne] at hbatch
          exact .inl hbatch
    | @agreed task ws eventType validated htask htables =>
        rw [Sessions.events, (tables_eq htables).2.1] at hbatch
        cases hresizes with
        | @subscribe _ eventType' validated' htask' =>
            obtain ⟨rfl, rfl⟩ : ws = w ∧ eventType = eventType' := by
              rw [htask] at htask'
              cases htask'
              exact ⟨rfl, rfl⟩
            rw [Function.update_self] at hbatch
            cases hsubsevt : s.sessions.subsevt ws with
            | none => simp [hsubsevt] at hbatch
            | some events =>
                rw [hsubsevt] at hbatch
                rcases List.mem_cons.mp hbatch with rfl | hbefore
                · exact .inr (by simp [Producers.started, htask])
                · exact .inl (by rwa [Sessions.events, hsubsevt])
  · rw [htables.events_eq hopen hresizes] at hbatch
    exact .inl hbatch

/-- A producer begins at its creation. -/
theorem eq_created_of_started {action : SessionAction} {p : ProducerTask}
    (h : p ∈ s.started action) : p.position = .created := by
  unfold Producers.started at h
  split at h
  · split at h
    · rw [List.mem_singleton.mp h]
    · cases h
  · cases h

/-- The two steps do change the size of a dictionary with an entry. -/
theorem Resizes.length_ne {s s' : Sessions} {action : SessionAction} (hresizes : Resizes w s action)
    (h : s.step action = some s') (hpos : 0 < (s.events w).length) :
    (s'.events w).length ≠ (s.events w).length := by
  cases hresizes with
  | @subscribe task eventType _ htask =>
      have hagree : s' = s.agree task w eventType := by
        simpa [Sessions.step, htask] using h.symm
      cases hsubsevt : s.subsevt w with
      | none => simp [Sessions.events, hsubsevt] at hpos
      | some events => simp [hagree, Sessions.events, Sessions.agree, hsubsevt]
  | @unsubscribe task eventType htask hevent =>
      have herased : s' = s.unsubscribe task w eventType := by
        cases hlock : s.lock with
        | none => simpa [Sessions.step, hlock, htask] using h.symm
        | some holder => simp [Sessions.step, hlock] at h
      cases hsubsevt : s.subsevt w with
      | none => simp [Sessions.events, hsubsevt] at hpos
      | some events =>
          simp only [Sessions.events, hsubsevt, Option.getD_some] at hevent hpos ⊢
          simp only [herased, Sessions.unsubscribe, hsubsevt, Function.update_self,
            Option.map_some, Option.getD_some, List.length_erase_of_mem hevent]
          omega

/-! ## One step of the producers -/

theorem mem_moveTo {producer : ℕ} {position : ProducerPosition} {p p' : ProducerTask}
    (hp : s.producers[producer]? = some p) (h : p' ∈ (s.moveTo producer position).producers) :
    p' ∈ s.producers ∨ p' = { p with position := position } := by
  obtain ⟨i, hi⟩ := List.mem_iff_getElem?.mp h
  rw [Producers.moveTo, List.getElem?_modify] at hi
  split_ifs at hi with heq
  · subst heq
    rw [hp] at hi
    exact .inr (Option.some.inj hi).symm
  · exact .inl (List.mem_iff_getElem?.mpr ⟨i, by simpa using hi⟩)

theorem exists_ws_moveTo (producer : ℕ) (position : ProducerPosition) {p : ProducerTask}
    (hp : p ∈ s.producers) : ∃ p' ∈ (s.moveTo producer position).producers, p'.ws = p.ws := by
  obtain ⟨i, hi⟩ := List.mem_iff_getElem?.mp hp
  refine ⟨if producer = i then { p with position := position } else p, ?_, ?_⟩
  · rw [List.mem_iff_getElem?]
    refine ⟨i, ?_⟩
    rw [Producers.moveTo, List.getElem?_modify, hi]
    split_ifs
    · rfl
    · rfl
  · split_ifs
    · rfl
    · rfl

/-- A producer that moves on within its websocket's dictionary. -/
theorem ProducersSurvive.moveTo {producer : ℕ} {position : ProducerPosition} {p : ProducerTask}
    (h : ProducersSurvive s w) (hp : s.producers[producer]? = some p)
    (hlive : p.ws = w → position ≠ .raised ∧ position ≠ .ended)
    (hsize : p.ws = w → ∀ used, position = .fetching used →
      0 < used ∧ used = (s.sessions.events w).length) :
    ProducersSurvive (s.moveTo producer position) w := by
  have hall : ∀ p' ∈ (s.moveTo producer position).producers, p'.ws = w → p'.Live := by
    intro p' hp' hws
    rcases mem_moveTo hp hp' with hbefore | rfl
    · exact h.live p' hbefore hws
    · exact hlive hws
  refine ⟨hall, ?_, ?_⟩
  · intro p' hp' hws used hused
    rcases mem_moveTo hp hp' with hbefore | rfl
    · exact h.size p' hbefore hws used hused
    · exact hsize hws used hused
  · intro hbatch
    obtain ⟨p', hp', hws, -⟩ := h.producer hbatch
    obtain ⟨p'', hp'', hws'⟩ := exists_ws_moveTo producer position hp'
    exact ⟨p'', hp'', hws'.trans hws, hall p'' hp'' (hws'.trans hws)⟩

/-- A pass of a producer of an open websocket. -/
theorem beginPass_survives (hopen : s.Open w) (fetches : Bool) :
    (s.beginPass w fetches ≠ .raised ∧ s.beginPass w fetches ≠ .ended) ∧
      ∀ used, s.beginPass w fetches = .fetching used →
        0 < used ∧ used = (s.sessions.events w).length := by
  unfold Producers.beginPass
  rw [hopen.2]
  simp only [Bool.false_eq_true, if_false]
  split_ifs with hbatch
  · refine ⟨⟨nofun, nofun⟩, fun used hused => ?_⟩
    cases hused
    exact ⟨List.length_pos_of_mem hbatch.2, rfl⟩
  · exact ⟨⟨nofun, nofun⟩, nofun⟩

/-- The next entry of a dictionary that kept its size. -/
theorem nextEntry_survives (hopen : s.Open w) {used : ℕ} (hpos : 0 < used)
    (hused : used = (s.sessions.events w).length) (detached : ℕ) (again : Bool) :
    (s.nextEntry w used detached again ≠ .raised ∧ s.nextEntry w used detached again ≠ .ended) ∧
      ∀ used', s.nextEntry w used detached again = .fetching used' →
        0 < used' ∧ used' = (s.sessions.events w).length := by
  unfold Producers.nextEntry
  simp only [if_neg hopen.1, ← hused, ne_eq, not_true_eq_false, if_false]
  cases again with
  | false => exact ⟨⟨nofun, nofun⟩, nofun⟩
  | true =>
      refine ⟨⟨nofun, nofun⟩, fun used' h => ?_⟩
      cases h
      exact ⟨hpos, rfl⟩

/-- What a step does: a step of the sessions, which may start a producer, a websocket that
closes, or a producer that goes on. -/
inductive ProducerStep (s s' : Producers) : ProducerAction → Prop
  | session {action : SessionAction} {sessions : Sessions}
      (hstep : s.sessions.step action = some sessions)
      (h : s' = { s with sessions := sessions, producers := s.producers ++ s.started action }) :
      ProducerStep s s' (.session action)
  | closing {ws : ℕ} (h : s' = { s with wsClosed := Function.update s.wsClosed ws true }) :
      ProducerStep s s' (.closing ws)
  | begun {producer : ℕ} {p : ProducerTask} {fetches : Bool}
      (hp : s.producers[producer]? = some p)
      (h : s' = s.moveTo producer (s.beginPass p.ws fetches)) :
      ProducerStep s s' (.pass producer fetches)
  | streamGone {producer : ℕ} {p : ProducerTask} {fetches : Bool}
      (hp : s.producers[producer]? = some p) (hclosed : s.sessions.status p.ws = .closed)
      (h : s' = s.moveTo producer .raised) : ProducerStep s s' (.pass producer fetches)
  | next {producer used detached : ℕ} {p : ProducerTask} {again : Bool}
      (hp : s.producers[producer]? = some p) (hposition : p.position = .fetching used)
      (h : s' = s.moveTo producer (s.nextEntry p.ws used detached again)) :
      ProducerStep s s' (.resume producer detached again)

theorem producerStep_of_step (h : s.step action = some s') : ProducerStep s s' action := by
  unfold Producers.step at h
  split at h
  · split at h
    · rename_i hstep
      exact .session hstep (Option.some.inj h).symm
    · cases h
  · exact .closing (Option.some.inj h).symm
  · split at h
    · rename_i ws hp
      have hmoved := (Option.some.inj h).symm
      by_cases hclosed : s.sessions.status ws = .closed
      · rw [if_pos hclosed] at hmoved
        exact .streamGone hp hclosed hmoved
      · rw [if_neg hclosed] at hmoved
        exact .begun hp hmoved
    · rename_i hp
      exact .begun hp (Option.some.inj h).symm
    · cases h
  · split at h
    · rename_i hp
      exact .next hp rfl (Option.some.inj h).symm
    · cases h

/-- A websocket that is open after a step was open before it. -/
theorem ProducerStep.open_pre (h : ProducerStep s s' action) (hopen : s'.Open w) : s.Open w := by
  cases h with
  | session hstep h =>
      subst h
      exact ⟨fun hclosed => hopen.1 ((tableStep_of_step hstep).status_closed hclosed), hopen.2⟩
  | @closing ws h =>
      subst h
      refine ⟨hopen.1, ?_⟩
      have hclosed := hopen.2
      simp only [Function.update_apply] at hclosed
      split_ifs at hclosed
      exact hclosed
  | begun _ h =>
      subst h
      exact hopen
  | streamGone _ _ h =>
      subst h
      exact hopen
  | next _ _ h =>
      subst h
      exact hopen

theorem survive_of_session {action : SessionAction} {sessions : Sessions}
    (h : s.sessions.step action = some sessions) (hopen : sessions.status w ≠ .closed)
    (hquiet : ¬Disturbs w s (.session action)) (hsurvive : ProducersSurvive s w) :
    ProducersSurvive
      { s with sessions := sessions, producers := s.producers ++ s.started action } w := by
  have hall : ∀ p ∈ s.producers ++ s.started action, p.ws = w → p.Live := by
    intro p hp hws
    rcases List.mem_append.mp hp with hbefore | hnew
    · exact hsurvive.live p hbefore hws
    · rw [ProducerTask.Live, eq_created_of_started hnew]
      exact ⟨nofun, nofun⟩
  refine ⟨hall, ?_, ?_⟩
  · intro p hp hws used hused
    rcases List.mem_append.mp hp with hbefore | hnew
    · have hresizes : ¬Resizes w s.sessions action := fun hresizes =>
        hquiet ⟨hresizes, p, hbefore, hws, used, hused⟩
      simp only [(tableStep_of_step h).events_eq hopen hresizes]
      exact hsurvive.size p hbefore hws used hused
    · rw [eq_created_of_started hnew] at hused
      cases hused
  · intro hbatch
    rcases batch_of_step h hopen hbatch with hbefore | hstarted
    · obtain ⟨p, hp, hws, hlive⟩ := hsurvive.producer hbefore
      exact ⟨p, List.mem_append_left _ hp, hws, hlive⟩
    · exact ⟨_, List.mem_append_right _ hstarted, rfl, nofun, nofun⟩

theorem ProducerStep.survive (h : ProducerStep s s' action) (hopen : s'.Open w)
    (hquiet : ¬Disturbs w s action) (hsurvive : ProducersSurvive s w) :
    ProducersSurvive s' w := by
  have hopenBefore := h.open_pre hopen
  cases h with
  | session hstep h =>
      subst h
      exact survive_of_session hstep hopen.1 hquiet hsurvive
  | closing h =>
      subst h
      exact ⟨hsurvive.live, hsurvive.size, hsurvive.producer⟩
  | @begun _ p fetches hp h =>
      subst h
      apply hsurvive.moveTo hp
      · rintro rfl
        exact (beginPass_survives hopenBefore fetches).1
      · rintro rfl
        exact (beginPass_survives hopenBefore fetches).2
  | streamGone hp hclosed h =>
      subst h
      have hne : ∀ {P : Prop}, _ = w → P := fun hws => absurd (hws ▸ hclosed) hopenBefore.1
      exact hsurvive.moveTo hp hne hne
  | @next _ used detached p again hp hposition h =>
      subst h
      have hmem := List.mem_of_getElem? hp
      apply hsurvive.moveTo hp
      · rintro rfl
        obtain ⟨hpos, hused⟩ := hsurvive.size p hmem rfl used hposition
        exact (nextEntry_survives hopenBefore hpos hused detached again).1
      · rintro rfl
        obtain ⟨hpos, hused⟩ := hsurvive.size p hmem rfl used hposition
        exact (nextEntry_survives hopenBefore hpos hused detached again).2

/-- A resized dictionary ends the pass that waits over it, however the status comes. -/
theorem Disturbs.raises {sessionAction : SessionAction}
    (h : s.step (.session sessionAction) = some s') (hopen : s'.Open w)
    (hsurvive : ProducersSurvive s w) (hdisturbs : Disturbs w s (.session sessionAction)) :
    ∃ producer used, s'.producers[producer]? = some ⟨w, .fetching used⟩ ∧
      ∀ detached again, s'.step (.resume producer detached again) =
        some (s'.moveTo producer .raised) := by
  obtain ⟨hresizes, ⟨ws, position⟩, hp, rfl, used, rfl⟩ := hdisturbs
  obtain ⟨hpos, hused⟩ := hsurvive.size _ hp rfl used rfl
  cases producerStep_of_step h with
  | session hstep hs' =>
      subst hs'
      have hne := hresizes.length_ne hstep (hused ▸ hpos)
      rw [← hused] at hne
      obtain ⟨producer, hproducer⟩ := List.mem_iff_getElem?.mp (List.mem_append_left _ hp)
      refine ⟨producer, used, hproducer, fun detached again => ?_⟩
      simp only [Producers.step, hproducer, Producers.nextEntry, if_neg hopen.1, if_pos hne.symm,
        ne_eq]

/-! ## Runs -/

/-- The machine as a step relation. -/
abbrev ProducersStep (s : Producers) (action : ProducerAction) (s' : Producers) : Prop :=
  s.step action = some s'

/-- Unless a subscription changes while a producer of the open websocket awaits a status, all its
producers live, and there is one while 'batch' is subscribed. -/
theorem producers_survive {ts : List (Transition Producers ProducerAction)}
    (hrun : Run ProducersStep .init ts s) (hquiet : ∀ e ∈ ts, ¬Disturbs w e.pre e.label)
    (hopen : s.Open w) : ProducersSurvive s w := by
  have hall : s.Open w → ProducersSurvive s w := by
    apply hrun.invariant (P := fun s => s.Open w → ProducersSurvive s w)
    · intro _
      exact ⟨nofun, nofun, nofun⟩
    · intro e he hstep hsurvive hopen
      have hproducer := producerStep_of_step hstep
      exact hproducer.survive hopen (hquiet e he) (hsurvive (hproducer.open_pre hopen))
  exact hall hopen

namespace Sample

/-- The sessions go on only while no producer awaits a status. -/
def NoneFetching (s : Producers) : ProducerAction → Prop
  | .session _ => ∀ p ∈ s.producers, p.position = .created ∨ p.position = .sleeping
  | _ => True

instance (s : Producers) : DecidablePred (NoneFetching s)
  | .session _ => inferInstanceAs (Decidable (∀ p ∈ s.producers, _ ∨ _))
  | .closing _ => .isTrue trivial
  | .pass _ _ => .isTrue trivial
  | .resume _ _ _ => .isTrue trivial

theorem NoneFetching.not_disturbs (h : NoneFetching s action) : ¬Disturbs w s action := by
  cases action with
  | session action =>
      rintro ⟨-, p, hp, -, used, hused⟩
      rcases h p hp with hposition | hposition
      · cases hused.symm.trans hposition
      · cases hused.symm.trans hposition
  | closing => exact id
  | pass => exact id
  | resume => exact id

def subscribeRequest (task : ℕ) (eventType : EventName) : List ProducerAction :=
  [.session (.request 1 (.subscribe (some eventType) (.ok none))), .session (.start task),
   .session (.acquire task), .session (.listed task .head), .session (.resume task),
   .session (.replied task .ok), .session (.resume task)]

/-- A subscription to 'batch', whose producer then awaits the first status. -/
def fetchingProducer : List ProducerAction :=
  .session (.open 1) :: subscribeRequest 0 .batch ++ [.pass 0 true]

end Sample

open Sample in
/-- The status comes before the next subscription. -/
theorem producers_survive_inTurn :
    ∃ ts s, Run ProducersStep .init ts s ∧ (∀ e ∈ ts, ¬Disturbs 1 e.pre e.label) ∧ s.Open 1 ∧
      .batch ∈ s.sessions.events 1 ∧ ProducersSurvive s 1 := by
  have hfinal : (Run.exec (fun s action => if NoneFetching s action then s.step action else none)
      .init (fetchingProducer ++ .resume 0 0 false :: subscribeRequest 1 .transfer)).any
        (fun s => decide (s.sessions.status 1 ≠ .closed ∧ s.wsClosed 1 = false ∧
          .batch ∈ s.sessions.events 1)) = true := by
    decide +kernel
  obtain ⟨ts, s, hrun, hguard, hstatus, hclosed, hbatch⟩ := Run.exists_of_guarded hfinal
  have hquiet : ∀ e ∈ ts, ¬Disturbs 1 e.pre e.label := fun e he => (hguard e he).not_disturbs
  have hopen : s.Open 1 := ⟨hstatus, hclosed⟩
  exact ⟨ts, s, hrun, hquiet, hopen, hbatch, producers_survive hrun hquiet hopen⟩

open Sample in
/-- A second subscription is granted while the producer awaits the status. -/
theorem producer_lost :
    ∃ ts s, Run ProducersStep .init ts s ∧ s.Open 1 ∧ .batch ∈ s.sessions.events 1 ∧
      (∀ p ∈ s.producers, p.ws = 1 → ¬p.Live) ∧ ¬ProducersSurvive s 1 := by
  have hfinal : (Run.exec Producers.step .init
      (fetchingProducer ++ subscribeRequest 1 .transfer ++ [.resume 0 0 false])).any
        (fun s => decide (s.sessions.status 1 ≠ .closed ∧ s.wsClosed 1 = false ∧
          .batch ∈ s.sessions.events 1 ∧ s.producers = [⟨1, .raised⟩])) = true := by
    decide +kernel
  obtain ⟨ts, s, hrun, hstatus, hclosed, hbatch, hproducers⟩ := Run.exists_of_any hfinal
  have hlost : ∀ p ∈ s.producers, p.ws = 1 → ¬p.Live := by
    intro p hp _ hlive
    rw [hproducers, List.mem_singleton] at hp
    exact hlive.1 (by rw [hp])
  refine ⟨ts, s, hrun, ⟨hstatus, hclosed⟩, hbatch, hlost, fun hsurvive => ?_⟩
  obtain ⟨p, hp, hws, hlive⟩ := hsurvive.producer hbatch
  exact hlost p hp hws hlive

end Remme.RpcApi
