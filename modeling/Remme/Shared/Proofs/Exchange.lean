import Remme.Shared.Exchange
import Remme.Shared.Proofs.Messaging
import Mathlib.Data.Set.Finite.Basic
/-!
# Each task has its own conversation

Whatever else happens on the connection, a task that ended has had a
conversation with the validator as if it were alone: each of its requests came
back with a response of the validator to that very request, made at a moment
after the request and before the task went on, or with an exception of `send`.
A task that was started after `close` has only had exceptions.
-/

namespace Remme.Shared

open Remme.Lib Remme.Lib.Dialogue Remme.Shared.Messaging

/-! ## Steps of the connection -/

section Calls

variable {c c' : Calls} {action : CallAction} {id : Str} {msg : Message}

/-- What a step does to the future and the call of a correlation id. -/
inductive CallMoves (id : Str) : CallAction → Option ReplyFuture × Option SendCall →
    Option ReplyFuture × Option SendCall → Prop
  | act {action : ConnectionAction} {v v' : Option ReplyFuture × Option SendCall}
      (h : Moves id action v v') : CallMoves id (.act action) v v'
  | cancel {id' : Str} {v v' : Option ReplyFuture × Option SendCall} (hcall : v'.2 = v.2)
      (hfuture : v'.1 = v.1 ∨ v'.1 = none) : CallMoves id (.cancelTask id') v v'

theorem callMoves_of_step (h : c.step action = some c') (id : Str) :
    CallMoves id action (c.connection.view id) (c'.connection.view id) := by
  cases action with
  | act action =>
      simp only [Calls.step] at h
      split_ifs at h
      obtain ⟨connection, hstep, rfl⟩ := Option.map_eq_some_iff.mp h
      exact .act (moves_of_step hstep id)
  | cancelTask id' =>
      have hupdate : ∀ futures : Str → Option ReplyFuture,
          Function.update futures id' none id = futures id ∨
            Function.update futures id' none id = none := by
        intro futures
        rcases eq_or_ne id id' with rfl | hne
        · exact .inr (Function.update_self ..)
        · exact .inl (Function.update_of_ne hne ..)
      simp only [Calls.step] at h
      split_ifs at h
      simp only [Calls.cancelTask] at h
      split at h
      · cases h
        exact .cancel rfl (.inl rfl)
      · cases h
        exact .cancel rfl (hupdate _)
      · cases h
        exact .cancel rfl (hupdate _)
      · cases h

theorem attempt_ne_returned (numRetries : ℕ) (result : WriteResult) :
    attempt numRetries result ≠ .returned msg := by
  intro h
  unfold attempt doBackoff at h
  split at h
  · cases h
  · split_ifs at h
  · cases h

/-- A future gets the message that arrives, if it is expected. -/
theorem CallMoves.result {v v' : Option ReplyFuture × Option SendCall}
    (h : CallMoves id action v v') (hresult : v'.1 = some (.result msg)) :
    v.1 = some (.result msg) ∨
      (action = .act (.arrive msg) ∧ msg.correlationId = id ∧ v.1.isSome) := by
  cases h with
  | cancel hcall hfuture =>
      rcases hfuture with hfuture | hfuture
      · exact .inl (hfuture ▸ hresult)
      · rw [hfuture] at hresult
        cases hresult
  | act h =>
      cases h with
      | other harrive hclose hresume => exact .inl hresult
      | send => cases hresult
      | wake => exact .inl hresult
      | @arrive msg' future call hid =>
          cases future with
          | none => cases hresult
          | some future =>
              cases future with
              | pending =>
                  cases hresult
                  exact .inr ⟨rfl, hid, rfl⟩
              | result old =>
                  cases hresult
                  exact .inl rfl
              | failed => cases hresult
              | cancelled => cases hresult
      | expire => exact .inl hresult
      | @close future call =>
          cases future with
          | none => cases hresult
          | some future =>
              cases future with
              | result old =>
                  cases hresult
                  exact .inl rfl
              | _ => cases hresult
      | reply => cases hresult
      | disconnect => cases hresult
      | cancel => cases hresult
      | timeout => cases hresult

/-- A call returns what its future got. -/
theorem CallMoves.returned {v v' : Option ReplyFuture × Option SendCall} {timeout : Option ℕ}
    (h : CallMoves id action v v') (hreturned : v'.2 = some ⟨timeout, .returned msg⟩) :
    v.2 = some ⟨timeout, .returned msg⟩ ∨ v.1 = some (.result msg) := by
  cases h with
  | cancel hcall hfuture => exact .inl (hcall ▸ hreturned)
  | act h =>
      cases h with
      | other harrive hclose hresume => exact .inl hreturned
      | send =>
          simp only [Option.some.injEq, SendCall.mk.injEq] at hreturned
          exact absurd hreturned.2 (attempt_ne_returned _ _)
      | wake =>
          simp only [Option.some.injEq, SendCall.mk.injEq] at hreturned
          exact absurd hreturned.2 (attempt_ne_returned _ _)
      | arrive hid => exact .inl hreturned
      | expire => cases hreturned
      | close => exact .inl hreturned
      | reply =>
          cases hreturned
          exact .inr rfl
      | disconnect => cases hreturned
      | cancel => cases hreturned
      | timeout => cases hreturned

/-- Only `send` begins a call, and expects a reply. -/
theorem CallMoves.begun {v v' : Option ReplyFuture × Option SendCall}
    (h : CallMoves id action v v')
    (hsend : ∀ timeout result, action ≠ .act (.send id timeout result)) :
    (v'.2.isSome ↔ v.2.isSome) ∧ (v'.1.isSome → v.1.isSome) := by
  cases h with
  | cancel hcall hfuture =>
      refine ⟨by rw [hcall], fun hsome => ?_⟩
      rcases hfuture with hfuture | hfuture
      · rwa [← hfuture]
      · rw [hfuture] at hsome
        cases hsome
  | act h =>
      cases h with
      | @send timeout result future => exact absurd rfl (hsend timeout result)
      | _ => simp

/-- A call that began stays known. -/
theorem CallMoves.begun_mono {v v' : Option ReplyFuture × Option SendCall}
    (h : CallMoves id action v v') (hnone : v'.2 = none) : v.2 = none := by
  cases h with
  | cancel hcall hfuture => exact hcall ▸ hnone
  | act h =>
      cases h with
      | other harrive hclose hresume => exact hnone
      | arrive hid => exact hnone
      | close => exact hnone
      | _ => cases hnone

end Calls

/-! ## Replies are the validator's -/

section Genuine

variable {T τ α : Type} [Preorder T] (parse : (q : Request τ) → Bytes → Option (Response q))
  (responds : T → Request τ → Bytes → Prop)

/-- The message responds to the request of the call, at a moment since the call. -/
def Exchange.IsReply (s : Exchange T τ α) (id : Str) (msg : Message) : Prop :=
  ∃ t m q, s.requests id = some (t, q) ∧ t ≤ m ∧ m ≤ s.now ∧ responds m q msg.content

/-- What waits for a task is a response to its request. -/
structure Exchange.Genuine (s : Exchange T τ α) : Prop where
  asked : ∀ id t q, s.requests id = some (t, q) → t ≤ s.now
  begun : ∀ id, (s.calls.connection.sends id).isSome ↔ (s.requests id).isSome
  expected : ∀ id, (s.calls.connection.futures id).isSome → (s.calls.connection.sends id).isSome
  reply : ∀ msg ∈ s.replies, s.IsReply responds msg.correlationId msg
  future : ∀ id msg, s.calls.connection.futures id = some (.result msg) → s.IsReply responds id msg
  returned : ∀ id timeout msg, s.calls.connection.sends id = some ⟨timeout, .returned msg⟩ →
    s.IsReply responds id msg

variable {parse responds} {s s' : Exchange T τ α} {label : ExchangeLabel T τ α}

/-- Time goes on, and requests stay. -/
structure Exchange.Extends (s s' : Exchange T τ α) : Prop where
  now : s.now ≤ s'.now
  requests : ∀ id r, s.requests id = some r → s'.requests id = some r

theorem Exchange.IsReply.of_extends {id : Str} {msg : Message} (h : s.IsReply responds id msg)
    (hext : s.Extends s') : s'.IsReply responds id msg := by
  obtain ⟨t, m, q, hrequest, hle, hnow, hresponds⟩ := h
  exact ⟨t, m, q, hext.requests id _ hrequest, hle, hnow.trans hext.now, hresponds⟩

theorem Exchange.Genuine.init (now : T) :
    (Exchange.init now : Exchange T τ α).Genuine responds where
  asked := fun id t q h => by cases h
  begun := fun id => Iff.rfl
  expected := fun id h => by cases h
  reply := fun msg h => by cases h
  future := fun id msg h => by cases h
  returned := fun id timeout msg h => by cases h

/-- A step of the connection that begins no call, and brings a reply or what is none. -/
theorem Exchange.Genuine.calls (h : s.Genuine responds) {action : CallAction} {calls : Calls}
    (hstep : s.calls.step action = some calls)
    (hsend : ∀ id timeout result, action ≠ .act (.send id timeout result))
    (harrive : ∀ msg, action = .act (.arrive msg) →
      msg ∈ s.replies ∨ s.requests msg.correlationId = none) :
    ({ s with calls := calls } : Exchange T τ α).Genuine responds := by
  have hmoves := callMoves_of_step hstep
  have hbegun : ∀ id, (calls.connection.sends id).isSome ↔
      (s.calls.connection.sends id).isSome := fun id => ((hmoves id).begun (hsend id)).1
  have hexpected : ∀ id, (calls.connection.futures id).isSome →
      (s.calls.connection.futures id).isSome := fun id => ((hmoves id).begun (hsend id)).2
  refine ⟨h.asked, fun id => (hbegun id).trans (h.begun id), fun id hsome => ?_, h.reply,
    fun id msg hresult => ?_, fun id timeout msg hreturned => ?_⟩
  · exact (hbegun id).mpr (h.expected id (hexpected id hsome))
  · obtain hold | ⟨haction, rfl, hsome⟩ := (hmoves id).result hresult
    · exact h.future id msg hold
    · rcases harrive msg haction with hmem | hnone
      · exact h.reply msg hmem
      · have hrequest := (h.begun _).mp (h.expected _ hsome)
        rw [hnone] at hrequest
        cases hrequest
  · rcases (hmoves id).returned hreturned with hold | hold
    · exact h.returned id timeout msg hold
    · exact h.future id msg hold

theorem calls_send {c c' : Calls} {id : Str} {timeout : Option ℕ} {result : WriteResult}
    (h : c.step (.act (.send id timeout result)) = some c') :
    c.connection.sends id = none ∧
      c'.connection.futures = Function.update c.connection.futures id (some .pending) ∧
      c'.connection.sends =
        Function.update c.connection.sends id (some ⟨timeout, attempt 0 result⟩) := by
  simp only [Calls.step] at h
  split_ifs at h
  obtain ⟨connection, hstep, rfl⟩ := Option.map_eq_some_iff.mp h
  simp only [Connection.step] at hstep
  split_ifs at hstep with hnone
  cases hstep
  exact ⟨hnone, rfl, rfl⟩

/-- A call of `send` begins. -/
theorem Exchange.Genuine.ask (h : s.Genuine responds) {id : Str} {timeout : Option ℕ}
    {result : WriteResult} {calls : Calls} {q : Request τ}
    (hstep : s.calls.step (.act (.send id timeout result)) = some calls)
    (hcalls : s'.calls = calls) (hnow : s'.now = s.now) (hreplies : s'.replies = s.replies)
    (hrequests : s'.requests = Function.update s.requests id (some (s.now, q))) :
    s.Extends s' ∧ s'.Genuine responds := by
  obtain ⟨hsends, hfutures', hsends'⟩ := calls_send hstep
  have hnone : s.requests id = none := by
    rw [← Option.not_isSome_iff_eq_none, ← h.begun, hsends]
    simp
  have hext : s.Extends s' := by
    refine ⟨hnow.ge, fun id' r hr => ?_⟩
    have hne : id' ≠ id := by
      rintro rfl
      rw [hnone] at hr
      cases hr
    rw [hrequests, Function.update_of_ne hne, hr]
  refine ⟨hext, fun id' t q' hr => ?_, fun id' => ?_, fun id' hsome => ?_, fun msg hmsg => ?_,
    fun id' msg hresult => ?_, fun id' timeout msg hreturned => ?_⟩
  · rw [hnow]
    rw [hrequests] at hr
    rcases eq_or_ne id' id with rfl | hne
    · rw [Function.update_self] at hr
      cases hr
      exact le_rfl
    · rw [Function.update_of_ne hne] at hr
      exact h.asked id' t q' hr
  · rw [hcalls, hsends', hrequests]
    rcases eq_or_ne id' id with rfl | hne
    · simp
    · rw [Function.update_of_ne hne, Function.update_of_ne hne]
      exact h.begun id'
  · rw [hcalls, hsends']
    rw [hcalls, hfutures'] at hsome
    rcases eq_or_ne id' id with rfl | hne
    · simp
    · rw [Function.update_of_ne hne] at hsome ⊢
      exact h.expected id' hsome
  · rw [hreplies] at hmsg
    exact (h.reply msg hmsg).of_extends hext
  · rw [hcalls, hfutures'] at hresult
    rcases eq_or_ne id' id with rfl | hne
    · rw [Function.update_self] at hresult
      cases hresult
    · rw [Function.update_of_ne hne] at hresult
      exact (h.future id' msg hresult).of_extends hext
  · rw [hcalls, hsends'] at hreturned
    rcases eq_or_ne id' id with rfl | hne
    · rw [Function.update_self, Option.some.injEq, SendCall.mk.injEq] at hreturned
      exact absurd hreturned.2 (attempt_ne_returned _ _)
    · rw [Function.update_of_ne hne] at hreturned
      exact (h.returned id' timeout msg hreturned).of_extends hext

theorem Exchange.Extends.of_eq (hnow : s'.now = s.now) (hrequests : s'.requests = s.requests) :
    s.Extends s' :=
  ⟨hnow.ge, fun id r hr => by rw [hrequests, hr]⟩

/-- Every step extends what is known, and keeps it genuine. -/
theorem Exchange.Genuine.step (h : s.Genuine responds)
    (hstep : ExchangeStep parse responds s label s') : s.Extends s' ∧ s'.Genuine responds := by
  cases hstep with
  | start => exact ⟨.of_eq rfl rfl, h.asked, h.begun, h.expected, h.reply, h.future, h.returned⟩
  | ask htask hcalls => exact h.ask hcalls rfl rfl rfl rfl
  | goOn htask hcall hreply =>
      exact ⟨.of_eq rfl rfl, h.asked, h.begun, h.expected, h.reply, h.future, h.returned⟩
  | finish htask =>
      exact ⟨.of_eq rfl rfl, h.asked, h.begun, h.expected, h.reply, h.future, h.returned⟩
  | @answer msg t q hrequest hresponds =>
      refine ⟨.of_eq rfl rfl, h.asked, h.begun, h.expected, fun msg' hmsg' => ?_, h.future,
        h.returned⟩
      rcases List.mem_cons.mp hmsg' with rfl | hmsg'
      · exact ⟨t, s.now, q, hrequest, h.asked _ _ _ hrequest, le_rfl, hresponds⟩
      · exact h.reply msg' hmsg'
  | deliver hopen hmsg hcalls =>
      refine ⟨.of_eq rfl rfl, h.calls hcalls (fun _ _ _ heq => ?_) fun msg' heq => ?_⟩
      · cases heq
      · cases heq
        exact .inl hmsg
  | notice hmsg hcalls =>
      refine ⟨.of_eq rfl rfl, h.calls hcalls (fun _ _ _ heq => ?_) fun msg' heq => ?_⟩
      · cases heq
      · cases heq
        exact .inr hmsg
  | act hinner hcalls =>
      have hgenuine := h.calls hcalls
        (fun _ _ _ heq => by rw [heq] at hinner; exact hinner.elim)
        fun msg' heq => by rw [heq] at hinner; exact hinner.elim
      exact ⟨.of_eq rfl rfl, hgenuine.asked, hgenuine.begun, hgenuine.expected, hgenuine.reply,
        hgenuine.future, hgenuine.returned⟩
  | tick hle =>
      have hext : s.Extends { s with now := _ } := ⟨hle, fun _ _ hr => hr⟩
      exact ⟨hext, fun id t q hr => (h.asked id t q hr).trans hle, h.begun, h.expected,
        fun msg hmsg => (h.reply msg hmsg).of_extends hext,
        fun id msg hresult => (h.future id msg hresult).of_extends hext,
        fun id timeout msg hreturned => (h.returned id timeout msg hreturned).of_extends hext⟩

/-! ## After a closing -/

variable (responds) in
/-- What is known of the calls since the exchange stood at `s₀`.  If it was closed there, no call
that began since has got a reply. -/
structure Exchange.Since (s₀ s : Exchange T τ α) : Prop where
  genuine : s.Genuine responds
  begun : ∀ id, s.calls.connection.sends id = none → s₀.calls.connection.sends id = none
  isClosed : s₀.isClosed = true → s.isClosed = true
  future : s₀.isClosed = true → ∀ id msg, s₀.calls.connection.sends id = none →
    s.calls.connection.futures id ≠ some (.result msg)
  returned : s₀.isClosed = true → ∀ id timeout msg, s₀.calls.connection.sends id = none →
    s.calls.connection.sends id ≠ some ⟨timeout, .returned msg⟩

theorem Exchange.Since.refl (h : s.Genuine responds) : s.Since responds s where
  genuine := h
  begun := fun _ hnone => hnone
  isClosed := fun hclosed => hclosed
  future := fun _ id msg hnone hresult => by
    have hsome := h.expected id (by rw [hresult]; rfl)
    rw [hnone] at hsome
    cases hsome
  returned := fun _ id timeout msg hnone hreturned => by
    rw [hnone] at hreturned
    cases hreturned

/-- A step of the connection that brings no reply once it is closed. -/
theorem Exchange.Since.calls {s₀ : Exchange T τ α} (h : s₀.Since responds s)
    (hgenuine : s'.Genuine responds) {action : CallAction}
    (hstep : s.calls.step action = some s'.calls)
    (hclosed : s.isClosed = true → s'.isClosed = true)
    (harrive : s.isClosed = true → ∀ msg, action = .act (.arrive msg) →
      s.requests msg.correlationId = none) : s₀.Since responds s' := by
  have hmoves := callMoves_of_step hstep
  refine ⟨hgenuine, fun id hnone => h.begun id ((hmoves id).begun_mono hnone),
    fun hclosed₀ => hclosed (h.isClosed hclosed₀), fun hclosed₀ id msg hnone hresult => ?_,
    fun hclosed₀ id timeout msg hnone hreturned => ?_⟩
  · obtain hold | ⟨haction, rfl, hsome⟩ := (hmoves id).result hresult
    · exact h.future hclosed₀ id msg hnone hold
    · have hrequest := (h.genuine.begun _).mp (h.genuine.expected _ hsome)
      rw [harrive (h.isClosed hclosed₀) msg haction] at hrequest
      cases hrequest
  · rcases (hmoves id).returned hreturned with hold | hold
    · exact h.returned hclosed₀ id timeout msg hnone hold
    · exact h.future hclosed₀ id msg hnone hold

theorem Exchange.Since.step {s₀ : Exchange T τ α} (h : s₀.Since responds s)
    (hstep : ExchangeStep parse responds s label s') : s₀.Since responds s' := by
  have hgenuine := (h.genuine.step hstep).2
  cases hstep with
  | ask htask hcalls =>
      refine h.calls hgenuine hcalls (fun hclosed => hclosed) fun _ msg heq => ?_
      cases heq
  | deliver hopen hmsg hcalls =>
      refine h.calls hgenuine hcalls (fun hclosed => hclosed) fun hclosed => ?_
      rw [hopen] at hclosed
      cases hclosed
  | notice hmsg hcalls =>
      refine h.calls hgenuine hcalls (fun hclosed => hclosed) fun _ msg heq => ?_
      cases heq
      exact hmsg
  | act hinner hcalls =>
      refine h.calls hgenuine hcalls (fun hclosed => by simp [hclosed]) fun _ msg heq => ?_
      rw [heq] at hinner
      exact hinner.elim
  | _ => exact ⟨hgenuine, h.begun, h.isClosed, h.future, h.returned⟩

end Genuine

/-! ## One task -/

section Conversation

variable {T τ α : Type} [Preorder T] {parse : (q : Request τ) → Bytes → Option (Response q)}
  {responds : T → Request τ → Bytes → Prop} {s₀ s s' : Exchange T τ α}
  {label : ExchangeLabel T τ α} {program : Query τ α} {i : ℕ}

variable (parse responds) in
/-- The conversation that a task has had since it was started at `s₀`.  The call that it waits for
began since. -/
def Exchange.Holds (s₀ s : Exchange T τ α) (program : Query τ α) : Task τ α → Prop
  | .ready rest => Continues (s₀.answers parse responds) s₀.now program s.now rest
  | .waiting id q next => s₀.calls.connection.sends id = none ∧ ∃ t, s.requests id = some (t, q) ∧
      Continues (s₀.answers parse responds) s₀.now program t (.ask q next)
  | .ended result => Goes (s₀.answers parse responds) s₀.now program result s.now

theorem Exchange.Holds.of_extends {task : Task τ α} (h : s₀.Holds parse responds s program task)
    (hext : s.Extends s') : s₀.Holds parse responds s' program task := by
  cases task with
  | ready rest => exact Continues.later h hext.now
  | waiting id q next =>
      obtain ⟨hbegun, t, hrequest, hcontinues⟩ := h
      exact ⟨hbegun, t, hext.requests id _ hrequest, hcontinues⟩
  | ended result => exact Goes.le_trans h hext.now

/-- What `send` makes of a request is an answer to it. -/
theorem Exchange.Since.answered (h : s₀.Since responds s) {id : Str}
    (hbegun : s₀.calls.connection.sends id = none) {q : Request τ} {t : T}
    (hrequest : s.requests id = some (t, q)) {call : SendCall}
    (hcall : s.calls.connection.sends id = some call) {reply : Reply q}
    (hreply : replyOf parse q call.position = some reply) :
    ∃ m, t ≤ m ∧ m ≤ s.now ∧ s₀.answers parse responds m q reply := by
  obtain ⟨timeout, position⟩ := call
  cases position with
  | returned msg =>
      cases hreply
      obtain ⟨t', m, q', hrequest', hle, hnow, hresponds⟩ :=
        h.genuine.returned id timeout msg hcall
      rw [hrequest] at hrequest'
      cases hrequest'
      have hopen : s₀.isClosed = false := by
        rw [← Bool.not_eq_true]
        exact fun hclosed => h.returned hclosed id timeout msg hbegun hcall
      exact ⟨m, hle, hnow, hopen, msg.content, hresponds, rfl⟩
  | raised err =>
      cases hreply
      exact ⟨s.now, h.genuine.asked id t q hrequest, le_rfl, err, rfl⟩
  | sleeping numRetries => cases hreply
  | awaiting expired => cases hreply
  | cancelling => cases hreply

/-- A step of another task, or of this one to where the conversation goes on. -/
theorem holds_set {tasks : List (Task τ α)} {task moved : Task τ α} {j : ℕ}
    (htask : tasks[i]? = some task) (hkept : s₀.Holds parse responds s program task)
    (hmoved : j = i → s₀.Holds parse responds s program moved) :
    ∃ task', (tasks.set j moved)[i]? = some task' ∧
      s₀.Holds parse responds s program task' := by
  rcases eq_or_ne j i with rfl | hne
  · have hlt := (List.getElem?_eq_some_iff.mp htask).1
    exact ⟨moved, List.getElem?_set_self hlt, hmoved rfl⟩
  · exact ⟨task, by rw [List.getElem?_set_ne hne, htask], hkept⟩

theorem Exchange.Since.holds_step (h : s₀.Since responds s)
    (hstep : ExchangeStep parse responds s label s') {task : Task τ α}
    (htask : s.tasks[i]? = some task) (hholds : s₀.Holds parse responds s program task) :
    ∃ task', s'.tasks[i]? = some task' ∧ s₀.Holds parse responds s' program task' := by
  have hext := (h.genuine.step hstep).1
  have hkept := hholds.of_extends hext
  cases hstep with
  | start =>
      refine ⟨task, ?_, hkept⟩
      rw [List.getElem?_append_left (List.getElem?_eq_some_iff.mp htask).1, htask]
  | @ask j q next id result calls htask' hcalls =>
      apply holds_set htask hkept
      rintro rfl
      rw [htask] at htask'
      cases htask'
      exact ⟨h.begun id (calls_send hcalls).1, s.now, Function.update_self .., hholds⟩
  | @goOn j id q next call reply htask' hcall hreply =>
      apply holds_set htask hkept
      rintro rfl
      rw [htask] at htask'
      cases htask'
      obtain ⟨hbegun, t, hrequest, hcontinues⟩ := hholds
      obtain ⟨m, hle, hnow, hanswer⟩ := h.answered hbegun hrequest hcall hreply
      exact (hcontinues.answered hle hanswer).later hnow
  | @finish j result htask' =>
      apply holds_set htask hkept
      rintro rfl
      rw [htask] at htask'
      cases htask'
      exact hholds result s.now (.done le_rfl)
  | answer hrequest hresponds => exact ⟨task, htask, hkept⟩
  | deliver hopen hmsg hcalls => exact ⟨task, htask, hkept⟩
  | notice hmsg hcalls => exact ⟨task, htask, hkept⟩
  | act hinner hcalls => exact ⟨task, htask, hkept⟩
  | tick hle => exact ⟨task, htask, hkept⟩

variable {ts : List (Transition (Exchange T τ α) (ExchangeLabel T τ α))}
  {e : Transition (Exchange T τ α) (ExchangeLabel T τ α)} {now : T}

/-- From the start of a task on. -/
theorem holds_of_run (hrun : Run (ExchangeStep parse responds) s ts s')
    (h : s₀.Since responds s) {task : Task τ α} (htask : s.tasks[i]? = some task)
    (hholds : s₀.Holds parse responds s program task) :
    ∃ task', s'.tasks[i]? = some task' ∧ s₀.Holds parse responds s' program task' := by
  suffices hkept : s₀.Since responds s' ∧
      ∃ task', s'.tasks[i]? = some task' ∧ s₀.Holds parse responds s' program task' from hkept.2
  apply hrun.invariant (P := fun s => s₀.Since responds s ∧
    ∃ task', s.tasks[i]? = some task' ∧ s₀.Holds parse responds s program task')
  · exact ⟨h, task, htask, hholds⟩
  · rintro e _ hstep ⟨hsince, task', htask', hholds'⟩
    exact ⟨hsince.step hstep, hsince.holds_step hstep htask' hholds'⟩

/-- In every run, a task that was started and is over has had a conversation of its own. -/
theorem conversation_of_task (hrun : Run (ExchangeStep parse responds) (.init now) ts s)
    (he : e ∈ ts) (hlabel : e.label = .start program) {result : Except RequestError α}
    (hended : s.tasks[e.pre.tasks.length]? = some (.ended result)) :
    Goes (e.pre.answers parse responds) e.pre.now program result s.now := by
  obtain ⟨xs, ys, rfl⟩ := List.append_of_mem he
  obtain ⟨hbefore, hstep, hafter⟩ := hrun.split
  have hgenuine : e.pre.Genuine responds :=
    hbefore.invariant (Exchange.Genuine.init now) fun e' _ hstep' h => (h.step hstep').2
  have hsince : e.pre.Since responds e.post := (Exchange.Since.refl hgenuine).step hstep
  have hstarted : e.post = { e.pre with tasks := e.pre.tasks ++ [.ready program] } := by
    rw [hlabel] at hstep
    generalize e.post = post at hstep
    cases hstep
    rfl
  have htask : e.post.tasks[e.pre.tasks.length]? = some (.ready program) := by
    rw [hstarted]
    exact List.getElem?_concat_length
  have hholds : e.pre.Holds parse responds e.post program (.ready program) := by
    rw [hstarted]
    exact Continues.refl
  obtain ⟨task', htask', hholds'⟩ := holds_of_run hafter hsince htask hholds
  rw [hended] at htask'
  cases htask'
  exact hholds'

end Conversation

/-! ## Every conversation can be had -/

section Play

variable {T τ α : Type} [Preorder T] {parse : (q : Request τ) → Bytes → Option (Response q)}
  {responds : T → Request τ → Bytes → Prop} {s s' : Exchange T τ α} {label : ExchangeLabel T τ α}

/-- The calls so far are finitely many, and only they are cancelled. -/
structure Messaging.Calls.Bounded (c : Calls) : Prop where
  sends : {id | (c.connection.sends id).isSome}.Finite
  cancelled : ∀ id, c.cancelled id = true → (c.connection.sends id).isSome

theorem cancelTask_cancels {c c' : Calls} {id : Str}
    (h : c.step (.cancelTask id) = some c') :
    c'.cancelled = Function.update c.cancelled id true ∧ (c.connection.sends id).isSome := by
  simp only [Calls.step] at h
  split_ifs at h
  simp only [Calls.cancelTask] at h
  split at h
  · rename_i hcall
    cases h
    exact ⟨rfl, by rw [hcall]; rfl⟩
  · rename_i hcall
    cases h
    exact ⟨rfl, by rw [hcall]; rfl⟩
  · rename_i hcall
    cases h
    exact ⟨rfl, by rw [hcall]; rfl⟩
  · cases h

theorem Messaging.Calls.Bounded.step {c c' : Calls} (h : c.Bounded) {action : CallAction}
    (hstep : c.step action = some c') : c'.Bounded := by
  have hmoves := callMoves_of_step hstep
  by_cases hsend : ∃ id timeout result, action = .act (.send id timeout result)
  · obtain ⟨id, timeout, result, rfl⟩ := hsend
    obtain ⟨-, -, hsends⟩ := calls_send hstep
    have hmem : ∀ id', (c'.connection.sends id').isSome ↔
        id' = id ∨ (c.connection.sends id').isSome := by
      intro id'
      rw [hsends]
      rcases eq_or_ne id' id with rfl | hne
      · simp
      · simp [hne]
    have hcancelled : c'.cancelled = c.cancelled := by
      simp only [Calls.step] at hstep
      split_ifs at hstep
      obtain ⟨connection, -, rfl⟩ := Option.map_eq_some_iff.mp hstep
      rfl
    refine ⟨(h.sends.insert id).subset fun id' hid' => (hmem id').mp hid', fun id' hid' => ?_⟩
    rw [hcancelled] at hid'
    exact (hmem id').mpr (.inr (h.cancelled id' hid'))
  · have hbegun : ∀ id, (c'.connection.sends id).isSome ↔ (c.connection.sends id).isSome :=
      fun id => ((hmoves id).begun fun timeout result heq => hsend ⟨id, timeout, result, heq⟩).1
    refine ⟨h.sends.subset fun id hid => (hbegun id).mp hid, fun id hid => (hbegun id).mpr ?_⟩
    cases action with
    | act action =>
        simp only [Calls.step] at hstep
        split_ifs at hstep
        obtain ⟨connection, -, rfl⟩ := Option.map_eq_some_iff.mp hstep
        exact h.cancelled id hid
    | cancelTask id' =>
        obtain ⟨hcancelled, hsome⟩ := cancelTask_cancels hstep
        rw [hcancelled] at hid
        rcases eq_or_ne id id' with rfl | hne
        · exact hsome
        · rw [Function.update_of_ne hne] at hid
          exact h.cancelled id hid

theorem Messaging.Calls.Bounded.exists_fresh {c : Calls} (h : c.Bounded) :
    ∃ id, c.connection.sends id = none ∧ c.cancelled id = false := by
  obtain ⟨id, hid⟩ := h.sends.exists_notMem
  have hnone : c.connection.sends id = none := by
    simpa using hid
  refine ⟨id, hnone, ?_⟩
  cases hcancelled : c.cancelled id with
  | false => rfl
  | true =>
      have hsome := h.cancelled id hcancelled
      rw [hnone] at hsome
      cases hsome

theorem calls_act {c : Calls} {action : ConnectionAction} {connection : Connection}
    (hstep : c.connection.step action = some connection)
    (hcaller : action.caller.any c.cancelled = false) :
    c.step (.act action) = some { c with connection := connection } := by
  simp [Calls.step, hcaller, hstep]

/-- A call that is on its way, not cancelled. -/
structure CallAt (c : Calls) (id : Str) (future : Option ReplyFuture) (position : SendPosition) :
    Prop where
  notCancelled : c.cancelled id = false
  future : c.connection.futures id = future
  call : c.connection.sends id = some ⟨some zmqConnectionTimeout, position⟩

theorem callAt_send {c : Calls} {id : Str} (hsends : c.connection.sends id = none)
    (hcancelled : c.cancelled id = false) (result : WriteResult) :
    ∃ c', c.step (.act (.send id (some zmqConnectionTimeout) result)) = some c' ∧
      CallAt c' id (some .pending) (attempt 0 result) := by
  refine ⟨_, calls_act (if_pos hsends) rfl, hcancelled, ?_, ?_⟩
  · exact Function.update_self ..
  · exact Function.update_self ..

theorem CallAt.arrive {c : Calls} {msg : Message} {position : SendPosition}
    (h : CallAt c msg.correlationId (some .pending) position) :
    ∃ c', c.step (.act (.arrive msg)) = some c' ∧
      CallAt c' msg.correlationId (some (.result msg)) position := by
  have hroute : c.connection.routeMsg msg = c.connection.setReply msg.correlationId msg :=
    if_pos (by rw [h.future]; rfl)
  refine ⟨_, calls_act rfl rfl, h.notCancelled, ?_, ?_⟩
  · change (c.connection.routeMsg msg).futures msg.correlationId = _
    rw [hroute]
    simp [Connection.setReply, h.future, ReplyFuture.setResult]
  · change (c.connection.routeMsg msg).sends msg.correlationId = _
    rw [hroute]
    exact h.call

theorem CallAt.expire {c : Calls} {id : Str} {future : Option ReplyFuture}
    (h : CallAt c id future (.awaiting false)) :
    ∃ c', c.step (.act (.expire id)) = some c' ∧ CallAt c' id future (.awaiting true) := by
  have hstep : c.connection.step (.expire id) = some (c.connection.moveTo id (.awaiting true)) := by
    simp [Connection.step, h.call]
  refine ⟨_, calls_act hstep ?_, h.notCancelled, h.future, ?_⟩
  · simp [ConnectionAction.caller, h.notCancelled]
  · simp [Connection.moveTo, h.call]

/-- The call goes on. -/
theorem CallAt.resume {c : Calls} {id : Str} {future : Option ReplyFuture}
    {position : SendPosition} (h : CallAt c id future position) {connection : Connection}
    (hresume : c.connection.resume id = some connection) :
    c.step (.act (.resume id)) = some { c with connection := connection } :=
  calls_act hresume (by simp [ConnectionAction.caller, h.notCancelled])

theorem CallAt.returns {c : Calls} {id : Str} {msg : Message} {expired : Bool}
    (h : CallAt c id (some (.result msg)) (.awaiting expired)) :
    ∃ c', c.step (.act (.resume id)) = some c' ∧ CallAt c' id none (.returned msg) := by
  have hresume : c.connection.resume id = some (c.connection.finish id (.returned msg)) := by
    simp only [Connection.resume, h.call, h.future]
  refine ⟨_, h.resume hresume, h.notCancelled, ?_, ?_⟩
  · simp [Connection.finish]
  · simp [Connection.finish, Connection.moveTo, h.call]

theorem CallAt.cancels {c : Calls} {id : Str}
    (h : CallAt c id (some .pending) (.awaiting true)) :
    ∃ c', c.step (.act (.resume id)) = some c' ∧ CallAt c' id (some .cancelled) .cancelling := by
  have hresume : c.connection.resume id = some (c.connection.cancel id) := by
    simp only [Connection.resume, h.call, h.future]
  refine ⟨_, h.resume hresume, h.notCancelled, ?_, ?_⟩
  · simp [Connection.cancel]
  · simp [Connection.cancel, Connection.moveTo, h.call]

theorem CallAt.raises {c : Calls} {id : Str} {future : Option ReplyFuture}
    (h : CallAt c id future .cancelling) :
    ∃ c', c.step (.act (.resume id)) = some c' ∧ CallAt c' id none (.raised .timeoutError) := by
  have hresume : c.connection.resume id =
      some (c.connection.finish id (.raised .timeoutError)) := by
    simp only [Connection.resume, h.call]
  refine ⟨_, h.resume hresume, h.notCancelled, ?_, ?_⟩
  · simp [Connection.finish]
  · simp [Connection.finish, Connection.moveTo, h.call]

variable {i : ℕ} {q : Request τ} {next : Reply q → Query τ α}

/-- The exchange after the task's call of `send` began. -/
def Exchange.asking (s : Exchange T τ α) (i : ℕ) (id : Str) (q : Request τ)
    (next : Reply q → Query τ α) (calls : Calls) (replies : List Message) : Exchange T τ α :=
  { s with
    calls := calls
    requests := Function.update s.requests id (some (s.now, q))
    replies := replies
    tasks := s.tasks.set i (.waiting id q next) }

/-- A call that came to its end, and the task that goes on. -/
theorem play_goOn {id : Str} {c c' : Calls} {replies : List Message}
    {ts : List (Transition (Exchange T τ α) (ExchangeLabel T τ α))}
    (htask : s.tasks[i]? = some (.ready (.ask q next))) {result : WriteResult}
    (hcalls : s.calls.step (.act (.send id (some zmqConnectionTimeout) result)) = some c)
    (hrun : Run (ExchangeStep parse responds) (s.asking i id q next c s.replies) ts
      (s.asking i id q next c' replies))
    {future : Option ReplyFuture} {position : SendPosition} (hcall : CallAt c' id future position)
    {reply : Reply q} (hreply : replyOf parse q position = some reply) :
    ∃ ts' s', Run (ExchangeStep parse responds) s ts' s' ∧ s'.now = s.now ∧ s'.calls = c' ∧
      s'.isClosed = s.isClosed ∧ s'.tasks[i]? = some (.ready (next reply)) := by
  have hlt := (List.getElem?_eq_some_iff.mp htask).1
  have hask : ExchangeStep parse responds s (.ask i id result)
      (s.asking i id q next c s.replies) := .ask htask hcalls
  have hwaiting : (s.asking i id q next c' replies).tasks[i]? = some (.waiting id q next) :=
    List.getElem?_set_self hlt
  have hgoOn : ExchangeStep parse responds (s.asking i id q next c' replies) (.goOn i) _ :=
    .goOn hwaiting hcall.call hreply
  refine ⟨_, _, Run.cons hask (Run.append_iff.mpr ⟨_, hrun, Run.cons hgoOn Run.nil⟩), rfl, rfl,
    rfl, ?_⟩
  change ((s.tasks.set i _).set i _)[i]? = _
  exact List.getElem?_set_self (by rwa [List.length_set])

/-- A step of the connection while the task waits. -/
theorem inner_step (s : Exchange T τ α) (i : ℕ) {id : Str} (q : Request τ)
    (next : Reply q → Query τ α) {c c' : Calls} {replies : List Message} {action : CallAction}
    (hstep : c.step action = some c') (hinner : action.IsInner) (hcloses : action.closes = false) :
    ExchangeStep parse responds (s.asking i id q next c replies) (.act action)
      (s.asking i id q next c' replies) := by
  have hact : ExchangeStep parse responds (s.asking i id q next c replies) (.act action)
      { s.asking i id q next c' replies with isClosed := s.isClosed || action.closes } :=
    .act hinner hstep
  rw [hcloses, Bool.or_false] at hact
  exact hact

theorem play_writeError {id : Str} (htask : s.tasks[i]? = some (.ready (.ask q next)))
    (hbounded : s.calls.Bounded) (hfresh : s.calls.connection.sends id = none)
    (hcancelled : s.calls.cancelled id = false) :
    ∃ ts s', Run (ExchangeStep parse responds) s ts s' ∧ s'.now = s.now ∧ s'.calls.Bounded ∧
      s'.isClosed = s.isClosed ∧ s'.tasks[i]? = some (.ready (next (.error .other))) := by
  obtain ⟨c, hsend, hcall⟩ := callAt_send hfresh hcancelled .raised
  obtain ⟨ts', s', hrun', hnow, hcalls, hclosed, htask'⟩ :=
    play_goOn htask hsend Run.nil hcall rfl
  exact ⟨ts', s', hrun', hnow, hcalls ▸ hbounded.step hsend, hclosed, htask'⟩

/-- Each answer of the wire can be had at once. -/
theorem play_reply (hbounded : s.calls.Bounded)
    (htask : s.tasks[i]? = some (.ready (.ask q next))) {reply : Reply q}
    (hanswer : s.answers parse responds s.now q reply) :
    ∃ ts s', Run (ExchangeStep parse responds) s ts s' ∧ s'.now = s.now ∧ s'.calls.Bounded ∧
      s'.isClosed = s.isClosed ∧ s'.tasks[i]? = some (.ready (next reply)) := by
  obtain ⟨id, hfresh, hcancelled⟩ := hbounded.exists_fresh
  cases reply with
  | ok response =>
      obtain ⟨hopen, content, hresponds, rfl⟩ := hanswer
      let msg : Message := { messageType := 0, correlationId := id, content := content }
      obtain ⟨c₁, hsend, hcall₁⟩ := callAt_send hfresh hcancelled .ok
      have hpending : CallAt c₁ msg.correlationId (some .pending) (.awaiting false) := hcall₁
      obtain ⟨c₂, harrive, hcall₂⟩ := hpending.arrive
      obtain ⟨c₃, hresume, hcall₃⟩ := hcall₂.returns
      have hrequest : (s.asking i id q next c₁ s.replies).requests msg.correlationId =
          some (s.now, q) := Function.update_self ..
      have hanswered : ExchangeStep parse responds (s.asking i id q next c₁ s.replies)
          (.answer msg) (s.asking i id q next c₁ (msg :: s.replies)) := .answer hrequest hresponds
      have hdelivered : ExchangeStep parse responds (s.asking i id q next c₁ (msg :: s.replies))
          (.deliver msg) (s.asking i id q next c₂ (msg :: s.replies)) :=
        .deliver hopen List.mem_cons_self harrive
      have hrun := Run.cons hanswered (Run.cons hdelivered
        (Run.cons (inner_step s i q next hresume trivial rfl) Run.nil))
      obtain ⟨ts', s', hrun', hnow, hcalls, hclosed, htask'⟩ :=
        play_goOn htask hsend hrun hcall₃ rfl
      have hbounded' := ((hbounded.step hsend).step harrive).step hresume
      exact ⟨ts', s', hrun', hnow, hcalls ▸ hbounded', hclosed, htask'⟩
  | error exc =>
      obtain ⟨err, rfl⟩ := hanswer
      cases err with
      | timeoutError =>
          obtain ⟨c₁, hsend, hcall₁⟩ := callAt_send hfresh hcancelled .ok
          have hpending : CallAt c₁ id (some .pending) (.awaiting false) := hcall₁
          obtain ⟨c₂, hexpire, hcall₂⟩ := hpending.expire
          obtain ⟨c₃, hcancel, hcall₃⟩ := hcall₂.cancels
          obtain ⟨c₄, hraise, hcall₄⟩ := hcall₃.raises
          have hrun : Run (ExchangeStep parse responds) (s.asking i id q next c₁ s.replies) _ _ :=
            Run.cons (inner_step s i q next hexpire trivial rfl)
              (Run.cons (inner_step s i q next hcancel trivial rfl)
                (Run.cons (inner_step s i q next hraise trivial rfl) Run.nil))
          obtain ⟨ts', s', hrun', hnow, hcalls, hclosed, htask'⟩ :=
            play_goOn htask hsend hrun hcall₄ rfl
          have hbounded' := (((hbounded.step hsend).step hexpire).step hcancel).step hraise
          exact ⟨ts', s', hrun', hnow, hcalls ▸ hbounded', hclosed, htask'⟩
      | disconnectError => exact play_writeError htask hbounded hfresh hcancelled
      | sendBackoffTimeoutError => exact play_writeError htask hbounded hfresh hcancelled
      | writeError => exact play_writeError htask hbounded hfresh hcancelled

/-- Every conversation can be had by a task of any exchange. -/
theorem play {isClosed : Bool} {x : Query τ α} {result : Except RequestError α} {t t' : T}
    (h : Goes (wireAnswers parse responds isClosed) t x result t') (hnow : s.now ≤ t)
    (hclosed : s.isClosed = isClosed) (hbounded : s.calls.Bounded)
    (htask : s.tasks[i]? = some (.ready x)) :
    ∃ ts s', Run (ExchangeStep parse responds) s ts s' ∧ s'.now = t' ∧
      s'.tasks[i]? = some (.ended result) := by
  induction h generalizing s with
  | @done t t' result hle =>
      have htick : ExchangeStep parse responds s (.tick t') { s with now := t' } :=
        .tick (hnow.trans hle)
      have hfinish : ExchangeStep parse responds { s with now := t' } (.finish i) _ :=
        .finish htask
      refine ⟨_, _, Run.cons htick (Run.cons hfinish Run.nil), rfl, ?_⟩
      exact List.getElem?_set_self (List.getElem?_eq_some_iff.mp htask).1
  | @ask t m t' q r next result hle hanswer _ ih =>
      have htick : ExchangeStep parse responds s (.tick m) { s with now := m } :=
        .tick (hnow.trans hle)
      have hanswers : ({ s with now := m } : Exchange T τ α).answers parse responds m q r := by
        subst hclosed
        exact hanswer
      obtain ⟨ts₁, s₁, hrun₁, hnow₁, hbounded₁, hclosed₁, htask₁⟩ :=
        play_reply (s := { s with now := m }) hbounded htask hanswers
      obtain ⟨ts₂, s₂, hrun₂, hnow₂, htask₂⟩ :=
        ih hnow₁.le (hclosed₁.trans hclosed) hbounded₁ htask₁
      exact ⟨_, s₂, Run.cons htick (Run.append_iff.mpr ⟨s₁, hrun₁, hrun₂⟩), hnow₂, htask₂⟩

theorem bounded_step (hstep : ExchangeStep parse responds s label s') (h : s.calls.Bounded) :
    s'.calls.Bounded := by
  cases hstep with
  | ask htask hcalls => exact h.step hcalls
  | deliver hopen hmsg hcalls => exact h.step hcalls
  | notice hmsg hcalls => exact h.step hcalls
  | act hinner hcalls => exact h.step hcalls
  | _ => exact h

/-- The exchange that a run comes to has had finitely many calls. -/
theorem bounded_of_run {now : T} {ts : List (Transition (Exchange T τ α) (ExchangeLabel T τ α))}
    (hrun : Run (ExchangeStep parse responds) (.init now) ts s) : s.calls.Bounded := by
  apply hrun.invariant (P := fun s => s.calls.Bounded)
  · have hinit : Calls.init.Bounded := by
      refine ⟨Set.Finite.subset Set.finite_empty fun id hid => ?_, fun id hid => ?_⟩
      · cases hid
      · cases hid
    exact hinit
  · intro e _ hstep h
    exact bounded_step hstep h

/-- However many tasks share the connection, what one comes to is what it could come to alone:
in every run a task that is over has had a conversation of its own with the validator, over the
connection as it stood when the task was started, and every such conversation can be had after
every run.  Once the connection is closed, only exceptions come back. -/
theorem tasks_converse_alone {now : T}
    {ts : List (Transition (Exchange T τ α) (ExchangeLabel T τ α))}
    (hrun : Run (ExchangeStep parse responds) (.init now) ts s) :
    (∀ e ∈ ts, ∀ program result, e.label = .start program →
      s.tasks[e.pre.tasks.length]? = some (.ended result) →
      Goes (e.pre.answers parse responds) e.pre.now program result s.now) ∧
    ∀ program result t', Goes (s.answers parse responds) s.now program result t' →
      ∃ ts' s', Run (ExchangeStep parse responds) s ts' s' ∧ s'.now = t' ∧
        s'.tasks[s.tasks.length]? = some (.ended result) := by
  constructor
  · intro e he program result hlabel hended
    exact conversation_of_task hrun he hlabel hended
  · intro program result t' hgoes
    have hstart : ExchangeStep parse responds s (.start program)
        { s with tasks := s.tasks ++ [.ready program] } := .start
    have hbounded : s.calls.Bounded := bounded_of_run hrun
    obtain ⟨ts', s', hrun', hnow, hended⟩ :=
      play (s := { s with tasks := s.tasks ++ [.ready program] }) hgoes le_rfl rfl hbounded
        List.getElem?_concat_length
    exact ⟨_, s', Run.cons hstart hrun', hnow, hended⟩

end Play

/-! ## Two tasks whose replies cross -/

namespace Sample

/-- `ClientPeersGetResponse` with status `OK` and one peer of one letter. -/
def peersBytes (peer : UInt8) : Bytes := [0x08, 0x01, 0x12, 0x01, peer]

def parsePeers : (q : Request Unit) → Bytes → Option (Response q)
  | .peersGet, content =>
      if content = peersBytes 0x61 then some ⟨1, [['a']]⟩
      else if content = peersBytes 0x62 then some ⟨1, [['b']]⟩
      else none
  | _, _ => none

/-- Another peer at each moment. -/
def peersAt (m : ℕ) (q : Request Unit) (content : Bytes) : Prop :=
  q = .peersGet ∧ content = peersBytes (0x61 + UInt8.ofNat m)

def peersSdk : Sdk Unit where
  statusEnum := fun _ => { ok := 1, noResource := none, notReady := none }
  blockHeader := fun _ => none
  batchHeader := fun _ => none
  transactionHeader := fun _ => none

def firstReply : Message := ⟨0, ['x'], peersBytes 0x61⟩

def secondReply : Message := ⟨0, ['y'], peersBytes 0x62⟩

/-- A step with its label. -/
theorem cons_label {s s' u : Exchange ℕ Unit (Envelope (List Str))}
    {ts : List (Transition _ (ExchangeLabel ℕ Unit (Envelope (List Str))))}
    (label : ExchangeLabel ℕ Unit (Envelope (List Str)))
    (hstep : ExchangeStep parsePeers peersAt s label s')
    (hrun : Run (ExchangeStep parsePeers peersAt) s' ts u) :
    Run (ExchangeStep parsePeers peersAt) s (⟨s, label, s'⟩ :: ts) u :=
  Run.cons hstep hrun

/-- The replies of the first two tasks cross; the third one asks after the connection was closed,
and its call of `send` times out. -/
theorem tasks_converse_alone_crossing :
    Goes (wireAnswers parsePeers peersAt false) 0 (Router.fetchPeers peersSdk)
      (.ok ⟨[['a']], none⟩) 1 ∧
    Goes (wireAnswers parsePeers peersAt false) 0 (Router.fetchPeers peersSdk)
      (.ok ⟨[['b']], none⟩) 1 ∧
    ∃ err, Goes (wireAnswers parsePeers peersAt true) 1 (Router.fetchPeers peersSdk)
      (.error err) 1 := by
  have hrun : Run (ExchangeStep parsePeers peersAt) (.init 0) _ _ :=
    cons_label (.start (Router.fetchPeers peersSdk)) .start <|
    cons_label (.start (Router.fetchPeers peersSdk)) .start <|
    cons_label (.ask 0 ['x'] .ok) (.ask rfl rfl) <|
    cons_label (.ask 1 ['y'] .ok) (.ask rfl rfl) <|
    cons_label (.answer firstReply) (.answer rfl ⟨rfl, rfl⟩) <|
    cons_label (.tick 1) (.tick zero_le_one) <|
    cons_label (.answer secondReply) (.answer rfl ⟨rfl, rfl⟩) <|
    cons_label (.deliver secondReply) (.deliver rfl (by simp) rfl) <|
    cons_label (.act (.act (.resume ['y']))) (.act trivial rfl) <|
    cons_label (.goOn 1) (.goOn rfl rfl rfl) <|
    cons_label (.finish 1) (.finish rfl) <|
    cons_label (.deliver firstReply) (.deliver rfl (by simp) rfl) <|
    cons_label (.act (.act (.resume ['x']))) (.act trivial rfl) <|
    cons_label (.goOn 0) (.goOn rfl rfl rfl) <|
    cons_label (.finish 0) (.finish rfl) <|
    cons_label (.act (.act .close)) (.act trivial rfl) <|
    cons_label (.start (Router.fetchPeers peersSdk)) .start <|
    cons_label (.ask 2 ['z'] .ok) (.ask rfl rfl) <|
    cons_label (.act (.act (.expire ['z']))) (.act trivial rfl) <|
    cons_label (.act (.act (.resume ['z']))) (.act trivial rfl) <|
    cons_label (.act (.act (.resume ['z']))) (.act trivial rfl) <|
    cons_label (.goOn 2) (.goOn rfl rfl rfl) <|
    cons_label (.finish 2) (.finish rfl) Run.nil
  obtain ⟨halone, -⟩ := tasks_converse_alone hrun
  have hfirst := halone _ List.mem_cons_self _ _ rfl rfl
  have hsecond := halone _ (List.mem_cons_of_mem _ List.mem_cons_self) _ _ rfl rfl
  have hthird := halone _ (List.mem_of_getElem? (i := 16) rfl) _ _ rfl rfl
  exact ⟨hfirst, hsecond, _, hthird⟩

end Sample

end Remme.Shared
