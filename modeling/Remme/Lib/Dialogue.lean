import Mathlib.Order.Basic
/-!
# Programs that ask a server

A program puts questions to a server, one after the other, and goes on with what
comes back; it ends with a result or an exception.  The server answers as it
stands at the moment of the question, and may be another one at the next.  A
conversation over a stretch of time is then described by `Goes`, and the rules
below take it apart along the program's own structure.
-/

namespace Remme.Lib

/-- A program that asks questions `q : Q`, with answers in `R q`. -/
inductive Dialogue (Q : Type) (R : Q → Type) (ε α : Type) where
  | done (result : Except ε α)
  | ask (q : Q) (next : R q → Dialogue Q R ε α)

namespace Dialogue

variable {Q : Type} {R : Q → Type} {ε α β : Type}

def bind : Dialogue Q R ε α → (α → Dialogue Q R ε β) → Dialogue Q R ε β
  | done (.ok a), f => f a
  | done (.error e), _ => done (.error e)
  | ask q next, f => ask q fun r => (next r).bind f

instance : Monad (Dialogue Q R ε) where
  pure a := done (.ok a)
  bind := bind

/-- `try: … except: …` -/
def handle : Dialogue Q R ε α → (ε → Dialogue Q R ε α) → Dialogue Q R ε α
  | done (.ok a), _ => done (.ok a)
  | done (.error e), f => f e
  | ask q next, f => ask q fun r => (next r).handle f

/-- One question, whose answer is the result. -/
def question (q : Q) : Dialogue Q R ε (R q) := ask q fun r => done (.ok r)

/-- A computation that asks nothing. -/
def ofExcept (result : Except ε α) : Dialogue Q R ε α := done result

@[simp] theorem ofExcept_ok_bind (a : α) (f : α → Dialogue Q R ε β) :
    (ofExcept (.ok a) >>= f) = f a := rfl

@[simp] theorem ofExcept_error_bind (e : ε) (f : α → Dialogue Q R ε β) :
    (ofExcept (.error e) >>= f) = ofExcept (.error e) := rfl

/-! ## Conversations -/

section Goes

variable {T : Type} [Preorder T] (answers : T → (q : Q) → R q → Prop)

/-- The program, begun at `t`, ends with the result by `t'`.  Each question is answered at some
moment after the one before. -/
inductive Goes : T → Dialogue Q R ε α → Except ε α → T → Prop
  | done {t t' : T} {result : Except ε α} (hle : t ≤ t') : Goes t (.done result) result t'
  | ask {t m t' : T} {q : Q} {r : R q} {next : R q → Dialogue Q R ε α} {result : Except ε α}
      (hle : t ≤ m) (hanswer : answers m q r) (hnext : Goes m (next r) result t') :
      Goes t (.ask q next) result t'

variable {answers} {t m t' : T} {x : Dialogue Q R ε α} {f : α → Dialogue Q R ε β}
  {result : Except ε α}

theorem Goes.le (h : Goes answers t x result t') : t ≤ t' := by
  induction h with
  | done hle => exact hle
  | ask hle _ _ ih => exact hle.trans ih

theorem Goes.of_le (hle : t ≤ m) (h : Goes answers m x result t') : Goes answers t x result t' := by
  cases h with
  | done hle' => exact .done (hle.trans hle')
  | ask hle' hanswer hnext => exact .ask (hle.trans hle') hanswer hnext

theorem Goes.le_trans (h : Goes answers t x result m) (hle : m ≤ t') :
    Goes answers t x result t' := by
  induction h with
  | done hle' => exact .done (hle'.trans hle)
  | ask hle' hanswer _ ih => exact .ask hle' hanswer (ih hle)

theorem goes_done {y : Except ε α} :
    Goes answers t (.done y) result t' ↔ result = y ∧ t ≤ t' := by
  constructor
  · intro h
    cases h with
    | done hle => exact ⟨rfl, hle⟩
  · rintro ⟨rfl, hle⟩
    exact .done hle

theorem goes_pure {a : α} :
    Goes answers t (pure a : Dialogue Q R ε α) result t' ↔ result = .ok a ∧ t ≤ t' :=
  goes_done

theorem goes_ofExcept {y : Except ε α} :
    Goes answers t (ofExcept y) result t' ↔ result = y ∧ t ≤ t' :=
  goes_done

theorem goes_question {q : Q} {result : Except ε (R q)} :
    Goes answers t (question q) result t' ↔
      ∃ r m, result = .ok r ∧ answers m q r ∧ t ≤ m ∧ m ≤ t' := by
  constructor
  · intro h
    cases h with
    | ask hle hanswer hnext =>
        obtain ⟨hresult, hle'⟩ := goes_done.mp hnext
        exact ⟨_, _, hresult, hanswer, hle, hle'⟩
  · rintro ⟨r, m, rfl, hanswer, hle, hle'⟩
    exact .ask hle hanswer (.done hle')

/-- The second program begins where the first one ended, or not at all. -/
theorem goes_bind {result : Except ε β} :
    Goes answers t (x >>= f) result t' ↔
      (∃ e, result = .error e ∧ Goes answers t x (.error e) t') ∨
      ∃ a m, Goes answers t x (.ok a) m ∧ Goes answers m (f a) result t' := by
  change Goes answers t (x.bind f) result t' ↔ _
  induction x generalizing t with
  | done y =>
      cases y with
      | error e =>
          simp only [bind, goes_done, reduceCtorEq, false_and, exists_false, or_false,
            Except.error.injEq]
          exact ⟨fun h => ⟨e, h.1, rfl, h.2⟩, fun ⟨e', hr, he, hle⟩ => ⟨by rw [hr, he], hle⟩⟩
      | ok a =>
          simp only [bind, goes_done, reduceCtorEq, false_and, and_false, exists_false, false_or,
            Except.ok.injEq]
          constructor
          · intro h
            exact ⟨a, t, ⟨rfl, le_rfl⟩, h⟩
          · rintro ⟨a', m, ⟨rfl, hle⟩, h⟩
            exact h.of_le hle
  | ask q next ih =>
      constructor
      · intro h
        cases h with
        | ask hle hanswer hnext =>
            obtain ⟨e, hresult, he⟩ | ⟨a, m, ha, hf⟩ := (ih _).mp hnext
            · exact .inl ⟨e, hresult, .ask hle hanswer he⟩
            · exact .inr ⟨a, m, .ask hle hanswer ha, hf⟩
      · rintro (⟨e, hresult, he⟩ | ⟨a, m, ha, hf⟩)
        · cases he with
          | ask hle hanswer hnext =>
              exact .ask hle hanswer ((ih _).mpr (.inl ⟨e, hresult, hnext⟩))
        · cases ha with
          | ask hle hanswer hnext =>
              exact .ask hle hanswer ((ih _).mpr (.inr ⟨a, m, hnext, hf⟩))

/-- What follows and asks nothing is a function of the result. -/
theorem goes_bind_ofExcept {g : α → Except ε β} {result : Except ε β} :
    Goes answers t (x >>= fun a => ofExcept (g a)) result t' ↔
      ∃ y, Goes answers t x y t' ∧ result = y.bind g := by
  rw [goes_bind]
  constructor
  · rintro (⟨e, rfl, he⟩ | ⟨a, m, ha, hg⟩)
    · exact ⟨.error e, he, rfl⟩
    · obtain ⟨hresult, hle⟩ := goes_ofExcept.mp hg
      exact ⟨.ok a, ha.le_trans hle, hresult⟩
  · rintro ⟨y, hy, rfl⟩
    cases y with
    | error e => exact .inl ⟨e, rfl, hy⟩
    | ok a => exact .inr ⟨a, t', hy, .done le_rfl⟩

theorem goes_bind_pure {g : α → β} {result : Except ε β} :
    Goes answers t (x >>= fun a => pure (g a)) result t' ↔
      ∃ y, Goes answers t x y t' ∧ result = y.map g := by
  refine (goes_bind_ofExcept (g := fun a => .ok (g a))).trans ?_
  constructor
  · rintro ⟨y, hy, rfl⟩
    cases y <;> exact ⟨_, hy, rfl⟩
  · rintro ⟨y, hy, rfl⟩
    cases y <;> exact ⟨_, hy, rfl⟩

theorem goes_handle {g : ε → Dialogue Q R ε α} :
    Goes answers t (x.handle g) result t' ↔
      (∃ a, result = .ok a ∧ Goes answers t x (.ok a) t') ∨
      ∃ e m, Goes answers t x (.error e) m ∧ Goes answers m (g e) result t' := by
  induction x generalizing t with
  | done y =>
      cases y with
      | error e =>
          simp only [handle, goes_done, reduceCtorEq, false_and, and_false, exists_false, false_or,
            Except.error.injEq]
          constructor
          · intro h
            exact ⟨e, t, ⟨rfl, le_rfl⟩, h⟩
          · rintro ⟨e', m, ⟨rfl, hle⟩, h⟩
            exact h.of_le hle
      | ok a =>
          simp only [handle, goes_done, reduceCtorEq, false_and, exists_false, or_false,
            Except.ok.injEq]
          exact ⟨fun h => ⟨a, h.1, rfl, h.2⟩, fun ⟨a', hr, ha, hle⟩ => ⟨by rw [hr, ha], hle⟩⟩
  | ask q next ih =>
      constructor
      · intro h
        cases h with
        | ask hle hanswer hnext =>
            obtain ⟨a, hresult, ha⟩ | ⟨e, m, he, hg⟩ := (ih _).mp hnext
            · exact .inl ⟨a, hresult, .ask hle hanswer ha⟩
            · exact .inr ⟨e, m, .ask hle hanswer he, hg⟩
      · rintro (⟨a, hresult, ha⟩ | ⟨e, m, he, hg⟩)
        · cases ha with
          | ask hle hanswer hnext =>
              exact .ask hle hanswer ((ih _).mpr (.inl ⟨a, hresult, hnext⟩))
        · cases he with
          | ask hle hanswer hnext =>
              exact .ask hle hanswer ((ih _).mpr (.inr ⟨e, m, hnext, hg⟩))

/-- Where every question can be answered at every moment, a program comes to its end. -/
theorem exists_goes (htotal : ∀ m q, ∃ r, answers m q r) (t : T) (x : Dialogue Q R ε α) :
    ∃ result, Goes answers t x result t := by
  induction x with
  | done y => exact ⟨y, .done le_rfl⟩
  | ask q next ih =>
      obtain ⟨r, hr⟩ := htotal t q
      obtain ⟨result, hgoes⟩ := ih r
      exact ⟨result, .ask le_rfl hr hgoes⟩

/-! ## The rest of a conversation -/

variable (answers) in
/-- Whatever the rest of a conversation comes to, the whole of it comes to. -/
def Continues (t₀ : T) (x : Dialogue Q R ε α) (t : T) (y : Dialogue Q R ε α) : Prop :=
  ∀ result t', Goes answers t y result t' → Goes answers t₀ x result t'

theorem Continues.refl : Continues answers t x t x := fun _ _ h => h

theorem Continues.later {t₀ : T} {y : Dialogue Q R ε α} (h : Continues answers t₀ x t y)
    (hle : t ≤ m) : Continues answers t₀ x m y :=
  fun result t' hgoes => h result t' (hgoes.of_le hle)

theorem Continues.answered {t₀ : T} {q : Q} {r : R q} {next : R q → Dialogue Q R ε α}
    (h : Continues answers t₀ x t (.ask q next)) (hle : t ≤ m) (hanswer : answers m q r) :
    Continues answers t₀ x m (next r) :=
  fun result t' hgoes => h result t' (.ask hle hanswer hgoes)

/-! ## Questions -/

variable (answers) in
/-- A conversation begun at `t` comes to the question at `m`. -/
inductive Asks : T → Dialogue Q R ε α → Q → T → Prop
  | here {t m : T} {q : Q} {next : R q → Dialogue Q R ε α} (hle : t ≤ m) :
      Asks t (.ask q next) q m
  | later {t k m : T} {q q' : Q} {r : R q'} {next : R q' → Dialogue Q R ε α} (hle : t ≤ k)
      (hanswer : answers k q' r) (hnext : Asks k (next r) q m) : Asks t (.ask q' next) q m

theorem Asks.le {q : Q} (h : Asks answers t x q m) : t ≤ m := by
  induction h with
  | here hle => exact hle
  | later hle _ _ ih => exact hle.trans ih

theorem Asks.of_le {q : Q} {k : T} (hle : t ≤ k) (h : Asks answers k x q m) :
    Asks answers t x q m := by
  cases h with
  | here hle' => exact .here (hle.trans hle')
  | later hle' hanswer hnext => exact .later (hle.trans hle') hanswer hnext

theorem not_asks_done {q : Q} {y : Except ε α} : ¬Asks answers t (.done y) q m := by
  intro h
  cases h

theorem asks_question {q q' : Q} :
    Asks answers t (question q' : Dialogue Q R ε (R q')) q m ↔ q = q' ∧ t ≤ m := by
  constructor
  · intro h
    cases h with
    | here hle => exact ⟨rfl, hle⟩
    | later _ _ hnext => exact absurd hnext not_asks_done
  · rintro ⟨rfl, hle⟩
    exact .here hle

theorem asks_bind {q : Q} :
    Asks answers t (x >>= f) q m ↔
      Asks answers t x q m ∨ ∃ a k, Goes answers t x (.ok a) k ∧ Asks answers k (f a) q m := by
  change Asks answers t (x.bind f) q m ↔ _
  induction x generalizing t with
  | done y =>
      cases y with
      | error e =>
          constructor
          · intro h
            exact absurd h not_asks_done
          · rintro (h | ⟨a, k, hgoes, -⟩)
            · exact absurd h not_asks_done
            · cases (goes_done.mp hgoes).1
      | ok a =>
          constructor
          · intro h
            exact .inr ⟨a, t, .done le_rfl, h⟩
          · rintro (h | ⟨a', k, hgoes, h⟩)
            · exact absurd h not_asks_done
            · obtain ⟨ha, hle⟩ := goes_done.mp hgoes
              cases ha
              exact h.of_le hle
  | ask q' next ih =>
      constructor
      · intro h
        cases h with
        | here hle => exact .inl (.here hle)
        | later hle hanswer hnext =>
            obtain hx | ⟨a, k, hgoes, hf⟩ := (ih _).mp hnext
            · exact .inl (.later hle hanswer hx)
            · exact .inr ⟨a, k, .ask hle hanswer hgoes, hf⟩
      · rintro (h | ⟨a, k, hgoes, hf⟩)
        · cases h with
          | here hle => exact .here hle
          | later hle hanswer hnext => exact .later hle hanswer ((ih _).mpr (.inl hnext))
        · cases hgoes with
          | ask hle hanswer hnext =>
              exact .later hle hanswer ((ih _).mpr (.inr ⟨a, k, hnext, hf⟩))

theorem asks_ofExcept_bind {q : Q} {y : Except ε α} :
    Asks answers t (ofExcept y >>= f) q m ↔ ∃ a, y = .ok a ∧ Asks answers t (f a) q m := by
  cases y with
  | error e =>
      constructor
      · intro h
        exact absurd h not_asks_done
      · rintro ⟨a, ha, -⟩
        cases ha
  | ok a =>
      constructor
      · intro h
        exact ⟨a, rfl, h⟩
      · rintro ⟨a', ha, h⟩
        cases ha
        exact h

/-- What follows and asks nothing does not matter. -/
theorem asks_bind_ofExcept {q : Q} {g : α → Except ε β} :
    Asks answers t (x >>= fun a => ofExcept (g a)) q m ↔ Asks answers t x q m := by
  rw [asks_bind]
  constructor
  · rintro (h | ⟨a, k, -, h⟩)
    · exact h
    · exact absurd h not_asks_done
  · exact .inl

theorem asks_bind_pure {q : Q} {g : α → β} :
    Asks answers t (x >>= fun a => pure (g a)) q m ↔ Asks answers t x q m :=
  asks_bind_ofExcept (g := fun a => .ok (g a))

end Goes

/-! ## How many questions -/

/-- Whatever is answered, the program puts at most `n` questions. -/
inductive AsksAtMost : ℕ → Dialogue Q R ε α → Prop
  | done {n : ℕ} {y : Except ε α} : AsksAtMost n (.done y)
  | ask {n : ℕ} {q : Q} {next : R q → Dialogue Q R ε α} (h : ∀ r, AsksAtMost n (next r)) :
      AsksAtMost (n + 1) (.ask q next)

section AsksAtMost

variable {n k : ℕ} {x : Dialogue Q R ε α}

theorem AsksAtMost.mono (h : AsksAtMost n x) (hle : n ≤ k) : AsksAtMost k x := by
  induction h generalizing k with
  | done => exact .done
  | ask _ ih =>
      obtain ⟨k, rfl⟩ := Nat.exists_eq_succ_of_ne_zero (n := k) (by omega)
      exact .ask fun r => ih r (by omega)

theorem asksAtMost_question (q : Q) : AsksAtMost 1 (question q : Dialogue Q R ε (R q)) :=
  .ask fun _ => .done

theorem AsksAtMost.bind {f : α → Dialogue Q R ε β} (hx : AsksAtMost n x)
    (hf : ∀ a, AsksAtMost k (f a)) : AsksAtMost (n + k) (x >>= f) := by
  change AsksAtMost (n + k) (x.bind f)
  induction hx with
  | @done n y =>
      cases y with
      | error e => exact .done
      | ok a => exact (hf a).mono (by omega)
  | @ask n q next _ ih =>
      have hsum : n + 1 + k = n + k + 1 := by omega
      rw [hsum]
      exact .ask ih

/-- What comes first and asks nothing does not count. -/
theorem AsksAtMost.ofExcept_bind {f : α → Dialogue Q R ε β} (hf : ∀ a, AsksAtMost n (f a))
    (y : Except ε α) : AsksAtMost n (ofExcept y >>= f) := by
  cases y with
  | error e => exact .done
  | ok a => exact hf a

theorem AsksAtMost.bind_ofExcept (h : AsksAtMost n x) (g : α → Except ε β) :
    AsksAtMost n (x >>= fun a => ofExcept (g a)) :=
  h.bind (k := 0) fun _ => .done

theorem AsksAtMost.bind_pure (h : AsksAtMost n x) (g : α → β) :
    AsksAtMost n (x >>= fun a => pure (g a)) :=
  h.bind (k := 0) fun _ => .done

end AsksAtMost

end Dialogue

end Remme.Lib
