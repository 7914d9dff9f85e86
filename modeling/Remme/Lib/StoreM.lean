import Mathlib.Logic.Basic
/-!
# Programs over a keyed store

A transaction processor reads entries of a store, one key at a time, and either
returns a result or raises.  `StoreM` keeps such a program as data: the same
text has a meaning against a store (`run`) and a list of the keys it asks for
(`reads`).  The `_eq_ok` lemmas turn "the program returned `b`" into the
conjunction of its guards, one program step at a time.
-/

namespace Remme.Lib

/-- A program that returns, raises, or reads a key and goes on. -/
inductive StoreM (κ ν ε α : Type) where
  | done (a : α)
  | raise (e : ε)
  | read (k : κ) (next : Option ν → StoreM κ ν ε α)

namespace StoreM

variable {κ ν ε α β : Type}

protected def bind : StoreM κ ν ε α → (α → StoreM κ ν ε β) → StoreM κ ν ε β
  | done a, f => f a
  | raise e, _ => raise e
  | read k next, f => read k fun o => (next o).bind f

instance : Monad (StoreM κ ν ε) where
  pure := done
  bind := StoreM.bind

/-- Read the entry at a key. -/
def get (k : κ) : StoreM κ ν ε (Option ν) := read k done

def raiseIf (c : Prop) [Decidable c] (e : ε) : StoreM κ ν ε Unit :=
  if c then raise e else done ()

/-- The value of an optional, or an exception where there is none. -/
def orRaise (o : Option α) (e : ε) : StoreM κ ν ε α :=
  match o with
  | some a => done a
  | none => raise e

def ofExcept : Except ε α → StoreM κ ν ε α
  | .ok a => done a
  | .error e => raise e

/-! ## Meaning against a store -/

def run (ctx : κ → Option ν) : StoreM κ ν ε α → Except ε α
  | done a => .ok a
  | raise e => .error e
  | read k next => (next (ctx k)).run ctx

/-- The keys read against a store, in order, up to the end or the exception. -/
def reads (ctx : κ → Option ν) : StoreM κ ν ε α → List κ
  | done _ => []
  | raise _ => []
  | read k next => k :: (next (ctx k)).reads ctx

variable (ctx : κ → Option ν)

@[simp] theorem run_pure (a : α) : run ctx (pure a : StoreM κ ν ε α) = .ok a := rfl

@[simp] theorem run_done (a : α) : run ctx (done a : StoreM κ ν ε α) = .ok a := rfl

@[simp] theorem run_raise (e : ε) : run ctx (raise e : StoreM κ ν ε α) = .error e := rfl

@[simp] theorem run_get (k : κ) : run ctx (get k : StoreM κ ν ε (Option ν)) = .ok (ctx k) := rfl

@[simp] theorem run_ofExcept (x : Except ε α) :
    run ctx (ofExcept x : StoreM κ ν ε α) = x := by
  cases x <;> rfl

theorem run_raiseIf (c : Prop) [Decidable c] (e : ε) :
    run ctx (raiseIf c e : StoreM κ ν ε Unit) = if c then .error e else .ok () := by
  by_cases hc : c <;> simp [raiseIf, hc]

theorem run_orRaise (o : Option α) (e : ε) :
    run ctx (orRaise o e : StoreM κ ν ε α) = o.elim (.error e) .ok := by
  cases o <;> rfl

theorem run_bind (m : StoreM κ ν ε α) (f : α → StoreM κ ν ε β) :
    run ctx (m >>= f) = (run ctx m).bind fun a => run ctx (f a) := by
  change run ctx (m.bind f) = _
  induction m with
  | done a => rfl
  | raise e => rfl
  | read k next ih => exact ih (ctx k)

@[simp] theorem run_bind_eq_ok {m : StoreM κ ν ε α} {f : α → StoreM κ ν ε β} {b : β} :
    run ctx (m >>= f) = .ok b ↔ ∃ a, run ctx m = .ok a ∧ run ctx (f a) = .ok b := by
  rw [run_bind]
  cases run ctx m with
  | error e => simp [Except.bind]
  | ok a => simp [Except.bind]

/-- A program raises in its first part, or in the rest after the first part returned. -/
theorem run_bind_eq_error {m : StoreM κ ν ε α} {f : α → StoreM κ ν ε β} {e : ε} :
    run ctx (m >>= f) = .error e ↔
      run ctx m = .error e ∨ ∃ a, run ctx m = .ok a ∧ run ctx (f a) = .error e := by
  rw [run_bind]
  cases run ctx m with
  | error e' => simp [Except.bind]
  | ok a => simp [Except.bind]

theorem run_raiseIf_eq_error {c : Prop} [Decidable c] {e e' : ε} :
    run ctx (raiseIf c e : StoreM κ ν ε Unit) = .error e' ↔ c ∧ e' = e := by
  by_cases hc : c <;> simp [raiseIf, hc, eq_comm]

theorem run_orRaise_eq_error {o : Option α} {e e' : ε} :
    run ctx (orRaise o e : StoreM κ ν ε α) = .error e' ↔ o = none ∧ e' = e := by
  cases o <;> simp [orRaise, eq_comm]

@[simp] theorem run_raiseIf_eq_ok {c : Prop} [Decidable c] {e : ε} {u : Unit} :
    run ctx (raiseIf c e : StoreM κ ν ε Unit) = .ok u ↔ ¬c := by
  by_cases hc : c <;> simp [raiseIf, hc]

@[simp] theorem run_orRaise_eq_ok {o : Option α} {e : ε} {a : α} :
    run ctx (orRaise o e : StoreM κ ν ε α) = .ok a ↔ o = some a := by
  cases o <;> simp [orRaise]

/-! ## The keys a program reads -/

/-- Every key that the program reads against the store is allowed. -/
def ReadsWithin (P : κ → Prop) (m : StoreM κ ν ε α) : Prop := ∀ k ∈ m.reads ctx, P k

variable {P : κ → Prop}

/-- The second part of a program reads only after the first part returned. -/
@[simp] theorem readsWithin_bind {m : StoreM κ ν ε α} {f : α → StoreM κ ν ε β} :
    ReadsWithin ctx P (m >>= f) ↔
      ReadsWithin ctx P m ∧ ∀ a, run ctx m = .ok a → ReadsWithin ctx P (f a) := by
  change ReadsWithin ctx P (m.bind f) ↔ _
  induction m with
  | done a =>
      have hdone : ReadsWithin ctx P (done a : StoreM κ ν ε α) := by
        intro k hk
        cases hk
      simp only [hdone, run_done, Except.ok.injEq, forall_eq', true_and]
      rfl
  | raise e =>
      have hraise : ∀ {γ : Type}, ReadsWithin ctx P (raise e : StoreM κ ν ε γ) := by
        intro γ k hk
        cases hk
      simp only [hraise, run_raise, reduceCtorEq, false_implies, implies_true, and_true, iff_true]
      exact hraise
  | read k next ih =>
      have hread : ∀ {γ : Type} (next : Option ν → StoreM κ ν ε γ),
          ReadsWithin ctx P (read k next) ↔ P k ∧ ReadsWithin ctx P (next (ctx k)) := by
        intro γ next
        exact List.forall_mem_cons
      change ReadsWithin ctx P (read k fun o => (next o).bind f) ↔ _
      rw [hread, hread, ih, and_assoc]
      rfl

@[simp] theorem readsWithin_pure (a : α) : ReadsWithin ctx P (pure a : StoreM κ ν ε α) := by
  intro k hk
  cases hk

@[simp] theorem readsWithin_get (k : κ) :
    ReadsWithin ctx P (get k : StoreM κ ν ε (Option ν)) ↔ P k :=
  List.forall_mem_singleton

@[simp] theorem readsWithin_ofExcept (x : Except ε α) :
    ReadsWithin ctx P (ofExcept x : StoreM κ ν ε α) := by
  intro k hk
  cases x <;> cases hk

@[simp] theorem readsWithin_raiseIf (c : Prop) [Decidable c] (e : ε) :
    ReadsWithin ctx P (raiseIf c e : StoreM κ ν ε Unit) := by
  intro k hk
  by_cases hc : c <;> simp [raiseIf, hc, reads] at hk

@[simp] theorem readsWithin_orRaise (o : Option α) (e : ε) :
    ReadsWithin ctx P (orRaise o e : StoreM κ ν ε α) := by
  intro k hk
  cases o <;> cases hk

/-! ## The exceptions a program raises -/

/-- Every exception that the program raises against the store is allowed. -/
def FailsWithin (Q : ε → Prop) (m : StoreM κ ν ε α) : Prop := ∀ e, m.run ctx = .error e → Q e

variable {Q : ε → Prop}

/-- The second part of a program fails only after the first part returned. -/
@[simp] theorem failsWithin_bind {m : StoreM κ ν ε α} {f : α → StoreM κ ν ε β} :
    FailsWithin ctx Q (m >>= f) ↔
      FailsWithin ctx Q m ∧ ∀ a, run ctx m = .ok a → FailsWithin ctx Q (f a) := by
  unfold FailsWithin
  simp only [run_bind_eq_error]
  constructor
  · intro h
    exact ⟨fun e he => h e (.inl he), fun a ha e he => h e (.inr ⟨a, ha, he⟩)⟩
  · rintro ⟨hm, hf⟩ e (he | ⟨a, ha, he⟩)
    · exact hm e he
    · exact hf a ha e he

@[simp] theorem failsWithin_pure (a : α) : FailsWithin ctx Q (pure a : StoreM κ ν ε α) := by
  intro e he
  cases he

@[simp] theorem failsWithin_ofExcept {x : Except ε α} :
    FailsWithin ctx Q (ofExcept x : StoreM κ ν ε α) ↔ ∀ e, x = .error e → Q e := by
  unfold FailsWithin
  rw [run_ofExcept]

@[simp] theorem failsWithin_raiseIf {c : Prop} [Decidable c] {e : ε} :
    FailsWithin ctx Q (raiseIf c e : StoreM κ ν ε Unit) ↔ (c → Q e) := by
  unfold FailsWithin
  simp only [run_raiseIf_eq_error]
  exact ⟨fun h hc => h e ⟨hc, rfl⟩, fun h e' he => he.2 ▸ h he.1⟩

@[simp] theorem failsWithin_orRaise {o : Option α} {e : ε} :
    FailsWithin ctx Q (orRaise o e : StoreM κ ν ε α) ↔ (o = none → Q e) := by
  unfold FailsWithin
  simp only [run_orRaise_eq_error]
  exact ⟨fun h ho => h e ⟨ho, rfl⟩, fun h e' he => he.2 ▸ h he.1⟩

end StoreM

end Remme.Lib
