import Mathlib.Data.List.Induction
/-!
# Runs of a labelled transition relation

A run keeps every transition it took, with the state before and after, so that
a statement about histories ("preceded by", "at most once") is a statement about
the list.  Invariants are proved by `Run.invariant`, one step at a time, and
`Run.split` cuts a run at any of its transitions.
-/

namespace Remme.Lib

/-- One step of a run: the state before, the label, the state after. -/
structure Transition (σ ℓ : Type) where
  pre : σ
  label : ℓ
  post : σ

/-- `Run step s ts u`: the transitions `ts`, in order, lead from `s` to `u`. -/
def Run {σ ℓ : Type} (step : σ → ℓ → σ → Prop) (s : σ) : List (Transition σ ℓ) → σ → Prop
  | [], u => u = s
  | e :: es, u => e.pre = s ∧ step e.pre e.label e.post ∧ Run step e.post es u

namespace Run

variable {σ ℓ : Type} {step : σ → ℓ → σ → Prop} {s t u : σ}
  {ts ts' : List (Transition σ ℓ)} {e : Transition σ ℓ}

theorem nil : Run step s [] s := rfl

theorem cons {l : ℓ} (hstep : step s l t) (h : Run step t ts u) :
    Run step s (⟨s, l, t⟩ :: ts) u := ⟨rfl, hstep, h⟩

/-- A run cut between two of its transitions. -/
theorem append_iff :
    Run step s (ts ++ ts') u ↔ ∃ t, Run step s ts t ∧ Run step t ts' u := by
  induction ts generalizing s with
  | nil => simp [Run]
  | cons e es ih =>
      simp only [List.cons_append, Run, ih]
      constructor
      · rintro ⟨hpre, hstep, t, hleft, hright⟩
        exact ⟨t, ⟨hpre, hstep, hleft⟩, hright⟩
      · rintro ⟨t, ⟨hpre, hstep, hleft⟩, hright⟩
        exact ⟨hpre, hstep, t, hleft, hright⟩

/-- A run cut at one of its transitions. -/
theorem split (h : Run step s (ts ++ e :: ts') u) :
    Run step s ts e.pre ∧ step e.pre e.label e.post ∧ Run step e.post ts' u := by
  obtain ⟨t, hleft, hpre, hstep, hright⟩ := append_iff.mp h
  subst hpre
  exact ⟨hleft, hstep, hright⟩

theorem step_of_mem (h : Run step s ts u) (he : e ∈ ts) :
    step e.pre e.label e.post := by
  obtain ⟨xs, ys, rfl⟩ := List.append_of_mem he
  exact (split h).2.1

/-- The same transitions under another relation that has all of them. -/
theorem congr {step' : σ → ℓ → σ → Prop} (h : Run step s ts u)
    (hstep : ∀ e ∈ ts, step' e.pre e.label e.post) : Run step' s ts u := by
  induction ts generalizing s with
  | nil => exact h
  | cons e es ih =>
      obtain ⟨hpre, -, hrest⟩ := h
      exact ⟨hpre, hstep e (by simp), ih hrest fun e' he' => hstep e' (by simp [he'])⟩

/-- A relation that holds for any two positions of a list. -/
theorem pairwise_of_split {α : Type} {R : α → α → Prop} {l : List α}
    (h : ∀ xs x ys y zs, l = xs ++ x :: (ys ++ y :: zs) → R x y) : l.Pairwise R := by
  induction l with
  | nil => exact List.Pairwise.nil
  | cons x l ih =>
      rw [List.pairwise_cons]
      refine ⟨fun y hy => ?_, ih fun xs x' ys y zs heq => ?_⟩
      · obtain ⟨ys, zs, rfl⟩ := List.append_of_mem hy
        exact h [] x ys y zs rfl
      · exact h (x :: xs) x' ys y zs (by rw [heq]; rfl)

/-- A property of states that every transition of the run preserves. -/
theorem invariant {P : σ → Prop} (h : Run step s ts u) (hinit : P s)
    (hstep : ∀ e ∈ ts, step e.pre e.label e.post → P e.pre → P e.post) : P u := by
  induction ts generalizing s with
  | nil =>
      obtain rfl : u = s := h
      exact hinit
  | cons e es ih =>
      obtain ⟨rfl, hone, hrest⟩ := h
      apply ih hrest
      · exact hstep e (by simp) hone hinit
      · intro e' he'
        exact hstep e' (by simp [he'])

/-- The invariant rule, read before any transition of the run. -/
theorem invariant_pre {P : σ → Prop} (h : Run step s ts u) (hinit : P s)
    (hstep : ∀ e ∈ ts, step e.pre e.label e.post → P e.pre → P e.post) (he : e ∈ ts) :
    P e.pre := by
  obtain ⟨xs, ys, rfl⟩ := List.append_of_mem he
  exact (split h).1.invariant hinit fun e' he' => hstep e' (by simp [he'])

/-- A property of the history and the state that each transition extends. -/
theorem history {P : List (Transition σ ℓ) → σ → Prop} (h : Run step s ts u) (hinit : P [] s)
    (hstep : ∀ xs e ys, ts = xs ++ e :: ys → step e.pre e.label e.post → P xs e.pre →
      P (xs ++ [e]) e.post) : P ts u := by
  -- The list grows at its end, as the run does, so the prefix of each step is the history.
  induction ts using List.reverseRecOn generalizing u with
  | nil =>
      obtain rfl : u = s := h
      exact hinit
  | append_singleton es e ih =>
      obtain ⟨hleft, hone, hlast⟩ := split h
      obtain rfl : u = e.post := hlast
      apply hstep es e [] rfl hone
      apply ih hleft
      intro xs e' ys heq
      exact hstep xs e' (ys ++ [e]) (by simp [heq])

/-- The history rule, read before a given transition of the run. -/
theorem history_pre {P : List (Transition σ ℓ) → σ → Prop} (h : Run step s (ts ++ e :: ts') u)
    (hinit : P [] s)
    (hstep : ∀ xs e' ys, ts ++ e :: ts' = xs ++ e' :: ys → step e'.pre e'.label e'.post →
      P xs e'.pre → P (xs ++ [e']) e'.post) : P ts e.pre := by
  apply (split h).1.history hinit
  intro xs e' ys heq
  exact hstep xs e' (ys ++ e :: ts') (by simp [heq])

/-- The state after a list of actions of a machine. -/
def exec (step : σ → ℓ → Option σ) (s : σ) : List ℓ → Option σ
  | [] => some s
  | l :: ls => (step s l).bind fun t => exec step t ls

theorem exists_of_exec {step : σ → ℓ → Option σ} {ls : List ℓ} (h : exec step s ls = some u) :
    ∃ ts, Run (fun s l t => step s l = some t) s ts u := by
  induction ls generalizing s with
  | nil =>
      obtain rfl : s = u := Option.some.inj h
      exact ⟨[], nil⟩
  | cons l ls ih =>
      obtain ⟨t, hstep, hrest⟩ := Option.bind_eq_some_iff.mp h
      obtain ⟨ts, hrun⟩ := ih hrest
      exact ⟨_, cons hstep hrun⟩

/-- A property that the state after the actions is computed to have. -/
theorem exists_of_any {step : σ → ℓ → Option σ} {ls : List ℓ} {P : σ → Prop} [DecidablePred P]
    (h : (exec step s ls).any (fun u => decide (P u)) = true) :
    ∃ ts u, Run (fun s l t => step s l = some t) s ts u ∧ P u := by
  obtain ⟨u, hexec, hstate⟩ := (Option.any_eq_true _ _).mp h
  obtain ⟨ts, hrun⟩ := exists_of_exec hexec
  exact ⟨ts, u, hrun, of_decide_eq_true hstate⟩

/-- A run of actions that are each computed to be taken in a state allowed by the guard. -/
theorem exists_of_guarded {step : σ → ℓ → Option σ} {guard : σ → ℓ → Prop}
    [∀ s l, Decidable (guard s l)] {ls : List ℓ} {P : σ → Prop} [DecidablePred P]
    (h : (exec (fun s l => if guard s l then step s l else none) s ls).any
      (fun u => decide (P u)) = true) :
    ∃ ts u, Run (fun s l t => step s l = some t) s ts u ∧
      (∀ e ∈ ts, guard e.pre e.label) ∧ P u := by
  obtain ⟨ts, u, hrun, hstate⟩ := exists_of_any h
  have hguarded : ∀ e ∈ ts, guard e.pre e.label ∧ step e.pre e.label = some e.post := by
    intro e he
    have hstep := hrun.step_of_mem he
    split_ifs at hstep with hguard
    exact ⟨hguard, hstep⟩
  refine ⟨ts, u, hrun.congr fun e he => ?_, fun e he => (hguarded e he).1, hstate⟩
  exact (hguarded e he).2

end Run

end Remme.Lib
