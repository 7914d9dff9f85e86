import Remme.Lib.Dict
import Remme.Lib.StoreM
import Mathlib.Data.List.Perm.Basic
/-!
# Independent jobs on a keyed store

A job looks at a store and leaves entries to write.  If what it does depends only
on the keys that it may read, and it writes only keys that it may write, then
jobs that share no written key can be run in any order: each does what it would
have done on the first store, and the last store is the same.
-/

namespace Remme.Lib

/-- The keys that a job may read and the keys that it may write. -/
structure Access (κ : Type) where
  reads : κ → Prop
  writes : κ → Prop

/-- No key that one of the two may write is a key of the other. -/
structure Access.Apart {κ : Type} (x y : Access κ) : Prop where
  left : ∀ k, x.writes k → ¬ y.reads k
  right : ∀ k, y.writes k → ¬ x.reads k
  writes : ∀ k, x.writes k → ¬ y.writes k

theorem Access.Apart.symm {κ : Type} {x y : Access κ} (h : x.Apart y) : y.Apart x where
  left := h.right
  right := h.left
  writes := fun k hy hx => h.writes k hx hy

/-- What a job shows of its run on a store, the entries that it leaves to write, and the keys
that it is meant to keep to. -/
structure Job (κ ν ο : Type) extends Access κ where
  outcome : (κ → Option ν) → ο
  written : ο → Dict κ ν

namespace Job

variable {κ ν ο : Type} [DecidableEq κ]

/-- The entries that the job writes when it is run on the store. -/
def effect (job : Job κ ν ο) (ctx : κ → Option ν) : Dict κ ν := job.written (job.outcome ctx)

def commit (s : Dict κ ν) (job : Job κ ν ο) : Dict κ ν := s.update (job.effect s.get?)

/-- The store after the jobs, one after the other. -/
def commitAll (s : Dict κ ν) (jobs : List (Job κ ν ο)) : Dict κ ν := jobs.foldl commit s

/-- What each job shows when the jobs are run one after the other. -/
def outcomes (s : Dict κ ν) : List (Job κ ν ο) → List ο
  | [] => []
  | job :: jobs => job.outcome s.get? :: outcomes (commit s job) jobs

/-- On a store the job keeps to its access: another store with the same readable entries gives
the same outcome, and only writable keys are written. -/
structure Keeps (job : Job κ ν ο) (ctx : κ → Option ν) : Prop where
  outcome_eq : ∀ ctx', (∀ k, job.reads k → ctx' k = ctx k) → job.outcome ctx' = job.outcome ctx
  writes : ∀ k, (job.effect ctx).get? k ≠ none → job.writes k

abbrev Apart (job job' : Job κ ν ο) : Prop := job.toAccess.Apart job'.toAccess

section Order

variable {ctx : κ → Option ν} {s : Dict κ ν} {job : Job κ ν ο} {jobs jobs' : List (Job κ ν ο)}
  {k : κ}

theorem get?_commit : (commit s job).get? k = ((job.effect s.get?).get? k).or (s.get? k) :=
  Dict.get?_update _ _ _

/-- The store agrees with the first one on every key that the jobs may read. -/
def AgreesFor (ctx : κ → Option ν) (s : Dict κ ν) (jobs : List (Job κ ν ο)) : Prop :=
  ∀ job ∈ jobs, ∀ k, job.reads k → s.get? k = ctx k

theorem effect_of_agrees (hkeeps : job.Keeps ctx)
    (hagrees : AgreesFor ctx s (job :: jobs)) : job.effect s.get? = job.effect ctx := by
  unfold effect
  rw [hkeeps.outcome_eq s.get? (hagrees job (by simp))]

/-- A job that runs first changes no key that the others may read. -/
theorem AgreesFor.commit (hkeeps : job.Keeps ctx)
    (hapart : ∀ job' ∈ jobs, job.Apart job')
    (hagrees : AgreesFor ctx s (job :: jobs)) :
    AgreesFor ctx (job.commit s) jobs := by
  intro job' hjob' k hreads
  have hunwritten : (job.effect ctx).get? k = none := by
    by_contra hwritten
    exact (hapart job' hjob').left k (hkeeps.writes k hwritten) hreads
  calc (job.commit s).get? k = ((job.effect ctx).get? k).or (s.get? k) := by
        rw [get?_commit, effect_of_agrees hkeeps hagrees]
    _ = s.get? k := by rw [hunwritten, Option.none_or]
    _ = ctx k := hagrees job' (by simp [hjob']) k hreads

/-- Each job shows what it would have shown on the first store. -/
theorem outcomes_eq (hkeeps : ∀ job ∈ jobs, job.Keeps ctx)
    (hapart : jobs.Pairwise Apart)
    (hagrees : AgreesFor ctx s jobs) :
    outcomes s jobs = jobs.map fun job => job.outcome ctx := by
  induction jobs generalizing s with
  | nil => rfl
  | cons job jobs ih =>
      obtain ⟨hhead, htail⟩ := List.pairwise_cons.mp hapart
      have hjob := hkeeps job (by simp)
      have hrest := ih (fun job' hjob' => hkeeps job' (by simp [hjob'])) htail
        (hagrees.commit hjob hhead)
      rw [outcomes, List.map_cons, hrest, hjob.outcome_eq s.get? (hagrees job (by simp))]

/-- A key that no job writes keeps its entry. -/
theorem get?_commitAll_of_unwritten (hkeeps : ∀ job ∈ jobs, job.Keeps ctx)
    (hapart : jobs.Pairwise Apart)
    (hagrees : AgreesFor ctx s jobs)
    (hunwritten : ∀ job ∈ jobs, (job.effect ctx).get? k = none) :
    (commitAll s jobs).get? k = s.get? k := by
  induction jobs generalizing s with
  | nil => rfl
  | cons job jobs ih =>
      obtain ⟨hhead, htail⟩ := List.pairwise_cons.mp hapart
      have hjob := hkeeps job (by simp)
      have hrest := ih (fun job' hjob' => hkeeps job' (by simp [hjob'])) htail
        (hagrees.commit hjob hhead) (fun job' hjob' => hunwritten job' (by simp [hjob']))
      calc (commitAll s (job :: jobs)).get? k = (job.commit s).get? k := hrest
        _ = ((job.effect ctx).get? k).or (s.get? k) := by
            rw [get?_commit, effect_of_agrees hjob hagrees]
        _ = s.get? k := by rw [hunwritten job (by simp), Option.none_or]

/-- A key that one of the jobs writes holds what that job writes on the first store. -/
theorem get?_commitAll_of_written {v : ν} (hkeeps : ∀ job ∈ jobs, job.Keeps ctx)
    (hapart : jobs.Pairwise Apart)
    (hagrees : AgreesFor ctx s jobs) (hjob : job ∈ jobs)
    (hwritten : (job.effect ctx).get? k = some v) : (commitAll s jobs).get? k = some v := by
  induction jobs generalizing s with
  | nil => cases hjob
  | cons first jobs ih =>
      obtain ⟨hhead, htail⟩ := List.pairwise_cons.mp hapart
      have hfirst := hkeeps first (by simp)
      have hkeepsTail : ∀ job' ∈ jobs, job'.Keeps ctx :=
        fun job' hjob' => hkeeps job' (by simp [hjob'])
      have hagreesTail := hagrees.commit hfirst hhead
      rcases List.mem_cons.mp hjob with rfl | hlater
      · -- The later jobs are apart from this one, so they leave the key alone.
        have hunwritten : ∀ job' ∈ jobs, (job'.effect ctx).get? k = none := by
          intro job' hjob'
          by_contra hother
          have hwrites := hfirst.writes k (by simp [hwritten])
          exact (hhead job' hjob').writes k hwrites ((hkeepsTail job' hjob').writes k hother)
        calc (commitAll s (job :: jobs)).get? k = (job.commit s).get? k :=
              get?_commitAll_of_unwritten hkeepsTail htail hagreesTail hunwritten
          _ = ((job.effect ctx).get? k).or (s.get? k) := by
              rw [get?_commit, effect_of_agrees hfirst hagrees]
          _ = some v := by rw [hwritten, Option.some_or]
      · exact ih hkeepsTail htail hagreesTail hlater

/-- Two orders of jobs that are apart from each other lead to the same entries. -/
theorem commitAll_perm (hperm : jobs'.Perm jobs)
    (hkeeps : ∀ job ∈ jobs, job.Keeps s.get?)
    (hapart : jobs.Pairwise Apart) :
    (commitAll s jobs').get? k = (commitAll s jobs).get? k := by
  have hkeeps' : ∀ job ∈ jobs', job.Keeps s.get? :=
    fun job hjob => hkeeps job (hperm.mem_iff.mp hjob)
  have hapart' : jobs'.Pairwise Apart :=
    (hperm.pairwise_iff fun h => h.symm).mpr hapart
  have hagrees : ∀ jobs : List (Job κ ν ο), AgreesFor s.get? s jobs :=
    fun jobs job hjob k hk => rfl
  by_cases hwritten : ∃ job ∈ jobs, (job.effect s.get?).get? k ≠ none
  · obtain ⟨job, hjob, hentry⟩ := hwritten
    obtain ⟨v, hv⟩ := Option.ne_none_iff_exists'.mp hentry
    rw [get?_commitAll_of_written hkeeps hapart (hagrees jobs) hjob hv,
      get?_commitAll_of_written hkeeps' hapart' (hagrees jobs') (hperm.mem_iff.mpr hjob) hv]
  · push Not at hwritten
    rw [get?_commitAll_of_unwritten hkeeps hapart (hagrees jobs) hwritten,
      get?_commitAll_of_unwritten hkeeps' hapart' (hagrees jobs')
        fun job hjob => hwritten job (hperm.mem_iff.mp hjob)]

end Order

end Job

namespace StoreM

variable {κ ν ε α : Type} {ctx ctx' : κ → Option ν}

/-- A program sees a store only at the keys that it reads there. -/
theorem run_congr {m : StoreM κ ν ε α} (h : ∀ k ∈ m.reads ctx, ctx' k = ctx k) :
    m.run ctx' = m.run ctx ∧ m.reads ctx' = m.reads ctx := by
  induction m with
  | done a => exact ⟨rfl, rfl⟩
  | raise e => exact ⟨rfl, rfl⟩
  | read k next ih =>
      have hkey : ctx' k = ctx k := h k (by simp [reads])
      obtain ⟨hrun, hreads⟩ := ih (ctx k) fun k' hk' => h k' (by simp [reads, hk'])
      simp only [run, reads, hkey, hrun, hreads, and_self]

end StoreM

end Remme.Lib
