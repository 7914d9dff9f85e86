import Mathlib.Algebra.BigOperators.Group.Finset.Basic
import Mathlib.Algebra.Order.BigOperators.Group.Finset
import Mathlib.Algebra.BigOperators.Group.List.Basic
import Mathlib.Algebra.GroupWithZero.Nat
import Mathlib.Data.Finset.Dedup
import Mathlib.Tactic.SplitIfs
/-!
# Insertion-ordered dictionaries

A Python dictionary keeps its keys unique and in the order of their first
assignment; assigning to a present key replaces the value in place.  `Dict`
carries the uniqueness of its keys as a field, so totals over the entries need
no side condition.  The module names no program: it gives the lookup laws of
assignment and update, and the laws of a weighted total over all entries.
-/

namespace Remme.Lib

/-- A finite map with unique keys, in the order of first assignment. -/
@[ext] structure Dict (κ ν : Type) where
  entries : List (κ × ν)
  nodup : (entries.map Prod.fst).Nodup

namespace Dict

variable {κ ν μ : Type}

def empty : Dict κ ν := ⟨[], by simp⟩

/-- `{k: f(v) for k, v in d.items()}` -/
def mapVals (f : ν → μ) (d : Dict κ ν) : Dict κ μ :=
  ⟨d.entries.map fun e => (e.1, f e.2), by simpa [Function.comp_def] using d.nodup⟩

/-- What key `k` contributes to a total when it holds `o`. -/
def weigh (w : κ → ν → ℕ) (k : κ) (o : Option ν) : ℕ := o.elim 0 (w k)

@[simp] theorem weigh_none (w : κ → ν → ℕ) (k : κ) : weigh w k none = 0 := rfl

@[simp] theorem weigh_some (w : κ → ν → ℕ) (k : κ) (v : ν) :
    weigh w k (some v) = w k v := rfl

def sumEntries (w : κ → ν → ℕ) (es : List (κ × ν)) : ℕ :=
  (es.map fun e => w e.1 e.2).sum

/-- The total weight of all entries. -/
def total (w : κ → ν → ℕ) (d : Dict κ ν) : ℕ := sumEntries w d.entries

@[simp] theorem total_empty (w : κ → ν → ℕ) : (empty : Dict κ ν).total w = 0 := rfl

theorem total_mapVals (f : ν → μ) (w : κ → μ → ℕ) (d : Dict κ ν) :
    (d.mapVals f).total w = d.total fun k v => w k (f v) := by
  unfold total sumEntries mapVals
  rw [List.map_map]
  rfl

variable [DecidableEq κ]

/-! ## Lookup and assignment on entry lists -/

/-- The value of the first entry with key `k`. -/
def lookup (k : κ) : List (κ × ν) → Option ν
  | [] => none
  | (k', v) :: es => if k' = k then some v else lookup k es

/-- Replace the value of `k` in place, or append a new entry. -/
def assign (k : κ) (v : ν) : List (κ × ν) → List (κ × ν)
  | [] => [(k, v)]
  | (k', v') :: es => if k' = k then (k, v) :: es else (k', v') :: assign k v es

theorem mem_keys_assign {k k' : κ} {v : ν} {es : List (κ × ν)}
    (h : k' ∈ (assign k v es).map Prod.fst) : k' = k ∨ k' ∈ es.map Prod.fst := by
  induction es with
  | nil => simpa [assign] using h
  | cons e es ih =>
      obtain ⟨k₀, v₀⟩ := e
      by_cases hk : k₀ = k
      · simp only [assign, if_pos hk, List.map_cons, List.mem_cons] at h ⊢
        tauto
      · simp only [assign, if_neg hk, List.map_cons, List.mem_cons] at h ⊢
        tauto

theorem nodup_assign (k : κ) (v : ν) {es : List (κ × ν)}
    (h : (es.map Prod.fst).Nodup) : ((assign k v es).map Prod.fst).Nodup := by
  induction es with
  | nil => simp [assign]
  | cons e es ih =>
      obtain ⟨k₀, v₀⟩ := e
      simp only [List.map_cons, List.nodup_cons] at h
      by_cases hk : k₀ = k
      · subst hk
        simpa [assign] using h
      · simp only [assign, if_neg hk, List.map_cons, List.nodup_cons]
        refine ⟨fun hmem => ?_, ih h.2⟩
        rcases mem_keys_assign hmem with heq | hmem
        · exact hk heq
        · exact h.1 hmem

theorem lookup_assign (k k' : κ) (v : ν) (es : List (κ × ν)) :
    lookup k' (assign k v es) = if k = k' then some v else lookup k' es := by
  induction es with
  | nil => simp [assign, lookup]
  | cons e es ih =>
      obtain ⟨k₀, v₀⟩ := e
      by_cases hk : k₀ = k
      · subst hk
        by_cases hk' : k₀ = k' <;> simp [assign, lookup, hk']
      · simp only [assign, if_neg hk, lookup]
        by_cases hk' : k₀ = k'
        · subst hk'
          simp [Ne.symm hk]
        · simp [hk', ih]

theorem lookup_eq_none_of_not_mem {k : κ} {es : List (κ × ν)}
    (h : k ∉ es.map Prod.fst) : lookup k es = none := by
  induction es with
  | nil => rfl
  | cons e es ih =>
      obtain ⟨k₀, v₀⟩ := e
      simp only [List.map_cons, List.mem_cons, not_or] at h
      simp [lookup, Ne.symm h.1, ih h.2]

theorem mem_of_lookup {k : κ} {v : ν} {es : List (κ × ν)}
    (h : lookup k es = some v) : (k, v) ∈ es := by
  induction es with
  | nil => simp [lookup] at h
  | cons e es ih =>
      obtain ⟨k₀, v₀⟩ := e
      by_cases hk : k₀ = k
      · subst hk
        simp only [lookup, if_pos, Option.some.injEq] at h
        simp [h]
      · simp only [lookup, if_neg hk] at h
        exact List.mem_cons_of_mem _ (ih h)

theorem lookup_of_mem {k : κ} {v : ν} {es : List (κ × ν)}
    (hnodup : (es.map Prod.fst).Nodup) (h : (k, v) ∈ es) : lookup k es = some v := by
  induction es with
  | nil => simp at h
  | cons e es ih =>
      obtain ⟨k₀, v₀⟩ := e
      simp only [List.map_cons, List.nodup_cons] at hnodup
      rcases List.mem_cons.mp h with heq | hmem
      · cases heq
        simp [lookup]
      · have hk : k₀ ≠ k := by
          rintro rfl
          exact hnodup.1 (List.mem_map.mpr ⟨_, hmem, rfl⟩)
        simp [lookup, hk, ih hnodup.2 hmem]

theorem lookup_map (f : ν → μ) (k : κ) (es : List (κ × ν)) :
    lookup k (es.map fun e => (e.1, f e.2)) = (lookup k es).map f := by
  induction es with
  | nil => rfl
  | cons e es ih =>
      obtain ⟨k₀, v₀⟩ := e
      by_cases hk : k₀ = k <;> simp [lookup, hk, ih]

/-! ## Dictionaries -/

def get? (d : Dict κ ν) (k : κ) : Option ν := lookup k d.entries

/-- `d[k] = v` -/
def set (d : Dict κ ν) (k : κ) (v : ν) : Dict κ ν :=
  ⟨assign k v d.entries, nodup_assign k v d.nodup⟩

def setAll (d : Dict κ ν) (es : List (κ × ν)) : Dict κ ν :=
  es.foldl (fun d e => d.set e.1 e.2) d

/-- `d.update(e)` -/
def update (d e : Dict κ ν) : Dict κ ν := d.setAll e.entries

/-- A dictionary display: later assignments to one key win. -/
def ofList (es : List (κ × ν)) : Dict κ ν := setAll empty es

@[simp] theorem get?_empty (k : κ) : (empty : Dict κ ν).get? k = none := rfl

theorem get?_set (d : Dict κ ν) (k k' : κ) (v : ν) :
    (d.set k v).get? k' = if k = k' then some v else d.get? k' :=
  lookup_assign k k' v d.entries

@[simp] theorem get?_set_self (d : Dict κ ν) (k : κ) (v : ν) :
    (d.set k v).get? k = some v := by simp [get?_set]

theorem get?_set_of_ne (d : Dict κ ν) {k k' : κ} (v : ν) (h : k ≠ k') :
    (d.set k v).get? k' = d.get? k' := by simp [get?_set, h]

theorem get?_eq_some_iff {d : Dict κ ν} {k : κ} {v : ν} :
    d.get? k = some v ↔ (k, v) ∈ d.entries :=
  ⟨mem_of_lookup, lookup_of_mem d.nodup⟩

theorem get?_setAll (d : Dict κ ν) {es : List (κ × ν)}
    (hnodup : (es.map Prod.fst).Nodup) (k : κ) :
    (d.setAll es).get? k = (lookup k es).or (d.get? k) := by
  induction es generalizing d with
  | nil => simp [setAll, lookup]
  | cons e es ih =>
      obtain ⟨k₀, v₀⟩ := e
      simp only [List.map_cons, List.nodup_cons] at hnodup
      have htail := ih (d.set k₀ v₀) hnodup.2
      simp only [setAll, List.foldl_cons] at htail ⊢
      rw [htail, get?_set, lookup]
      by_cases hk : k₀ = k
      · subst hk
        simp [lookup_eq_none_of_not_mem hnodup.1]
      · simp [hk]

theorem get?_update (d e : Dict κ ν) (k : κ) :
    (d.update e).get? k = (e.get? k).or (d.get? k) :=
  get?_setAll d e.nodup k

theorem get?_mapVals (f : ν → μ) (d : Dict κ ν) (k : κ) :
    (d.mapVals f).get? k = (d.get? k).map f :=
  lookup_map f k d.entries

theorem get?_setAll_of_not_mem (d : Dict κ ν) {k : κ} {es : List (κ × ν)}
    (h : k ∉ es.map Prod.fst) : (d.setAll es).get? k = d.get? k := by
  induction es generalizing d with
  | nil => rfl
  | cons e es ih =>
      simp only [List.map_cons, List.mem_cons, not_or] at h
      have htail := ih (d.set e.1 e.2) h.2
      rw [get?_set_of_ne d e.2 (Ne.symm h.1)] at htail
      exact htail

theorem mem_of_get?_setAll {d : Dict κ ν} {k : κ} {v : ν} {es : List (κ × ν)}
    (h : (d.setAll es).get? k = some v) : (k, v) ∈ es ∨ d.get? k = some v := by
  induction es generalizing d with
  | nil => exact .inr h
  | cons e es ih =>
      rcases ih (d := d.set e.1 e.2) h with hmem | hget
      · exact .inl (List.mem_cons_of_mem _ hmem)
      · rw [get?_set] at hget
        split_ifs at hget with hk
        · cases hget
          subst hk
          exact .inl List.mem_cons_self
        · exact .inr hget

/-- What a display holds is one of its items. -/
theorem mem_of_get?_ofList {k : κ} {v : ν} {es : List (κ × ν)}
    (h : (ofList es).get? k = some v) : (k, v) ∈ es := by
  rcases mem_of_get?_setAll h with hmem | hget
  · exact hmem
  · simp at hget

theorem get?_ofList_of_not_mem {k : κ} {es : List (κ × ν)} (h : k ∉ es.map Prod.fst) :
    (ofList es).get? k = none := by
  unfold ofList
  rw [get?_setAll_of_not_mem empty h, get?_empty]

theorem get?_ofList {es : List (κ × ν)} (hnodup : (es.map Prod.fst).Nodup) (k : κ) :
    (ofList es).get? k = lookup k es := by
  unfold ofList
  rw [get?_setAll empty hnodup, get?_empty, Option.or_none]

theorem assign_of_not_mem {k : κ} (v : ν) {es : List (κ × ν)} (h : k ∉ es.map Prod.fst) :
    assign k v es = es ++ [(k, v)] := by
  induction es with
  | nil => rfl
  | cons e es ih =>
      obtain ⟨k₀, v₀⟩ := e
      simp only [List.map_cons, List.mem_cons, not_or] at h
      simp [assign, Ne.symm h.1, ih h.2]

theorem entries_setAll {d : Dict κ ν} {es : List (κ × ν)}
    (h : ((d.entries ++ es).map Prod.fst).Nodup) : (d.setAll es).entries = d.entries ++ es := by
  induction es generalizing d with
  | nil => simp [setAll]
  | cons e es ih =>
      obtain ⟨k, v⟩ := e
      have hfresh : k ∉ d.entries.map Prod.fst := by
        intro hk
        rw [List.map_append, List.nodup_append] at h
        exact h.2.2 k hk k (by simp) rfl
      have hset : (d.set k v).entries = d.entries ++ [(k, v)] := assign_of_not_mem v hfresh
      have htail := ih (d := d.set k v) (by rw [hset]; simpa using h)
      rw [hset, List.append_assoc] at htail
      exact htail

/-- A display of distinct keys keeps its items. -/
theorem entries_ofList {es : List (κ × ν)} (h : (es.map Prod.fst).Nodup) :
    (ofList es).entries = es :=
  entries_setAll h

theorem mapVals_ofList (f : ν → μ) {es : List (κ × ν)} (h : (es.map Prod.fst).Nodup) :
    (ofList es).mapVals f = ofList (es.map fun e => (e.1, f e.2)) := by
  ext1
  rw [entries_ofList (by simpa [Function.comp_def] using h)]
  change (ofList es).entries.map _ = _
  rw [entries_ofList h]

/-! ## Weighted totals -/

theorem total_ofList (w : κ → ν → ℕ) {es : List (κ × ν)} (h : (es.map Prod.fst).Nodup) :
    (ofList es).total w = (es.map fun e => w e.1 e.2).sum := by
  unfold total sumEntries
  rw [entries_ofList h]

theorem sumEntries_assign (w : κ → ν → ℕ) (k : κ) (v : ν) {es : List (κ × ν)}
    (hnodup : (es.map Prod.fst).Nodup) :
    sumEntries w (assign k v es) + weigh w k (lookup k es) = sumEntries w es + w k v := by
  induction es with
  | nil => simp [assign, lookup, sumEntries]
  | cons e es ih =>
      obtain ⟨k₀, v₀⟩ := e
      simp only [List.map_cons, List.nodup_cons] at hnodup
      by_cases hk : k₀ = k
      · subst hk
        simp only [assign, lookup, if_pos, sumEntries, List.map_cons, List.sum_cons,
          weigh_some]
        omega
      · have hrec := ih hnodup.2
        simp only [assign, lookup, if_neg hk, sumEntries, List.map_cons,
          List.sum_cons] at hrec ⊢
        omega

/-- An assignment trades the old contribution of its key for the new one. -/
theorem total_set (w : κ → ν → ℕ) (d : Dict κ ν) (k : κ) (v : ν) :
    (d.set k v).total w + weigh w k (d.get? k) = d.total w + w k v :=
  sumEntries_assign w k v d.nodup

theorem total_setAll (w : κ → ν → ℕ) (d : Dict κ ν) {es : List (κ × ν)}
    (hnodup : (es.map Prod.fst).Nodup) :
    (d.setAll es).total w + (es.map fun e => weigh w e.1 (d.get? e.1)).sum =
      d.total w + sumEntries w es := by
  induction es generalizing d with
  | nil => simp [setAll, sumEntries]
  | cons e es ih =>
      obtain ⟨k₀, v₀⟩ := e
      simp only [List.map_cons, List.nodup_cons] at hnodup
      have hrest : (es.map fun e => weigh w e.1 ((d.set k₀ v₀).get? e.1)) =
          es.map fun e => weigh w e.1 (d.get? e.1) := by
        apply List.map_congr_left
        intro e he
        have hne : k₀ ≠ e.1 := by
          rintro rfl
          exact hnodup.1 (List.mem_map.mpr ⟨e, he, rfl⟩)
        rw [get?_set_of_ne d v₀ hne]
      have htail := ih (d.set k₀ v₀) hnodup.2
      have hhead := total_set w d k₀ v₀
      rw [hrest] at htail
      simp only [setAll, List.foldl_cons, List.map_cons, List.sum_cons, sumEntries] at htail ⊢
      omega

/-- An update trades, key by key, the old contributions for the new ones. -/
theorem total_update (w : κ → ν → ℕ) (d e : Dict κ ν) :
    (d.update e).total w + e.total (fun k _ => weigh w k (d.get? k)) =
      d.total w + e.total w :=
  total_setAll w d e.nodup

theorem total_eq_sum_keys (w : κ → ν → ℕ) (d : Dict κ ν) :
    d.total w = ∑ k ∈ (d.entries.map Prod.fst).toFinset, weigh w k (d.get? k) := by
  rw [List.sum_toFinset _ d.nodup, List.map_map]
  unfold total sumEntries
  congr 1
  apply List.map_congr_left
  intro e he
  have hget : d.get? e.1 = some e.2 := get?_eq_some_iff.mpr he
  simp [hget]

theorem weigh_eq_zero_of_not_mem (w : κ → ν → ℕ) (d : Dict κ ν) {k : κ}
    (h : k ∉ (d.entries.map Prod.fst).toFinset) : weigh w k (d.get? k) = 0 := by
  have hnone : d.get? k = none := lookup_eq_none_of_not_mem (by simpa using h)
  simp [hnone]

/-- A total depends only on what each key contributes. -/
theorem total_congr {w : κ → ν → ℕ} {d e : Dict κ ν}
    (h : ∀ k, weigh w k (d.get? k) = weigh w k (e.get? k)) : d.total w = e.total w := by
  set ks := (d.entries.map Prod.fst).toFinset
  set ls := (e.entries.map Prod.fst).toFinset
  have hd : d.total w = ∑ k ∈ ks ∪ ls, weigh w k (d.get? k) := by
    rw [total_eq_sum_keys]
    apply Finset.sum_subset Finset.subset_union_left
    intro k _ hk
    exact weigh_eq_zero_of_not_mem w d hk
  have he : e.total w = ∑ k ∈ ks ∪ ls, weigh w k (e.get? k) := by
    rw [total_eq_sum_keys]
    apply Finset.sum_subset Finset.subset_union_right
    intro k _ hk
    exact weigh_eq_zero_of_not_mem w e hk
  rw [hd, he]
  exact Finset.sum_congr rfl fun k _ => h k

/-- No key contributes more than the total. -/
theorem weigh_le_total (w : κ → ν → ℕ) (d : Dict κ ν) (k : κ) :
    weigh w k (d.get? k) ≤ d.total w := by
  by_cases hk : k ∈ (d.entries.map Prod.fst).toFinset
  · rw [total_eq_sum_keys]
    exact Finset.single_le_sum (f := fun k => weigh w k (d.get? k)) (fun _ _ => Nat.zero_le _) hk
  · rw [weigh_eq_zero_of_not_mem w d hk]
    exact Nat.zero_le _

/-- Nor do two different keys together. -/
theorem weigh_add_weigh_le_total (w : κ → ν → ℕ) (d : Dict κ ν) {k k' : κ} (h : k ≠ k') :
    weigh w k (d.get? k) + weigh w k' (d.get? k') ≤ d.total w := by
  set ks := (d.entries.map Prod.fst).toFinset
  have hsum : d.total w = ∑ j ∈ ks ∪ {k, k'}, weigh w j (d.get? j) := by
    rw [total_eq_sum_keys]
    apply Finset.sum_subset Finset.subset_union_left
    intro j _ hj
    exact weigh_eq_zero_of_not_mem w d hj
  calc
    weigh w k (d.get? k) + weigh w k' (d.get? k') = ∑ j ∈ {k, k'}, weigh w j (d.get? j) := by
      rw [Finset.sum_pair h]
    _ ≤ ∑ j ∈ ks ∪ {k, k'}, weigh w j (d.get? j) :=
      Finset.sum_le_sum_of_subset Finset.subset_union_right
    _ = d.total w := hsum.symm

end Dict

end Remme.Lib
