import Remme.Lib.Dict
/-!
# Nested dictionaries

Finitely nested dictionaries, as a configuration file has them: an entry holds a
dictionary again or a leaf, and a path of keys leads from the whole to one of
its entries.  `NestedDict` carries, at every level, the uniqueness of the keys.
-/

namespace Remme.Lib

/-- A leaf, or the entries of a dictionary in the order of first assignment. -/
inductive Nested (κ β : Type) where
  | leaf (v : β)
  | dict (entries : List (κ × Nested κ β))

namespace Nested

variable {κ β : Type}

/-- The keys of every dictionary are unique. -/
inductive WellFormed : Nested κ β → Prop
  | leaf (v : β) : WellFormed (.leaf v)
  | dict {entries : List (κ × Nested κ β)} (hnodup : (entries.map Prod.fst).Nodup)
      (hvalues : ∀ e ∈ entries, WellFormed e.2) : WellFormed (.dict entries)

theorem WellFormed.nodup {entries : List (κ × Nested κ β)}
    (h : WellFormed (.dict entries)) : (entries.map Prod.fst).Nodup := by
  cases h with
  | dict hnodup => exact hnodup

theorem WellFormed.of_mem {entries : List (κ × Nested κ β)} {e : κ × Nested κ β}
    (h : WellFormed (.dict entries)) (he : e ∈ entries) : e.2.WellFormed := by
  cases h with
  | dict _ hvalues => exact hvalues e he

variable [DecidableEq κ]

/-- What a path leads to. -/
def valueAt : List κ → Nested κ β → Option (Nested κ β)
  | [], value => some value
  | key :: path, .dict entries => (Dict.lookup key entries).bind (valueAt path)
  | _ :: _, .leaf _ => none

theorem WellFormed.of_lookup {entries : List (κ × Nested κ β)} {key : κ} {value : Nested κ β}
    (h : WellFormed (.dict entries)) (hvalue : Dict.lookup key entries = some value) :
    value.WellFormed :=
  h.of_mem (Dict.mem_of_lookup hvalue)

/-- `d[key] = value` -/
theorem WellFormed.assign {entries : List (κ × Nested κ β)} {value : Nested κ β}
    (h : WellFormed (.dict entries)) (key : κ) (hvalue : value.WellFormed) :
    WellFormed (.dict (Dict.assign key value entries)) := by
  have hnodup := Dict.nodup_assign key value h.nodup
  refine .dict hnodup fun e he => ?_
  have hlookup := Dict.lookup_of_mem hnodup he
  rw [Dict.lookup_assign] at hlookup
  split_ifs at hlookup
  · rw [← Option.some.inj hlookup]
    exact hvalue
  · exact h.of_lookup hlookup

end Nested

/-- A dictionary of leaves and nested dictionaries. -/
@[ext] structure NestedDict (κ β : Type) where
  entries : List (κ × Nested κ β)
  wellFormed : (Nested.dict entries).WellFormed

namespace NestedDict

variable {κ β : Type} [DecidableEq κ]

/-- What a path leads to. -/
def valueAt (d : NestedDict κ β) (path : List κ) : Option (Nested κ β) :=
  Nested.valueAt path (.dict d.entries)

/-- The leaf sits at the path. -/
def HasLeaf (d : NestedDict κ β) (path : List κ) (v : β) : Prop :=
  d.valueAt path = some (.leaf v)

end NestedDict

namespace Dict

variable {κ ν : Type} [DecidableEq κ]

/-- The entries of `{**es, **es'}`. -/
def assignAll (es es' : List (κ × ν)) : List (κ × ν) :=
  es'.foldl (fun es e => assign e.1 e.2 es) es

theorem lookup_assignAll (es : List (κ × ν)) {es' : List (κ × ν)}
    (hnodup : (es'.map Prod.fst).Nodup) (k : κ) :
    lookup k (assignAll es es') = (lookup k es').or (lookup k es) := by
  induction es' generalizing es with
  | nil => simp [assignAll, lookup]
  | cons e es' ih =>
      obtain ⟨k₀, v₀⟩ := e
      simp only [List.map_cons, List.nodup_cons] at hnodup
      have htail := ih (assign k₀ v₀ es) hnodup.2
      simp only [assignAll, List.foldl_cons] at htail ⊢
      rw [htail, lookup_assign, lookup]
      split_ifs with hk
      · subst hk
        rw [lookup_eq_none_of_not_mem hnodup.1]
        rfl
      · rfl

/-- An assignment of what is there changes nothing, not even the order. -/
theorem assign_of_lookup {k : κ} {v : ν} {es : List (κ × ν)} (h : lookup k es = some v) :
    assign k v es = es := by
  induction es with
  | nil => cases h
  | cons e es ih =>
      obtain ⟨k₀, v₀⟩ := e
      rw [lookup] at h
      rw [assign]
      split_ifs at h ⊢ with hk
      · rw [Option.some.inj h, hk]
      · rw [ih h]

end Dict

end Remme.Lib
