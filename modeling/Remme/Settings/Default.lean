import Remme.Lib.NestedDict
/-!
# Configuration with defaults

A service reads its configuration file over the defaults of the package.  The
start-up script has the same `_merge_deep` for the genesis configuration.
-/

namespace Remme.Settings

open Remme.Lib

variable {κ β : Type} [DecidableEq κ]

mutual

/-- The merged value of a common key, if both values are dictionaries. -/
def mergeValue : Nested κ β → Nested κ β → Option (Nested κ β)
  | .dict a, .dict b => some (.dict (mergeCommon a b (Dict.assignAll a b)))
  | _, _ => none
termination_by structural value => value

/-- One round of the loop of `_merge_deep`, for an entry of `a`. -/
def mergeEntry : κ × Nested κ β → List (κ × Nested κ β) → List (κ × Nested κ β) →
    List (κ × Nested κ β)
  | (key, value), b, merged =>
      match Dict.lookup key b with
      | some value' =>
          match mergeValue value value' with
          | some mergedValue => Dict.assign key mergedValue merged
          | none => merged
      | none => merged
termination_by structural entry => entry

/-- The loop of `_merge_deep`.  Its order is that of `a`: each common key is assigned once, and
in place, so the order does not matter. -/
def mergeCommon : List (κ × Nested κ β) → List (κ × Nested κ β) → List (κ × Nested κ β) →
    List (κ × Nested κ β)
  | [], _, merged => merged
  | entry :: rest, b, merged => mergeCommon rest b (mergeEntry entry b merged)
termination_by structural entries => entries

end

/-! ## Unique keys -/

variable {value value' : Nested κ β} {a b merged es : List (κ × Nested κ β)}

theorem wellFormed_assignAll (ha : (Nested.dict a).WellFormed) (hb : ∀ e ∈ b, e.2.WellFormed) :
    (Nested.dict (Dict.assignAll a b)).WellFormed := by
  induction b generalizing a with
  | nil => exact ha
  | cons e b ih =>
      have hassigned := ha.assign e.1 (hb e (by simp))
      exact ih hassigned fun e' he' => hb e' (by simp [he'])

/-- Only two dictionaries are merged. -/
theorem mergeValue_eq_some {v : Nested κ β} :
    mergeValue value value' = some v ↔
      ∃ a b, value = .dict a ∧ value' = .dict b ∧
        v = .dict (mergeCommon a b (Dict.assignAll a b)) := by
  cases value with
  | leaf v => simp [mergeValue]
  | dict a =>
      cases value' with
      | leaf v => simp [mergeValue]
      | dict b => simp [mergeValue, eq_comm]

theorem wellFormed_mergeEntry {entry : κ × Nested κ β}
    (hvalue : ∀ value', value'.WellFormed → ∀ v, mergeValue entry.2 value' = some v →
      v.WellFormed)
    (hb : (Nested.dict b).WellFormed) (hmerged : (Nested.dict merged).WellFormed) :
    (Nested.dict (mergeEntry entry b merged)).WellFormed := by
  obtain ⟨key, value⟩ := entry
  rw [mergeEntry]
  cases hlookup : Dict.lookup key b with
  | none => exact hmerged
  | some value' =>
      cases hmerge : mergeValue value value' with
      | none => simpa only [hmerge] using hmerged
      | some v =>
          simpa only [hmerge] using
            hmerged.assign key (hvalue value' (hb.of_lookup hlookup) v hmerge)

theorem wellFormed_mergeCommon
    (hvalues : ∀ e ∈ es, ∀ value', value'.WellFormed → ∀ v, mergeValue e.2 value' = some v →
      v.WellFormed)
    (hb : (Nested.dict b).WellFormed) (hmerged : (Nested.dict merged).WellFormed) :
    (Nested.dict (mergeCommon es b merged)).WellFormed := by
  induction es generalizing merged with
  | nil => exact hmerged
  | cons entry rest ih =>
      rw [mergeCommon]
      apply ih (fun e he => hvalues e (by simp [he]))
      exact wellFormed_mergeEntry (hvalues entry (by simp)) hb hmerged

theorem wellFormed_mergeValue (hvalue : value.WellFormed) (hvalue' : value'.WellFormed)
    {v : Nested κ β} (h : mergeValue value value' = some v) : v.WellFormed := by
  induction hvalue generalizing value' v with
  | leaf => simp [mergeValue] at h
  | @dict a hnodup hvalues ih =>
      obtain ⟨a', b, ha, rfl, rfl⟩ := mergeValue_eq_some.mp h
      cases ha
      apply wellFormed_mergeCommon (fun e he value' hvalue' v => ih e he hvalue') hvalue'
      exact wellFormed_assignAll (.dict hnodup hvalues) fun e he => hvalue'.of_mem he

/-- `_merge_deep` -/
def mergeDeep (a b : NestedDict κ β) : NestedDict κ β where
  entries := mergeCommon a.entries b.entries (Dict.assignAll a.entries b.entries)
  wellFormed := wellFormed_mergeValue a.wellFormed b.wellFormed rfl

/-- `load_toml_with_defaults`; `none` is a file that cannot be read. -/
def loadTomlWithDefaults (defaults : NestedDict κ β) (file : Option (NestedDict κ β)) :
    NestedDict κ β :=
  match file with
  | some value => mergeDeep defaults value
  | none => defaults

end Remme.Settings
