import Remme.Settings.Default
/-!
# What a merged configuration holds

Under each key, `_merge_deep` merges two dictionaries, and otherwise takes the
value of the user's file where there is one.  Along a path this decides which
leaves the merged configuration has: those of the file, and the defaults that
the file neither replaces nor cuts off.
-/

namespace Remme.Settings

open Remme.Lib

variable {κ β : Type} [DecidableEq κ] {a b merged es : List (κ × Nested κ β)} {key : κ}
  {path : List κ} {v : β}

/-! ## One key -/

theorem lookup_mergeEntry (entry : κ × Nested κ β) (b merged : List (κ × Nested κ β)) (key : κ) :
    Dict.lookup key (mergeEntry entry b merged) =
      if entry.1 = key then
        ((Dict.lookup key b).bind (mergeValue entry.2)).or (Dict.lookup key merged)
      else Dict.lookup key merged := by
  obtain ⟨key', value⟩ := entry
  cases hlookup : Dict.lookup key' b with
  | none =>
      simp only [mergeEntry, hlookup]
      split_ifs with hkey
      · rw [← hkey, hlookup, Option.bind_none, Option.none_or]
      · rfl
  | some value' =>
      cases hmerge : mergeValue value value' with
      | none =>
          simp only [mergeEntry, hlookup, hmerge]
          split_ifs with hkey
          · rw [← hkey, hlookup, Option.bind_some, hmerge, Option.none_or]
          · rfl
      | some w =>
          simp only [mergeEntry, hlookup, hmerge, Dict.lookup_assign]
          split_ifs with hkey
          · rw [← hkey, hlookup, Option.bind_some, hmerge, Option.some_or]
          · rfl

/-- Each key of a loop over unique keys is assigned by its own round. -/
theorem lookup_mergeCommon (hnodup : (es.map Prod.fst).Nodup) (b merged : List (κ × Nested κ β))
    (key : κ) :
    Dict.lookup key (mergeCommon es b merged) =
      ((Dict.lookup key es).bind fun value =>
        (Dict.lookup key b).bind (mergeValue value)).or (Dict.lookup key merged) := by
  induction es generalizing merged with
  | nil => rfl
  | cons entry rest ih =>
      obtain ⟨key', value⟩ := entry
      simp only [List.map_cons, List.nodup_cons] at hnodup
      rw [mergeCommon, ih hnodup.2, lookup_mergeEntry, Dict.lookup]
      split_ifs with hkey
      · subst hkey
        rw [Dict.lookup_eq_none_of_not_mem hnodup.1]
        rfl
      · rfl

/-- The entries of `_merge_deep`. -/
abbrev mergeEntries (a b : List (κ × Nested κ β)) : List (κ × Nested κ β) :=
  mergeCommon a b (Dict.assignAll a b)

theorem lookup_mergeEntries (ha : (Nested.dict a).WellFormed) (hb : (Nested.dict b).WellFormed)
    (key : κ) :
    Dict.lookup key (mergeEntries a b) =
      ((Dict.lookup key a).bind fun value => (Dict.lookup key b).bind (mergeValue value)).or
        ((Dict.lookup key b).or (Dict.lookup key a)) := by
  rw [mergeEntries, lookup_mergeCommon ha.nodup, Dict.lookup_assignAll a hb.nodup]

/-! ## A path -/

/-- A leaf of the second dictionary, or of the first where the second has nothing and no leaf
before it. -/
def Survives (a b : List (κ × Nested κ β)) (path : List κ) (v : β) : Prop :=
  Nested.valueAt path (.dict b) = some (.leaf v) ∨
    (Nested.valueAt path (.dict a) = some (.leaf v) ∧ Nested.valueAt path (.dict b) = none ∧
      ∀ front, front <+: path → front ≠ path → ∀ w,
        Nested.valueAt front (.dict b) ≠ some (.leaf w))

theorem valueAt_cons (key : κ) (path : List κ) (es : List (κ × Nested κ β)) :
    Nested.valueAt (key :: path) (.dict es) =
      (Dict.lookup key es).bind (Nested.valueAt path) := rfl

/-- Below a key that both have as dictionaries. -/
theorem survives_cons_of_dicts {a' b' : List (κ × Nested κ β)}
    (ha : Dict.lookup key a = some (.dict a')) (hb : Dict.lookup key b = some (.dict b')) :
    Survives a b (key :: path) v ↔ Survives a' b' path v := by
  unfold Survives
  simp only [valueAt_cons, ha, hb, Option.bind_some]
  refine or_congr Iff.rfl (and_congr Iff.rfl (and_congr Iff.rfl ?_))
  constructor
  · intro h front hfront hne w
    have hcons := h (key :: front) (List.cons_prefix_cons.mpr ⟨rfl, hfront⟩) (by simpa using hne) w
    simpa only [valueAt_cons, hb, Option.bind_some] using hcons
  · intro h front hfront hne w
    cases front with
    | nil => simp [Nested.valueAt]
    | cons key' front =>
        obtain ⟨rfl, hrest⟩ := List.cons_prefix_cons.mp hfront
        rw [valueAt_cons, hb, Option.bind_some]
        exact h front hrest (fun heq => hne (by rw [heq])) w

/-- Below a key that the second does not have. -/
theorem survives_cons_of_none (hb : Dict.lookup key b = none) :
    Survives a b (key :: path) v ↔ Nested.valueAt (key :: path) (.dict a) = some (.leaf v) := by
  have hnone : ∀ front, Nested.valueAt (key :: front) (.dict b) = none := by
    intro front
    rw [valueAt_cons, hb, Option.bind_none]
  unfold Survives
  rw [hnone]
  constructor
  · rintro (h | ⟨h, -⟩)
    · cases h
    · exact h
  · intro h
    refine .inr ⟨h, rfl, fun front hfront hne w => ?_⟩
    cases front with
    | nil => simp [Nested.valueAt]
    | cons key' front =>
        obtain ⟨rfl, -⟩ := List.cons_prefix_cons.mp hfront
        rw [hnone]
        nofun

/-- Below a key that the second has, unless both are dictionaries. -/
theorem survives_cons_of_some {value' : Nested κ β} (hb : Dict.lookup key b = some value')
    (hdicts : ∀ a' b', Dict.lookup key a = some (.dict a') → value' ≠ .dict b') :
    Survives a b (key :: path) v ↔ Nested.valueAt path value' = some (.leaf v) := by
  unfold Survives
  simp only [valueAt_cons, hb, Option.bind_some]
  refine or_iff_left ?_
  rintro ⟨ha, hnone, hfronts⟩
  obtain ⟨value, hvalue, hleaf⟩ := Option.bind_eq_some_iff.mp ha
  cases path with
  | nil => cases hnone
  | cons key' path =>
      cases value with
      | leaf w => cases hleaf
      | dict a' =>
          cases value' with
          | leaf w =>
              refine hfronts [key] ?_ (by simp) w ?_
              · exact List.cons_prefix_cons.mpr ⟨rfl, List.nil_prefix⟩
              · rw [valueAt_cons, hb]
                rfl
          | dict b' => exact hdicts a' b' hvalue rfl

theorem valueAt_mergeEntries (ha : (Nested.dict a).WellFormed) (hb : (Nested.dict b).WellFormed) :
    Nested.valueAt path (.dict (mergeEntries a b)) = some (.leaf v) ↔ Survives a b path v := by
  -- The path decides the dictionaries of the next step, so the induction is over all of them.
  induction path generalizing a b with
  | nil => simp [Survives, Nested.valueAt]
  | cons key path ih =>
      rw [valueAt_cons, lookup_mergeEntries ha hb]
      cases hvalue' : Dict.lookup key b with
      | none =>
          rw [survives_cons_of_none hvalue', valueAt_cons]
          simp
      | some value' =>
          by_cases hdicts : ∃ a' b', Dict.lookup key a = some (.dict a') ∧ value' = .dict b'
          · obtain ⟨a', b', hvalue, rfl⟩ := hdicts
            rw [survives_cons_of_dicts hvalue hvalue', hvalue]
            exact ih (ha.of_lookup hvalue) (hb.of_lookup hvalue')
          · have hmerge :
                ((Dict.lookup key a).bind fun value => mergeValue value value') = none := by
              rw [Option.bind_eq_none_iff]
              intro value hvalue
              rw [Option.eq_none_iff_forall_ne_some]
              intro w hw
              obtain ⟨a', b', rfl, rfl, -⟩ := mergeValue_eq_some.mp hw
              exact hdicts ⟨a', b', hvalue, rfl⟩
            rw [survives_cons_of_some hvalue' fun a' b' hvalue heq =>
              hdicts ⟨a', b', hvalue, heq⟩]
            simp [hmerge]

/-! ## A dictionary merged with itself -/

theorem assignAll_self (hnodup : (a.map Prod.fst).Nodup) (hes : ∀ e ∈ es, e ∈ a) :
    Dict.assignAll a es = a := by
  induction es with
  | nil => rfl
  | cons e es ih =>
      have hassign : Dict.assign e.1 e.2 a = a :=
        Dict.assign_of_lookup (Dict.lookup_of_mem hnodup (hes e (by simp)))
      rw [Dict.assignAll, List.foldl_cons, hassign]
      exact ih fun e' he' => hes e' (by simp [he'])

theorem mergeCommon_self (hnodup : (a.map Prod.fst).Nodup) (hes : ∀ e ∈ es, e ∈ a)
    (hvalues : ∀ e ∈ es, ∀ w, mergeValue e.2 e.2 = some w → w = e.2) :
    mergeCommon es a a = a := by
  induction es with
  | nil => rfl
  | cons entry rest ih =>
      obtain ⟨key, value⟩ := entry
      have hlookup : Dict.lookup key a = some value :=
        Dict.lookup_of_mem hnodup (hes (key, value) (by simp))
      have hentry : mergeEntry (key, value) a a = a := by
        cases hmerge : mergeValue value value with
        | none => simp only [mergeEntry, hlookup, hmerge]
        | some w =>
            simp only [mergeEntry, hlookup, hmerge]
            rw [hvalues (key, value) (by simp) w hmerge]
            exact Dict.assign_of_lookup hlookup
      rw [mergeCommon, hentry]
      exact ih (fun e he => hes e (by simp [he])) fun e he => hvalues e (by simp [he])

theorem mergeValue_self {value w : Nested κ β} (hvalue : value.WellFormed)
    (h : mergeValue value value = some w) : w = value := by
  induction hvalue generalizing w with
  | leaf => simp [mergeValue] at h
  | @dict a hnodup hvalues ih =>
      obtain ⟨a', b, ha, hb, rfl⟩ := mergeValue_eq_some.mp h
      cases ha
      cases hb
      rw [assignAll_self hnodup fun e he => he,
        mergeCommon_self hnodup (fun e he => he) fun e he w => ih e he]

/-! ## Configurations -/

/-- The leaves of a merged configuration are those of the file, and the defaults where the file
has no entry and does not end before in a leaf; merging changes nothing in equal ones. -/
theorem mergeDeep_leaves (a b : NestedDict κ β) :
    (∀ path v, (mergeDeep a b).HasLeaf path v ↔
      b.HasLeaf path v ∨ (a.HasLeaf path v ∧ b.valueAt path = none ∧
        ∀ front, front <+: path → front ≠ path → ∀ w, ¬b.HasLeaf front w)) ∧
      mergeDeep a a = a := by
  refine ⟨fun path v => valueAt_mergeEntries a.wellFormed b.wellFormed, ?_⟩
  have hself : Nested.dict (mergeDeep a a).entries = .dict a.entries :=
    mergeValue_self a.wellFormed rfl
  ext1
  exact Nested.dict.inj hself

/-- A configuration that is loaded has the leaves of the file, or those of the defaults where the
file has nothing; without a file it is the defaults. -/
theorem loadTomlWithDefaults_hasLeaf (defaults : NestedDict κ β) (file : Option (NestedDict κ β))
    (path : List κ) (v : β) :
    (loadTomlWithDefaults defaults file).HasLeaf path v ↔
      match file with
      | none => defaults.HasLeaf path v
      | some value => Survives defaults.entries value.entries path v := by
  cases file with
  | none => exact Iff.rfl
  | some value => exact valueAt_mergeEntries defaults.wellFormed value.wellFormed

end Remme.Settings
