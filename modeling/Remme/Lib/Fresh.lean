import Mathlib.Data.List.Perm.Basic
import Mathlib.Data.List.Nodup
/-!
# Taking items once by key

A consumer that keeps the keys of what it has taken, and takes an item only when
its key is new.  Where the key tells the items apart, it takes each of them
once, however often they come.  `Delivery` is a delivery in order that may
repeat items and mix others in.
-/

namespace Remme.Lib

variable {α κ : Type} [DecidableEq κ] {key : α → κ}

/-- The items with a key not in `seen`, each key once, in the order they come. -/
def fresh (key : α → κ) : List κ → List α → List α
  | _, [] => []
  | seen, x :: xs =>
      if key x ∈ seen then fresh key seen xs else x :: fresh key (key x :: seen) xs

theorem mem_of_mem_fresh {seen : List κ} {xs : List α} {x : α} (h : x ∈ fresh key seen xs) :
    x ∈ xs := by
  induction xs generalizing seen with
  | nil => exact h
  | cons y xs ih =>
      rw [fresh] at h
      split_ifs at h with hseen
      · exact List.mem_cons_of_mem _ (ih h)
      · rcases List.mem_cons.mp h with rfl | h
        · exact List.mem_cons_self
        · exact List.mem_cons_of_mem _ (ih h)

theorem key_not_mem_seen {seen : List κ} {xs : List α} {x : α} (h : x ∈ fresh key seen xs) :
    key x ∉ seen := by
  induction xs generalizing seen with
  | nil => cases h
  | cons y xs ih =>
      rw [fresh] at h
      split_ifs at h with hseen
      · exact ih h
      · rcases List.mem_cons.mp h with rfl | h
        · exact hseen
        · exact fun hmem => ih h (List.mem_cons_of_mem _ hmem)

theorem nodup_keys_fresh (seen : List κ) (xs : List α) : ((fresh key seen xs).map key).Nodup := by
  induction xs generalizing seen with
  | nil => exact List.nodup_nil
  | cons x xs ih =>
      rw [fresh]
      split_ifs with hseen
      · exact ih seen
      · rw [List.map_cons, List.nodup_cons]
        refine ⟨fun hmem => ?_, ih _⟩
        obtain ⟨y, hy, hkey⟩ := List.mem_map.mp hmem
        exact key_not_mem_seen hy (by simp [hkey])

theorem exists_mem_fresh {seen : List κ} {xs : List α} {x : α} (hx : x ∈ xs)
    (hseen : key x ∉ seen) : ∃ y ∈ fresh key seen xs, key y = key x := by
  induction xs generalizing seen with
  | nil => cases hx
  | cons z xs ih =>
      rw [fresh]
      split_ifs with hz
      · rcases List.mem_cons.mp hx with rfl | hx
        · exact absurd hz hseen
        · exact ih hx hseen
      · by_cases hkey : key z = key x
        · exact ⟨z, List.mem_cons_self, hkey⟩
        · have hx' : x ∈ xs := by
            rcases List.mem_cons.mp hx with rfl | hx
            · exact absurd rfl hkey
            · exact hx
          have hseen' : key x ∉ key z :: seen := by simp [hseen, Ne.symm hkey]
          obtain ⟨y, hy, hkeyY⟩ := ih hx' hseen'
          exact ⟨y, List.mem_cons_of_mem _ hy, hkeyY⟩

theorem mem_keys_fresh {xs : List α} {k : κ} :
    k ∈ (fresh key [] xs).map key ↔ k ∈ xs.map key := by
  constructor
  · intro hk
    obtain ⟨x, hx, rfl⟩ := List.mem_map.mp hk
    exact List.mem_map_of_mem (mem_of_mem_fresh hx)
  · intro hk
    obtain ⟨x, hx, rfl⟩ := List.mem_map.mp hk
    obtain ⟨y, hy, hyx⟩ := exists_mem_fresh hx (List.not_mem_nil (a := key x))
    rw [← hyx]
    exact List.mem_map_of_mem hy

/-- Where no key comes twice, everything is taken. -/
theorem fresh_eq_self {seen : List κ} {xs : List α} (hseen : ∀ x ∈ xs, key x ∉ seen)
    (hnodup : (xs.map key).Nodup) : fresh key seen xs = xs := by
  induction xs generalizing seen with
  | nil => rfl
  | cons x xs ih =>
      obtain ⟨hx, hxs⟩ := List.nodup_cons.mp hnodup
      rw [fresh, if_neg (hseen x List.mem_cons_self), ih _ hxs]
      intro y hy hmem
      rcases List.mem_cons.mp hmem with hkey | hmem
      · exact hx (hkey ▸ List.mem_map_of_mem hy)
      · exact hseen y (List.mem_cons_of_mem _ hy) hmem

theorem nodup_fresh (seen : List κ) (xs : List α) : (fresh key seen xs).Nodup :=
  (nodup_keys_fresh seen xs).of_map key

/-- If what comes are the items of a list, each at least once and with a key not seen before,
then what is taken is the list exactly when the list repeats nothing. -/
theorem fresh_perm_iff {seen : List κ} {xs l : List α}
    (hkey : ∀ x ∈ l, ∀ y ∈ l, key x = key y → x = y) (hseen : ∀ x ∈ l, key x ∉ seen)
    (hmem : ∀ x, x ∈ xs ↔ x ∈ l) :
    (fresh key seen xs).Perm l ↔ l.Nodup := by
  constructor
  · intro hperm
    exact hperm.nodup_iff.mp (nodup_fresh seen xs)
  · intro hnodup
    rw [List.perm_ext_iff_of_nodup (nodup_fresh seen xs) hnodup]
    intro x
    constructor
    · intro hx
      exact (hmem x).mp (mem_of_mem_fresh hx)
    · intro hx
      obtain ⟨y, hy, hyx⟩ : ∃ y ∈ fresh key seen xs, key y = key x :=
        exists_mem_fresh ((hmem x).mpr hx) (hseen x hx)
      have hyl := (hmem y).mp (mem_of_mem_fresh hy)
      rwa [hkey y hyl x hx hyx] at hy

/-- What is taken of one more item: nothing, if its key came before. -/
theorem fresh_concat (seen : List κ) (xs : List α) (x : α) :
    fresh key seen (xs ++ [x]) =
      fresh key seen xs ++ if key x ∈ seen ∨ key x ∈ xs.map key then [] else [x] := by
  induction xs generalizing seen with
  | nil => simp [fresh]
  | cons y xs ih =>
      rw [List.cons_append, fresh, fresh]
      by_cases hy : key y ∈ seen
      · have hiff : key x ∈ seen ∨ key x ∈ (y :: xs).map key ↔
            key x ∈ seen ∨ key x ∈ xs.map key := by
          simp only [List.map_cons, List.mem_cons]
          constructor
          · rintro (hx | hx | hx)
            · exact .inl hx
            · exact .inl (hx ▸ hy)
            · exact .inr hx
          · tauto
        rw [if_pos hy, if_pos hy, ih, if_congr hiff rfl rfl]
      · have hiff : key x ∈ key y :: seen ∨ key x ∈ xs.map key ↔
            key x ∈ seen ∨ key x ∈ (y :: xs).map key := by
          simp only [List.map_cons, List.mem_cons]
          tauto
        rw [if_neg hy, if_neg hy, ih, if_congr hiff rfl rfl, List.cons_append]

theorem fresh_concat_congr {xs ys : List α} (h : fresh key [] xs = fresh key [] ys) (x : α) :
    fresh key [] (xs ++ [x]) = fresh key [] (ys ++ [x]) := by
  rw [fresh_concat, fresh_concat, h]
  congr 1
  refine if_congr (or_congr Iff.rfl ?_) rfl rfl
  rw [← mem_keys_fresh, h, mem_keys_fresh]

end Remme.Lib
