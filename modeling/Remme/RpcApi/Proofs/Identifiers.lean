import Remme.Lib.IntLiteral
import Remme.RpcApi.Identifiers
import Remme.Tp.Proofs.PayloadForms
/-!
# What the recognisers accept

Only `validate_id` accepts exactly its language.  A pattern that is matched at
the start of a text accepts every text that goes on after it, and an integer in
base 16 may have a sign, a mark `0x`, underscores, blanks around it and upper
case letters.
-/

namespace Remme.RpcApi

open Remme.Lib Remme.Shared Remme.Shared.Forms

/-- The text is `n` characters of `[0-9a-f]`. -/
def IsHexText (n : ℕ) (s : Str) : Prop := s.length = n ∧ ∀ c ∈ s, Text.isLowerHex c = true

/-- The text goes on after its first `n` characters, which are of `[0-9a-f]`. -/
def ExtendsHexText (n : ℕ) (s : Str) : Prop :=
  n < s.length ∧ ∀ c ∈ s.take n, Text.isLowerHex c = true

namespace Recogniser

/-- The recogniser accepts the text exactly if it is of its language. -/
def ExactOn (r : Recogniser) (s : Str) : Prop := r.accepts s = true ↔ IsHexText r.width s

/-- The texts that are not of the language although they look like it to the recogniser: a pattern
stops reading where it is satisfied, and `int` reads more than lower-case digits. -/
def Misleads (s : Str) : Recogniser → Prop
  | isAddress => s.length = 70 ∧ Text.IsHexLiteral s ∧ ∃ c ∈ s, Text.isLowerHex c = false
  | validateId => False
  | r => ExtendsHexText r.width s

end Recogniser

/-- Every recogniser is exact on the text. -/
def RecognisersExact (s : Str) : Prop := ∀ r : Recogniser, r.ExactOn s

variable {n : ℕ} {s : Str}

/-! ## Patterns -/

theorem matchHex_iff : matchHex n s = true ↔ IsHexText n s ∨ ExtendsHexText n s := by
  simp only [matchHex, Bool.and_eq_true, decide_eq_true_eq, List.all_eq_true, IsHexText,
    ExtendsHexText]
  constructor
  · rintro ⟨hle, hall⟩
    rcases hle.eq_or_lt with heq | hlt
    · rw [heq, List.take_length] at hall
      exact .inl ⟨heq.symm, hall⟩
    · exact .inr ⟨hlt, hall⟩
  · rintro (⟨heq, hall⟩ | ⟨hlt, hall⟩)
    · exact ⟨heq.ge, fun c hc => hall c (List.mem_of_mem_take hc)⟩
    · exact ⟨hlt.le, hall⟩

theorem IsHexText.not_extends (h : IsHexText n s) : ¬ExtendsHexText n s := by
  intro hextends
  have hlt := hextends.1
  rw [h.1] at hlt
  omega

/-- A pattern is exact on the texts that do not go on after it. -/
theorem matchHex_exact_iff : (matchHex n s = true ↔ IsHexText n s) ↔ ¬ExtendsHexText n s := by
  rw [matchHex_iff]
  constructor
  · intro h hextends
    exact (h.mp (.inr hextends)).not_extends hextends
  · intro hextends
    exact or_iff_left hextends

/-- `DataRequired` refuses no text that the pattern accepts. -/
theorem acceptsParam_pattern (missed incorrect : String) (hn : 0 < n) (s : Str) :
    acceptsParam [.dataRequired missed, .regexp n incorrect] s = matchHex n s := by
  cases hmatch : matchHex n s with
  | true =>
      simp [acceptsParam, runValidators, dataMissing, Tp.matchHex_isBlank hn hmatch, hmatch]
  | false =>
      cases hblank : Text.isBlank s with
      | true => simp [acceptsParam, runValidators, dataMissing, hblank]
      | false => simp [acceptsParam, runValidators, dataMissing, hblank, hmatch]

/-! ## Whole texts -/

theorem validateId_iff : validateId s = .ok () ↔ IsHexText 128 s := by
  unfold validateId
  split_ifs with h
  · simpa [fullmatchHex, IsHexText] using h
  · simpa [fullmatchHex, IsHexText] using h

theorem isOk_validateId : (validateId s).isOk = true ↔ IsHexText 128 s := by
  rw [← validateId_iff]
  cases validateId s with
  | ok => exact iff_of_true rfl rfl
  | error err => exact iff_of_false Bool.false_ne_true (by simp)

/-! ## Integers -/

theorem IsHexText.isHexLiteral (hn : 0 < n) (h : IsHexText n s) : Text.IsHexLiteral s := by
  have hne : s ≠ [] := by
    rintro rfl
    have hlength := h.1
    rw [List.length_nil] at hlength
    omega
  exact (Text.isSome_int_iff s).mp (Text.int_isSome_of_lowerHex hne h.2)

theorem isAddress_iff : Tp.isAddress s = true ↔ s.length = 70 ∧ Text.IsHexLiteral s := by
  rw [← Text.isSome_int_iff]
  simp [Tp.isAddress]

theorem isAddress_exact_iff :
    (Tp.isAddress s = true ↔ IsHexText 70 s) ↔
      ¬(s.length = 70 ∧ Text.IsHexLiteral s ∧ ∃ c ∈ s, Text.isLowerHex c = false) := by
  rw [isAddress_iff]
  constructor
  · rintro h ⟨hlength, hliteral, c, hc, hupper⟩
    have hlower := (h.mp ⟨hlength, hliteral⟩).2 c hc
    rw [hlower] at hupper
    cases hupper
  · intro h
    refine ⟨fun haddress => ⟨haddress.1, fun c hc => ?_⟩, fun hhex => ⟨hhex.1, ?_⟩⟩
    · by_contra hupper
      exact h ⟨haddress.1, haddress.2, c, hc, by simpa using hupper⟩
    · exact hhex.isHexLiteral (by omega)

/-! ## Every recogniser -/

/-- Each recogniser is exact on a text unless the text misleads it. -/
theorem recogniser_exact_iff (r : Recogniser) (s : Str) : r.ExactOn s ↔ ¬r.Misleads s := by
  have hfield : ∀ (missed incorrect : String) (n : ℕ), 0 < n →
      ((acceptsParam [.dataRequired missed, .regexp n incorrect] s = true ↔ IsHexText n s) ↔
        ¬ExtendsHexText n s) := by
    intro missed incorrect n hn
    rw [acceptsParam_pattern missed incorrect hn, matchHex_exact_iff]
  cases r with
  | isAddress => exact isAddress_exact_iff
  | addressField => exact hfield _ _ 70 (by omega)
  | addressRegexp => exact matchHex_exact_iff
  | swapIdField => exact hfield _ _ 64 (by omega)
  | swapIdRegexp => exact matchHex_exact_iff
  | idField => exact hfield _ _ 128 (by omega)
  | batchIdRegexp => exact matchHex_exact_iff
  | blockIdRegexp => exact matchHex_exact_iff
  | validateId => exact iff_of_true isOk_validateId not_false

/-- An address and one character more, and an address in upper case. -/
theorem recognisers_not_exact :
    ¬RecognisersExact (List.replicate 71 'a') ∧ ¬RecognisersExact (List.replicate 70 'A') := by
  constructor
  · intro h
    have hlength := ((h .addressField).mp (by decide +kernel)).1
    cases hlength
  · intro h
    have hupper := ((h .isAddress).mp (by decide +kernel)).2 'A' (by simp)
    cases hupper

end Remme.RpcApi
