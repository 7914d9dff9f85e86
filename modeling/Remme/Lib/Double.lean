import Remme.Lib.Text
import Mathlib.Tactic.Ring
import Mathlib.Data.Nat.Log
/-!
# Doubles that are natural numbers

A double-precision float made from a natural number is again a natural number:
the nearest one with at most 53 significant bits, and the one with the even
significand when two are equally near.  `repr` is Python's: the shortest decimal
text that reads back as the same double.
-/

namespace Remme.Lib

/-- The quotient rounded to the nearest integer, ties to even. -/
def divHalfEven (a b : ℕ) : ℕ :=
  if b < 2 * (a % b) ∨ (2 * (a % b) = b ∧ a / b % 2 = 1) then a / b + 1 else a / b

/-- The distance of neighbouring doubles at `n`, for a number of more than 53 bits. -/
def ulp (n : ℕ) : ℕ := 2 ^ (Nat.log 2 n - 52)

/-- The double nearest to `n`. -/
def roundDouble (n : ℕ) : ℕ := if n < 2 ^ 53 then n else divHalfEven n (ulp n) * ulp n

/-! ## Rounding twice is rounding once -/

theorem ulp_pos (n : ℕ) : 0 < ulp n := Nat.two_pow_pos _

theorem divHalfEven_mul {m b : ℕ} (hb : 0 < b) : divHalfEven (m * b) b = m := by
  have hmod : m * b % b = 0 := Nat.mul_mod_left m b
  have hdiv : m * b / b = m := Nat.mul_div_cancel m hb
  unfold divHalfEven
  rw [hmod, hdiv, if_neg (by omega)]

theorem divHalfEven_bounds (a b : ℕ) : a / b ≤ divHalfEven a b ∧ divHalfEven a b ≤ a / b + 1 := by
  unfold divHalfEven
  split_ifs <;> omega

theorem roundDouble_of_dvd {n : ℕ} (h : ulp n ∣ n) : roundDouble n = n := by
  obtain ⟨m, hm⟩ := h
  unfold roundDouble
  split_ifs with hlt
  · rfl
  · have hdiv : divHalfEven n (ulp n) = m := by
      calc divHalfEven n (ulp n) = divHalfEven (m * ulp n) (ulp n) := by rw [Nat.mul_comm m, ← hm]
        _ = m := divHalfEven_mul (ulp_pos n)
    rw [hdiv, Nat.mul_comm, ← hm]

theorem roundDouble_roundDouble (n : ℕ) : roundDouble (roundDouble n) = roundDouble n := by
  by_cases hlt : n < 2 ^ 53
  · have hsame : roundDouble n = n := if_pos hlt
    rw [hsame, hsame]
  · -- The significand has 53 bits, or is the least one of 54; either way the new ulp divides.
    have hlog : 53 ≤ Nat.log 2 n := (Nat.le_log_iff_pow_le (by omega) (by omega)).mpr (by omega)
    obtain ⟨e, he⟩ : ∃ e, Nat.log 2 n = 52 + e := ⟨Nat.log 2 n - 52, by omega⟩
    have hulp : ulp n = 2 ^ e := by
      unfold ulp
      rw [he, Nat.add_sub_cancel_left]
    have hpos : 0 < 2 ^ e := Nat.two_pow_pos e
    have hlow : 2 ^ 52 * 2 ^ e ≤ n := by
      rw [← Nat.pow_add, ← he]
      exact Nat.pow_log_le_self 2 (by omega)
    have hhigh : n < 2 ^ 53 * 2 ^ e := by
      have := Nat.lt_pow_succ_log_self (b := 2) (by omega) n
      rw [he] at this
      calc n < 2 ^ (52 + e + 1) := this
        _ = 2 ^ 53 * 2 ^ e := by ring
    have hround : roundDouble n = divHalfEven n (2 ^ e) * 2 ^ e := by
      rw [← hulp]
      exact if_neg hlt
    obtain ⟨hq, hq'⟩ := divHalfEven_bounds n (2 ^ e)
    have hdivLow : 2 ^ 52 ≤ n / 2 ^ e := (Nat.le_div_iff_mul_le hpos).mpr hlow
    have hdivHigh : n / 2 ^ e < 2 ^ 53 := (Nat.div_lt_iff_lt_mul hpos).mpr hhigh
    rw [hround]
    generalize divHalfEven n (2 ^ e) = q at hq hq'
    apply roundDouble_of_dvd
    by_cases htop : q = 2 ^ 53
    · have hvalue : q * 2 ^ e = 2 ^ (53 + e) := by rw [htop, Nat.pow_add]
      unfold ulp
      rw [hvalue, Nat.log_pow (by omega)]
      exact Nat.pow_dvd_pow 2 (by omega)
    · have hlogq : Nat.log 2 (q * 2 ^ e) = 52 + e := by
        apply Nat.log_eq_of_pow_le_of_lt_pow
        · rw [Nat.pow_add]
          exact Nat.mul_le_mul_right _ (by omega)
        · calc q * 2 ^ e < 2 ^ 53 * 2 ^ e := Nat.mul_lt_mul_of_pos_right (by omega) hpos
            _ = 2 ^ (52 + e + 1) := by ring
      unfold ulp
      rw [hlogq, Nat.add_sub_cancel_left]
      exact Nat.dvd_mul_left _ _

/-- A double that is a natural number. -/
structure Double where
  value : ℕ
  isDouble : roundDouble value = value
  deriving DecidableEq

namespace Double

@[ext] theorem ext {x y : Double} (h : x.value = y.value) : x = y := by
  cases x
  cases y
  cases h
  rfl

/-- `float(n)` -/
def ofNat (n : ℕ) : Double := ⟨roundDouble n, roundDouble_roundDouble n⟩

/-! ## The text of a double -/

/-- The nearest number with the fewest significant digits that reads back as the double: its
digits, and the power of ten behind them. -/
def shortest (x : Double) : ℕ × ℕ :=
  let candidates := (List.range (Nat.toDigits 10 x.value).length).reverse.map fun z =>
    (divHalfEven x.value (10 ^ z), z)
  (candidates.find? fun c => roundDouble (c.1 * 10 ^ c.2) = x.value).getD (x.value, 0)

/-- The digits before the exponent, with a point after the first. -/
def mantissa (digits : Str) : Str :=
  digits.take 1 ++ if digits.length ≤ 1 then [] else '.' :: digits.drop 1

/-- `repr(x)` -/
def repr (x : Double) : Str :=
  if x.value < 10 ^ 16 then Nat.toDigits 10 x.value ++ ".0".toList
  else
    let digits := Nat.toDigits 10 x.shortest.1
    mantissa digits ++ 'e' :: '+' :: Nat.toDigits 10 (digits.length - 1 + x.shortest.2)

theorem roundDouble_shortest (x : Double) :
    roundDouble (x.shortest.1 * 10 ^ x.shortest.2) = x.value := by
  unfold shortest
  generalize (List.range (Nat.toDigits 10 x.value).length).reverse.map
    (fun z => (divHalfEven x.value (10 ^ z), z)) = candidates
  cases hfind : candidates.find? fun c => roundDouble (c.1 * 10 ^ c.2) = x.value with
  | none => simpa [hfind] using x.isDouble
  | some c => simpa [hfind] using List.find?_some hfind

theorem toDigits_inj {m n : ℕ} (h : Nat.toDigits 10 m = Nat.toDigits 10 n) : m = n := by
  rw [← Nat.ofDigitChars_ten_toDigits (n := m), h, Nat.ofDigitChars_ten_toDigits]

theorem not_mem_toDigits {c : Char} (h : c.isDigit = false) (n : ℕ) : c ∉ Nat.toDigits 10 n := by
  intro hmem
  rw [Nat.isDigit_of_mem_toDigits (by omega) (by omega) hmem] at h
  cases h

theorem not_mem_mantissa {c : Char} {digits : Str} (hc : c ∉ digits) (hpoint : c ≠ '.') :
    c ∉ mantissa digits := by
  intro hmem
  unfold mantissa at hmem
  rcases List.mem_append.mp hmem with hmem | hmem
  · exact hc (List.mem_of_mem_take hmem)
  · split_ifs at hmem
    · cases hmem
    · rcases List.mem_cons.mp hmem with heq | hmem
      · exact hpoint heq
      · exact hc (List.mem_of_mem_drop hmem)

theorem filter_mantissa {digits : Str} (h : '.' ∉ digits) :
    (mantissa digits).filter (· ≠ '.') = digits := by
  have hkeep : ∀ l : Str, '.' ∉ l → l.filter (· ≠ '.') = l := by
    intro l hl
    rw [List.filter_eq_self]
    intro c hc
    have hne : c ≠ '.' := fun heq => hl (heq ▸ hc)
    simpa using hne
  unfold mantissa
  rw [List.filter_append, hkeep _ fun hc => h (List.mem_of_mem_take hc)]
  split_ifs with hlength
  · rw [List.filter_nil, List.append_nil]
    exact List.take_of_length_le hlength
  · have hdrop := hkeep _ fun hc => h (List.mem_of_mem_drop (i := 1) hc)
    simp only [List.filter_cons, ne_eq, not_true_eq_false, decide_false, Bool.false_eq_true,
      if_false]
    simp only [ne_eq] at hdrop
    rw [hdrop, List.take_append_drop]

theorem not_mem_repr {c : Char} (hdigit : c.isDigit = false) (h : c ∉ ".e+".toList) (x : Double) :
    c ∉ x.repr := by
  have hmarks : c ≠ '.' ∧ c ≠ 'e' ∧ c ≠ '+' := by simpa using h
  have hzero : c ≠ '0' := by
    rintro rfl
    cases hdigit
  unfold repr
  split_ifs
  · have hdigits := not_mem_toDigits hdigit x.value
    simp [hdigits, hmarks, hzero]
  · have hfirst := not_mem_mantissa (not_mem_toDigits hdigit x.shortest.1) hmarks.1
    have hlast := not_mem_toDigits hdigit
      ((Nat.toDigits 10 x.shortest.1).length - 1 + x.shortest.2)
    simp [hfirst, hlast, hmarks]

theorem scientific_inj {m m' e e' : ℕ}
    (h : mantissa (Nat.toDigits 10 m) ++ 'e' :: '+' :: Nat.toDigits 10 e =
      mantissa (Nat.toDigits 10 m') ++ 'e' :: '+' :: Nat.toDigits 10 e') : m = m' ∧ e = e' := by
  have hsplit : ∀ n, 'e' ∉ mantissa (Nat.toDigits 10 n) := fun n =>
    not_mem_mantissa (not_mem_toDigits (by decide) n) (by decide)
  obtain ⟨hleft, hright⟩ := Text.append_cons_inj (hsplit m) (hsplit m') h
  have hdigits : Nat.toDigits 10 m = Nat.toDigits 10 m' := by
    rw [← filter_mantissa (not_mem_toDigits (by decide) m), hleft,
      filter_mantissa (not_mem_toDigits (by decide) m')]
  exact ⟨toDigits_inj hdigits, toDigits_inj (List.cons.inj hright).2⟩

/-- Different doubles have different texts. -/
theorem repr_injective {x y : Double} (h : x.repr = y.repr) : x = y := by
  have hexponent : ∀ z : Double, 'e' ∉ Nat.toDigits 10 z.value ++ ".0".toList := by
    intro z
    have := not_mem_toDigits (c := 'e') (by decide) z.value
    simp [this]
  unfold repr at h
  split_ifs at h with hx hy hy
  · exact Double.ext (toDigits_inj (List.append_cancel_right h))
  · have hmem : 'e' ∈ Nat.toDigits 10 x.value ++ ".0".toList := by
      rw [h]
      simp
    exact absurd hmem (hexponent x)
  · have hmem : 'e' ∈ Nat.toDigits 10 y.value ++ ".0".toList := by
      rw [← h]
      simp
    exact absurd hmem (hexponent y)
  · obtain ⟨hm, hz⟩ := scientific_inj h
    rw [hm] at hz
    have hz' : x.shortest.2 = y.shortest.2 := by omega
    apply Double.ext
    rw [← roundDouble_shortest x, hm, hz', roundDouble_shortest y]

end Double

end Remme.Lib
