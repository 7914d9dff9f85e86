import Remme.Lib.Text
/-!
# Integer literals in base 16

The texts that Python's `int` reads in base 16, by their characters: blanks, a
sign, a mark `0x`, digits with single underscores between them, and blanks.
-/

namespace Remme.Lib.Text

/-! ## The grammar -/

/-- Digits of `[0-9a-fA-F]`, with single underscores between them. -/
inductive HexDigits : Str → Prop
  | single {c : Char} (hc : isHex c = true) : HexDigits [c]
  | next {c : Char} {s : Str} (hc : isHex c = true) (hs : HexDigits s) : HexDigits (c :: s)
  | apart {c : Char} {s : Str} (hc : isHex c = true) (hs : HexDigits s) :
      HexDigits (c :: '_' :: s)

def signs : List Str := [[], ['-'], ['+']]

def hexMarks : List Str :=
  [[], ['0', 'x'], ['0', 'X'], ['0', 'x', '_'], ['0', 'X', '_']]

/-- A literal in base 16.  Decimal digits and whitespace outside ASCII count as those of ASCII. -/
def IsHexLiteral (s : Str) : Prop :=
  ∃ before sign mark digits after,
    s.map toAscii = before ++ ((sign ++ (mark ++ digits)) ++ after) ∧
    (∀ c ∈ before, isAsciiSpace c = true) ∧ sign ∈ signs ∧ mark ∈ hexMarks ∧ HexDigits digits ∧
    ∀ c ∈ after, isAsciiSpace c = true

variable {c : Char} {s before core after : Str}

/-! ## Digits -/

/-- What may follow a digit. -/
def HexTail (s : Str) : Prop := s = [] ∨ HexDigits s ∨ ∃ rest, s = '_' :: rest ∧ HexDigits rest

theorem hexDigits_cons_iff : HexDigits (c :: s) ↔ isHex c = true ∧ HexTail s := by
  constructor
  · intro h
    cases h with
    | single hc => exact ⟨hc, .inl rfl⟩
    | next hc hs => exact ⟨hc, .inr (.inl hs)⟩
    | apart hc hs => exact ⟨hc, .inr (.inr ⟨_, rfl, hs⟩)⟩
  · rintro ⟨hc, rfl | hs | ⟨rest, rfl, hs⟩⟩
    · exact .single hc
    · exact .next hc hs
    · exact .apart hc hs

theorem not_hexDigits_nil : ¬HexDigits [] := by
  intro h
  cases h

theorem not_hexDigits_cons (hc : isHex c = false) : ¬HexDigits (c :: s) := by
  rw [hexDigits_cons_iff, hc]
  simp

theorem hexValue_lt {v : ℕ} (h : hexValue c = some v) : v < 16 := by
  unfold hexValue at h
  split_ifs at h <;> simp only [Option.some.injEq] at h <;> omega

theorem isSome_digitValue (c : Char) : (digitValue 16 c).isSome = isHex c := by
  rw [← isSome_hexValue, digitValue]
  cases hvalue : hexValue c with
  | none => rfl
  | some v => simp [Option.filter, hexValue_lt hvalue]

/-- One digit, and what may follow it. -/
theorem isSome_bind_digitValue (c : Char) {cs : Str} {f : ℕ → Option ℕ}
    (hf : ∀ v, (f v).isSome ↔ HexTail cs) :
    ((digitValue 16 c).bind f).isSome ↔ HexDigits (c :: cs) := by
  rw [hexDigits_cons_iff, ← isSome_digitValue]
  cases digitValue 16 c with
  | none => simp
  | some v => simpa using hf v

/-- The digits after a first one are read if they may follow it. -/
theorem isSome_parseDigits (acc : ℕ) (s : Str) :
    (parseDigits 16 acc s).isSome ↔ HexTail s := by
  fun_induction parseDigits 16 acc s with
  | case1 acc => simp [HexTail]
  | case2 acc c cs ih =>
      have hmark := not_hexDigits_cons (c := '_') (s := c :: cs) (by decide)
      rw [Option.bind_eq_bind, isSome_bind_digitValue c ih]
      simp [HexTail, hmark]
  | case3 acc c cs hnot ih =>
      rw [Option.bind_eq_bind, isSome_bind_digitValue c ih, HexTail]
      constructor
      · exact fun h => .inr (.inl h)
      · rintro (h | h | ⟨rest, h, hrest⟩)
        · cases h
        · exact h
        · obtain ⟨rfl, rfl⟩ := List.cons.inj h
          cases cs with
          | nil => exact absurd hrest not_hexDigits_nil
          | cons d cs => exact (hnot d cs rfl rfl).elim

/-! ## The mark and the sign -/

theorem isSome_parseNat (s : Str) : (parseNat 16 s).isSome ↔ HexDigits (dropHexMark s) := by
  unfold parseNat
  rw [if_pos rfl]
  cases dropHexMark s with
  | nil => simp [not_hexDigits_nil]
  | cons c cs => exact isSome_bind_digitValue c fun v => isSome_parseDigits v cs

/-- No digits begin with a mark. -/
theorem dropHexMark_of_hexDigits (h : HexDigits s) : dropHexMark s = s := by
  have hmark : ∀ (c : Char) (cs : Str), isHex c = false → c ≠ '_' →
      ¬HexDigits ('0' :: c :: cs) := by
    intro c cs hc hne h
    rcases (hexDigits_cons_iff.mp h).2 with h | h | ⟨rest, h, -⟩
    · cases h
    · exact not_hexDigits_cons hc h
    · exact hne (List.cons.inj h).1
  fun_cases dropHexMark s with
  | case1 cs => exact absurd h (hmark 'x' _ (by decide) (by decide))
  | case2 cs => exact absurd h (hmark 'X' _ (by decide) (by decide))
  | case3 cs hnot => exact absurd h (hmark 'x' _ (by decide) (by decide))
  | case4 cs hnot => exact absurd h (hmark 'X' _ (by decide) (by decide))
  | case5 => rfl

theorem exists_hexMark (s : Str) : ∃ mark ∈ hexMarks, s = mark ++ dropHexMark s := by
  fun_cases dropHexMark s with
  | case1 cs => exact ⟨['0', 'x', '_'], by decide, rfl⟩
  | case2 cs => exact ⟨['0', 'X', '_'], by decide, rfl⟩
  | case3 cs hnot => exact ⟨['0', 'x'], by decide, rfl⟩
  | case4 cs hnot => exact ⟨['0', 'X'], by decide, rfl⟩
  | case5 => exact ⟨[], by decide, rfl⟩

theorem dropHexMark_append {mark digits : Str} (hmark : mark ∈ hexMarks)
    (hdigits : HexDigits digits) : dropHexMark (mark ++ digits) = digits := by
  cases digits with
  | nil => exact absurd hdigits not_hexDigits_nil
  | cons c cs =>
      have hne : c ≠ '_' := by
        rintro rfl
        exact not_hexDigits_cons (by decide) hdigits
      simp only [hexMarks, List.mem_cons, List.not_mem_nil, or_false] at hmark
      rcases hmark with rfl | rfl | rfl | rfl | rfl
      · exact dropHexMark_of_hexDigits hdigits
      all_goals simp [dropHexMark, hne]

theorem hexDigits_dropHexMark_iff (s : Str) :
    HexDigits (dropHexMark s) ↔ ∃ mark digits, s = mark ++ digits ∧ mark ∈ hexMarks ∧
      HexDigits digits := by
  constructor
  · intro h
    obtain ⟨mark, hmark, hs⟩ := exists_hexMark s
    exact ⟨mark, dropHexMark s, hs, hmark, h⟩
  · rintro ⟨mark, digits, rfl, hmark, hdigits⟩
    rwa [dropHexMark_append hmark hdigits]

/-- What stands between the blanks is a sign and a number. -/
theorem isSome_int_iff_trim (s : Str) :
    (int 16 s).isSome ↔ ∃ sign rest, trim (s.map toAscii) = sign ++ rest ∧ sign ∈ signs ∧
      HexDigits (dropHexMark rest) := by
  have hsign : ∀ (c : Char) (cs : Str), c ≠ '0' → isHex c = false →
      ¬HexDigits (dropHexMark (c :: cs)) := by
    intro c cs hzero hc h
    have hdrop : dropHexMark (c :: cs) = c :: cs := by simp [dropHexMark, hzero]
    rw [hdrop] at h
    exact not_hexDigits_cons hc h
  unfold int
  generalize trim (s.map toAscii) = t
  simp only [signs, List.mem_cons, List.not_mem_nil, or_false]
  split
  · rename_i cs
    rw [Option.isSome_map, isSome_parseNat]
    constructor
    · exact fun h => ⟨['-'], cs, rfl, .inr (.inl rfl), h⟩
    · rintro ⟨sign, rest, heq, rfl | rfl | rfl, h⟩
      · obtain rfl : '-' :: cs = rest := heq
        exact absurd h (hsign '-' cs (by decide) (by decide))
      · cases heq
        exact h
      · cases heq
  · rename_i cs
    rw [Option.isSome_map, isSome_parseNat]
    constructor
    · exact fun h => ⟨['+'], cs, rfl, .inr (.inr rfl), h⟩
    · rintro ⟨sign, rest, heq, rfl | rfl | rfl, h⟩
      · obtain rfl : '+' :: cs = rest := heq
        exact absurd h (hsign '+' cs (by decide) (by decide))
      · cases heq
      · cases heq
        exact h
  · rename_i hminus hplus
    rw [Option.isSome_map, isSome_parseNat]
    constructor
    · exact fun h => ⟨[], t, rfl, .inl rfl, h⟩
    · rintro ⟨sign, rest, rfl, rfl | rfl | rfl, h⟩
      · exact h
      · exact (hminus rest rfl).elim
      · exact (hplus rest rfl).elim

/-! ## The blanks -/

theorem trim_append (hbefore : ∀ c ∈ before, isAsciiSpace c = true)
    (hcore : ∀ c ∈ core, isAsciiSpace c = false) (hafter : ∀ c ∈ after, isAsciiSpace c = true) :
    trim (before ++ (core ++ after)) = core := by
  have hkeep : ∀ {t : Str}, (∀ c ∈ t, isAsciiSpace c = false) → t.dropWhile isAsciiSpace = t := by
    intro t ht
    cases t with
    | nil => rfl
    | cons c cs => rw [List.dropWhile_cons_of_neg (by simp [ht c (by simp)])]
  unfold trim
  rw [List.dropWhile_append_of_pos hbefore]
  cases core with
  | nil =>
      rw [List.nil_append, List.dropWhile_eq_nil_iff.mpr hafter]
      rfl
  | cons c cs =>
      have hreverse : ∀ c' ∈ (c :: cs).reverse, isAsciiSpace c' = false :=
        fun c' hc' => hcore c' (List.mem_reverse.mp hc')
      rw [List.cons_append, List.dropWhile_cons_of_neg (by simp [hcore c (by simp)]),
        ← List.cons_append, List.reverse_append,
        List.dropWhile_append_of_pos (by simpa using hafter), hkeep hreverse,
        List.reverse_reverse]

theorem exists_trim (s : Str) : ∃ before after, s = before ++ (trim s ++ after) ∧
    (∀ c ∈ before, isAsciiSpace c = true) ∧ ∀ c ∈ after, isAsciiSpace c = true := by
  have hfront := List.takeWhile_append_dropWhile (p := isAsciiSpace) (l := s)
  have hback := List.takeWhile_append_dropWhile (p := isAsciiSpace)
    (l := (s.dropWhile isAsciiSpace).reverse)
  refine ⟨s.takeWhile isAsciiSpace,
    ((s.dropWhile isAsciiSpace).reverse.takeWhile isAsciiSpace).reverse, ?_, ?_, ?_⟩
  · have hrest := congrArg List.reverse hback
    rw [List.reverse_append, List.reverse_reverse] at hrest
    unfold trim
    rw [hrest, hfront]
  · exact fun c hc => List.mem_takeWhile_imp hc
  · intro c hc
    exact List.mem_takeWhile_imp (List.mem_reverse.mp hc)

/-! ## Literals are what `int` reads -/

theorem not_isAsciiSpace_of_isHex (h : isHex c = true) : isAsciiSpace c = false := by
  simp only [isHex, isLowerHex, Bool.or_eq_true, Bool.and_eq_true, decide_eq_true_eq] at h
  simp only [isAsciiSpace, Bool.or_eq_false_iff, Bool.and_eq_false_iff, decide_eq_false_iff_not,
    beq_eq_false_iff_ne]
  omega

theorem not_isAsciiSpace_of_hexDigits (h : HexDigits s) : ∀ c ∈ s, isAsciiSpace c = false := by
  have hapart : isAsciiSpace '_' = false := by decide
  induction h with
  | single hc => simpa using not_isAsciiSpace_of_isHex hc
  | next hc _ ih => simpa using ⟨not_isAsciiSpace_of_isHex hc, ih⟩
  | apart hc _ ih => simpa using ⟨not_isAsciiSpace_of_isHex hc, hapart, ih⟩

/-- `int(s, 16)` returns exactly if the text is a literal. -/
theorem isSome_int_iff (s : Str) : (int 16 s).isSome ↔ IsHexLiteral s := by
  rw [isSome_int_iff_trim]
  constructor
  · rintro ⟨sign, rest, htrim, hsign, h⟩
    obtain ⟨mark, digits, rfl, hmark, hdigits⟩ := (hexDigits_dropHexMark_iff rest).mp h
    obtain ⟨before, after, hs, hbefore, hafter⟩ := exists_trim (s.map toAscii)
    rw [htrim] at hs
    exact ⟨before, sign, mark, digits, after, hs, hbefore, hsign, hmark, hdigits, hafter⟩
  · rintro ⟨before, sign, mark, digits, after, hs, hbefore, hsign, hmark, hdigits, hafter⟩
    refine ⟨sign, mark ++ digits, ?_, hsign,
      (hexDigits_dropHexMark_iff _).mpr ⟨mark, digits, rfl, hmark, hdigits⟩⟩
    rw [hs]
    apply trim_append hbefore ?_ hafter
    have hsigns : ∀ sign ∈ signs, ∀ c ∈ sign, isAsciiSpace c = false := by
      simp [signs, isAsciiSpace]
    have hmarks : ∀ mark ∈ hexMarks, ∀ c ∈ mark, isAsciiSpace c = false := by
      simp [hexMarks, isAsciiSpace]
    intro c hc
    simp only [List.mem_append] at hc
    rcases hc with hc | hc | hc
    · exact hsigns sign hsign c hc
    · exact hmarks mark hmark c hc
    · exact not_isAsciiSpace_of_hexDigits hdigits c hc

end Remme.Lib.Text
