import Remme.Lib.Double
/-!
# Python values and their texts

The values that JSON can hold, with floats, and Python's `str` and `repr` of
them.  The text of a string ends where its closing quote stands, so a value can
be read back from the front of a longer text; `reprText_append_inj` says so
without a reader.  Which characters outside ASCII are printable is a table of
the Unicode database and a parameter here.
-/

namespace Remme.Lib

inductive PyVal where
  | none
  | text (s : Str)
  | number (n : ℤ)
  | boolean (b : Bool)
  | float (x : Double)
  | array (items : List PyVal)
  | object (fields : List (Str × PyVal))

namespace PyVal

/-- `value[key]`; `none` is the `KeyError`, or the `TypeError` of a value that is no dictionary. -/
def get? (key : Str) : PyVal → Option PyVal
  | object fields => (fields.find? fun field => field.1 = key).map (·.2)
  | _ => Option.none

/-- `not value` -/
def isFalsy : PyVal → Bool
  | none => true
  | text s => s.isEmpty
  | number n => n = 0
  | boolean b => !b
  | float x => x.value = 0
  | array items => items.isEmpty
  | object fields => fields.isEmpty

/-! ## `repr` and `str` -/

section Repr

variable (isPrintable : Char → Bool)

/-- Single quotes, unless the text has some and no double ones. -/
def quote (s : Str) : Char := if '\'' ∈ s ∧ '"' ∉ s then '"' else '\''

/-- A character between quotes `q`. -/
def escapeChar (q c : Char) : Str :=
  if c = q ∨ c = '\\' then ['\\', c]
  else if c = '\t' then ['\\', 't']
  else if c = '\n' then ['\\', 'n']
  else if c = '\r' then ['\\', 'r']
  else if (32 ≤ c.toNat ∧ c.toNat < 127) ∨ (127 < c.toNat ∧ isPrintable c = true) then [c]
  else if c.toNat < 0x100 then '\\' :: 'x' :: Text.hexFixed 2 c.toNat
  else if c.toNat < 0x10000 then '\\' :: 'u' :: Text.hexFixed 4 c.toNat
  else '\\' :: 'U' :: Text.hexFixed 8 c.toNat

/-- `repr(s)` of a string. -/
def reprText (s : Str) : Str :=
  quote s :: (s.flatMap (escapeChar isPrintable (quote s)) ++ [quote s])

def reprInt : ℤ → Str
  | .ofNat n => Nat.toDigits 10 n
  | .negSucc n => '-' :: Nat.toDigits 10 (n + 1)

mutual
def repr : PyVal → Str
  | none => "None".toList
  | text s => reprText isPrintable s
  | number n => reprInt n
  | boolean b => if b then "True".toList else "False".toList
  | float x => x.repr
  | array items => '[' :: (List.intercalate ", ".toList (reprItems items) ++ [']'])
  | object fields => '\x7b' :: (List.intercalate ", ".toList (reprFields fields) ++ ['\x7d'])
def reprItems : List PyVal → List Str
  | [] => []
  | v :: vs => repr v :: reprItems vs
def reprFields : List (Str × PyVal) → List Str
  | [] => []
  | (k, v) :: fs => (reprText isPrintable k ++ ": ".toList ++ repr v) :: reprFields fs
end

/-- `str(value)` -/
def str : PyVal → Str
  | text s => s
  | v => repr isPrintable v

end Repr

/-! ## Reading a quoted text back -/

/-- The first character of a quoted text, and what follows it. -/
def readChar : Str → Option (Char × Str)
  | '\\' :: 't' :: rest => some ('\t', rest)
  | '\\' :: 'n' :: rest => some ('\n', rest)
  | '\\' :: 'r' :: rest => some ('\r', rest)
  | '\\' :: 'x' :: rest => some (Char.ofNat (Text.hexNat (rest.take 2)), rest.drop 2)
  | '\\' :: 'u' :: rest => some (Char.ofNat (Text.hexNat (rest.take 4)), rest.drop 4)
  | '\\' :: 'U' :: rest => some (Char.ofNat (Text.hexNat (rest.take 8)), rest.drop 8)
  | '\\' :: c :: rest => some (c, rest)
  | c :: rest => some (c, rest)
  | [] => Option.none

variable {isPrintable : Char → Bool} {q c : Char}

theorem ofNat_hexNat_hexFixed {w : ℕ} (h : c.toNat < 16 ^ w) (rest : Str) :
    Char.ofNat (Text.hexNat ((Text.hexFixed w c.toNat ++ rest).take w)) = c ∧
      (Text.hexFixed w c.toNat ++ rest).drop w = rest := by
  have hlength := Text.hexFixed_length w c.toNat
  rw [List.take_left' hlength, List.drop_left' hlength, Text.hexNat_hexFixed h]
  exact ⟨Char.ofNat_toNat c, rfl⟩

theorem readChar_escapeChar (hq : q = '\'' ∨ q = '"') (rest : Str) :
    readChar (escapeChar isPrintable q c ++ rest) = some (c, rest) := by
  have hlt : c.toNat < 16 ^ 8 := c.val.toNat_lt
  unfold escapeChar
  split_ifs with hquote htab hnewline hreturn hplain hx hu
  · rcases hquote with rfl | rfl
    · rcases hq with rfl | rfl <;> rfl
    · rfl
  · rw [htab]
    rfl
  · rw [hnewline]
    rfl
  · rw [hreturn]
    rfl
  · have hne : c ≠ '\\' := fun h => hquote (.inr h)
    simp [readChar, hne]
  · obtain ⟨hchar, hrest⟩ := ofNat_hexNat_hexFixed (w := 2) hx rest
    simp only [List.cons_append, readChar, hchar, hrest]
  · obtain ⟨hchar, hrest⟩ := ofNat_hexNat_hexFixed (w := 4) hu rest
    simp only [List.cons_append, readChar, hchar, hrest]
  · obtain ⟨hchar, hrest⟩ := ofNat_hexNat_hexFixed (w := 8) hlt rest
    simp only [List.cons_append, readChar, hchar, hrest]

/-- An escaped character does not start with the quote. -/
theorem escapeChar_ne_quote (hq : q = '\'' ∨ q = '"') (x y : Str) :
    q :: x ≠ escapeChar isPrintable q c ++ y := by
  have hback : q ≠ '\\' := by
    rcases hq with rfl | rfl <;> decide
  intro h
  unfold escapeChar at h
  split_ifs at h with hquote
  all_goals first
    | exact hback (List.cons.inj h).1
    | exact hquote (.inl (List.cons.inj h).1.symm)

theorem escaped_append_inj (hq : q = '\'' ∨ q = '"') {s t x y : Str}
    (h : s.flatMap (escapeChar isPrintable q) ++ q :: x =
      t.flatMap (escapeChar isPrintable q) ++ q :: y) : s = t ∧ x = y := by
  induction s generalizing t with
  | nil =>
      cases t with
      | nil => exact ⟨rfl, (List.cons.inj h).2⟩
      | cons d t =>
          rw [List.flatMap_nil, List.nil_append, List.flatMap_cons, List.append_assoc] at h
          exact absurd h (escapeChar_ne_quote hq _ _)
  | cons c s ih =>
      cases t with
      | nil =>
          rw [List.flatMap_nil, List.nil_append, List.flatMap_cons, List.append_assoc] at h
          exact absurd h.symm (escapeChar_ne_quote hq _ _)
      | cons d t =>
          rw [List.flatMap_cons, List.flatMap_cons, List.append_assoc, List.append_assoc] at h
          have hread := congrArg readChar h
          rw [readChar_escapeChar hq, readChar_escapeChar hq, Option.some.injEq,
            Prod.mk.injEq] at hread
          obtain ⟨hst, hxy⟩ := ih hread.2
          exact ⟨by rw [hread.1, hst], hxy⟩

/-- A quoted text in front of another tells where it ends. -/
theorem reprText_append_inj {s t x y : Str}
    (h : reprText isPrintable s ++ x = reprText isPrintable t ++ y) : s = t ∧ x = y := by
  have hquote : ∀ u : Str, quote u = '\'' ∨ quote u = '"' := by
    intro u
    unfold quote
    split_ifs
    · exact .inr rfl
    · exact .inl rfl
  unfold reprText at h
  rw [List.cons_append, List.cons_append] at h
  obtain ⟨hq, hrest⟩ := List.cons.inj h
  rw [← hq] at hrest
  simp only [List.append_assoc, List.cons_append, List.nil_append] at hrest
  exact escaped_append_inj (hquote s) hrest

end PyVal

end Remme.Lib
