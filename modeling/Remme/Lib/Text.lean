import Mathlib.Data.List.Basic
import Mathlib.Data.List.TakeWhile
import Mathlib.Data.Nat.Notation
import Mathlib.Data.Int.Notation
import Mathlib.Tactic.Ring
/-!
# Python text

The parts of Python's `str`, `bytes` and `int` that the modelled code calls.  A
`str` is its list of code points.  `isdigit`, `isspace` and the decimal digits
follow the Unicode character database, `int` follows its documented grammar:
surrounding whitespace, one sign, an optional `0x` for base 16, and digits with
single underscores between them.
-/

namespace Remme.Lib

abbrev Str := List Char

abbrev Bytes := List UInt8

-- A constant of its own, so that a test for membership has the same proof in every module.
instance Str.instLawfulBEq : LawfulBEq Str := List.instLawfulBEq

namespace Text

/-! ## Character classes -/

/-- Code points of the digit zero of every decimal digit sequence. -/
def decimalZeros : List ℕ :=
  [0x30, 0x660, 0x6f0, 0x7c0, 0x966, 0x9e6, 0xa66, 0xae6, 0xb66, 0xbe6, 0xc66, 0xce6, 0xd66,
   0xde6, 0xe50, 0xed0, 0xf20, 0x1040, 0x1090, 0x17e0, 0x1810, 0x1946, 0x19d0, 0x1a80, 0x1a90,
   0x1b50, 0x1bb0, 0x1c40, 0x1c50, 0xa620, 0xa8d0, 0xa900, 0xa9d0, 0xa9f0, 0xaa50, 0xabf0,
   0xff10, 0x104a0, 0x10d30, 0x11066, 0x110f0, 0x11136, 0x111d0, 0x112f0, 0x11450, 0x114d0,
   0x11650, 0x116c0, 0x11730, 0x118e0, 0x11950, 0x11c50, 0x11d50, 0x11da0, 0x16a60, 0x16ac0,
   0x16b50, 0x1d7ce, 0x1d7d8, 0x1d7e2, 0x1d7ec, 0x1d7f6, 0x1e140, 0x1e2f0, 0x1e950, 0x1fbf0]

/-- Ranges of the digits that are not decimal: superscripts, circled digits and the like. -/
def otherDigits : List (ℕ × ℕ) :=
  [(0xb2, 0xb3), (0xb9, 0xb9), (0x1369, 0x1371), (0x19da, 0x19da), (0x2070, 0x2070),
   (0x2074, 0x2079), (0x2080, 0x2089), (0x2460, 0x2468), (0x2474, 0x247c), (0x2488, 0x2490),
   (0x24ea, 0x24ea), (0x24f5, 0x24fd), (0x24ff, 0x24ff), (0x2776, 0x277e), (0x2780, 0x2788),
   (0x278a, 0x2792), (0x10a40, 0x10a43), (0x10e60, 0x10e68), (0x11052, 0x1105a),
   (0x1f100, 0x1f10a)]

def spaces : List (ℕ × ℕ) :=
  [(0x9, 0xd), (0x1c, 0x20), (0x85, 0x85), (0xa0, 0xa0), (0x1680, 0x1680), (0x2000, 0x200a),
   (0x2028, 0x2029), (0x202f, 0x202f), (0x205f, 0x205f), (0x3000, 0x3000)]

def inRanges (c : Char) (rs : List (ℕ × ℕ)) : Bool :=
  rs.any fun r => r.1 ≤ c.toNat && c.toNat ≤ r.2

def decimalValue (c : Char) : Option ℕ :=
  (decimalZeros.find? fun z => z ≤ c.toNat && c.toNat < z + 10).map (c.toNat - ·)

def isDigitChar (c : Char) : Bool := (decimalValue c).isSome || inRanges c otherDigits

def isSpace (c : Char) : Bool := inRanges c spaces

/-- The characters of `[0-9a-f]`. -/
def isLowerHex (c : Char) : Bool :=
  (48 ≤ c.toNat && c.toNat ≤ 57) || (97 ≤ c.toNat && c.toNat ≤ 102)

/-- The characters of `[0-9a-fA-F]`. -/
def isHex (c : Char) : Bool := isLowerHex c || (65 ≤ c.toNat && c.toNat ≤ 70)

/-! ## `str` methods -/

/-- `s.isdigit()` -/
def isDigit (s : Str) : Bool := !s.isEmpty && s.all isDigitChar

/-- `not s.strip()` -/
def isBlank (s : Str) : Bool := s.all isSpace

/-- `s.lower()`, as far as a comparison with an ASCII text can tell. -/
def lower (s : Str) : Str := s.map Char.toLower

/-- `s.zfill(width)` for a text without a sign. -/
def zfill (width : ℕ) (s : Str) : Str := List.replicate (width - s.length) '0' ++ s

/-- `s.split(sep, maxsplit=n)` -/
def splitMax (sep : Char) : ℕ → Str → List Str
  | 0, s => [s]
  | n + 1, s =>
      match s.dropWhile (· != sep) with
      | [] => [s]
      | _ :: rest => s.takeWhile (· != sep) :: splitMax sep n rest

/-- The text cut at its first `n` separators. -/
inductive CutAt (sep : Char) : ℕ → Str → List Str → Prop
  | last {s : Str} : CutAt sep 0 s [s]
  | whole {n : ℕ} {s : Str} (hnone : sep ∉ s) : CutAt sep n s [s]
  | cut {n : ℕ} {part rest : Str} {parts : List Str} (hpart : sep ∉ part)
      (hrest : CutAt sep n rest parts) : CutAt sep (n + 1) (part ++ sep :: rest) (part :: parts)

theorem cutAt_splitMax (sep : Char) (n : ℕ) (s : Str) : CutAt sep n s (splitMax sep n s) := by
  induction n generalizing s with
  | zero => exact .last
  | succ n ih =>
      have hsplit := List.takeWhile_append_dropWhile (p := (· != sep)) (l := s)
      have hpart : sep ∉ s.takeWhile (· != sep) := by
        intro hsep
        simpa using List.mem_takeWhile_imp hsep
      rw [splitMax]
      split
      · rename_i hrest
        rw [hrest, List.append_nil] at hsplit
        rw [hsplit] at hpart
        exact .whole hpart
      · rename_i c rest hrest
        obtain rfl : c = sep := by
          have hhead := List.head?_dropWhile_not (· != sep) s
          rw [hrest] at hhead
          simpa using hhead
        rw [hrest] at hsplit
        have hcut := CutAt.cut hpart (ih rest)
        rwa [hsplit] at hcut

theorem CutAt.eq_splitMax {sep : Char} {n : ℕ} {s : Str} {parts : List Str}
    (h : CutAt sep n s parts) : parts = splitMax sep n s := by
  have hne : ∀ {t : Str}, sep ∉ t → ∀ c ∈ t, (c != sep) = true := by
    intro t hnone c hc
    simp only [bne_iff_ne, ne_eq]
    rintro rfl
    exact hnone hc
  induction h with
  | last => rfl
  | @whole n s hnone =>
      cases n with
      | zero => rfl
      | succ n =>
          have hall : s.dropWhile (· != sep) = [] := List.dropWhile_eq_nil_iff.mpr (hne hnone)
          rw [splitMax, hall]
  | @cut n part rest parts hpart hrest ih =>
      have hdrop : (part ++ sep :: rest).dropWhile (· != sep) = sep :: rest := by
        rw [List.dropWhile_append_of_pos (hne hpart)]
        simp
      have htake : (part ++ sep :: rest).takeWhile (· != sep) = part := by
        rw [List.takeWhile_append_of_pos (hne hpart)]
        simp
      rw [splitMax, hdrop, htake, ih]

theorem CutAt.length_le {sep : Char} {n : ℕ} {s : Str} {parts : List Str}
    (h : CutAt sep n s parts) : parts.length ≤ n + 1 := by
  induction h with
  | last => simp
  | whole => simp
  | cut _ _ ih =>
      rw [List.length_cons]
      omega

def encodeUtf8 (s : Str) : Bytes := s.flatMap String.utf8EncodeChar

/-! ## Hexadecimal -/

def hexDigit (n : ℕ) : Char := if n < 10 then Char.ofNat (48 + n) else Char.ofNat (87 + n)

/-- The last `width` hexadecimal digits of `n`, in front of `acc`. -/
def hexFixedAux : ℕ → ℕ → Str → Str
  | 0, _, acc => acc
  | width + 1, n, acc => hexFixedAux width (n / 16) (hexDigit (n % 16) :: acc)

def hexFixed (width n : ℕ) : Str := hexFixedAux width n []

/-- `hex(n)[2:]` -/
def hex (n : ℕ) : Str := Nat.toDigits 16 n

/-- `data.hex()` -/
def bytesHex (data : Bytes) : Str := data.flatMap fun b => hexFixed 2 b.toNat

def hexValue (c : Char) : Option ℕ :=
  if 48 ≤ c.toNat ∧ c.toNat ≤ 57 then some (c.toNat - 48)
  else if 97 ≤ c.toNat ∧ c.toNat ≤ 102 then some (c.toNat - 87)
  else if 65 ≤ c.toNat ∧ c.toNat ≤ 70 then some (c.toNat - 55)
  else none

/-- `codecs.decode(s, 'hex')` -/
def unhexlify : Str → Option Bytes
  | [] => some []
  | [_] => none
  | c :: c' :: cs => do
      let hi ← hexValue c
      let lo ← hexValue c'
      let rest ← unhexlify cs
      pure (UInt8.ofNat (16 * hi + lo) :: rest)

theorem isSome_hexValue (c : Char) : (hexValue c).isSome = isHex c := by
  unfold hexValue isHex isLowerHex
  split_ifs <;> simp <;> omega

theorem toNat_toLower (c : Char) :
    c.toLower.toNat = if 65 ≤ c.toNat ∧ c.toNat ≤ 90 then c.toNat + 32 else c.toNat := by
  have hbounds : (c.val ≥ 'A'.val ∧ c.val ≤ 'Z'.val) ↔ 65 ≤ c.toNat ∧ c.toNat ≤ 90 := Iff.rfl
  have hval : c.val.toNat = c.toNat := rfl
  have hshift : (32 : UInt32).toNat = 32 := rfl
  by_cases hupper : 65 ≤ c.toNat ∧ c.toNat ≤ 90
  · have hlower : c.toLower.toNat = (c.val + 32).toNat :=
      congrArg Char.toNat (dif_pos (hbounds.mpr hupper))
    rw [if_pos hupper, hlower, UInt32.toNat_add, hval, hshift]
    exact Nat.mod_eq_of_lt (by omega)
  · have hsame : c.toLower = c := dif_neg (mt hbounds.mp hupper)
    rw [if_neg hupper, hsame]

theorem hexValue_toLower (c : Char) : hexValue c.toLower = hexValue c := by
  have hlower := toNat_toLower c
  by_cases hupper : 65 ≤ c.toNat ∧ c.toNat ≤ 90
  · rw [if_pos hupper] at hlower
    have hdigit : ¬(48 ≤ c.toNat ∧ c.toNat ≤ 57) := by omega
    have hletter : ¬(97 ≤ c.toNat ∧ c.toNat ≤ 102) := by omega
    have hdigit' : ¬(48 ≤ c.toNat + 32 ∧ c.toNat + 32 ≤ 57) := by omega
    simp only [hexValue, hlower, if_neg hdigit, if_neg hletter, if_neg hdigit']
    split_ifs <;> first | omega | exact congrArg some (by omega) | rfl
  · rw [if_neg hupper] at hlower
    simp only [hexValue, hlower]

theorem isHex_toLower (c : Char) : isHex c.toLower = isHex c := by
  rw [← isSome_hexValue, hexValue_toLower, isSome_hexValue]

theorem unhexlify_lower (s : Str) : unhexlify (lower s) = unhexlify s := by
  induction s using unhexlify.induct with
  | case1 => rfl
  | case2 c => rfl
  | case3 c c' cs ih =>
      rw [lower] at ih
      simp only [lower, List.map_cons, unhexlify, hexValue_toLower, ih]

/-- A text decodes if it consists of pairs of hexadecimal digits. -/
theorem isSome_unhexlify (s : Str) :
    (unhexlify s).isSome ↔ s.length % 2 = 0 ∧ ∀ c ∈ s, isHex c := by
  induction s using unhexlify.induct with
  | case1 => simp [unhexlify]
  | case2 c => simp [unhexlify]
  | case3 c c' cs ih =>
      have hc := isSome_hexValue c
      have hc' := isSome_hexValue c'
      have hlength : (cs.length + 1 + 1) % 2 = cs.length % 2 := by omega
      simp only [unhexlify, List.length_cons, List.mem_cons, forall_eq_or_imp, ← hc, ← hc',
        hlength]
      cases hexValue c with
      | none => simp
      | some hi =>
          cases hexValue c' with
          | none => simp
          | some lo =>
              cases hrest : unhexlify cs with
              | none =>
                  rw [hrest] at ih
                  simpa using ih
              | some rest =>
                  rw [hrest] at ih
                  simpa using ih

/-! ## Base 64 -/

def base64Char (n : ℕ) : Char :=
  if n < 26 then Char.ofNat (65 + n)
  else if n < 52 then Char.ofNat (71 + n)
  else if n < 62 then Char.ofNat (n - 4)
  else if n = 62 then '+' else '/'

/-- `base64.b64encode(data).decode()` -/
def base64 : Bytes → Str
  | [] => []
  | [a] =>
      [base64Char (a.toNat / 4), base64Char (a.toNat % 4 * 16), '=', '=']
  | [a, b] =>
      [base64Char (a.toNat / 4), base64Char (a.toNat % 4 * 16 + b.toNat / 16),
        base64Char (b.toNat % 16 * 4), '=']
  | a :: b :: c :: rest =>
      [base64Char (a.toNat / 4), base64Char (a.toNat % 4 * 16 + b.toNat / 16),
        base64Char (b.toNat % 16 * 4 + c.toNat / 64), base64Char (c.toNat % 64)] ++ base64 rest

def base64Value (c : Char) : Option ℕ :=
  if 65 ≤ c.toNat ∧ c.toNat ≤ 90 then some (c.toNat - 65)
  else if 97 ≤ c.toNat ∧ c.toNat ≤ 122 then some (c.toNat - 71)
  else if 48 ≤ c.toNat ∧ c.toNat ≤ 57 then some (c.toNat + 4)
  else if c = '+' then some 62
  else if c = '/' then some 63
  else none

/-- The loop of `b64decode`: `quad` is the position in the group of four characters, `left` the
bits that no byte has used yet, and `pads` counts padding characters in a row. -/
def b64decodeLoop : Str → (quad pads left : ℕ) → Option Bytes
  | [], quad, _, _ => if quad = 0 then some [] else none
  | c :: cs, quad, pads, left =>
      if c = '=' then
        -- Padding that completes the group ends the input, whatever follows it.
        if 2 ≤ quad ∧ 4 ≤ quad + (pads + 1) then some []
        else b64decodeLoop cs quad (if 2 ≤ quad then pads + 1 else pads) left
      else
        match base64Value c, quad with
        | none, _ => b64decodeLoop cs quad pads left
        | some v, 0 => b64decodeLoop cs 1 0 v
        | some v, 1 =>
            (b64decodeLoop cs 2 0 (v % 16)).map (UInt8.ofNat (left * 4 + v / 16) :: ·)
        | some v, 2 => (b64decodeLoop cs 3 0 (v % 4)).map (UInt8.ofNat (left * 16 + v / 4) :: ·)
        | some v, _ => (b64decodeLoop cs 0 0 0).map (UInt8.ofNat (left * 64 + v) :: ·)

/-- `base64.b64decode(s)`: characters outside the alphabet are skipped. -/
def b64decode (s : Str) : Option Bytes := b64decodeLoop s 0 0 0

/-! ## `int` -/

/-- `int` first rewrites decimal digits and whitespace outside ASCII. -/
def toAscii (c : Char) : Char :=
  if c.toNat < 127 then c
  else if isSpace c then ' '
  else match decimalValue c with
    | some v => Char.ofNat (48 + v)
    | none => '?'

def isAsciiSpace (c : Char) : Bool := (9 ≤ c.toNat && c.toNat ≤ 13) || c.toNat == 32

def digitValue (base : ℕ) (c : Char) : Option ℕ :=
  (hexValue c).filter (· < base)

/-- Digits after a first digit, with single underscores between them. -/
def parseDigits (base : ℕ) : ℕ → Str → Option ℕ
  | acc, [] => some acc
  | acc, '_' :: c :: cs => do
      let v ← digitValue base c
      parseDigits base (acc * base + v) cs
  | acc, c :: cs => do
      let v ← digitValue base c
      parseDigits base (acc * base + v) cs

def dropHexMark : Str → Str
  | '0' :: 'x' :: '_' :: cs => cs
  | '0' :: 'X' :: '_' :: cs => cs
  | '0' :: 'x' :: cs => cs
  | '0' :: 'X' :: cs => cs
  | cs => cs

def parseNat (base : ℕ) (s : Str) : Option ℕ :=
  match if base = 16 then dropHexMark s else s with
  | [] => none
  | c :: cs => do
      let v ← digitValue base c
      parseDigits base v cs

def trim (s : Str) : Str :=
  ((s.dropWhile isAsciiSpace).reverse.dropWhile isAsciiSpace).reverse

/-- `int(s, base)` for base 10 and 16; `none` is the `ValueError`. -/
def int (base : ℕ) (s : Str) : Option ℤ :=
  match trim (s.map toAscii) with
  | '-' :: cs => (parseNat base cs).map fun n : ℕ => -(n : ℤ)
  | '+' :: cs => (parseNat base cs).map fun n : ℕ => (n : ℤ)
  | cs => (parseNat base cs).map fun n : ℕ => (n : ℤ)

/-! ## Cutting a text at a mark -/

theorem append_cons_inj {α : Type} {a : α} {l l' r r' : List α} (hl : a ∉ l) (hl' : a ∉ l')
    (h : l ++ a :: r = l' ++ a :: r') : l = l' ∧ r = r' := by
  induction l generalizing l' with
  | nil =>
      cases l' with
      | nil => exact ⟨rfl, (List.cons.inj h).2⟩
      | cons b l' =>
          have hb : a = b := (List.cons.inj h).1
          exact absurd (by simp [hb]) hl'
  | cons b l ih =>
      cases l' with
      | nil =>
          have hb : b = a := (List.cons.inj h).1
          exact absurd (by simp [hb]) hl
      | cons b' l' =>
          obtain ⟨hb, hrest⟩ := List.cons.inj h
          obtain ⟨hll, hrr⟩ := ih (fun hmem => hl (by simp [hmem]))
            (fun hmem => hl' (by simp [hmem])) hrest
          exact ⟨by rw [hb, hll], hrr⟩

theorem mem_of_mem_intercalate {α : Type} {a b : α} {pieces : List (List α)}
    (h : a ∈ List.intercalate [b] pieces) : a = b ∨ ∃ piece ∈ pieces, a ∈ piece := by
  induction pieces with
  | nil => cases h
  | cons piece rest ih =>
      cases rest with
      | nil =>
          rw [List.intercalate_singleton] at h
          exact .inr ⟨piece, by simp, h⟩
      | cons next rest =>
          rw [List.intercalate_cons_cons] at h
          simp only [List.mem_append, List.mem_singleton] at h
          rcases h with (h | h) | h
          · exact .inr ⟨piece, by simp, h⟩
          · exact .inl h
          · obtain hb | ⟨piece', hpiece', ha⟩ := ih h
            · exact .inl hb
            · exact .inr ⟨piece', List.mem_cons_of_mem _ hpiece', ha⟩

theorem encodeUtf8_injective {s t : Str} (h : encodeUtf8 s = encodeUtf8 t) : s = t := by
  apply String.ofList_injective
  have hbytes : s.utf8Encode = t.utf8Encode := congrArg List.toByteArray h
  unfold String.ofList
  simp only [hbytes]

/-! ## The round trip of base 64 -/

theorem base64Value_base64Char {n : ℕ} (h : n < 64) :
    base64Value (base64Char n) = some n ∧ base64Char n ≠ '=' := by
  revert n
  decide

/-- One character of the alphabet: what the loop adds to the bytes, and how it goes on. -/
theorem b64decodeLoop_base64Char {n : ℕ} (h : n < 64) (cs : Str) (pads left : ℕ) :
    b64decodeLoop (base64Char n :: cs) 0 pads left = b64decodeLoop cs 1 0 n ∧
    b64decodeLoop (base64Char n :: cs) 1 pads left =
      (b64decodeLoop cs 2 0 (n % 16)).map (UInt8.ofNat (left * 4 + n / 16) :: ·) ∧
    b64decodeLoop (base64Char n :: cs) 2 pads left =
      (b64decodeLoop cs 3 0 (n % 4)).map (UInt8.ofNat (left * 16 + n / 4) :: ·) ∧
    b64decodeLoop (base64Char n :: cs) 3 pads left =
      (b64decodeLoop cs 0 0 0).map (UInt8.ofNat (left * 64 + n) :: ·) := by
  obtain ⟨hvalue, hne⟩ := base64Value_base64Char h
  simp [b64decodeLoop, hvalue, hne]

theorem ofNat_eq_of_toNat {b : UInt8} {n : ℕ} (h : n = b.toNat) : UInt8.ofNat n = b := by
  rw [h, UInt8.ofNat_toNat]

/-- Decoding an encoding returns the bytes. -/
theorem b64decode_base64 (data : Bytes) : b64decode (base64 data) = some data := by
  unfold b64decode
  fun_induction base64 data with
  | case1 => rfl
  | case2 a =>
      have ha := a.toNat_lt
      rw [(b64decodeLoop_base64Char (by omega) _ _ _).1,
        (b64decodeLoop_base64Char (by omega) _ _ _).2.1,
        ofNat_eq_of_toNat (b := a) (by omega)]
      rfl
  | case3 a b =>
      have ha := a.toNat_lt
      have hb := b.toNat_lt
      rw [(b64decodeLoop_base64Char (by omega) _ _ _).1,
        (b64decodeLoop_base64Char (by omega) _ _ _).2.1,
        (b64decodeLoop_base64Char (by omega) _ _ _).2.2.1,
        ofNat_eq_of_toNat (b := a) (by omega), ofNat_eq_of_toNat (b := b) (by omega)]
      rfl
  | case4 a b c rest ih =>
      have ha := a.toNat_lt
      have hb := b.toNat_lt
      have hc := c.toNat_lt
      rw [List.cons_append, List.cons_append, List.cons_append, List.cons_append, List.nil_append,
        (b64decodeLoop_base64Char (by omega) _ _ _).1,
        (b64decodeLoop_base64Char (by omega) _ _ _).2.1,
        (b64decodeLoop_base64Char (by omega) _ _ _).2.2.1,
        (b64decodeLoop_base64Char (by omega) _ _ _).2.2.2, ih,
        ofNat_eq_of_toNat (b := a) (by omega), ofNat_eq_of_toNat (b := b) (by omega),
        ofNat_eq_of_toNat (b := c) (by omega)]
      rfl
/-! ## Fixed-width hexadecimal texts -/

theorem hexFixedAux_length (width n : ℕ) (acc : Str) :
    (hexFixedAux width n acc).length = width + acc.length := by
  induction width generalizing n acc with
  | zero => simp [hexFixedAux]
  | succ width ih =>
      rw [hexFixedAux, ih, List.length_cons]
      omega

theorem hexFixed_length (width n : ℕ) : (hexFixed width n).length = width := by
  simp [hexFixed, hexFixedAux_length]

theorem isLowerHex_hexDigit {n : ℕ} (h : n < 16) : isLowerHex (hexDigit n) = true := by
  revert n
  decide

theorem isLowerHex_hexFixedAux (width n : ℕ) {acc : Str} (hacc : ∀ c ∈ acc, isLowerHex c = true) :
    ∀ c ∈ hexFixedAux width n acc, isLowerHex c = true := by
  induction width generalizing n acc with
  | zero => exact hacc
  | succ width ih =>
      apply ih
      intro c hc
      rcases List.mem_cons.mp hc with rfl | hc
      · exact isLowerHex_hexDigit (Nat.mod_lt n (by omega))
      · exact hacc c hc

theorem isLowerHex_hexFixed (width n : ℕ) : ∀ c ∈ hexFixed width n, isLowerHex c = true :=
  isLowerHex_hexFixedAux width n (by simp)

/-- The number that a hexadecimal text writes. -/
def hexNat (s : Str) : ℕ := s.foldl (fun n c => 16 * n + (hexValue c).getD 0) 0

theorem hexValue_hexDigit {n : ℕ} (h : n < 16) : hexValue (hexDigit n) = some n := by
  revert n
  decide

theorem foldl_hexFixedAux (width n m : ℕ) (acc : Str) :
    (hexFixedAux width n acc).foldl (fun n c => 16 * n + (hexValue c).getD 0) m =
      acc.foldl (fun n c => 16 * n + (hexValue c).getD 0) (m * 16 ^ width + n % 16 ^ width) := by
  induction width generalizing n acc with
  | zero => simp [hexFixedAux, Nat.mod_one]
  | succ width ih =>
      have hdigit := hexValue_hexDigit (n := n % 16) (by omega)
      have hmod : n % 16 ^ (width + 1) = n % 16 + 16 * (n / 16 % 16 ^ width) := by
        rw [Nat.pow_succ, Nat.mul_comm, Nat.mod_mul]
      have hvalue : 16 * (m * 16 ^ width + n / 16 % 16 ^ width) + n % 16 =
          m * 16 ^ (width + 1) + n % 16 ^ (width + 1) := by
        rw [hmod, Nat.pow_succ]
        ring
      rw [hexFixedAux, ih, List.foldl_cons, hdigit, Option.getD_some, hvalue]

theorem hexNat_hexFixed {width n : ℕ} (h : n < 16 ^ width) : hexNat (hexFixed width n) = n := by
  unfold hexNat hexFixed
  rw [foldl_hexFixedAux, List.foldl_nil, Nat.zero_mul, Nat.zero_add, Nat.mod_eq_of_lt h]

theorem hexValue_digitChar {d : ℕ} (h : d < 16) : hexValue d.digitChar = some d := by
  revert d
  decide

theorem hexNat_hex (n : ℕ) : hexNat (hex n) = n := by
  induction n using Nat.strongRecOn with
  | ind n ih =>
      unfold hex at ih ⊢
      rcases Nat.lt_or_ge n 16 with hlt | hge
      · rw [Nat.toDigits_of_lt_base hlt, hexNat, List.foldl_cons, List.foldl_nil,
          hexValue_digitChar hlt]
        simp
      · have hquotient := ih (n / 16) (by omega)
        unfold hexNat at hquotient ⊢
        rw [Nat.toDigits_of_base_le (by omega) hge, List.foldl_append, hquotient, List.foldl_cons,
          List.foldl_nil, hexValue_digitChar (by omega), Option.getD_some]
        omega

/-- Leading zeros do not change the number. -/
theorem hexNat_zfill (width : ℕ) (s : Str) : hexNat (zfill width s) = hexNat s := by
  have hzeros : ∀ k, (List.replicate k '0').foldl
      (fun n c => 16 * n + (hexValue c).getD 0) 0 = 0 := by
    intro k
    induction k with
    | zero => rfl
    | succ k ih => rw [List.replicate_succ, List.foldl_cons]; exact ih
  rw [hexNat, zfill, List.foldl_append, hzeros, hexNat]

/-! ## Lower-case hexadecimal texts are integers -/

theorem isLowerHex_iff {c : Char} :
    isLowerHex c = true ↔ (48 ≤ c.toNat ∧ c.toNat ≤ 57) ∨ (97 ≤ c.toNat ∧ c.toNat ≤ 102) := by
  simp [isLowerHex]

theorem toAscii_of_lowerHex {c : Char} (h : isLowerHex c = true) : toAscii c = c := by
  have hlt : c.toNat < 127 := by
    rcases isLowerHex_iff.mp h with h | h <;> omega
  simp [toAscii, hlt]

theorem isAsciiSpace_of_lowerHex {c : Char} (h : isLowerHex c = true) :
    isAsciiSpace c = false := by
  have := isLowerHex_iff.mp h
  simp only [isAsciiSpace, Bool.or_eq_false_iff, Bool.and_eq_false_iff, decide_eq_false_iff_not,
    beq_eq_false_iff_ne]
  omega

theorem digitValue_of_lowerHex {c : Char} (h : isLowerHex c = true) :
    ∃ v, digitValue 16 c = some v := by
  unfold digitValue hexValue
  rcases isLowerHex_iff.mp h with hc | hc
  · have hv : c.toNat - 48 < 16 := by omega
    exact ⟨c.toNat - 48, by simp [hc, Option.filter, hv]⟩
  · have hnot : ¬(48 ≤ c.toNat ∧ c.toNat ≤ 57) := by omega
    have hv : c.toNat - 87 < 16 := by omega
    exact ⟨c.toNat - 87, by simp [hc, hnot, Option.filter, hv]⟩

theorem ne_of_lowerHex {c d : Char} (h : isLowerHex c = true) (hd : isLowerHex d = false) :
    c ≠ d := by
  rintro rfl
  rw [h] at hd
  cases hd

theorem parseDigits_of_lowerHex {s : Str} (h : ∀ c ∈ s, isLowerHex c = true) (acc : ℕ) :
    (parseDigits 16 acc s).isSome := by
  induction s generalizing acc with
  | nil => rfl
  | cons c cs ih =>
      have hc := h c (by simp)
      have hne : c ≠ '_' := ne_of_lowerHex hc (by decide)
      obtain ⟨v, hv⟩ := digitValue_of_lowerHex hc
      rw [parseDigits.eq_3 16 acc c cs (fun c' cs' h' _ => hne h'), hv]
      exact ih (fun c' hc' => h c' (by simp [hc'])) _

theorem dropHexMark_of_lowerHex {s : Str} (h : ∀ c ∈ s, isLowerHex c = true) :
    dropHexMark s = s := by
  unfold dropHexMark
  split
  all_goals first
    | rfl
    | (exfalso
       have hx := h _ (List.mem_cons_of_mem _ List.mem_cons_self)
       revert hx
       decide)

theorem dropWhile_space_of_lowerHex {s : Str} (h : ∀ c ∈ s, isLowerHex c = true) :
    s.dropWhile isAsciiSpace = s := by
  cases s with
  | nil => rfl
  | cons c cs => simp [isAsciiSpace_of_lowerHex (h c (by simp))]

/-- There is nothing to rewrite or to trim in a hexadecimal text. -/
theorem trim_map_of_lowerHex {s : Str} (h : ∀ c ∈ s, isLowerHex c = true) :
    trim (s.map toAscii) = s := by
  have hmap : s.map toAscii = s := by
    conv_rhs => rw [← List.map_id s]
    exact List.map_congr_left fun c hc => toAscii_of_lowerHex (h c hc)
  have hrev : ∀ c ∈ s.reverse, isLowerHex c = true := fun c hc => h c (List.mem_reverse.mp hc)
  unfold trim
  rw [hmap, dropWhile_space_of_lowerHex h, dropWhile_space_of_lowerHex hrev, List.reverse_reverse]

theorem int_isSome_of_lowerHex {s : Str} (hne : s ≠ []) (h : ∀ c ∈ s, isLowerHex c = true) :
    (int 16 s).isSome := by
  obtain ⟨c, cs, rfl⟩ := List.exists_cons_of_ne_nil hne
  have hc := h c (by simp)
  obtain ⟨v, hv⟩ := digitValue_of_lowerHex hc
  have hdigits := parseDigits_of_lowerHex (fun c' hc' => h c' (by simp [hc'])) v (s := cs)
  have hparse : (parseNat 16 (c :: cs)).isSome := by
    unfold parseNat
    rw [if_pos rfl, dropHexMark_of_lowerHex h]
    simpa [hv] using hdigits
  unfold int
  rw [trim_map_of_lowerHex h]
  have hminus : c ≠ '-' := ne_of_lowerHex hc (by decide)
  have hplus : c ≠ '+' := ne_of_lowerHex hc (by decide)
  split
  · simp_all
  · simp_all
  · simpa using hparse

/-! ## Decimal texts -/

theorem isDigit_iff {c : Char} : c.isDigit = true ↔ 48 ≤ c.toNat ∧ c.toNat ≤ 57 := by
  simp only [Char.isDigit, ge_iff_le, Bool.and_eq_true, decide_eq_true_eq]
  exact Iff.rfl

theorem isLowerHex_of_isDigit {c : Char} (h : c.isDigit = true) : isLowerHex c = true :=
  isLowerHex_iff.mpr (Or.inl (isDigit_iff.mp h))

theorem digitValue_of_isDigit {c : Char} (h : c.isDigit = true) :
    digitValue 10 c = some (c.toNat - 48) := by
  have hc := isDigit_iff.mp h
  have hv : c.toNat - 48 < 10 := by omega
  simp [digitValue, hexValue, hc, Option.filter, hv]

theorem parseDigits_of_isDigit {s : Str} (h : ∀ c ∈ s, c.isDigit = true) (acc : ℕ) :
    parseDigits 10 acc s = some (Nat.ofDigitChars 10 s acc) := by
  induction s generalizing acc with
  | nil => simp [parseDigits]
  | cons c cs ih =>
      have hc := h c (by simp)
      have hne : c ≠ '_' := ne_of_lowerHex (isLowerHex_of_isDigit hc) (by decide)
      rw [parseDigits.eq_3 10 acc c cs (fun c' cs' h' _ => hne h'), digitValue_of_isDigit hc,
        Option.bind_eq_bind, Option.bind_some, ih (fun c' hc' => h c' (by simp [hc'])),
        Nat.ofDigitChars_cons, Nat.mul_comm]
      rfl

theorem parseNat_of_isDigit {s : Str} (hne : s ≠ []) (h : ∀ c ∈ s, c.isDigit = true) :
    parseNat 10 s = some (Nat.ofDigitChars 10 s 0) := by
  obtain ⟨c, cs, rfl⟩ := List.exists_cons_of_ne_nil hne
  have hdigits := parseDigits_of_isDigit (fun c' hc' => h c' (by simp [hc']))
    (c.toNat - 48) (s := cs)
  simp [parseNat, digitValue_of_isDigit (h c (by simp)), hdigits, Nat.ofDigitChars_cons]

/-- `int` reads a text of ASCII digits. -/
theorem int_of_isDigit {s : Str} (hne : s ≠ []) (h : ∀ c ∈ s, c.isDigit = true) :
    int 10 s = some ((Nat.ofDigitChars 10 s 0 : ℕ) : ℤ) := by
  have hhex : ∀ c ∈ s, isLowerHex c = true := fun c hc => isLowerHex_of_isDigit (h c hc)
  have hparse := parseNat_of_isDigit hne h
  unfold int
  rw [trim_map_of_lowerHex hhex]
  obtain ⟨c, cs, rfl⟩ := List.exists_cons_of_ne_nil hne
  have hminus : c ≠ '-' := ne_of_lowerHex (hhex c (by simp)) (by decide)
  have hplus : c ≠ '+' := ne_of_lowerHex (hhex c (by simp)) (by decide)
  split
  · simp_all
  · simp_all
  · simp [hparse]

theorem int_toDigits (n : ℕ) : int 10 (Nat.toDigits 10 n) = some (n : ℤ) := by
  have hdigits : ∀ c ∈ Nat.toDigits 10 n, c.isDigit = true := fun c hc =>
    Nat.isDigit_of_mem_toDigits (by omega) (by omega) hc
  rw [int_of_isDigit Nat.toDigits_ne_nil hdigits, Nat.ofDigitChars_ten_toDigits]

/-- The digits of ASCII are the decimal ones. -/
theorem isDigitChar_of_lt {c : Char} (h : c.toNat < 128) : isDigitChar c = c.isDigit := by
  have hall : ∀ n < 128, isDigitChar (Char.ofNat n) = (Char.ofNat n).isDigit := by decide +kernel
  have hc := hall c.toNat h
  rwa [Char.ofNat_toNat] at hc

theorem isDigit_eq_true {s : Str} :
    isDigit s = true ↔ s ≠ [] ∧ ∀ c ∈ s, isDigitChar c = true := by
  simp [isDigit]

/-- No digit is whitespace. -/
theorem isDigitChar_of_isSpace {c : Char} (h : isSpace c = true) : isDigitChar c = false := by
  have hall : ∀ r ∈ spaces, ∀ n ∈ List.range' r.1 (r.2 + 1 - r.1),
      isDigitChar (Char.ofNat n) = false := by decide +kernel
  simp only [isSpace, inRanges, List.any_eq_true, Bool.and_eq_true, decide_eq_true_eq] at h
  obtain ⟨r, hr, hlow, hhigh⟩ := h
  have hmem : c.toNat ∈ List.range' r.1 (r.2 + 1 - r.1) := by
    rw [List.mem_range'_1]
    omega
  have hc := hall r hr c.toNat hmem
  rwa [Char.ofNat_toNat] at hc

theorem isBlank_of_isDigit {s : Str} (h : isDigit s = true) : isBlank s = false := by
  obtain ⟨hne, hall⟩ := isDigit_eq_true.mp h
  obtain ⟨c, cs, rfl⟩ := List.exists_cons_of_ne_nil hne
  have hc : isSpace c = false := by
    have hdigit := hall c (by simp)
    cases hspace : isSpace c with
    | false => rfl
    | true => simp [isDigitChar_of_isSpace hspace] at hdigit
  simp [isBlank, hc]

theorem isSpace_of_lowerHex {c : Char} (h : isLowerHex c = true) : isSpace c = false := by
  have hall : ∀ n < 128, isLowerHex (Char.ofNat n) = true → isSpace (Char.ofNat n) = false := by
    decide +kernel
  have hascii : c.toNat < 128 := by
    have hc := isLowerHex_iff.mp h
    omega
  have hc := hall c.toNat hascii
  rw [Char.ofNat_toNat] at hc
  exact hc h

theorem isDigit_toDigits (n : ℕ) : isDigit (Nat.toDigits 10 n) = true := by
  refine isDigit_eq_true.mpr ⟨Nat.toDigits_ne_nil, fun c hc => ?_⟩
  have hdigit : c.isDigit = true := Nat.isDigit_of_mem_toDigits (by omega) (by omega) hc
  have hascii := isDigit_iff.mp hdigit
  rw [isDigitChar_of_lt (by omega), hdigit]

/-! ## Texts of base 64 -/

theorem base64Char_ascii {n : ℕ} (h : n < 64) :
    (base64Char n).toNat < 128 ∧ isSpace (base64Char n) = false := by
  revert n
  decide +kernel

theorem base64_ascii (data : Bytes) :
    ∀ c ∈ base64 data, c.toNat < 128 ∧ isSpace c = false := by
  have hpad : '='.toNat < 128 ∧ isSpace '=' = false := by decide
  fun_induction base64 data with
  | case1 => simp
  | case2 a =>
      have ha := a.toNat_lt
      simp only [List.forall_mem_cons, List.not_mem_nil, false_implies, implies_true, and_true]
      exact ⟨base64Char_ascii (by omega), base64Char_ascii (by omega), hpad, hpad⟩
  | case3 a b =>
      have ha := a.toNat_lt
      have hb := b.toNat_lt
      simp only [List.forall_mem_cons, List.not_mem_nil, false_implies, implies_true, and_true]
      exact ⟨base64Char_ascii (by omega), base64Char_ascii (by omega),
        base64Char_ascii (by omega), hpad⟩
  | case4 a b c rest ih =>
      have ha := a.toNat_lt
      have hb := b.toNat_lt
      have hc := c.toNat_lt
      simp only [List.cons_append, List.nil_append, List.forall_mem_cons]
      exact ⟨base64Char_ascii (by omega), base64Char_ascii (by omega),
        base64Char_ascii (by omega), base64Char_ascii (by omega), ih⟩

theorem base64_eq_nil_iff {data : Bytes} : base64 data = [] ↔ data = [] := by
  fun_cases base64 data <;> simp

theorem isBlank_base64 (data : Bytes) : isBlank (base64 data) = true ↔ data = [] := by
  rw [← base64_eq_nil_iff]
  cases htext : base64 data with
  | nil => simp [isBlank]
  | cons c cs =>
      have hc := (base64_ascii data c (by simp [htext])).2
      simp [isBlank, hc]

/-- A base 64 text of digits is a number. -/
theorem isSome_int_base64 {data : Bytes} (h : isDigit (base64 data) = true) :
    (int 10 (base64 data)).isSome := by
  obtain ⟨hne, hall⟩ := isDigit_eq_true.mp h
  have hdigits : ∀ c ∈ base64 data, c.isDigit = true := by
    intro c hc
    rw [← isDigitChar_of_lt (base64_ascii data c hc).1]
    exact hall c hc
  rw [int_of_isDigit hne hdigits]
  rfl

end Text

end Remme.Lib
