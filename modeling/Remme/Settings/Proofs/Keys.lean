import Remme.Tp.Script
/-!
# Addresses of settings

A settings address is made of four short hashes, one for each part of the key
up to its third dot, and empty parts where the key has fewer.  Keys with the
same parts share their address, so a reader has to look for its own key among
the entries there.
-/

namespace Remme.Settings

open Remme.Lib Remme.Protos Remme.Shared Remme.Tp

variable {B : Type} {π : Platform B} {key k₁ k₂ : Str} {parts parts₁ parts₂ : List Str}

/-! ## Parts of a key -/

/-- The parts of a key, with empty ones up to four. -/
def padParts (parts : List Str) : List Str :=
  parts ++ List.replicate (maxKeyParts - parts.length) []

variable (π) in
/-- The first digits of the SHA-256 of a part. -/
def shortHash (part : Str) : Str := (toHash π part).take addressPartSize

theorem length_padParts (hparts : Text.CutAt '.' 3 key parts) :
    (padParts parts).length = maxKeyParts := by
  have hle := hparts.length_le
  rw [padParts, List.length_append, List.length_replicate, maxKeyParts]
  omega

theorem mem_padParts {x : Str} (hx : x ∈ padParts parts) : x ∈ [] :: parts := by
  rcases List.mem_append.mp hx with hx | hx
  · exact List.mem_cons_of_mem _ hx
  · rw [(List.mem_replicate.mp hx).2]
    exact List.mem_cons_self

theorem makeSettingsKey_eq (hparts : Text.CutAt '.' 3 key parts) :
    makeSettingsKey π key = settingsNamespace ++ (padParts parts).flatMap (shortHash π) := by
  have hmap : (padParts parts).map (shortHash π) = parts.map (shortHash π) ++
      List.replicate (maxKeyParts - (parts.map (shortHash π)).length) (shortHash π []) := by
    rw [padParts, List.map_append, List.map_replicate, List.length_map]
  rw [List.flatMap_def, hmap, hparts.eq_splitMax]
  rfl

/-! ## Addresses -/

/-- `hexdigest` writes the 32 bytes of a digest as 64 digits. -/
def IsHexDigest (digest : Bytes → Str) : Prop :=
  ∀ d, (digest d).length = 64 ∧ ∀ c ∈ digest d, Text.isLowerHex c = true

theorem length_shortHash (hsha256 : IsHexDigest π.sha256) (part : Str) :
    (shortHash π part).length = addressPartSize := by
  rw [shortHash, List.length_take, toHash, (hsha256 _).1]
  rfl

theorem makeSettingsKey_length (hsha256 : IsHexDigest π.sha256) (key : Str) :
    (makeSettingsKey π key).length = 70 := by
  have hparts := Text.cutAt_splitMax '.' 3 key
  have hnamespace : settingsNamespace.length = 6 := rfl
  have hblocks : ((padParts (Text.splitMax '.' 3 key)).map fun x => (shortHash π x).length).sum =
      maxKeyParts * addressPartSize := by
    simp only [length_shortHash hsha256, List.map_const', List.sum_replicate_nat,
      length_padParts hparts]
  rw [makeSettingsKey_eq hparts, List.length_append, List.length_flatMap, hblocks, hnamespace]
  rfl

theorem makeSettingsKey_hex (hsha256 : IsHexDigest π.sha256) (key : Str) :
    ∀ c ∈ makeSettingsKey π key, Text.isLowerHex c = true := by
  intro c hc
  rw [makeSettingsKey_eq (Text.cutAt_splitMax '.' 3 key), List.mem_append] at hc
  rcases hc with hc | hc
  · exact List.all_eq_true.mp (by decide : settingsNamespace.all Text.isLowerHex = true) c hc
  · obtain ⟨part, -, hpart⟩ := List.mem_flatMap.mp hc
    exact (hsha256 _).2 c (List.mem_of_mem_take hpart)

/-- Blocks of one length can be told apart in their concatenation. -/
theorem eq_of_flatMap_eq {α β : Type} {f : α → List β} {n : ℕ} (hf : ∀ x, (f x).length = n)
    {l l' : List α} (hlength : l.length = l'.length)
    (hinj : ∀ x ∈ l, ∀ y ∈ l', f x = f y → x = y) (h : l.flatMap f = l'.flatMap f) : l = l' := by
  induction l generalizing l' with
  | nil => rw [List.length_eq_zero_iff.mp hlength.symm]
  | cons x l ih =>
      cases l' with
      | nil => cases hlength
      | cons y l' =>
          rw [List.flatMap_cons, List.flatMap_cons] at h
          obtain ⟨hhead, htail⟩ := List.append_inj h ((hf x).trans (hf y).symm)
          have hxy : x = y := hinj x (by simp) y (by simp) hhead
          have hrest := ih (by simpa using hlength)
            (fun x' hx' y' hy' => hinj x' (by simp [hx']) y' (by simp [hy'])) htail
          rw [hxy, hrest]

theorem makeSettingsKey_eq_iff (hsha256 : IsHexDigest π.sha256)
    (hparts₁ : Text.CutAt '.' 3 k₁ parts₁) (hparts₂ : Text.CutAt '.' 3 k₂ parts₂)
    (hinj : ∀ x ∈ [] :: parts₁, ∀ y ∈ [] :: parts₂, shortHash π x = shortHash π y → x = y) :
    makeSettingsKey π k₁ = makeSettingsKey π k₂ ↔ padParts parts₁ = padParts parts₂ := by
  rw [makeSettingsKey_eq hparts₁, makeSettingsKey_eq hparts₂, List.append_cancel_left_eq]
  constructor
  · intro h
    refine eq_of_flatMap_eq (length_shortHash hsha256) ?_ ?_ h
    · rw [length_padParts hparts₁, length_padParts hparts₂]
    · intro x hx y hy
      exact hinj x (mem_padParts hx) y (mem_padParts hy)
  · intro h
    rw [h]

/-! ## Entries -/

/-- The value of the first entry with the key, or the default. -/
structure ReadsFirst (key : Str) (entries : List SettingEntry) (defaultValue result : Option Str) :
    Prop where
  found : ∀ before entry after, entries = before ++ entry :: after → entry.key = key →
    (∀ e ∈ before, e.key ≠ key) → result = some entry.value
  absent : (∀ e ∈ entries, e.key ≠ key) → result = defaultValue

theorem readsFirst_find? (key : Str) (entries : List SettingEntry) (defaultValue : Option Str) :
    ReadsFirst key entries defaultValue
      (((entries.find? fun entry => key = entry.key).map (·.value)).or defaultValue) := by
  constructor
  · intro before entry after hentries hkey hbefore
    have hfind : entries.find? (fun entry => key = entry.key) = some entry := by
      rw [List.find?_eq_some_iff_append]
      refine ⟨by simp [hkey], before, after, hentries, fun e he => ?_⟩
      simpa using (hbefore e he).symm
    rw [hfind]
    rfl
  · intro hnone
    have hfind : entries.find? (fun entry => key = entry.key) = none := by
      rw [List.find?_eq_none]
      intro e he
      simpa using (hnone e he).symm
    rw [hfind]
    rfl

/-- A settings address has 70 hexadecimal digits and names its key up to the padding of its
parts; a read of it finds the entry of the key among those of others. -/
theorem settings_addressing (hsha256 : IsHexDigest π.sha256)
    (hparts₁ : Text.CutAt '.' 3 k₁ parts₁) (hparts₂ : Text.CutAt '.' 3 k₂ parts₂)
    (hinj : ∀ x ∈ [] :: parts₁, ∀ y ∈ [] :: parts₂, shortHash π x = shortHash π y → x = y) :
    (settingsNamespace <+: makeSettingsKey π k₁ ∧ (makeSettingsKey π k₁).length = 70 ∧
      ∀ c ∈ makeSettingsKey π k₁, Text.isLowerHex c = true) ∧
    (makeSettingsKey π k₁ = makeSettingsKey π k₂ ↔ padParts parts₁ = padParts parts₂) ∧
    ∀ (ctx : Str → Option B) (data : B) (setting : Setting) (defaultValue : Option Str),
      ctx (makeSettingsKey π k₁) = some data → π.pb.setting.parseFromString data = some setting →
        ∃ result, (getSettingValue π k₁ defaultValue).run ctx = .ok result ∧
          ReadsFirst k₁ setting.entries defaultValue result := by
  refine ⟨⟨List.prefix_append _ _, makeSettingsKey_length hsha256 k₁,
    makeSettingsKey_hex hsha256 k₁⟩, makeSettingsKey_eq_iff hsha256 hparts₁ hparts₂ hinj, ?_⟩
  intro ctx data setting defaultValue hdata hsetting
  refine ⟨_, rfl, ?_⟩
  rw [hdata, Option.bind_some, hsetting]
  exact readsFirst_find? k₁ setting.entries defaultValue

open Tp.Sample in
/-- Two keys with the parts of one, the second with a dot at its end. -/
theorem settings_addressing_trailingDot :
    makeSettingsKey platform "remme.economy_enabled".toList =
      makeSettingsKey platform "remme.economy_enabled.".toList := by
  have hsha256 : IsHexDigest platform.sha256 := fun d =>
    ⟨Text.hexFixed_length _ _, Text.isLowerHex_hexFixed _ _⟩
  have haddressing := settings_addressing hsha256
    (Text.cutAt_splitMax '.' 3 "remme.economy_enabled".toList)
    (Text.cutAt_splitMax '.' 3 "remme.economy_enabled.".toList) (by decide +kernel)
  exact haddressing.2.1.mpr (by decide +kernel)

end Remme.Settings
