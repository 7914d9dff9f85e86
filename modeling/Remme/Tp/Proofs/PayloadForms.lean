import Remme.Tp.Apply
/-!
# What the payload forms accept

A form should judge the payload that was sent: required fields are filled,
numbers are not zero, addresses and identifiers have their shape.  It judges
the re-typed payload instead.  A text of digits is compared as a number, so
`Regexp` raises on one, `DataRequired` refuses one that reads as zero, and the
re-typing itself raises on digits that `int` does not read.  The payloads
judged as they were sent are those without such a text where it matters.
-/

namespace Remme.Tp

open Remme.Lib Remme.Protos Remme.Shared Remme.Shared.Forms

/-! ## One field -/

/-- A leaf is re-typed, then its validators run. -/
def checkField (validators : List Validator) (data : FieldData) :
    Except PyError (List String) :=
  genLoad data >>= runValidators validators

/-- The re-typing does not raise. -/
def Readable (s : Str) : Prop := Text.isDigit s = true → (Text.int 10 s).isSome

/-- `Regexp` is not reached with a number: a zero stops at `DataRequired`. -/
def ReadableByRegexp (s : Str) : Prop := Text.isDigit s = true → Text.int 10 s = some 0

/-- The text is taken for the number zero. -/
def ReadsAsZero (s : Str) : Prop := Text.isDigit s = true ∧ Text.int 10 s = some 0

/-- A text stays a text, raises, or becomes a number. -/
theorem genLoad_text (s : Str) :
    (Text.isDigit s = false ∧ genLoad (.text s) = .ok (.text s)) ∨
    (Text.isDigit s = true ∧ Text.int 10 s = none ∧ genLoad (.text s) = .error .valueError) ∨
    ∃ n, Text.isDigit s = true ∧ Text.int 10 s = some n ∧ genLoad (.text s) = .ok (.int n) := by
  cases hdigit : Text.isDigit s with
  | false => exact Or.inl ⟨rfl, by simp [genLoad, hdigit]⟩
  | true =>
      cases hint : Text.int 10 s with
      | none => exact Or.inr (Or.inl ⟨rfl, rfl, by simp [genLoad, hdigit, hint]⟩)
      | some n => exact Or.inr (Or.inr ⟨n, rfl, rfl, by simp [genLoad, hdigit, hint]⟩)

theorem matchHex_isBlank {n : ℕ} (hn : 0 < n) {s : Str} (h : matchHex n s = true) :
    Text.isBlank s = false := by
  simp only [matchHex, Bool.and_eq_true, decide_eq_true_eq] at h
  obtain ⟨hlength, hall⟩ := h
  cases s with
  | nil =>
      have hzero : n ≤ 0 := hlength
      omega
  | cons c cs =>
      obtain ⟨m, rfl⟩ : ∃ m, n = m + 1 := ⟨n - 1, by omega⟩
      have hc : Text.isLowerHex c = true := by simp_all
      simp [Text.isBlank, Text.isSpace_of_lowerHex hc]

/-- What `DataRequired` alone does with a text. -/
theorem checkField_required (message : String) (s : Str) :
    ((∃ ms, checkField [.dataRequired message] (.text s) = .ok ms) ↔ Readable s) ∧
    (checkField [.dataRequired message] (.text s) = .ok [] ↔
      Readable s ∧ Text.isBlank s = false ∧ ¬ReadsAsZero s) := by
  unfold checkField Readable ReadsAsZero
  obtain ⟨hdigit, hload⟩ | ⟨hdigit, hint, hload⟩ | ⟨n, hdigit, hint, hload⟩ := genLoad_text s
  · rw [hload]
    cases hblank : Text.isBlank s <;>
      simp [runValidators, dataMissing, hdigit, hblank, bind, Except.bind]
  · simp [hload, hdigit, hint, bind, Except.bind]
  · rw [hload]
    have hblank := Text.isBlank_of_isDigit hdigit
    by_cases hn : n = 0 <;>
      simp [runValidators, dataMissing, hdigit, hint, hn, hblank, bind, Except.bind]

/-- What `DataRequired` and `Regexp` do with a text. -/
theorem checkField_pattern (message message' : String) {n : ℕ} (hn : 0 < n) (s : Str) :
    ((∃ ms, checkField [.dataRequired message, .regexp n message'] (.text s) = .ok ms) ↔
      ReadableByRegexp s) ∧
    (checkField [.dataRequired message, .regexp n message'] (.text s) = .ok [] ↔
      ReadableByRegexp s ∧ matchHex n s = true ∧ ¬ReadsAsZero s) := by
  unfold checkField ReadableByRegexp ReadsAsZero
  obtain ⟨hdigit, hload⟩ | ⟨hdigit, hint, hload⟩ | ⟨k, hdigit, hint, hload⟩ := genLoad_text s
  · rw [hload]
    cases hmatch : matchHex n s with
    | false =>
        cases hblank : Text.isBlank s <;>
          simp [runValidators, dataMissing, hdigit, hblank, hmatch, bind, Except.bind, pure,
            Except.pure]
    | true =>
        have hblank := matchHex_isBlank hn hmatch
        simp [runValidators, dataMissing, hdigit, hblank, hmatch, bind, Except.bind, pure,
          Except.pure]
  · simp [hload, hdigit, hint, bind, Except.bind]
  · rw [hload]
    by_cases hk : k = 0 <;>
      simp [runValidators, dataMissing, hdigit, hint, hk, bind, Except.bind]

/-- `Optional` accepts whatever the re-typing returns. -/
theorem checkField_optional (s : Str) :
    ((∃ ms, checkField [.optional] (.text s) = .ok ms) ↔ Readable s) ∧
    (checkField [.optional] (.text s) = .ok [] ↔ Readable s) := by
  unfold checkField Readable
  obtain ⟨hdigit, hload⟩ | ⟨hdigit, hint, hload⟩ | ⟨k, hdigit, hint, hload⟩ := genLoad_text s
  · simp [hload, hdigit, runValidators, bind, Except.bind]
  · simp [hload, hdigit, hint, bind, Except.bind]
  · simp [hload, hdigit, hint, runValidators, bind, Except.bind]

theorem readable_base64 (b : Bytes) : Readable (Text.base64 b) := Text.isSome_int_base64

theorem checkField_bytes (message : String) (b : Bytes) :
    (∃ ms, checkField [.dataRequired message] (bytesData b) = .ok ms) ∧
    (checkField [.dataRequired message] (bytesData b) = .ok [] ↔
      b ≠ [] ∧ ¬ReadsAsZero (Text.base64 b)) := by
  have hspec := checkField_required message (Text.base64 b)
  have hblank : Text.isBlank (Text.base64 b) = false ↔ b ≠ [] := by
    rw [ne_eq, ← Text.isBlank_base64, Bool.not_eq_true]
  refine ⟨hspec.1.mpr (readable_base64 b), hspec.2.trans ?_⟩
  rw [hblank]
  exact and_iff_right (readable_base64 b)

theorem checkField_uint64 (message : String) (n : UInt64) :
    checkField [.dataRequired message] (uint64Data n) =
      .ok (if n = 0 then [message] else []) := by
  have hload : genLoad (uint64Data n) = .ok (.int n.toNat) := by
    simp [genLoad, uint64Data, Text.isDigit_toDigits, Text.int_toDigits]
  have hzero : (n.toNat : ℤ) = 0 ↔ n = 0 := by
    rw [← UInt64.toNat_inj]
    simp
  simp only [checkField, hload, bind, Except.bind, runValidators, dataMissing, hzero]
  split <;> simp_all

theorem checkField_uint32 (message : String) (n : UInt32) :
    checkField [.dataRequired message] (uint32Data n) =
      .ok (if n = 0 then [message] else []) := by
  have hzero : (n.toNat : ℤ) = 0 ↔ n = 0 := by
    rw [← UInt32.toNat_inj]
    simp
  simp only [checkField, genLoad, uint32Data, bind, Except.bind, runValidators, dataMissing, hzero]
  split <;> simp_all

/-! ## A form -/

theorem fieldErrors_cons (field : Field) (fields : List Field) :
    ((∃ errors, fieldErrors (field :: fields) = .ok errors) ↔
      (∃ ms, checkField field.validators field.data = .ok ms) ∧
        ∃ errors, fieldErrors fields = .ok errors) ∧
    (fieldErrors (field :: fields) = .ok [] ↔
      checkField field.validators field.data = .ok [] ∧ fieldErrors fields = .ok []) := by
  unfold fieldErrors checkField
  simp only [loadFields]
  cases hload : genLoad field.data with
  | error err => simp [bind, Except.bind]
  | ok data =>
      cases hrest : loadFields fields with
      | error err => simp [bind, Except.bind]
      | ok loaded =>
          simp only [bind, Except.bind, pure, Except.pure, loadedErrors]
          cases runValidators field.validators data with
          | error err => simp
          | ok messages =>
              cases loadedErrors loaded with
              | error err => simp
              | ok errors => cases messages <;> simp

/-- A form returns if every field's check does, and has no errors if none of them has. -/
theorem fieldErrors_iff (fields : List Field) :
    ((∃ errors, fieldErrors fields = .ok errors) ↔
      ∀ field ∈ fields, ∃ ms, checkField field.validators field.data = .ok ms) ∧
    (fieldErrors fields = .ok [] ↔
      ∀ field ∈ fields, checkField field.validators field.data = .ok []) := by
  induction fields with
  | nil => simp [fieldErrors, loadFields, loadedErrors, bind, Except.bind]
  | cons field fields ih =>
      have hcons := fieldErrors_cons field fields
      simp only [List.forall_mem_cons]
      exact ⟨by rw [hcons.1, ih.1], by rw [hcons.2, ih.2]⟩

theorem validateFields_iff (fields : List Field) :
    ((∃ result, validateFields fields = .ok result) ↔
      ∀ field ∈ fields, ∃ ms, checkField field.validators field.data = .ok ms) ∧
    ((∃ result, validateFields fields = .ok result ∧ result.isValid = true) ↔
      ∀ field ∈ fields, checkField field.validators field.data = .ok []) := by
  rw [← (fieldErrors_iff fields).1, ← (fieldErrors_iff fields).2]
  unfold validateFields
  cases fieldErrors fields with
  | error err => simp [bind, Except.bind]
  | ok errors => simp [bind, Except.bind, pure, Except.pure]

/-! ## The public key form -/

/-- The errors of a configuration that is set: its key is required, its choice declared. -/
theorem configurationErrors_some (name : String) (key : Bytes)
    (choice : List (String × FormErrors)) :
    ∃ errors, configurationErrors name (some key) choice = .ok errors ∧
      (errors = [] ↔ (key ≠ [] ∧ ¬ReadsAsZero (Text.base64 key)) ∧ choice = []) := by
  have hcheck := checkField_bytes required key
  have hform := fieldErrors_iff [⟨"key", requiredField, bytesData key⟩]
  simp only [List.forall_mem_singleton, requiredField] at hform
  obtain ⟨keyErrors, hkey⟩ := hform.1.mpr hcheck.1
  have hnil : keyErrors = [] ↔ key ≠ [] ∧ ¬ReadsAsZero (Text.base64 key) := by
    rw [← hcheck.2, ← hform.2, hkey, Except.ok.injEq]
  refine ⟨nestedErrors name (keyErrors ++ choice), ?_, ?_⟩
  · simp [configurationErrors, requiredField, hkey, bind, Except.bind, pure, Except.pure]
  · rw [← hnil, ← List.append_eq_nil_iff]
    cases keyErrors ++ choice <;> simp [nestedErrors]

/-- A configuration that is not set has errors. -/
theorem configurationErrors_none (name : String) (choice : List (String × FormErrors)) :
    ∃ errors, configurationErrors name none choice = .ok errors ∧ errors ≠ [] := by
  refine ⟨_, rfl, ?_⟩
  simp [nestedErrors]

theorem selectErrors_eq_nil {name : String} {declared : Bool} :
    selectErrors name declared = [] ↔ declared = true := by
  cases declared <;> simp [selectErrors]

/-- The enumeration of a configuration holds a declared value. -/
def ConfigurationDeclared : Configuration → Prop
  | .rsa _ padding => Padding.isDeclared padding = true
  | .ecdsa _ ec => EllipticCurve.isDeclared ec = true
  | .ed25519 _ => True

/-- One of the three configuration forms has no errors exactly if a configuration is set and its
key passes. -/
theorem configuration_forms (configuration : Option Configuration)
    (hdeclared : ∀ c ∈ configuration, ConfigurationDeclared c) :
    ∃ rsa ecdsa ed25519, rsaErrors configuration = .ok rsa ∧
      ecdsaErrors configuration = .ok ecdsa ∧ ed25519Errors configuration = .ok ed25519 ∧
      ((rsa = [] ∨ ecdsa = [] ∨ ed25519 = []) ↔
        ∃ c, configuration = some c ∧ c.key ≠ [] ∧ ¬ReadsAsZero (Text.base64 c.key)) := by
  obtain ⟨noRsa, hnoRsa, hrsaNe⟩ := configurationErrors_none "rsa" (selectErrors "padding" false)
  obtain ⟨noEcdsa, hnoEcdsa, hecdsaNe⟩ :=
    configurationErrors_none "ecdsa" (selectErrors "ec" false)
  obtain ⟨noEd, hnoEd, hedNe⟩ := configurationErrors_none "ed25519" []
  cases configuration with
  | none => exact ⟨noRsa, noEcdsa, noEd, hnoRsa, hnoEcdsa, hnoEd, by simp [hrsaNe, hecdsaNe, hedNe]⟩
  | some c =>
      cases c with
      | rsa key padding =>
          have hc : Padding.isDeclared padding = true := hdeclared _ rfl
          obtain ⟨errors, herrors, hnil⟩ := configurationErrors_some "rsa" key
            (selectErrors "padding" (Padding.isDeclared padding))
          rw [selectErrors_eq_nil, and_iff_left hc] at hnil
          exact ⟨errors, noEcdsa, noEd, herrors, hnoEcdsa, hnoEd,
            by simp [hecdsaNe, hedNe, hnil, Configuration.key]⟩
      | ecdsa key ec =>
          have hc : EllipticCurve.isDeclared ec = true := hdeclared _ rfl
          obtain ⟨errors, herrors, hnil⟩ := configurationErrors_some "ecdsa" key
            (selectErrors "ec" (EllipticCurve.isDeclared ec))
          rw [selectErrors_eq_nil, and_iff_left hc] at hnil
          exact ⟨noRsa, errors, noEd, hnoRsa, herrors, hnoEd,
            by simp [hrsaNe, hedNe, hnil, Configuration.key]⟩
      | ed25519 key =>
          obtain ⟨errors, herrors, hnil⟩ := configurationErrors_some "ed25519" key []
          rw [and_iff_left rfl] at hnil
          exact ⟨noRsa, noEcdsa, errors, hnoRsa, hnoEcdsa, herrors,
            by simp [hrsaNe, hecdsaNe, hnil, Configuration.key]⟩

/-- The four fields of a key payload besides its choices and its configuration. -/
theorem keyFields_iff (pb : NewPubKeyPayload) :
    ∃ errors, fieldErrors
        [⟨"entity_hash", requiredField, bytesData pb.entityHash⟩,
         ⟨"entity_hash_signature", requiredField, bytesData pb.entityHashSignature⟩,
         ⟨"valid_from", requiredField, uint32Data pb.validFrom⟩,
         ⟨"valid_to", requiredField, uint32Data pb.validTo⟩] = .ok errors ∧
      (errors = [] ↔
        (pb.entityHash ≠ [] ∧ ¬ReadsAsZero (Text.base64 pb.entityHash)) ∧
        (pb.entityHashSignature ≠ [] ∧ ¬ReadsAsZero (Text.base64 pb.entityHashSignature)) ∧
        pb.validFrom ≠ 0 ∧ pb.validTo ≠ 0) := by
  have hform := fieldErrors_iff
    [⟨"entity_hash", requiredField, bytesData pb.entityHash⟩,
     ⟨"entity_hash_signature", requiredField, bytesData pb.entityHashSignature⟩,
     ⟨"valid_from", requiredField, uint32Data pb.validFrom⟩,
     ⟨"valid_to", requiredField, uint32Data pb.validTo⟩]
  have hhash := checkField_bytes required pb.entityHash
  have hsignature := checkField_bytes required pb.entityHashSignature
  simp only [List.forall_mem_cons, List.not_mem_nil, false_implies, implies_true, and_true,
    requiredField, checkField_uint32, hhash, hsignature, true_and] at hform
  obtain ⟨errors, herrors⟩ := hform.1.mpr ⟨⟨_, rfl⟩, ⟨_, rfl⟩⟩
  refine ⟨errors, herrors, ?_⟩
  have hnil := hform.2
  rw [herrors, Except.ok.injEq] at hnil
  simpa using hnil

/-- The key payload as it was sent. -/
@[mk_iff]
structure WellFormedKey (pb : NewPubKeyPayload) : Prop where
  entityHash : pb.entityHash ≠ []
  entityHashSignature : pb.entityHashSignature ≠ []
  validFrom : pb.validFrom ≠ 0
  validTo : pb.validTo ≠ 0
  configuration : ∃ c, pb.configuration = some c ∧ c.key ≠ []

/-- The bytes of a key payload that the form sees as base 64 texts. -/
def keyBytes (pb : NewPubKeyPayload) : List Bytes :=
  [pb.entityHash, pb.entityHashSignature] ++ (pb.configuration.map Configuration.key).toList

@[mk_iff]
structure KeyDeclared (pb : NewPubKeyPayload) : Prop where
  hashingAlgorithm : HashingAlgorithm.isDeclared pb.hashingAlgorithm = true
  configuration : ∀ c ∈ pb.configuration, ConfigurationDeclared c

theorem newPublicKeyPayloadForm_iff (isSet : Bool) {pb : NewPubKeyPayload}
    (hdeclared : KeyDeclared pb) :
    ∃ result, newPublicKeyPayloadForm isSet pb = .ok result ∧
      (result.isValid = true ↔ isSet = true ∧ WellFormedKey pb ∧
        ∀ b ∈ keyBytes pb, ¬ReadsAsZero (Text.base64 b)) := by
  obtain ⟨plain, hplain, hplainNil⟩ := keyFields_iff pb
  obtain ⟨rsa, ecdsa, ed25519, hrsa, hecdsa, hed, hnil⟩ :=
    configuration_forms pb.configuration hdeclared.configuration
  have hselect : selectErrors "hashing_algorithm"
      (isSet && HashingAlgorithm.isDeclared pb.hashingAlgorithm) = [] ↔ isSet = true := by
    rw [selectErrors_eq_nil, hdeclared.hashingAlgorithm, Bool.and_true]
  have hzero : (∀ b ∈ keyBytes pb, ¬ReadsAsZero (Text.base64 b)) ↔
      ¬ReadsAsZero (Text.base64 pb.entityHash) ∧
      ¬ReadsAsZero (Text.base64 pb.entityHashSignature) ∧
      ∀ c ∈ pb.configuration, ¬ReadsAsZero (Text.base64 c.key) := by
    simp [keyBytes]
  unfold newPublicKeyPayloadForm
  simp only [hplain, hrsa, hecdsa, hed, bind, Except.bind, pure, Except.pure]
  rw [hzero, wellFormedKey_iff]
  by_cases hset : rsa = [] ∨ ecdsa = [] ∨ ed25519 = []
  · have hcond : (!rsa.isEmpty && !ecdsa.isEmpty && !ed25519.isEmpty) = false := by
      rcases hset with rfl | rfl | rfl <;> simp
    obtain ⟨c, hc, hkey, hkeyZero⟩ := hnil.mp hset
    refine ⟨_, if_neg (by simp [hcond]), ?_⟩
    rw [List.isEmpty_iff, List.append_eq_nil_iff, hselect, hplainNil]
    simp only [hc, Option.mem_def, Option.some.injEq, forall_eq', exists_eq_left']
    constructor
    · rintro ⟨hisSet, ⟨hhash, hhashZero⟩, ⟨hsign, hsignZero⟩, hfrom, hto⟩
      exact ⟨hisSet, ⟨hhash, hsign, hfrom, hto, hkey⟩, hhashZero, hsignZero, hkeyZero⟩
    · rintro ⟨hisSet, ⟨hhash, hsign, hfrom, hto, -⟩, hhashZero, hsignZero, -⟩
      exact ⟨hisSet, ⟨hhash, hhashZero⟩, ⟨hsign, hsignZero⟩, hfrom, hto⟩
  · have hcond : (!rsa.isEmpty && !ecdsa.isEmpty && !ed25519.isEmpty) = true := by
      push Not at hset
      simp [hset]
    refine ⟨_, if_pos hcond, iff_of_false (by simp) ?_⟩
    rintro ⟨-, ⟨-, -, -, -, c, hc, hkey⟩, -, -, hzero⟩
    exact hset (hnil.mpr ⟨c, hc, hkey, hzero c hc⟩)

/-! ## The payload as it was sent -/

def WellFormedAddress (s : Str) : Prop := Text.isBlank s = false ∧ matchHex 70 s = true

def WellFormedSwapId (s : Str) : Prop := Text.isBlank s = false ∧ matchHex 64 s = true

/-- Required texts and bytes are filled, required numbers are not zero, addresses and swap ids
have their shape, and a key payload has a configuration with a key. -/
def WellFormed : Operation → Prop
  | .transfer pb => WellFormedAddress pb.addressTo ∧ pb.value ≠ 0
  | .genesis pb => pb.totalSupply ≠ 0
  | .swapInit pb => WellFormedAddress pb.receiverAddress ∧
      Text.isBlank pb.senderAddressNonLocal = false ∧ pb.amount ≠ 0 ∧
      WellFormedSwapId pb.swapId ∧ pb.createdAt ≠ 0
  | .swapApprove pb => WellFormedSwapId pb.swapId
  | .swapExpire pb => WellFormedSwapId pb.swapId
  | .swapSetLock pb => WellFormedSwapId pb.swapId ∧ Text.isBlank pb.secretLock = false
  | .swapClose pb => WellFormedSwapId pb.swapId ∧ Text.isBlank pb.secretKey = false
  | .store pb => WellFormedKey pb
  | .revoke pb => WellFormedAddress pb.address
  | .storeAndPay pb => (∃ key, pb.pubKeyPayload = some key ∧ WellFormedKey key) ∧
      pb.ownerPublicKey ≠ [] ∧ pb.signatureByOwner ≠ []

/-- Enumeration fields hold declared values. -/
def EnumsDeclared : Operation → Prop
  | .store pb => KeyDeclared pb
  | .storeAndPay pb => ∀ key ∈ pb.pubKeyPayload, KeyDeclared key
  | _ => True

/-- The form raises nothing, and accepts exactly the well-formed payloads. -/
def JudgesAsSent (op : Operation) : Prop :=
  ∃ result, op.validate = .ok result ∧ (result.isValid = true ↔ WellFormed op)

/-! ## The texts that a form sees -/

/-- The texts that are matched against a pattern. -/
def patternTexts : Operation → List Str
  | .transfer pb => [pb.addressTo]
  | .swapInit pb => [pb.receiverAddress, pb.swapId]
  | .swapApprove pb => [pb.swapId]
  | .swapExpire pb => [pb.swapId]
  | .swapSetLock pb => [pb.swapId]
  | .swapClose pb => [pb.swapId]
  | .revoke pb => [pb.address]
  | _ => []

/-- The other required texts. -/
def requiredTexts : Operation → List Str
  | .swapInit pb => [pb.senderAddressNonLocal]
  | .swapSetLock pb => [pb.secretLock]
  | .swapClose pb => [pb.secretKey]
  | _ => []

def optionalTexts : Operation → List Str
  | .swapInit pb => [pb.secretLockBySolicitor, pb.emailAddressEncryptedByInitiator]
  | _ => []

/-- The required bytes, seen as base 64 texts. -/
def requiredBytes : Operation → List Bytes
  | .store pb => keyBytes pb
  | .storeAndPay pb => pb.pubKeyPayload.toList.flatMap keyBytes ++
      [pb.ownerPublicKey, pb.signatureByOwner]
  | _ => []

/-- No text of the payload makes the form raise. -/
@[mk_iff]
structure TextsReadable (op : Operation) : Prop where
  patterns : ∀ s ∈ patternTexts op, ReadableByRegexp s
  required : ∀ s ∈ requiredTexts op, Readable s
  optional : ∀ s ∈ optionalTexts op, Readable s

/-- No required text of the payload is taken for the number zero. -/
@[mk_iff]
structure NoTextReadsAsZero (op : Operation) : Prop where
  patterns : ∀ s ∈ patternTexts op, ¬ReadsAsZero s
  required : ∀ s ∈ requiredTexts op, ¬ReadsAsZero s
  bytes : ∀ b ∈ requiredBytes op, ¬ReadsAsZero (Text.base64 b)

theorem checkField_address (s : Str) :
    ((∃ ms, checkField addressField (.text s) = .ok ms) ↔ ReadableByRegexp s) ∧
    (checkField addressField (.text s) = .ok [] ↔
      ReadableByRegexp s ∧ WellFormedAddress s ∧ ¬ReadsAsZero s) := by
  have hspec := checkField_pattern "Missed address" "Address is not of a blockchain token type."
    (n := 70) (by omega) s
  refine ⟨hspec.1, hspec.2.trans ?_⟩
  have hblank := matchHex_isBlank (n := 70) (by omega) (s := s)
  unfold WellFormedAddress
  tauto

theorem checkField_swapId (s : Str) :
    ((∃ ms, checkField swapIdField (.text s) = .ok ms) ↔ ReadableByRegexp s) ∧
    (checkField swapIdField (.text s) = .ok [] ↔
      ReadableByRegexp s ∧ WellFormedSwapId s ∧ ¬ReadsAsZero s) := by
  have hspec := checkField_pattern "Missed swap_id" "Incorrect atomic swap identifier."
    (n := 64) (by omega) s
  refine ⟨hspec.1, hspec.2.trans ?_⟩
  have hblank := matchHex_isBlank (n := 64) (by omega) (s := s)
  unfold WellFormedSwapId
  tauto

/-- When a form returns, and when it accepts. -/
def FormSpec (op : Operation) : Prop :=
  ((∃ result, op.validate = .ok result) ↔ TextsReadable op) ∧
  ((∃ result, op.validate = .ok result ∧ result.isValid = true) ↔
    TextsReadable op ∧ WellFormed op ∧ NoTextReadsAsZero op)

/-- The form of a payload without a key. -/
theorem formSpec_plain {op : Operation} (hbytes : requiredBytes op = []) : FormSpec op := by
  have hrequired := checkField_required required
  unfold FormSpec
  rw [textsReadable_iff, noTextReadsAsZero_iff, hbytes]
  cases op with
  | store pb => simp [requiredBytes, keyBytes] at hbytes
  | storeAndPay pb => simp [requiredBytes] at hbytes
  | _ =>
      simp only [Operation.validate, transferPayloadForm, genesisPayloadForm,
        atomicSwapInitPayloadForm, atomicSwapApprovePayloadForm, atomicSwapExpirePayloadForm,
        atomicSwapSetSecretLockPayloadForm, atomicSwapClosePayloadForm, revokePubKeyPayloadForm,
        validateFields_iff, List.forall_mem_cons, requiredField, checkField_address,
        checkField_swapId, checkField_uint64, checkField_uint32, hrequired, checkField_optional,
        WellFormed, patternTexts, requiredTexts, optionalTexts, List.not_mem_nil, Except.ok.injEq,
        exists_eq', ite_eq_right_iff, List.cons_ne_nil, imp_false]
      grind

theorem formSpec_store {pb : NewPubKeyPayload} (hdeclared : KeyDeclared pb) :
    FormSpec (.store pb) := by
  obtain ⟨result, hresult, hvalid⟩ := newPublicKeyPayloadForm_iff true hdeclared
  unfold FormSpec
  rw [textsReadable_iff, noTextReadsAsZero_iff]
  simp only [Operation.validate, hresult, Except.ok.injEq, exists_eq', exists_eq_left', hvalid,
    WellFormed, patternTexts, requiredTexts, optionalTexts, requiredBytes, List.not_mem_nil,
    false_implies, implies_true, and_true, true_and]

theorem formSpec_storeAndPay {pb : NewPubKeyStoreAndPayPayload}
    (hdeclared : ∀ key ∈ pb.pubKeyPayload, KeyDeclared key) : FormSpec (.storeAndPay pb) := by
  have hkey : KeyDeclared (pb.pubKeyPayload.getD {}) := by
    cases hpayload : pb.pubKeyPayload with
    | none => exact ⟨rfl, by simp⟩
    | some key => exact hdeclared key hpayload
  obtain ⟨payload, hpayload, hvalid⟩ :=
    newPublicKeyPayloadForm_iff pb.pubKeyPayload.isSome hkey
  have hform := fieldErrors_iff
    [⟨"owner_public_key", requiredField, bytesData pb.ownerPublicKey⟩,
     ⟨"signature_by_owner", requiredField, bytesData pb.signatureByOwner⟩]
  have howner := checkField_bytes required pb.ownerPublicKey
  have hsignature := checkField_bytes required pb.signatureByOwner
  simp only [List.forall_mem_cons, List.not_mem_nil, false_implies, implies_true, and_true,
    requiredField, howner, hsignature, iff_true] at hform
  obtain ⟨errors, herrors⟩ := hform.1
  have hnil := hform.2
  rw [herrors, Except.ok.injEq] at hnil
  have hresult : (Operation.storeAndPay pb).validate = .ok
      ⟨payload.isValid && errors.isEmpty,
        nestedErrors "pub_key_payload" payload.errors ++ errors⟩ := by
    simp [Operation.validate, newPubKeyStoreAndPayPayloadForm, hpayload, requiredField, herrors,
      bind, Except.bind, pure, Except.pure]
  unfold FormSpec
  rw [textsReadable_iff, noTextReadsAsZero_iff]
  simp only [hresult, Except.ok.injEq, exists_eq', exists_eq_left', Bool.and_eq_true,
    List.isEmpty_iff, hvalid, hnil, WellFormed, patternTexts, requiredTexts, optionalTexts,
    requiredBytes, List.not_mem_nil, false_implies, implies_true, and_true, true_and,
    List.forall_mem_append, List.forall_mem_cons]
  cases pb.pubKeyPayload with
  | none => simp
  | some key =>
      simp only [Option.isSome_some, Option.getD_some, true_and, Option.some.injEq,
        exists_eq_left', Option.toList_some, List.flatMap_cons, List.flatMap_nil, List.append_nil]
      grind

theorem formSpec {op : Operation} (hdeclared : EnumsDeclared op) : FormSpec op := by
  cases op with
  | store pb => exact formSpec_store hdeclared
  | storeAndPay pb => exact formSpec_storeAndPay hdeclared
  | _ => exact formSpec_plain rfl

/-- A form judges the payload as it was sent exactly if none of its texts makes it raise, and no
required text of a well-formed payload is taken for zero. -/
theorem judgesAsSent_iff (op : Operation) (hdeclared : EnumsDeclared op) :
    JudgesAsSent op ↔ TextsReadable op ∧ (WellFormed op → NoTextReadsAsZero op) := by
  obtain ⟨hreturns, haccepts⟩ := formSpec hdeclared
  constructor
  · rintro ⟨result, hresult, hvalid⟩
    refine ⟨hreturns.mp ⟨result, hresult⟩, fun hformed => ?_⟩
    exact (haccepts.mp ⟨result, hresult, hvalid.mpr hformed⟩).2.2
  · rintro ⟨hreadable, hzero⟩
    obtain ⟨result, hresult⟩ := hreturns.mpr hreadable
    refine ⟨result, hresult, fun hvalid => ?_, fun hformed => ?_⟩
    · exact (haccepts.mp ⟨result, hresult, hvalid⟩).2.1
    · obtain ⟨result', hresult', hvalid⟩ := haccepts.mpr ⟨hreadable, hformed, hzero hformed⟩
      rw [hresult, Except.ok.injEq] at hresult'
      rw [hresult']
      exact hvalid

namespace Sample

def rsaPayload : NewPubKeyPayload :=
  { entityHash := [1], entityHashSignature := [2], validFrom := 3, validTo := 4,
    configuration := some (.rsa [5] .pss) }

def digitSwapId : Str := List.replicate 64 '1'

end Sample

theorem rsaPayload_judgesAsSent :
    EnumsDeclared (.store Sample.rsaPayload) ∧ JudgesAsSent (.store Sample.rsaPayload) := by
  have hdeclared : EnumsDeclared (.store Sample.rsaPayload) :=
    ⟨rfl, fun c hc => by obtain rfl : _ = c := Option.some.inj hc; exact rfl⟩
  have hdigit : ∀ b ∈ requiredBytes (.store Sample.rsaPayload),
      Text.isDigit (Text.base64 b) = false := by decide +kernel
  have hzero : ∀ b ∈ requiredBytes (.store Sample.rsaPayload),
      ¬ReadsAsZero (Text.base64 b) := by
    intro b hb hread
    rw [ReadsAsZero, hdigit b hb] at hread
    exact absurd hread.1 (by decide)
  refine ⟨hdeclared, (judgesAsSent_iff _ hdeclared).mpr ⟨⟨?_, ?_, ?_⟩, fun _ => ⟨?_, ?_, hzero⟩⟩⟩
  all_goals simp [patternTexts, requiredTexts, optionalTexts]

/-- A swap id of 64 decimal digits matches its pattern, and the form raises `TypeError` on it. -/
theorem digitSwapId_not_judgesAsSent :
    EnumsDeclared (.swapApprove ⟨Sample.digitSwapId⟩) ∧
      ¬JudgesAsSent (.swapApprove ⟨Sample.digitSwapId⟩) := by
  refine ⟨trivial, ?_⟩
  rintro ⟨result, hresult, -⟩
  have hraises : (Operation.swapApprove ⟨Sample.digitSwapId⟩).validate.toOption.isSome = false := by
    decide +kernel
  rw [hresult] at hraises
  cases hraises

end Remme.Tp
