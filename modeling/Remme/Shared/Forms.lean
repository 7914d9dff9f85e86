import Remme.Shared.Utils
import Mathlib.Tactic.SplitIfs
/-!
# Payload forms

Every payload is checked by a WTForms form before its processor runs.
`load_proto` renders the message as a dictionary and re-types every leaf with
`int(v) if str(v).isdigit() else v`, so a text that looks numeric reaches the
validators as an integer: `DataRequired` then refuses a zero, and `Regexp` raises
`TypeError` on any other number.
-/

namespace Remme.Shared.Forms

open Remme.Lib Remme.Protos

/-- A leaf of the dictionary that `MessageToDict` renders: `uint64` and `bytes` are texts,
`uint32` is a number, an enumeration its name or its number, an unset message `None`. -/
inductive FieldData where
  | none
  | int (n : ℤ)
  | text (s : Str)
  deriving DecidableEq

def uint64Data (n : UInt64) : FieldData := .text (Nat.toDigits 10 n.toNat)

def uint32Data (n : UInt32) : FieldData := .int n.toNat

def bytesData (b : Bytes) : FieldData := .text (Text.base64 b)

/-- `field.data = int(v) if str(v).isdigit() else v` -/
def genLoad : FieldData → Except PyError FieldData
  | .text s =>
      if Text.isDigit s then
        match Text.int 10 s with
        | some n => .ok (.int n)
        | Option.none => .error .valueError
      else .ok (.text s)
  | v => .ok v

/-! ## Validators -/

inductive Validator where
  | dataRequired (message : String)
  /-- `Regexp('[0-9a-f]{n}')`, matched at the start of the text only. -/
  | regexp (n : ℕ) (message : String)
  | optional

def dataMissing : FieldData → Bool
  | .none => true
  | .int n => n = 0
  | .text s => Text.isBlank s

def matchHex (n : ℕ) (s : Str) : Bool := n ≤ s.length && (s.take n).all Text.isLowerHex

/-- The error messages of a chain of validators; `DataRequired` and `Optional` stop it. -/
def runValidators : List Validator → FieldData → Except PyError (List String)
  | [], _ => .ok []
  | .dataRequired message :: rest, data =>
      if dataMissing data then .ok [message] else runValidators rest data
  | .optional :: _, _ => .ok []
  | .regexp n message :: rest, data => do
      let matched ← match data with
        | .none => pure (matchHex n [])
        | .text s => pure (matchHex n s)
        | .int k => if k = 0 then pure (matchHex n []) else .error .typeError
      let errors ← runValidators rest data
      pure (if matched then errors else message :: errors)

def required : String := "This field is required."

def addressField : List Validator :=
  [.dataRequired "Missed address", .regexp 70 "Address is not of a blockchain token type."]

def swapIdField : List Validator :=
  [.dataRequired "Missed swap_id", .regexp 64 "Incorrect atomic swap identifier."]

def idField : List Validator :=
  [.dataRequired "Missed id", .regexp 128 "Incorrect identifier."]

def requiredField : List Validator := [.dataRequired required]

/-! ## Forms -/

/-- The errors of a field: messages, or the errors of a nested form. -/
inductive FormErrors where
  | messages (ms : List String)
  | nested (fields : List (String × FormErrors))

def renderMessages (ms : List String) : String :=
  "[" ++ ", ".intercalate (ms.map fun m => "'" ++ m ++ "'") ++ "]"

mutual

/-- The errors as Python prints their dictionary. -/
def FormErrors.render : FormErrors → String
  | .messages ms => renderMessages ms
  | .nested fields => "\x7b" ++ ", ".intercalate (renderFields fields) ++ "\x7d"

def renderFields : List (String × FormErrors) → List String
  | [] => []
  | (name, errors) :: rest => ("'" ++ name ++ "': " ++ errors.render) :: renderFields rest

end

/-- What `validate` returns, and `errors` after it. -/
structure FormResult where
  isValid : Bool
  errors : List (String × FormErrors)

structure Field where
  name : String
  validators : List Validator
  data : FieldData

/-- `_gen_load` -/
def loadFields : List Field → Except PyError (List Field)
  | [] => .ok []
  | field :: fields => do
      let data ← genLoad field.data
      let rest ← loadFields fields
      pure ({ field with data := data } :: rest)

def loadedErrors : List Field → Except PyError (List (String × FormErrors))
  | [] => .ok []
  | field :: fields => do
      let messages ← runValidators field.validators field.data
      let rest ← loadedErrors fields
      pure (if messages.isEmpty then rest else (field.name, .messages messages) :: rest)

def fieldErrors (fields : List Field) : Except PyError (List (String × FormErrors)) := do
  let loaded ← loadFields fields
  loadedErrors loaded

/-- `load_proto(pb).validate()` of a form without nested forms. -/
def validateFields (fields : List Field) : Except PyError FormResult := do
  let errors ← fieldErrors fields
  pure ⟨errors.isEmpty, errors⟩

def transferPayloadForm (pb : TransferPayload) : Except PyError FormResult :=
  validateFields
    [⟨"address_to", addressField, .text pb.addressTo⟩,
     ⟨"value", [.dataRequired "Could not transfer with zero amount."], uint64Data pb.value⟩]

def genesisPayloadForm (pb : GenesisPayload) : Except PyError FormResult :=
  validateFields [⟨"total_supply", requiredField, uint64Data pb.totalSupply⟩]

def atomicSwapInitPayloadForm (pb : AtomicSwapInitPayload) : Except PyError FormResult :=
  validateFields
    [⟨"receiver_address", addressField, .text pb.receiverAddress⟩,
     ⟨"sender_address_non_local", requiredField, .text pb.senderAddressNonLocal⟩,
     ⟨"amount", requiredField, uint64Data pb.amount⟩,
     ⟨"swap_id", swapIdField, .text pb.swapId⟩,
     ⟨"secret_lock_by_solicitor", [.optional], .text pb.secretLockBySolicitor⟩,
     ⟨"email_address_encrypted_by_initiator", [.optional],
       .text pb.emailAddressEncryptedByInitiator⟩,
     ⟨"created_at", requiredField, uint32Data pb.createdAt⟩]

def atomicSwapApprovePayloadForm (pb : AtomicSwapApprovePayload) : Except PyError FormResult :=
  validateFields [⟨"swap_id", swapIdField, .text pb.swapId⟩]

def atomicSwapExpirePayloadForm (pb : AtomicSwapExpirePayload) : Except PyError FormResult :=
  validateFields [⟨"swap_id", swapIdField, .text pb.swapId⟩]

def atomicSwapSetSecretLockPayloadForm (pb : AtomicSwapSetSecretLockPayload) :
    Except PyError FormResult :=
  validateFields
    [⟨"swap_id", swapIdField, .text pb.swapId⟩,
     ⟨"secret_lock", requiredField, .text pb.secretLock⟩]

def atomicSwapClosePayloadForm (pb : AtomicSwapClosePayload) : Except PyError FormResult :=
  validateFields
    [⟨"swap_id", swapIdField, .text pb.swapId⟩,
     ⟨"secret_key", requiredField, .text pb.secretKey⟩]

def revokePubKeyPayloadForm (pb : RevokePubKeyPayload) : Except PyError FormResult :=
  validateFields [⟨"address", addressField, .text pb.address⟩]

/-! ## The public key form -/

/-- A `SelectField` over an enumeration: `declared` is whether the number has a name. -/
def selectErrors (name : String) (declared : Bool) : List (String × FormErrors) :=
  if declared then [] else [(name, .messages ["Not a valid choice"])]

def HashingAlgorithm.isDeclared : HashingAlgorithm → Bool
  | .undeclared _ => false
  | _ => true

def Padding.isDeclared : Padding → Bool
  | .undeclared _ => false
  | _ => true

def EllipticCurve.isDeclared : EllipticCurve → Bool
  | .undeclared _ => false
  | _ => true

def nestedErrors (name : String) (errors : List (String × FormErrors)) :
    List (String × FormErrors) :=
  if errors.isEmpty then [] else [(name, .nested errors)]

/-- The errors of one configuration form; `none` is a configuration that is not set. -/
def configurationErrors (name : String) (key : Option Bytes) (choice : List (String × FormErrors)) :
    Except PyError (List (String × FormErrors)) := do
  let keyErrors ← fieldErrors
    [⟨"key", requiredField, (key.map bytesData).getD .none⟩]
  pure (nestedErrors name (keyErrors ++ choice))

def rsaErrors : Option Configuration → Except PyError (List (String × FormErrors))
  | some (.rsa key padding) =>
      configurationErrors "rsa" (some key) (selectErrors "padding" (Padding.isDeclared padding))
  | _ => configurationErrors "rsa" Option.none (selectErrors "padding" false)

def ecdsaErrors : Option Configuration → Except PyError (List (String × FormErrors))
  | some (.ecdsa key ec) =>
      configurationErrors "ecdsa" (some key) (selectErrors "ec" (EllipticCurve.isDeclared ec))
  | _ => configurationErrors "ecdsa" Option.none (selectErrors "ec" false)

def ed25519Errors : Option Configuration → Except PyError (List (String × FormErrors))
  | some (.ed25519 key) => configurationErrors "ed25519" (some key) []
  | _ => configurationErrors "ed25519" Option.none []

/-- `NewPublicKeyPayloadForm.validate`: the errors of the configurations that are not set are
taken out again when one configuration has none.  At most one can be set, so the deletion
of the other two entries always finds them.  A nested payload that is not set has no
hashing algorithm to select. -/
def newPublicKeyPayloadForm (isSet : Bool) (pb : NewPubKeyPayload) :
    Except PyError FormResult := do
  let plain ← fieldErrors
    [⟨"entity_hash", requiredField, bytesData pb.entityHash⟩,
     ⟨"entity_hash_signature", requiredField, bytesData pb.entityHashSignature⟩,
     ⟨"valid_from", requiredField, uint32Data pb.validFrom⟩,
     ⟨"valid_to", requiredField, uint32Data pb.validTo⟩]
  let plain := selectErrors "hashing_algorithm"
    (isSet && HashingAlgorithm.isDeclared pb.hashingAlgorithm) ++ plain
  let rsa ← rsaErrors pb.configuration
  let ecdsa ← ecdsaErrors pb.configuration
  let ed25519 ← ed25519Errors pb.configuration
  if !rsa.isEmpty && !ecdsa.isEmpty && !ed25519.isEmpty then
    pure ⟨false, plain ++ [("configuration", .messages
      ["At least one of RSAConfiguration, ECDSAConfiguration or Ed25519Configuration must be set"])]⟩
  else
    pure ⟨plain.isEmpty, plain⟩

def newPubKeyStoreAndPayPayloadForm (pb : NewPubKeyStoreAndPayPayload) :
    Except PyError FormResult := do
  let payload ← newPublicKeyPayloadForm pb.pubKeyPayload.isSome (pb.pubKeyPayload.getD {})
  let rest ← fieldErrors
    [⟨"owner_public_key", requiredField, bytesData pb.ownerPublicKey⟩,
     ⟨"signature_by_owner", requiredField, bytesData pb.signatureByOwner⟩]
  pure ⟨payload.isValid && rest.isEmpty, nestedErrors "pub_key_payload" payload.errors ++ rest⟩

/-! ## What a valid form promises -/

theorem bind_eq_ok {ε α β : Type} {x : Except ε α} {f : α → Except ε β} {b : β} :
    x >>= f = .ok b ↔ ∃ a, x = .ok a ∧ f a = .ok b := by
  cases x with
  | error e => simp [bind, Except.bind]
  | ok a => simp [bind, Except.bind]

theorem loadedErrors_nil {fields : List Field} (h : loadedErrors fields = .ok []) :
    ∀ field ∈ fields, runValidators field.validators field.data = .ok [] := by
  induction fields with
  | nil => simp
  | cons field fields ih =>
      simp only [loadedErrors, bind_eq_ok] at h
      obtain ⟨messages, hmessages, rest, hrest, hout⟩ := h
      have hout' : (if messages.isEmpty then rest
          else (field.name, .messages messages) :: rest) = [] := by
        simpa [pure, Except.pure] using hout
      split_ifs at hout' with hempty
      subst hout'
      obtain rfl : messages = [] := by simpa using hempty
      intro field' hfield'
      rcases List.mem_cons.mp hfield' with rfl | hmem
      · exact hmessages
      · exact ih hrest field' hmem

theorem mem_loadFields {fields loaded : List Field} (h : loadFields fields = .ok loaded)
    {field : Field} (hfield : field ∈ fields) :
    ∃ data, genLoad field.data = .ok data ∧ { field with data := data } ∈ loaded := by
  induction fields generalizing loaded with
  | nil => simp at hfield
  | cons field' fields ih =>
      simp only [loadFields, bind_eq_ok] at h
      obtain ⟨data, hdata, rest, hrest, hout⟩ := h
      obtain rfl : { field' with data := data } :: rest = loaded := by
        simpa [pure, Except.pure] using hout
      rcases List.mem_cons.mp hfield with rfl | hmem
      · exact ⟨data, hdata, by simp⟩
      · obtain ⟨data', hdata', hmem'⟩ := ih hrest hmem
        exact ⟨data', hdata', by simp [hmem']⟩

/-- Every field of a valid form passes its own validators on its re-typed value. -/
theorem validateFields_valid {fields : List Field} {result : FormResult}
    (h : validateFields fields = .ok result) (hvalid : result.isValid = true)
    (field : Field) (hfield : field ∈ fields) :
    ∃ data, genLoad field.data = .ok data ∧ runValidators field.validators data = .ok [] := by
  simp only [validateFields, fieldErrors, bind_eq_ok] at h
  obtain ⟨errors, ⟨loaded, hloaded, herrors⟩, hout⟩ := h
  obtain rfl : FormResult.mk errors.isEmpty errors = result := by
    simpa [pure, Except.pure] using hout
  obtain rfl : errors = [] := by simpa using hvalid
  obtain ⟨data, hdata, hmem⟩ := mem_loadFields hloaded hfield
  exact ⟨data, hdata, loadedErrors_nil herrors _ hmem⟩

/-- A required text of a valid form is not empty. -/
theorem text_ne_nil_of_required {s : Str} {data : FieldData} {message : String}
    {rest : List Validator} (hload : genLoad (.text s) = .ok data)
    (h : runValidators (.dataRequired message :: rest) data = .ok []) : s ≠ [] := by
  rintro rfl
  obtain rfl : FieldData.text [] = data := by simpa [genLoad, Text.isDigit] using hload
  simp [runValidators, dataMissing, Text.isBlank] at h

end Remme.Shared.Forms
