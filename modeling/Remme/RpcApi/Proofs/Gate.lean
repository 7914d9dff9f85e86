import Remme.RpcApi.Transaction
import Remme.Tp.Proofs.Writes
import Remme.Tp.Script
/-!
# The gate in front of the validator

How far `send_raw_transaction` agrees with the first half of
`BasicHandler.apply`.  A transaction that the processor would take is always
forwarded; the converse fails exactly where the gate has nothing to validate
with, and for keys that its format check does not look at.
-/

namespace Remme.RpcApi

open Remme.Lib Remme.Protos Remme.Shared Remme.Shared.Forms Remme.Tp

variable {B : Type} {π : Platform B} {σ : Sawtooth B} {data : Str} {transaction : Transaction B}
  {header : TransactionHeader} {payload : TransactionPayload B} {family : Family}
  {signer : Str} {op : Operation}

/-- A request whose data decodes to a transaction for one of the handlers. -/
structure Decoded (π : Platform B) (σ : Sawtooth B) (data : Str) (transaction : Transaction B)
    (header : TransactionHeader) (payload : TransactionPayload B) (family : Family) : Prop where
  transaction_eq : (Text.b64decode data).bind (fun bytes =>
    σ.parseTransaction (σ.ofBytes bytes)) = some transaction
  header_eq : σ.parseTransactionHeader transaction.header = some header
  payload_eq : π.pb.transactionPayload.parseFromString transaction.payload = some payload
  family_eq : tpHandlers header.familyName = some family

/-- `apply` gets past its decode, dispatch and form-validation stage. -/
def PassesFrontHalf (π : Platform B) (family : Family) (payload : B) : Prop :=
  ∃ op, decodeOperation π family payload = .ok op ∧ op.FormValid

def HasCompressedMark (key : Str) : Prop := key.take 2 = "02".toList ∨ key.take 2 = "03".toList

/-- A compressed key: `02` or `03`, and 64 more characters. -/
def IsCompressedKey (key : Str) : Prop := HasCompressedMark key ∧ (key.drop 2).length = 64

/-- A transaction that the processor would take from a compressed key is forwarded, and any
other is answered with an error. -/
def GateAgrees (π : Platform B) (σ : Sawtooth B) (data : Str) (transaction : Transaction B)
    (header : TransactionHeader) (family : Family) : Prop :=
  (PassesFrontHalf π family transaction.payload ∧ IsCompressedKey header.signerPublicKey →
    sendRawTransaction π σ (some data) = .ok transaction) ∧
  (¬(PassesFrontHalf π family transaction.payload ∧ IsCompressedKey header.signerPublicKey) →
    ∃ err, sendRawTransaction π σ (some data) = .error err)

/-- Where the key gets past its check, the method is registered, its data parses, and a valid
form comes with a marked key. -/
def GateCovers (π : Platform B) (header : TransactionHeader) (payload : TransactionPayload B)
    (family : Family) : Prop :=
  (HasCompressedMark header.signerPublicKey → (header.signerPublicKey.drop 2).length = 64) →
    ∃ parse op, stateProcessor π family payload.method = some parse ∧
      parse payload.data = some op ∧ (op.FormValid → HasCompressedMark header.signerPublicKey)

/-! ## The stages of the gate -/

theorem isInvalidKey_eq_true {key : Str} :
    isInvalidKey key = true ↔ HasCompressedMark key ∧ (key.drop 2).length ≠ 64 := by
  simp [isInvalidKey, HasCompressedMark]

theorem isInvalidKey_eq_false {key : Str} :
    isInvalidKey key = false ↔ (HasCompressedMark key → (key.drop 2).length = 64) := by
  rw [← Bool.not_eq_true, isInvalidKey_eq_true]
  tauto

theorem getProtoValidator_eq_some :
    getProtoValidator π family payload = some op ↔
      ∃ parse, stateProcessor π family payload.method = some parse ∧
        parse payload.data = some op := by
  unfold getProtoValidator
  cases stateProcessor π family payload.method with
  | none => simp
  | some parse => simp

/-- The gate and the processor decode the same operation. -/
theorem decodeOperation_eq_ok
    (hpayload : π.pb.transactionPayload.parseFromString transaction.payload = some payload) :
    decodeOperation π family transaction.payload = .ok op ↔
      getProtoValidator π family payload = some op := by
  unfold decodeOperation getProtoValidator
  rw [hpayload]
  cases hmethod : stateProcessor π family payload.method with
  | none => simp [hmethod]
  | some parse =>
      cases hparse : parse payload.data with
      | none => simp [hmethod, hparse]
      | some op' => simp [hmethod, hparse]

theorem passesFrontHalf_iff
    (hpayload : π.pb.transactionPayload.parseFromString transaction.payload = some payload) :
    PassesFrontHalf π family transaction.payload ↔
      ∃ op, getProtoValidator π family payload = some op ∧ op.FormValid := by
  simp only [PassesFrontHalf, decodeOperation_eq_ok hpayload]

theorem checkForm_eq_ok {validator : Option Operation} :
    checkForm validator = .ok () ↔ ∀ op, validator = some op → op.FormValid := by
  cases validator with
  | none => simp [checkForm]
  | some op =>
      cases hvalidate : op.validate with
      | error err => simp [checkForm, hvalidate, Operation.FormValid]
      | ok result =>
          cases hvalid : result.isValid with
          | false => simp [checkForm, hvalidate, hvalid, Operation.FormValid]
          | true => simp [checkForm, hvalidate, hvalid, Operation.FormValid]

theorem orRaise_bind {α β : Type} {o : Option α} {a : α} (h : o = some a) (err : RpcError)
    (next : α → Except RpcError β) : (orRaise o err >>= next) = next a := by
  rw [h]
  rfl

/-- The gate on a decoded request: the key check, then the form where there is one. -/
theorem sendRawTransaction_eq (h : Decoded π σ data transaction header payload family) :
    sendRawTransaction π σ (some data) =
      if isInvalidKey header.signerPublicKey then
        .error (serverDefinedError "Signer public key format is not valid")
      else (checkForm (getProtoValidator π family payload)).map fun _ => transaction := by
  obtain ⟨bytes, hbytes, hparse⟩ := Option.bind_eq_some_iff.mp h.transaction_eq
  unfold sendRawTransaction
  rw [orRaise_bind rfl, orRaise_bind hbytes, orRaise_bind hparse, orRaise_bind h.header_eq,
    orRaise_bind h.payload_eq]
  cases isInvalidKey header.signerPublicKey with
  | true => rfl
  | false =>
      simp only [Bool.false_eq_true, if_false]
      rw [orRaise_bind h.family_eq]
      cases checkForm (getProtoValidator π family payload) <;> rfl

theorem sendRawTransaction_eq_ok (h : Decoded π σ data transaction header payload family)
    {t : Transaction B} :
    sendRawTransaction π σ (some data) = .ok t ↔
      t = transaction ∧
      (HasCompressedMark header.signerPublicKey → (header.signerPublicKey.drop 2).length = 64) ∧
      ∀ op, getProtoValidator π family payload = some op → op.FormValid := by
  rw [sendRawTransaction_eq h, ← isInvalidKey_eq_false, ← checkForm_eq_ok]
  cases isInvalidKey header.signerPublicKey with
  | true => simp
  | false =>
      cases checkForm (getProtoValidator π family payload) with
      | error err => simp [Except.map]
      | ok u => simp [Except.map, eq_comm]

/-! ## Agreement with the processor -/

/-- The gate forwards the decoded transaction or answers with an error. -/
theorem sendRawTransaction_cases (h : Decoded π σ data transaction header payload family) :
    sendRawTransaction π σ (some data) = .ok transaction ∨
      ∃ err, sendRawTransaction π σ (some data) = .error err := by
  cases hsend : sendRawTransaction π σ (some data) with
  | error err => exact .inr ⟨err, rfl⟩
  | ok t =>
      obtain ⟨rfl, -⟩ := (sendRawTransaction_eq_ok h).mp hsend
      exact .inl rfl

/-- What the processor would take from a compressed key is forwarded. -/
theorem forwarded_of_passesFrontHalf (h : Decoded π σ data transaction header payload family)
    (hpasses : PassesFrontHalf π family transaction.payload)
    (hkey : IsCompressedKey header.signerPublicKey) :
    sendRawTransaction π σ (some data) = .ok transaction := by
  obtain ⟨op, hop, hform⟩ := (passesFrontHalf_iff h.payload_eq).mp hpasses
  refine (sendRawTransaction_eq_ok h).mpr ⟨rfl, fun _ => hkey.2, ?_⟩
  intro op' hop'
  rw [hop] at hop'
  cases hop'
  exact hform

/-- The gate loses no transaction that the ledger would accept. -/
theorem forwarded_of_accepted {tz : TimeZone} {s : Dict Str B}
    {result : Dict Str B × Dict Str Message}
    (h : Decoded π σ data transaction header payload family)
    (hkey : IsCompressedKey header.signerPublicKey)
    (haccepted : applyTransaction π tz family header.signerPublicKey transaction.payload s =
      .ok result) :
    sendRawTransaction π σ (some data) = .ok transaction := by
  obtain ⟨op, hop, hrest⟩ := bind_eq_ok.mp haccepted
  obtain ⟨u, hu, -⟩ := bind_eq_ok.mp hrest
  obtain ⟨form, hvalidate, hvalid, -⟩ := apply_eq_ok.mp hu
  exact forwarded_of_passesFrontHalf h ⟨op, hop, form, hvalidate, hvalid⟩ hkey

/-- The gate agrees with the processor on a request exactly when it has something to validate
with and its key check has looked at the key. -/
theorem gateAgrees_iff_gateCovers
    (h : Decoded π σ data transaction header payload family) :
    GateAgrees π σ data transaction header family ↔ GateCovers π header payload family := by
  have hforwarded := sendRawTransaction_eq_ok h (t := transaction)
  have hfront : PassesFrontHalf π family transaction.payload ↔ _ :=
    passesFrontHalf_iff h.payload_eq
  constructor
  · intro hagrees hkey
    by_cases hpasses : PassesFrontHalf π family transaction.payload ∧
        IsCompressedKey header.signerPublicKey
    · obtain ⟨op, hop, -⟩ := hfront.mp hpasses.1
      obtain ⟨parse, hmethod, hparse⟩ := getProtoValidator_eq_some.mp hop
      exact ⟨parse, op, hmethod, hparse, fun _ => hpasses.2.1⟩
    · -- The gate refuses, and it is not for the key: there is a form, and it is invalid.
      obtain ⟨err, herr⟩ := hagrees.2 hpasses
      have hrefused : ¬∀ op, getProtoValidator π family payload = some op → op.FormValid := by
        intro hform
        rw [hforwarded.mpr ⟨rfl, hkey, hform⟩] at herr
        cases herr
      push Not at hrefused
      obtain ⟨op, hop, hinvalid⟩ := hrefused
      obtain ⟨parse, hmethod, hparse⟩ := getProtoValidator_eq_some.mp hop
      exact ⟨parse, op, hmethod, hparse, fun hform => absurd hform hinvalid⟩
  · intro hcovers
    refine ⟨fun hpasses => forwarded_of_passesFrontHalf h hpasses.1 hpasses.2, ?_⟩
    intro hpasses
    rcases sendRawTransaction_cases h with hsend | herr
    · obtain ⟨-, hkey, hform⟩ := hforwarded.mp hsend
      obtain ⟨parse, op, hmethod, hparse, hmark⟩ := hcovers hkey
      have hop := getProtoValidator_eq_some.mpr ⟨parse, hmethod, hparse⟩
      have hvalid := hform op hop
      exact absurd ⟨hfront.mpr ⟨op, hop, hvalid⟩, hmark hvalid, hkey (hmark hvalid)⟩ hpasses
    · exact herr

/-! ## Two requests -/

namespace Sample

open Remme.Tp.Sample

/-- A header of the account family with Alice's key. -/
def headerBytes : Bytes := numBytes 77
  0x1a076163636f756e745242303266656239383835393163373865353865353763646365356133313462643034373938393731323237666363323331363930373335353339326132633939633235

/-- A transfer of 100 to Bot. -/
def transferBytes : Bytes := numBytes 157
  0x0a4d1a076163636f756e7452423032666562393838353931633738653538653537636463653561333134626430343739383937313232376663633233313639303733353533393261326339396332351a4c124a0a46313132303037623934333365316461356336323466663932363437373134316162656466643537353835613336353930623061386564633431303465663238303933656533301064

def transfer : Transaction Data :=
  { header := .raw headerBytes
    headerSignature := []
    payload := .transactionPayload 0
      (.transferPayload { addressTo := accountAddress platform bot, value := 100 }) }

/-- The account family has no method 7. -/
def unknownMethodBytes : Bytes := numBytes 83
  0x0a4d1a076163636f756e7452423032666562393838353931633738653538653537636463653561333134626430343739383937313232376663633233313639303733353533393261326339396332351a020807

def unknownMethod : Transaction Data :=
  { header := .raw headerBytes
    headerSignature := []
    payload := .transactionPayload 7 (.raw []) }

def aliceHeader : TransactionHeader :=
  { signerPublicKey := alice, familyName := Family.account.familyName }

/-- The SDK's parsers, as a table of the three byte strings above. -/
def sawtooth : Sawtooth Data where
  ofBytes := .raw
  parseTransaction := fun
    | .raw bytes =>
        if bytes = transferBytes then some transfer
        else if bytes = unknownMethodBytes then some unknownMethod
        else none
    | _ => none
  parseTransactionHeader := fun
    | .raw bytes => if bytes = headerBytes then some aliceHeader else none
    | _ => none

theorem transfer_decoded :
    Decoded platform sawtooth (Text.base64 transferBytes) transfer aliceHeader
      ⟨0, .transferPayload { addressTo := accountAddress platform bot, value := 100 }⟩
      .account where
  transaction_eq := by
    rw [Text.b64decode_base64]
    simp [sawtooth]
  header_eq := by simp [sawtooth, transfer]
  payload_eq := rfl
  family_eq := by decide

theorem unknownMethod_decoded :
    Decoded platform sawtooth (Text.base64 unknownMethodBytes) unknownMethod aliceHeader
      ⟨7, .raw []⟩ .account where
  transaction_eq := by
    have hne : unknownMethodBytes ≠ transferBytes := by decide +kernel
    rw [Text.b64decode_base64]
    simp [sawtooth, hne]
  header_eq := by simp [sawtooth, unknownMethod]
  payload_eq := rfl
  family_eq := by decide

theorem alice_hasCompressedMark : HasCompressedMark alice := by
  unfold HasCompressedMark
  decide +kernel

end Sample

open Remme.Tp.Sample in
theorem gateAgrees_transfer :
    GateAgrees platform Sample.sawtooth (Text.base64 Sample.transferBytes) Sample.transfer
      Sample.aliceHeader .account := by
  apply (gateAgrees_iff_gateCovers Sample.transfer_decoded).mpr
  intro _
  exact ⟨_, _, rfl, rfl, fun _ => Sample.alice_hasCompressedMark⟩

open Remme.Tp.Sample in
/-- A method that the processor does not know is forwarded. -/
theorem unknownMethod_not_gateAgrees :
    Decoded platform Sample.sawtooth (Text.base64 Sample.unknownMethodBytes) Sample.unknownMethod
        Sample.aliceHeader ⟨7, .raw []⟩ .account ∧
      ¬GateAgrees platform Sample.sawtooth (Text.base64 Sample.unknownMethodBytes)
        Sample.unknownMethod Sample.aliceHeader .account := by
  refine ⟨Sample.unknownMethod_decoded, fun hagrees => ?_⟩
  have hnone : getProtoValidator platform .account ⟨7, .raw []⟩ = none := rfl
  have hrefused : ¬PassesFrontHalf platform .account Sample.unknownMethod.payload := by
    intro hpasses
    obtain ⟨op, hop, -⟩ := (passesFrontHalf_iff Sample.unknownMethod_decoded.payload_eq).mp hpasses
    rw [hnone] at hop
    cases hop
  obtain ⟨err, herr⟩ := hagrees.2 fun h => hrefused h.1
  have hkey : (Sample.aliceHeader.signerPublicKey.drop 2).length = 64 := by decide +kernel
  have hsend := (sendRawTransaction_eq_ok Sample.unknownMethod_decoded).mpr
    ⟨rfl, fun _ => hkey, fun op hop => by rw [hnone] at hop; cases hop⟩
  rw [hsend] at herr
  cases herr

end Remme.RpcApi
