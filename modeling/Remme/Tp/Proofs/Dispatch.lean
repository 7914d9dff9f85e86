import Remme.Tp.Handler
import Remme.Tp.Proofs.Writes
import Remme.Tp.Script
/-!
# Decoding and dispatch

`apply` decodes twice, in two `try` blocks that catch different exceptions: the
envelope's `DecodeError` becomes an invalid transaction, the payload's passes
through the second block, which is there for the `KeyError` of an unknown
method.
-/

namespace Remme.Tp

open Remme.Lib Remme.Protos Remme.Shared Remme.Shared.Forms

variable {B : Type} {π : Platform B} {tz : TimeZone} {family : Family}
  {transaction : TpProcessRequest B}

/-! ## The state after `apply` -/

/-- The effect of one call on the state. -/
def ContextCall.effect (state : Dict Str B) : ContextCall B → Dict Str B
  | .setState entries => state.update entries
  | _ => state

/-- The state after the calls, if `apply` returned. -/
def Outcome.applied (outcome : Outcome B) (state : Dict Str B) : Except PyError (Dict Str B) :=
  match outcome.error with
  | some err => .error err
  | none => .ok (outcome.calls.foldl ContextCall.effect state)

theorem foldl_cachedReads (context : Str → Option B) (storage reads : List Str)
    (state : Dict Str B) :
    (cachedReads context storage reads).foldl ContextCall.effect state = state := by
  induction reads generalizing storage with
  | nil => rfl
  | cons address rest ih =>
      unfold cachedReads
      split_ifs with hcached
      · exact ih storage
      · exact ih _
      · exact ih _

theorem foldl_stateReads (context : Str → Option B) (inputs reads : List Str)
    (state : Dict Str B) :
    (stateReads context inputs reads).foldl ContextCall.effect state = state :=
  foldl_cachedReads context _ reads state

/-- The row of a method has the form, the processor and the event of an operation. -/
structure Registers (π : Platform B) (tz : TimeZone) (entry : MethodEntry B)
    (operation : entry.Payload → Operation) : Prop where
  pbClassName : ∀ m, entry.pbClassName = (operation m).pbClass
  validator : ∀ m, entry.validator m = (operation m).validate
  processor : ∀ signer m, entry.processor signer m = (operation m).processor π tz signer
  emitEvent : ∀ m, entry.emitEvent = (operation m).emitEvent

/-- How the payload of a row is decoded into an operation. -/
def MethodEntry.decode (entry : MethodEntry B) (operation : entry.Payload → Operation) (data : B) :
    Option Operation :=
  (entry.pbClass.parseFromString data).map operation

def accountOperation (π : Platform B) :
    (method : AccountMethod) → (accountEntry π method).Payload → Operation
  | .transfer => .transfer
  | .genesis => .genesis

def atomicSwapOperation (π : Platform B) (tz : TimeZone) :
    (method : AtomicSwapMethod) → (atomicSwapEntry π tz method).Payload → Operation
  | .init => .swapInit
  | .approve => .swapApprove
  | .expire => .swapExpire
  | .setSecretLock => .swapSetLock
  | .close => .swapClose

def pubKeyOperation (π : Platform B) (tz : TimeZone) :
    (method : PubKeyMethod) → (pubKeyEntry π tz method).Payload → Operation
  | .store => .store
  | .revoke => .revoke
  | .storeAndPay => .storeAndPay

theorem registers_account (method : AccountMethod) :
    Registers π tz (accountEntry π method) (accountOperation π method) := by
  cases method <;> exact ⟨fun _ => rfl, fun _ => rfl, fun _ _ => rfl, fun _ => rfl⟩

theorem registers_atomicSwap (method : AtomicSwapMethod) :
    Registers π tz (atomicSwapEntry π tz method) (atomicSwapOperation π tz method) := by
  cases method <;> exact ⟨fun _ => rfl, fun _ => rfl, fun _ _ => rfl, fun _ => rfl⟩

theorem registers_pubKey (method : PubKeyMethod) :
    Registers π tz (pubKeyEntry π tz method) (pubKeyOperation π tz method) := by
  cases method <;> exact ⟨fun _ => rfl, fun _ => rfl, fun _ _ => rfl, fun _ => rfl⟩

/-- The rows of the handler's table are the registered operations. -/
theorem registers_of_getStateProcessor {number : ℕ} {entry : MethodEntry B}
    (h : getStateProcessor π tz family number = some entry) :
    ∃ operation, Registers π tz entry operation ∧
      stateProcessor π family number = some (entry.decode operation) := by
  cases family with
  | account =>
      obtain ⟨method, hmethod, rfl⟩ := Option.map_eq_some_iff.mp h
      refine ⟨_, registers_account method, ?_⟩
      simp only [stateProcessor, hmethod]
      cases method <;> rfl
  | atomicSwap =>
      obtain ⟨method, hmethod, rfl⟩ := Option.map_eq_some_iff.mp h
      refine ⟨_, registers_atomicSwap method, ?_⟩
      simp only [stateProcessor, hmethod]
      cases method <;> rfl
  | pubKey =>
      obtain ⟨method, hmethod, rfl⟩ := Option.map_eq_some_iff.mp h
      refine ⟨_, registers_pubKey method, ?_⟩
      simp only [stateProcessor, hmethod]
      cases method <;> rfl

theorem stateProcessor_of_getStateProcessor_none {number : ℕ}
    (h : getStateProcessor π tz family number = none) : stateProcessor π family number = none := by
  cases family with
  | account => simpa [getStateProcessor, stateProcessor] using h
  | atomicSwap => simpa [getStateProcessor, stateProcessor] using h
  | pubKey => simpa [getStateProcessor, stateProcessor] using h

/-- A row of the table does what its operation does. -/
theorem Registers.applied {entry : MethodEntry B} {operation : entry.Payload → Operation}
    (h : Registers π tz entry operation) (dataPb : entry.Payload) (state : Dict Str B) :
    (entry.process π transaction dataPb state.get?).applied state =
      ((operation dataPb).apply π tz transaction.signerPublicKey state).map (setState π state) := by
  unfold MethodEntry.process Operation.apply
  rw [h.validator, h.processor, h.pbClassName dataPb]
  generalize operation dataPb = op
  cases op.validate with
  | error err => rfl
  | ok result =>
      obtain ⟨isValid, errors⟩ := result
      cases isValid with
      | false => rfl
      | true =>
          change _ = Except.map (setState π state)
            ((op.processor π tz transaction.signerPublicKey).run state.get?)
          cases hrun : (op.processor π tz transaction.signerPublicKey).run state.get? with
          | error err =>
              simp only [Bool.true_eq_false, if_false, hrun]
              rfl
          | ok u =>
              simp only [Bool.true_eq_false, if_false, hrun, Outcome.applied, List.foldl_append,
                foldl_stateReads]
              cases entry.emitEvent <;> rfl

/-- `apply` with its calls to the context has the effect of `applyTransaction`. -/
theorem applied_eq_applyTransaction (state : Dict Str B) :
    (BasicHandler.apply π tz family transaction state.get?).applied state =
      (applyTransaction π tz family transaction.signerPublicKey transaction.payload state).map
        Prod.fst := by
  unfold BasicHandler.apply applyTransaction decodeOperation
  cases hpayload : π.pb.transactionPayload.parseFromString transaction.payload with
  | none => rfl
  | some payload =>
      cases hentry : getStateProcessor π tz family payload.method with
      | none =>
          simp only [hentry, stateProcessor_of_getStateProcessor_none hentry]
          rfl
      | some entry =>
          obtain ⟨operation, hregisters, hdecode⟩ := registers_of_getStateProcessor hentry
          simp only [hentry, hdecode, MethodEntry.decode]
          cases entry.pbClass.parseFromString payload.data with
          | none => rfl
          | some dataPb =>
              change (entry.process π transaction dataPb state.get?).applied state =
                Except.map Prod.fst (((operation dataPb).apply π tz transaction.signerPublicKey
                  state).bind fun u => pure (setState π state u, u))
              rw [hregisters.applied]
              cases (operation dataPb).apply π tz transaction.signerPublicKey state <;> rfl

/-! ## Undecodable input -/

section Undecodable

variable (π : Platform B) (tz : TimeZone) (family : Family)

/-- The envelope decodes and the method is registered, but the payload's bytes are malformed. -/
def MalformedData (payload : B) : Prop :=
  ∃ transactionPayload entry,
    π.pb.transactionPayload.parseFromString payload = some transactionPayload ∧
    getStateProcessor π tz family transactionPayload.method = some entry ∧
    entry.pbClass.parseFromString transactionPayload.data = none

/-- No message of a registered method can be read from the bytes. -/
def Undecodable (payload : B) : Prop :=
  π.pb.transactionPayload.parseFromString payload = none ∨
  (∃ transactionPayload,
    π.pb.transactionPayload.parseFromString payload = some transactionPayload ∧
    getStateProcessor π tz family transactionPayload.method = none) ∨
  MalformedData π tz family payload

/-- Undecodable bytes are an invalid transaction that asks nothing of the context; decodable
ones go to the form and the processor registered for their method. -/
structure JudgesPayload (transaction : TpProcessRequest B) (context : Str → Option B) : Prop where
  undecodable : Undecodable π tz family transaction.payload →
    (∃ message, (BasicHandler.apply π tz family transaction context).error =
      some (.invalidTransaction message)) ∧
    (BasicHandler.apply π tz family transaction context).calls = []
  registered : ∀ transactionPayload entry dataPb,
    π.pb.transactionPayload.parseFromString transaction.payload = some transactionPayload →
    getStateProcessor π tz family transactionPayload.method = some entry →
    entry.pbClass.parseFromString transactionPayload.data = some dataPb →
    BasicHandler.apply π tz family transaction context =
      entry.process π transaction dataPb context

end Undecodable

variable {context : Str → Option B}

theorem apply_of_malformedData (h : MalformedData π tz family transaction.payload) :
    BasicHandler.apply π tz family transaction context = .raised .decodeError := by
  obtain ⟨payload, entry, hpayload, hentry, hdata⟩ := h
  simp only [BasicHandler.apply, hpayload, hentry, hdata]

theorem not_judgesPayload_of_malformedData
    (h : MalformedData π tz family transaction.payload) :
    ¬JudgesPayload π tz family transaction context := by
  intro hjudges
  obtain ⟨⟨message, herror⟩, -⟩ := hjudges.undecodable (.inr (.inr h))
  rw [apply_of_malformedData h] at herror
  cases herror

/-- `apply` judges its payload as an invalid transaction or by its registered row exactly when
the data of a registered method decodes. -/
theorem judgesPayload_iff :
    JudgesPayload π tz family transaction context ↔
      ¬MalformedData π tz family transaction.payload := by
  constructor
  · intro hjudges hmalformed
    exact not_judgesPayload_of_malformedData hmalformed hjudges
  · intro hdecodes
    constructor
    · rintro (hpayload | ⟨payload, hpayload, hentry⟩ | hmalformed)
      · simp only [BasicHandler.apply, hpayload]
        exact ⟨⟨_, rfl⟩, rfl⟩
      · simp only [BasicHandler.apply, hpayload, hentry]
        exact ⟨⟨_, rfl⟩, rfl⟩
      · exact absurd hmalformed hdecodes
    · intro payload entry dataPb hpayload hentry hdata
      simp only [BasicHandler.apply, hpayload, hentry, hdata]

/-- A TRANSFER whose data is no `TransferPayload` raises `DecodeError`. -/
theorem malformedTransfer_not_judgesPayload :
    ¬JudgesPayload Sample.platform Sample.utc .account
      { inputs := [], signerPublicKey := Sample.alice, signature := []
        payload := Sample.Data.transactionPayload 0 (.raw [0xff]) } (fun _ => none) := by
  apply not_judgesPayload_of_malformedData
  exact ⟨⟨0, .raw [0xff]⟩, accountEntry Sample.platform .transfer, rfl, rfl, rfl⟩

end Remme.Tp
