import Remme.Clients.Proofs.Declared
import Remme.RpcApi.Proofs.Submissions
import Remme.Tp.Proofs.Book
import Remme.Tp.Proofs.Dispatch
/-!
# A client's call on its way to the ledger

A client writes a number for its method and packs its payload twice, and the
bytes of the transaction may be handed to any node as a text.  The node decodes
them to look at the form, and the processor decodes them again.  What arrives
is the call that the client made: the ledger's book changes by that call, or
the call is one that no ledger takes.
-/

namespace Remme.RpcApi

open Remme.Lib Remme.Lib.Dialogue Remme.Protos Remme.Shared Remme.Tp Remme.Clients

/-- The methods of the clients that build a transaction, with their arguments. -/
inductive ClientCall where
  | transfer (addressTo : Str) (value : UInt64)
  | genesis (tokenSupply : UInt64)
  | swapInit (payload : AtomicSwapInitPayload)
  | swapApprove (payload : AtomicSwapApprovePayload)
  | swapExpire (payload : AtomicSwapExpirePayload)
  | swapSetSecretLock (payload : AtomicSwapSetSecretLockPayload)
  | swapClose (payload : AtomicSwapClosePayload) (receiverAddress : Str)

namespace ClientCall

/-- What the client asks of the ledger. -/
def operation : ClientCall → Operation
  | transfer addressTo value => .transfer { addressTo := addressTo, value := value }
  | genesis tokenSupply => .genesis { totalSupply := tokenSupply }
  | swapInit payload => .swapInit payload
  | swapApprove payload => .swapApprove payload
  | swapExpire payload => .swapExpire payload
  | swapSetSecretLock payload => .swapSetLock payload
  | swapClose payload _ => .swapClose payload

section Builds

variable {B : Type} (π : Platform B) (numbers : MethodNumbers π.pb) (client : Signer B)

/-- The call builds the transaction; the genesis script builds one with the economy on. -/
def Builds : ClientCall → ClientTransaction B → Prop
  | transfer addressTo value, t => AccountClient.transfer π numbers client addressTo value = .ok t
  | genesis tokenSupply, t => genesisBatch π numbers client true tokenSupply = .ok (some t)
  | swapInit payload, t => AtomicSwapClient.swapInit π numbers client payload = .ok t
  | swapApprove payload, t => AtomicSwapClient.swapApprove π numbers client payload = .ok t
  | swapExpire payload, t => AtomicSwapClient.swapExpire π numbers client payload = .ok t
  | swapSetSecretLock payload, t =>
      AtomicSwapClient.swapSetSecretLock π numbers client payload = .ok t
  | swapClose payload receiverAddress, t =>
      AtomicSwapClient.swapClose π numbers client payload receiverAddress = .ok t

end Builds

end ClientCall

section Calls

variable {B : Type} {π : Platform B} {σ : Sawtooth B} {tz : TimeZone} {s : Dict Str B}
  {numbers : MethodNumbers π.pb} {client : Signer B} {t : ClientTransaction B} {c : ClientCall}
  {message : Transaction B} {bytes : Bytes}

/-! ## What a client writes is what is read -/

/-- The envelope of a registered method decodes to the operation of its row. -/
theorem decodeOperation_makeBatchList {family : Family} {method : ℕ} (entry : MethodEntry B)
    {operation : entry.Payload → Operation} {dataPb : entry.Payload} {inputs outputs : List Str}
    (hrow : stateProcessor π family method = some (entry.decode operation)) :
    decodeOperation π family (makeBatchList π client family
      ⟨method, entry.pbClass.serializeToString dataPb⟩ inputs outputs).payload =
        .ok (operation dataPb) := by
  have hdata : entry.decode operation (entry.pbClass.serializeToString dataPb) =
      some (operation dataPb) := by
    rw [MethodEntry.decode, Codec.parse_serialize, Option.map_some]
  simp only [decodeOperation, makeBatchList, Codec.parse_serialize, hrow, hdata]

theorem stateProcessor_account (method : AccountMethod) :
    stateProcessor π .account (numbers.account method) =
      some ((accountEntry π method).decode (accountOperation π method)) := by
  simp only [stateProcessor, numbers.accountMethod_account, Option.map_some]
  cases method <;> rfl

theorem stateProcessor_atomicSwap (tz : TimeZone) (method : AtomicSwapMethod) :
    stateProcessor π .atomicSwap (numbers.atomicSwap method) =
      some ((atomicSwapEntry π tz method).decode (atomicSwapOperation π tz method)) := by
  simp only [stateProcessor, numbers.atomicSwapMethod_atomicSwap, Option.map_some]
  cases method <;> rfl

/-- The genesis script makes the address of no account, and it is one. -/
theorem makeAddress_zeros :
    makeAddress π .account (List.replicate 64 '0') =
      .ok (Family.account.familyPrefix π ++ List.replicate 64 '0') := by
  have haddress : isAddress (Family.account.familyPrefix π ++ List.replicate 64 '0') = true := by
    rw [familyPrefix_eq]
    decide +kernel
  unfold makeAddress
  exact if_pos haddress

/-- Every call builds a transaction, by the client's key, that decodes to the call. -/
theorem ClientCall.exists_builds (c : ClientCall) :
    ∃ t, c.Builds π numbers client t ∧ t.signerPublicKey = client.publicKey ∧
      decodeOperation π t.family t.payload = .ok c.operation := by
  have hrow : ∀ method, stateProcessor π .account (numbers.account method) = _ :=
    stateProcessor_account
  have hswapRow : ∀ method, stateProcessor π .atomicSwap (numbers.atomicSwap method) = _ :=
    stateProcessor_atomicSwap fun _ => 0
  cases c with
  | transfer addressTo value =>
      simp only [Builds, AccountClient.transfer, getUserAddress, makeAddressFromData_account]
      exact ⟨_, rfl, rfl, decodeOperation_makeBatchList (accountEntry π .transfer) (hrow _)⟩
  | genesis tokenSupply =>
      simp only [Builds, genesisBatch, if_true, makeAddressFromData_account, makeAddress_zeros]
      exact ⟨_, rfl, rfl, decodeOperation_makeBatchList (accountEntry π .genesis) (hrow _)⟩
  | swapInit payload =>
      simp only [Builds, AtomicSwapClient.swapInit, getUserAddress, makeAddressFromData_account,
        makeAddressFromData_atomicSwap]
      exact ⟨_, rfl, rfl,
        decodeOperation_makeBatchList (atomicSwapEntry π _ .init) (hswapRow _)⟩
  | swapApprove payload =>
      simp only [Builds, AtomicSwapClient.swapApprove, getUserAddress, makeAddressFromData_account,
        makeAddressFromData_atomicSwap]
      exact ⟨_, rfl, rfl,
        decodeOperation_makeBatchList (atomicSwapEntry π _ .approve) (hswapRow _)⟩
  | swapExpire payload =>
      simp only [Builds, AtomicSwapClient.swapExpire, getUserAddress, makeAddressFromData_account,
        makeAddressFromData_atomicSwap]
      exact ⟨_, rfl, rfl,
        decodeOperation_makeBatchList (atomicSwapEntry π _ .expire) (hswapRow _)⟩
  | swapSetSecretLock payload =>
      simp only [Builds, AtomicSwapClient.swapSetSecretLock, getUserAddress,
        makeAddressFromData_account, makeAddressFromData_atomicSwap]
      exact ⟨_, rfl, rfl,
        decodeOperation_makeBatchList (atomicSwapEntry π _ .setSecretLock) (hswapRow _)⟩
  | swapClose payload receiverAddress =>
      simp only [Builds, AtomicSwapClient.swapClose, getUserAddress, makeAddressFromData_account,
        makeAddressFromData_atomicSwap]
      exact ⟨_, rfl, rfl,
        decodeOperation_makeBatchList (atomicSwapEntry π _ .close) (hswapRow _)⟩

/-! ## From the text to the book -/

/-- The bytes are those of a transaction message with what the client built. -/
structure Written (σ : Sawtooth B) (t : ClientTransaction B) (message : Transaction B)
    (bytes : Bytes) : Prop where
  transaction : σ.parseTransaction (σ.ofBytes bytes) = some message
  header : σ.parseTransactionHeader message.header =
    some { signerPublicKey := t.signerPublicKey, familyName := t.family.familyName }
  headerSignature : message.headerSignature = t.headerSignature
  payload : message.payload = t.payload

theorem tpHandlers_familyName (family : Family) : tpHandlers family.familyName = some family := by
  cases family <;> decide

/-- What decodes to an operation has an envelope. -/
theorem exists_payload_of_decodeOperation {family : Family} {payload : B} {op : Operation}
    (h : decodeOperation π family payload = .ok op) :
    ∃ envelope, π.pb.transactionPayload.parseFromString payload = some envelope := by
  unfold decodeOperation at h
  cases hparse : π.pb.transactionPayload.parseFromString payload with
  | none =>
      rw [hparse] at h
      cases h
  | some envelope => exact ⟨envelope, rfl⟩

/-- The node forwards the message if the form of the call is valid. -/
theorem sendRawTransaction_of_written {op : Operation} (hwritten : Written σ t message bytes)
    (hop : decodeOperation π t.family t.payload = .ok op)
    (hmark : HasCompressedMark t.signerPublicKey → (t.signerPublicKey.drop 2).length = 64)
    {x : Transaction B} :
    sendRawTransaction π σ (some (Text.base64 bytes)) = .ok x ↔ x = message ∧ op.FormValid := by
  obtain ⟨envelope, henvelope⟩ := exists_payload_of_decodeOperation hop
  rw [← hwritten.payload] at hop henvelope
  have hdecoded : Decoded π σ (Text.base64 bytes) message _ envelope t.family :=
    { transaction_eq := by
        rw [Text.b64decode_base64]
        exact hwritten.transaction
      header_eq := hwritten.header
      payload_eq := henvelope
      family_eq := tpHandlers_familyName t.family }
  have hform := (decodeOperation_eq_ok henvelope).mp hop
  rw [sendRawTransaction_eq_ok hdecoded]
  constructor
  · rintro ⟨rfl, -, hvalid⟩
    exact ⟨rfl, hvalid op hform⟩
  · rintro ⟨rfl, hvalid⟩
    refine ⟨rfl, hmark, fun op' hop' => ?_⟩
    rw [hform] at hop'
    cases hop'
    exact hvalid

/-- The processor applies the operation that the payload decodes to. -/
theorem exists_applyTransaction_iff {family : Family} {signer : Str} {payload : B} {op : Operation}
    (hop : decodeOperation π family payload = .ok op) {P : Dict Str B → Prop} :
    (∃ r, applyTransaction π tz family signer payload s = .ok r ∧ P r.1) ↔
      ∃ u, op.apply π tz signer s = .ok u ∧ P (setState π s u) := by
  unfold applyTransaction
  rw [hop]
  change (∃ r, (op.apply π tz signer s >>= fun u => pure (setState π s u, u)) = .ok r ∧ P r.1) ↔ _
  cases op.apply π tz signer s with
  | error err => simp [Bind.bind, Except.bind]
  | ok u => simp [Bind.bind, Except.bind, pure, Except.pure]

theorem ClientCall.operation_paysForOther (c : ClientCall) (signer : Str) :
    c.operation.PaysForOther π signer := by
  cases c <;> trivial

variable {T : Type} [Preorder T] {sdk : Sdk (Transaction B)} {node : BatchSigner}
  {answers : T → (q : Request (Transaction B)) → Reply q → Prop}

variable (σ numbers client sdk node answers) in
/-- A call builds a transaction.  Handed to any node as a text, its message goes to the validator
unchanged, in one request, exactly if the form of the call is valid; on every state that a run
reaches, the processor that its header names takes it exactly if the form is valid and the book
allows the client's call, with the effect on the book that the call has. -/
theorem client_call_reaches_book (hforeign : π.pb.NoForeignOwner)
    (hkey : IsPublicKey client.publicKey)
    (hmark : HasCompressedMark client.publicKey → (client.publicKey.drop 2).length = 64)
    {ts : List (Transition (Dict Str B) Label)} (hrun : LedgerRun π tz ts s)
    (hreceiver : ∀ e ∈ ts, e.label.ReceiverIsAccount π)
    (hpays : ∀ e ∈ ts, e.label.PaysForOther π) (c : ClientCall) :
    ∃ t, c.Builds π numbers client t ∧ ∀ message bytes, Written σ t message bytes →
      AsksAtMost 1 (submitRawTransaction π σ sdk node (some (Text.base64 bytes))) ∧
      (∀ k q m,
        Asks answers k (submitRawTransaction π σ sdk node (some (Text.base64 bytes))) q m ↔
          k ≤ m ∧ c.operation.FormValid ∧ q = .batchSubmit [batchOf node message]) ∧
      ∃ header family, σ.parseTransactionHeader message.header = some header ∧
        tpHandlers header.familyName = some family ∧
        ∀ b, (∃ r, applyTransaction π tz family header.signerPublicKey message.payload s = .ok r ∧
            book π r.1 = b) ↔
          c.operation.FormValid ∧
            (book π s).Does π tz (terms π s) client.publicKey c.operation b := by
  obtain ⟨t, hbuilds, hsigner, hop⟩ := c.exists_builds
  refine ⟨t, hbuilds, fun message bytes hwritten => ⟨asksAtMost_submitRawTransaction _,
    fun k q m => ?_, _, t.family, hwritten.header, tpHandlers_familyName t.family, fun b => ?_⟩⟩
  · rw [← hsigner] at hmark
    rw [asks_submitRawTransaction]
    simp only [sendRawTransaction_of_written hwritten hop hmark]
    constructor
    · rintro ⟨hle, _, ⟨rfl, hvalid⟩, rfl⟩
      exact ⟨hle, hvalid, rfl⟩
    · rintro ⟨hle, hvalid, rfl⟩
      exact ⟨hle, message, ⟨rfl, hvalid⟩, rfl⟩
  · have hkept : Kept π s := hrun.invariant kept_empty fun e he hstep hinv =>
      hinv.step hforeign (hreceiver e he) (hpays e he) hstep
    rw [hwritten.payload, hsigner]
    exact (exists_applyTransaction_iff hop (P := fun s' => book π s' = b)).trans
      (hkept.accepted_iff_does hforeign hkey (c.operation_paysForOther _))

end Calls

/-! ## A transfer by Alice -/

namespace Sample

open Remme.Tp.Sample

def aliceClient : Signer Data where
  publicKey := alice
  sign := fun _ _ _ => []

theorem transfer_allowed :
    (book platform (final swapScript)).Does platform utc (terms platform (final swapScript)) alice
      (.transfer { addressTo := accountAddress platform bot, value := 100 })
      (((book platform (final swapScript)).debit (accountAddress platform alice) 100).credit
        (accountAddress platform bot) 100) := by
  have hfunds :
      100 ≤ (book platform (final swapScript)).balance (accountAddress platform alice) := by
    decide +kernel
  exact Book.Does.transfer (by decide)
    (isAccountAddress_accountAddress platform bot) (by decide +kernel) hfunds

/-- After the sample swap Alice's client sends 100 tokens to Bot through another node. -/
theorem client_call_reaches_book_transfer :
    Asks invalidBatch 0
        (submitRawTransaction platform sawtooth submitSdk nodeSigner
          (some (Text.base64 transferBytes)))
        (.batchSubmit [batchOf nodeSigner transfer]) 0 ∧
      ∃ r, applyTransaction platform utc .account alice transfer.payload (final swapScript) =
          .ok r ∧
        book platform r.1 =
          ((book platform (final swapScript)).debit (accountAddress platform alice) 100).credit
            (accountAddress platform bot) 100 := by
  obtain ⟨t, hbuilds, h⟩ := client_call_reaches_book sawtooth sampleNumbers aliceClient submitSdk
    nodeSigner invalidBatch noForeignOwner (by decide +kernel) (fun _ => by decide +kernel)
    (run_of_accepted swapScript_legal swapScript_accepted) swapScript_receivers
    swapScript_paysForOther (.transfer (accountAddress platform bot) 100)
  have hvalid : (Operation.transfer
      { addressTo := accountAddress platform bot, value := 100 }).FormValid :=
    formValid_of_any (by decide +kernel)
  have hwritten : Written sawtooth t transfer transferBytes := by
    rw [ClientCall.Builds, AccountClient.transfer, getUserAddress,
      makeAddressFromData_account] at hbuilds
    cases hbuilds
    exact ⟨by simp [sawtooth], transfer_decoded.header_eq, rfl, rfl⟩
  obtain ⟨-, hasks, header, family, hheader, hfamily, hbook⟩ := h transfer transferBytes hwritten
  cases Option.some.inj (hheader.symm.trans transfer_decoded.header_eq)
  cases Option.some.inj (hfamily.symm.trans transfer_decoded.family_eq)
  exact ⟨(hasks 0 _ 0).mpr ⟨le_rfl, hvalid, rfl⟩, (hbook _).mpr ⟨hvalid, transfer_allowed⟩⟩

end Sample

end Remme.RpcApi
