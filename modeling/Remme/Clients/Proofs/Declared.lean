import Remme.Clients.Transactions
import Remme.Tp.Proofs.Writes
import Remme.Tp.Script
/-!
# Clients declare what the processors touch

The read set of a processor is that of its program, on every path: up to the
result or up to the exception.  For each operation it is compared with the list
of addresses in the client, and the dictionary that the processor returns with
the list of outputs.
-/

namespace Remme.Clients

open Remme.Lib Remme.Protos Remme.Shared Remme.Settings Remme.Tp Remme.Clients.BlockInfo

variable {B : Type} {π : Platform B} {tz : TimeZone} {context : Str → Option B}
  {inputs outputs : List Str} {signer a : Str}

/-! ## Authorization by declared prefix -/

/-- The address equals or extends a declared one. -/
def Declared (addresses : List Str) (a : Str) : Prop := ∃ d ∈ addresses, d <+: a

theorem declared_of_mem {addresses : List Str} (h : a ∈ addresses) : Declared addresses a :=
  ⟨a, h, List.prefix_rfl⟩

/-- The validator answers the call: it reads below the inputs, or writes below the outputs. -/
def Authorized (inputs outputs : List Str) : ContextCall B → Prop
  | .getState addresses => ∀ a ∈ addresses, Declared inputs a
  | .setState entries => ∀ entry ∈ entries.entries, Declared outputs entry.1
  | .addEvent _ => True

theorem authorized_cachedReads {reads : List Str} (h : ∀ a ∈ reads, Declared inputs a)
    (storage : List Str) :
    ∀ call ∈ cachedReads context storage reads, Authorized inputs outputs call := by
  induction reads generalizing storage with
  | nil => simp [cachedReads]
  | cons address rest ih =>
      have hrest : ∀ a ∈ rest, Declared inputs a := fun a ha => h a (by simp [ha])
      unfold cachedReads
      split_ifs with hcached
      · exact ih hrest storage
      all_goals
        intro call hcall
        rcases List.mem_cons.mp hcall with rfl | hcall
        · simpa [Authorized] using h address (by simp)
        · exact ih hrest _ call hcall

theorem authorized_stateReads {reads : List Str} (h : ∀ a ∈ reads, Declared inputs a) :
    ∀ call ∈ stateReads context inputs reads, Authorized inputs outputs call := by
  intro call hcall
  rcases List.mem_cons.mp hcall with rfl | hcall
  · intro a ha
    exact declared_of_mem (List.mem_of_mem_filter ha)
  · exact authorized_cachedReads h _ call hcall

/-- A row is authorized if its processor reads below the inputs and returns a dictionary over
the outputs. -/
theorem process_authorized {entry : MethodEntry B} {transaction : TpProcessRequest B}
    {dataPb : entry.Payload}
    (hreads : StoreM.ReadsWithin context (Declared transaction.inputs)
      (entry.processor transaction.signerPublicKey dataPb))
    (hwrites : ∀ u, (entry.processor transaction.signerPublicKey dataPb).run context = .ok u →
      ∀ item ∈ u.entries, Declared outputs item.1) :
    ∀ call ∈ (entry.process π transaction dataPb context).calls,
      Authorized transaction.inputs outputs call := by
  intro call hcall
  unfold MethodEntry.process at hcall
  cases hvalidator : entry.validator dataPb with
  | error err =>
      rw [hvalidator] at hcall
      cases hcall
  | ok validator =>
      rw [hvalidator] at hcall
      simp only at hcall
      split_ifs at hcall with hvalid
      · cases hcall
      · cases hrun : (entry.processor transaction.signerPublicKey dataPb).run context with
        | error err =>
            rw [hrun] at hcall
            exact authorized_stateReads hreads call hcall
        | ok u =>
            rw [hrun] at hcall
            rcases List.mem_append.mp hcall with hcall | hcall
            · exact authorized_stateReads hreads call hcall
            · rcases List.mem_cons.mp hcall with rfl | hcall
              · intro item hitem
                obtain ⟨item', hitem', rfl⟩ := List.mem_map.mp hitem
                exact hwrites u hrun item' hitem'
              · simp only [Option.map_map, Option.mem_toList,
                  Option.map_eq_some_iff] at hcall
                obtain ⟨eventType, -, rfl⟩ := hcall
                trivial

/-! ## The keys each processor reads -/

section Reads

variable {P : Str → Prop} {α : Type}

@[simp] theorem readsWithin_getData (pbClass : Codec B α) (address : Str) :
    StoreM.ReadsWithin context P (getData pbClass address) ↔ P address := by
  simp [getData]

@[simp] theorem readsWithin_getSettingValue (key : Str) (defaultValue : Option Str) :
    StoreM.ReadsWithin context P (getSettingValue π key defaultValue) ↔
      P (makeSettingsKey π key) := by
  simp [getSettingValue, getSettingEntry]

theorem readsWithin_getLatestBlockInfo (hconfig : P configAddress)
    (hblock : ∀ n, P (createBlockAddress n)) :
    StoreM.ReadsWithin context P (getLatestBlockInfo π) := by
  simp [getLatestBlockInfo, hconfig, hblock]

theorem readsWithin_getSwap {swapId : Str} (hswap : P (swapAddress π swapId)) :
    StoreM.ReadsWithin context P (getSwap π swapId) := by
  simp [getSwap, -makeAddressFromData_eq, makeAddressFromData_atomicSwap, hswap]

theorem readsWithin_transferFromAddress {addressFrom : Str} {payload : TransferPayload}
    (hfrom : P addressFrom) (hto : P payload.addressTo) :
    StoreM.ReadsWithin context P (transferFromAddress π addressFrom payload) := by
  simp [transferFromAddress, hfrom, hto]

theorem readsWithin_transfer {payload : TransferPayload} (hsigner : P (accountAddress π signer))
    (hto : P payload.addressTo) :
    StoreM.ReadsWithin context P (transfer π signer payload) := by
  simp [transfer, -makeAddressFromData_eq, makeAddressFromData_account,
    readsWithin_transferFromAddress hsigner hto]

theorem readsWithin_genesis {payload : GenesisPayload} (hgenesis : P genesisAddress) :
    StoreM.ReadsWithin context P (genesis π signer payload) := by
  simp [genesis, hgenesis]

theorem readsWithin_swapInit {payload : AtomicSwapInitPayload}
    (hswap : P (swapAddress π payload.swapId)) (hsigner : P (accountAddress π signer))
    (hsetting : P (makeSettingsKey π settingsSwapCommission)) (hzero : P zeroAddress)
    (hconfig : P configAddress) (hblock : ∀ n, P (createBlockAddress n)) :
    StoreM.ReadsWithin context P (swapInit π signer payload) := by
  have hlatest : StoreM.ReadsWithin context P (getLatestBlockInfo π) :=
    readsWithin_getLatestBlockInfo hconfig hblock
  have htransfer : ∀ value, StoreM.ReadsWithin context P (transferFromAddress π
      (accountAddress π signer) { addressTo := zeroAddress, value := value }) :=
    fun value => readsWithin_transferFromAddress hsigner hzero
  simp +contextual [swapInit, -makeAddressFromData_eq, makeAddressFromData_account,
    makeAddressFromData_atomicSwap, hswap, hsigner, hsetting, hlatest, htransfer]

theorem readsWithin_swapSetLock {payload : AtomicSwapSetSecretLockPayload}
    (hswap : P (swapAddress π payload.swapId)) :
    StoreM.ReadsWithin context P (swapSetLock π payload) := by
  simp [swapSetLock, readsWithin_getSwap hswap]

theorem readsWithin_swapApprove {payload : AtomicSwapApprovePayload}
    (hswap : P (swapAddress π payload.swapId)) :
    StoreM.ReadsWithin context P (swapApprove π signer payload) := by
  simp [swapApprove, readsWithin_getSwap hswap]

/-- EXPIRE reads the sender's account only after the sender was found to be the signer. -/
theorem readsWithin_swapExpire {payload : AtomicSwapExpirePayload}
    (hswap : P (swapAddress π payload.swapId)) (hsigner : P (accountAddress π signer))
    (hconfig : P configAddress) (hblock : ∀ n, P (createBlockAddress n)) :
    StoreM.ReadsWithin context P (swapExpire π tz signer payload) := by
  have hlatest : StoreM.ReadsWithin context P (getLatestBlockInfo π) :=
    readsWithin_getLatestBlockInfo hconfig hblock
  simp only [swapExpire, StoreM.readsWithin_bind, StoreM.readsWithin_ofExcept,
    StoreM.readsWithin_raiseIf, StoreM.readsWithin_pure, readsWithin_getData,
    readsWithin_getSwap hswap, hlatest, StoreM.run_ofExcept, makeAddressFromData_account,
    StoreM.run_raiseIf_eq_ok, Except.ok.injEq, forall_eq', true_and, implies_true, and_true, ne_eq,
    not_not]
  intro stored _ _ hsender _ _ _ _ _ _ _ _ _ _
  rw [← hsender]
  exact hsigner

/-- CLOSE reads the account of the receiver that the record names. -/
theorem readsWithin_swapClose {payload : AtomicSwapClosePayload}
    (hswap : P (swapAddress π payload.swapId))
    (hreceiver : ∀ swap, swapAt π context (swapAddress π payload.swapId) = some swap →
      P swap.receiverAddress) :
    StoreM.ReadsWithin context P (swapClose π payload) := by
  simp only [swapClose, StoreM.readsWithin_bind, StoreM.readsWithin_ofExcept,
    StoreM.readsWithin_raiseIf, StoreM.readsWithin_pure, readsWithin_getData,
    readsWithin_getSwap hswap, StoreM.run_raiseIf_eq_ok, true_and, implies_true, and_true]
  rintro ⟨address, swap⟩ hstored _ _ _ _ _ _ _ _
  obtain ⟨-, hget, -⟩ := getSwap_spec.mp hstored
  exact hreceiver swap hget

end Reads

/-! ## The transactions of the clients -/

variable {numbers : MethodNumbers π.pb} {client : Signer B} {t : ClientTransaction B}

/-- A transaction that a client builds for a store: towards a whole address, and a CLOSE with
the receiver that the store's record names. -/
inductive BuiltByClient (π : Platform B) (numbers : MethodNumbers π.pb) (client : Signer B)
    (context : Str → Option B) : ClientTransaction B → Prop
  | transfer {addressTo : Str} {value : UInt64} {t : ClientTransaction B}
      (hlength : addressTo.length = 70)
      (h : AccountClient.transfer π numbers client addressTo value = .ok t) :
      BuiltByClient π numbers client context t
  | genesis {tokenSupply : UInt64} {t : ClientTransaction B}
      (h : genesisBatch π numbers client true tokenSupply = .ok (some t)) :
      BuiltByClient π numbers client context t
  | swapInit {payload : AtomicSwapInitPayload} {t : ClientTransaction B}
      (hlength : payload.receiverAddress.length = 70)
      (h : AtomicSwapClient.swapInit π numbers client payload = .ok t) :
      BuiltByClient π numbers client context t
  | swapApprove {payload : AtomicSwapApprovePayload} {t : ClientTransaction B}
      (h : AtomicSwapClient.swapApprove π numbers client payload = .ok t) :
      BuiltByClient π numbers client context t
  | swapExpire {payload : AtomicSwapExpirePayload} {t : ClientTransaction B}
      (h : AtomicSwapClient.swapExpire π numbers client payload = .ok t) :
      BuiltByClient π numbers client context t
  | swapSetSecretLock {payload : AtomicSwapSetSecretLockPayload} {t : ClientTransaction B}
      (h : AtomicSwapClient.swapSetSecretLock π numbers client payload = .ok t) :
      BuiltByClient π numbers client context t
  | swapClose {payload : AtomicSwapClosePayload} {receiverAddress : Str} {t : ClientTransaction B}
      (hlength : receiverAddress.length = 70)
      (hreceiver : ∀ swap, swapAt π context (swapAddress π payload.swapId) = some swap →
        swap.receiverAddress = receiverAddress)
      (h : AtomicSwapClient.swapClose π numbers client payload receiverAddress = .ok t) :
      BuiltByClient π numbers client context t

/-- The handler of a registered method runs the method's row. -/
theorem apply_makeBatchList {family : Family} {method : ℕ} {entry : MethodEntry B}
    {dataPb : entry.Payload} (hentry : getStateProcessor π tz family method = some entry) :
    BasicHandler.apply π tz family (makeBatchList π client family
        ⟨method, entry.pbClass.serializeToString dataPb⟩ inputs outputs).request context =
      entry.process π (makeBatchList π client family
        ⟨method, entry.pbClass.serializeToString dataPb⟩ inputs outputs).request dataPb
          context := by
  have hpayload : π.pb.transactionPayload.parseFromString (makeBatchList π client family
      ⟨method, entry.pbClass.serializeToString dataPb⟩ inputs outputs).request.payload =
        some ⟨method, entry.pbClass.serializeToString dataPb⟩ :=
    π.pb.transactionPayload.parse_serialize _
  simp only [BasicHandler.apply, hpayload, hentry, Codec.parse_serialize]

theorem declared_blockAddress (h : blockInfoNamespace ∈ inputs) (n : ℕ) :
    Declared inputs (createBlockAddress n) :=
  ⟨_, h, List.prefix_append _ _⟩

/-- The items of a literal dictionary are among the listed ones. -/
theorem mem_of_entries_ofList {u : Dict Str Message} {es : List (Str × Message)}
    (hu : u = .ofList es) {item : Str × Message} (h : item ∈ u.entries) : item ∈ es := by
  subst hu
  exact Dict.mem_of_get?_ofList (Dict.get?_eq_some_iff.mpr h)

/-- A transaction of a registered method is authorized if the row's processor is. -/
theorem batch_authorized {family : Family} {method : ℕ} (entry : MethodEntry B)
    {dataPb : entry.Payload} (hentry : getStateProcessor π tz family method = some entry)
    (hreads : StoreM.ReadsWithin context (Declared inputs)
      (entry.processor client.publicKey dataPb))
    (hwrites : ∀ u, (entry.processor client.publicKey dataPb).run context = .ok u →
      ∀ item ∈ u.entries, Declared outputs item.1)
    (ht : t = makeBatchList π client family ⟨method, entry.pbClass.serializeToString dataPb⟩
      inputs outputs) :
    ∀ call ∈ (BasicHandler.apply π tz t.family t.request context).calls,
      Authorized t.inputs t.outputs call := by
  subst ht
  change ∀ call ∈ (BasicHandler.apply π tz family _ context).calls, _
  rw [apply_makeBatchList hentry]
  exact process_authorized hreads hwrites

theorem accountEntry_numbers (method : AccountMethod) :
    getStateProcessor π tz .account (numbers.account method) = some (accountEntry π method) := by
  simp [getStateProcessor, numbers.accountMethod_account]

theorem atomicSwapEntry_numbers (method : AtomicSwapMethod) :
    getStateProcessor π tz .atomicSwap (numbers.atomicSwap method) =
      some (atomicSwapEntry π tz method) := by
  simp [getStateProcessor, numbers.atomicSwapMethod_atomicSwap]

theorem transfer_authorized {addressTo : Str} {value : UInt64}
    (h : AccountClient.transfer π numbers client addressTo value = .ok t) :
    ∀ call ∈ (BasicHandler.apply π tz t.family t.request context).calls,
      Authorized t.inputs t.outputs call := by
  rw [AccountClient.transfer, getUserAddress, makeAddressFromData_account] at h
  cases h
  apply batch_authorized (accountEntry π .transfer) (accountEntry_numbers .transfer) _ _ rfl
  · exact readsWithin_transfer (declared_of_mem (by simp)) (declared_of_mem (by simp))
  · intro u hu item hitem
    obtain ⟨accounts, haccounts, rfl⟩ := transfer_spec.mp hu
    obtain ⟨-, -, -, debited, credited, -, -, rfl⟩ := transferFromAddress_spec.mp haccounts
    obtain ⟨x, hmem, -⟩ := mem_of_mapVals_ofList (Dict.get?_eq_some_iff.mpr hitem)
    apply declared_of_mem
    simp only [List.mem_cons, Prod.mk.injEq, List.not_mem_nil, or_false] at hmem ⊢
    tauto

theorem genesis_authorized {tokenSupply : UInt64}
    (h : genesisBatch π numbers client true tokenSupply = .ok (some t)) :
    ∀ call ∈ (BasicHandler.apply π tz t.family t.request context).calls,
      Authorized t.inputs t.outputs call := by
  obtain ⟨zero, -, h⟩ := Forms.bind_eq_ok.mp h
  rw [makeAddressFromData_account] at h
  cases h
  apply batch_authorized (accountEntry π .genesis) (accountEntry_numbers .genesis) _ _ rfl
  · exact readsWithin_genesis (declared_of_mem (by simp))
  · intro u hu item hitem
    obtain ⟨-, hu⟩ := genesis_spec.mp hu
    have hmem := mem_of_entries_ofList hu hitem
    apply declared_of_mem
    simp only [List.mem_cons, List.not_mem_nil, or_false] at hmem ⊢
    rcases hmem with rfl | rfl
    · exact .inr rfl
    · exact .inl rfl

theorem swapInit_authorized {payload : AtomicSwapInitPayload}
    (h : AtomicSwapClient.swapInit π numbers client payload = .ok t) :
    ∀ call ∈ (BasicHandler.apply π tz t.family t.request context).calls,
      Authorized t.inputs t.outputs call := by
  rw [AtomicSwapClient.swapInit, getUserAddress, makeAddressFromData_atomicSwap,
    makeAddressFromData_account] at h
  cases h
  apply batch_authorized (atomicSwapEntry π tz .init) (atomicSwapEntry_numbers .init) _ _ rfl
  · exact readsWithin_swapInit (declared_of_mem (by simp)) (declared_of_mem (by simp))
      (declared_of_mem (by simp)) (declared_of_mem (by simp)) (declared_of_mem (by simp))
      (declared_blockAddress (by simp))
  · intro u hu item hitem
    obtain ⟨-, block, createdAt, c, debited, credited, -, -, -, -, -, -, hu⟩ :=
      swapInit_spec.mp hu
    have hmem := mem_of_entries_ofList hu hitem
    apply declared_of_mem
    simp only [List.mem_cons, List.not_mem_nil, or_false] at hmem ⊢
    rcases hmem with rfl | rfl | rfl
    · exact .inl rfl
    · exact .inr (.inl rfl)
    · exact .inr (.inr rfl)

theorem swapApprove_authorized {payload : AtomicSwapApprovePayload}
    (h : AtomicSwapClient.swapApprove π numbers client payload = .ok t) :
    ∀ call ∈ (BasicHandler.apply π tz t.family t.request context).calls,
      Authorized t.inputs t.outputs call := by
  rw [AtomicSwapClient.swapApprove, getUserAddress, makeAddressFromData_atomicSwap,
    makeAddressFromData_account] at h
  cases h
  apply batch_authorized (atomicSwapEntry π tz .approve) (atomicSwapEntry_numbers .approve) _ _ rfl
  · exact readsWithin_swapApprove (declared_of_mem (by simp))
  · intro u hu item hitem
    obtain ⟨swap, -, -, -, -, -, hu⟩ := swapApprove_spec.mp hu
    have hmem := mem_of_entries_ofList hu hitem
    rw [List.mem_singleton] at hmem
    exact declared_of_mem (by simp [hmem])

theorem swapExpire_authorized {payload : AtomicSwapExpirePayload}
    (h : AtomicSwapClient.swapExpire π numbers client payload = .ok t) :
    ∀ call ∈ (BasicHandler.apply π tz t.family t.request context).calls,
      Authorized t.inputs t.outputs call := by
  rw [AtomicSwapClient.swapExpire, getUserAddress, makeAddressFromData_atomicSwap,
    makeAddressFromData_account] at h
  cases h
  apply batch_authorized (atomicSwapEntry π tz .expire) (atomicSwapEntry_numbers .expire) _ _ rfl
  · exact readsWithin_swapExpire (declared_of_mem (by simp)) (declared_of_mem (by simp))
      (declared_of_mem (by simp)) (declared_blockAddress (by simp))
  · intro u hu item hitem
    obtain ⟨swap, block, balance, -, -, -, -, -, -, hu⟩ := swapExpire_spec.mp hu
    have hmem := mem_of_entries_ofList hu hitem
    apply declared_of_mem
    simp only [List.mem_cons, List.not_mem_nil, or_false] at hmem ⊢
    rcases hmem with rfl | rfl
    · exact .inl rfl
    · exact .inr rfl

theorem swapSetSecretLock_authorized {payload : AtomicSwapSetSecretLockPayload}
    (h : AtomicSwapClient.swapSetSecretLock π numbers client payload = .ok t) :
    ∀ call ∈ (BasicHandler.apply π tz t.family t.request context).calls,
      Authorized t.inputs t.outputs call := by
  rw [AtomicSwapClient.swapSetSecretLock, getUserAddress, makeAddressFromData_atomicSwap,
    makeAddressFromData_account] at h
  cases h
  apply batch_authorized (atomicSwapEntry π tz .setSecretLock)
    (atomicSwapEntry_numbers .setSecretLock) _ _ rfl
  · exact readsWithin_swapSetLock (declared_of_mem (by simp))
  · intro u hu item hitem
    obtain ⟨swap, -, -, -, hu⟩ := swapSetLock_spec.mp hu
    have hmem := mem_of_entries_ofList hu hitem
    rw [List.mem_singleton] at hmem
    exact declared_of_mem (by simp [hmem])

theorem swapClose_authorized {payload : AtomicSwapClosePayload} {receiverAddress : Str}
    (hreceiver : ∀ swap, swapAt π context (swapAddress π payload.swapId) = some swap →
      swap.receiverAddress = receiverAddress)
    (h : AtomicSwapClient.swapClose π numbers client payload receiverAddress = .ok t) :
    ∀ call ∈ (BasicHandler.apply π tz t.family t.request context).calls,
      Authorized t.inputs t.outputs call := by
  rw [AtomicSwapClient.swapClose, getUserAddress, makeAddressFromData_atomicSwap,
    makeAddressFromData_account] at h
  cases h
  apply batch_authorized (atomicSwapEntry π tz .close) (atomicSwapEntry_numbers .close) _ _ rfl
  · apply readsWithin_swapClose (declared_of_mem (by simp))
    intro swap hswap
    rw [hreceiver swap hswap]
    exact declared_of_mem (by simp)
  · intro u hu item hitem
    obtain ⟨swap, balance, hswap, -, -, -, -, -, hu⟩ := swapClose_spec.mp hu
    have hmem := mem_of_entries_ofList hu hitem
    rw [hreceiver swap hswap] at hmem
    apply declared_of_mem
    simp only [List.mem_cons, List.not_mem_nil, or_false] at hmem ⊢
    rcases hmem with rfl | rfl
    · exact .inl rfl
    · exact .inr (.inr (.inl rfl))

/-- Every call that the handler makes to the context for a client's transaction reads below the
declared inputs or writes below the declared outputs. -/
theorem client_declares_every_address (h : BuiltByClient π numbers client context t) :
    ∀ call ∈ (BasicHandler.apply π tz t.family t.request context).calls,
      Authorized t.inputs t.outputs call := by
  cases h with
  | transfer _ h => exact transfer_authorized h
  | genesis h => exact genesis_authorized h
  | swapInit _ h => exact swapInit_authorized h
  | swapApprove h => exact swapApprove_authorized h
  | swapExpire h => exact swapExpire_authorized h
  | swapSetSecretLock h => exact swapSetSecretLock_authorized h
  | swapClose _ hreceiver h => exact swapClose_authorized hreceiver h

theorem swapClose_builds (numbers : MethodNumbers π.pb) (client : Signer B)
    (payload : AtomicSwapClosePayload) (receiverAddress : Str) :
    ∃ t, AtomicSwapClient.swapClose π numbers client payload receiverAddress = .ok t := by
  rw [AtomicSwapClient.swapClose, getUserAddress, makeAddressFromData_atomicSwap,
    makeAddressFromData_account]
  exact ⟨_, rfl⟩

def sampleNumbers : MethodNumbers Sample.platform.pb where
  account := fun
    | .transfer => 0 | .genesis => 1
  atomicSwap := fun
    | .init => 0 | .approve => 1 | .expire => 2 | .setSecretLock => 3 | .close => 4
  accountMethod_account := by
    intro method
    cases method <;> rfl
  atomicSwapMethod_atomicSwap := by
    intro method
    cases method <;> rfl

def botClient : Signer Sample.Data where
  publicKey := Sample.bot
  sign := fun _ _ _ => []

/-- The sample swap, approved and about to be closed by `bot`. -/
theorem bot_declares_close :
    ∃ t, AtomicSwapClient.swapClose Sample.platform sampleNumbers botClient
        { swapId := Sample.swapId, secretKey := Sample.secretKey }
        (accountAddress Sample.platform Sample.bot) = .ok t ∧
      ∀ call ∈ (BasicHandler.apply Sample.platform Sample.utc t.family t.request
          (Sample.final Sample.swapScript.dropLast).get?).calls,
        Authorized t.inputs t.outputs call := by
  have hreceiver : (swapAt Sample.platform (Sample.final Sample.swapScript.dropLast).get?
      (swapAddress Sample.platform Sample.swapId)).map (·.receiverAddress) =
        some (accountAddress Sample.platform Sample.bot) := by decide +kernel
  obtain ⟨t, ht⟩ := swapClose_builds sampleNumbers botClient
    { swapId := Sample.swapId, secretKey := Sample.secretKey }
    (accountAddress Sample.platform Sample.bot)
  refine ⟨t, ht, client_declares_every_address (.swapClose ?_ ?_ ht)⟩
  · exact address_length _ _ _
  · intro swap hswap
    rw [hswap] at hreceiver
    exact Option.some.inj hreceiver

end Remme.Clients
