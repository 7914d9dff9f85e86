import Remme.Clients.Proofs.GrowingPages
import Remme.RpcApi.Reads
/-!
# What the reading methods answer

Every state that a block commits is reached by a run of the ledger, where an
account address holds an account; and where swaps were only opened towards
accounts, a swap's address holds a swap and a key's address a key with its
configuration.  So nothing that the reading methods fetch there fails to parse,
and what they answer is the ledger's view of one committed state.
-/

namespace Remme.RpcApi

open Remme.Lib Remme.Lib.Dialogue Remme.Protos Remme.Shared Remme.Tp
  Remme.Clients Remme.Clients.BlockInfo

variable {T B τ : Type} [Preorder T] {π : Platform B} {tz : TimeZone} {sdk : Sdk τ}
  {ofBytes : Bytes → B} {v : Validator T B} {answers : T → (q : Request τ) → Reply q → Prop}
  {s : Dict Str B} {a : Str}

/-- Every head commits a state of the ledger. -/
def CommitsLedger (π : Platform B) (tz : TimeZone) (v : Validator T B) : Prop :=
  ∀ m, ∃ ts, LedgerRun π tz ts (v.committed m)

/-- And its chain opened swaps towards accounts only. -/
def CommitsAccountSwaps (π : Platform B) (tz : TimeZone) (v : Validator T B) : Prop :=
  ∀ m, ∃ ts, LedgerRun π tz ts (v.committed m) ∧ ∀ e ∈ ts, e.label.ReceiverIsAccount π

/-! ## Records parse -/

/-- Every key record has a configuration. -/
def KeysConfigured (π : Platform B) (s : Dict Str B) : Prop :=
  ∀ a r, IsPubKeyAddress π a → pubKeyAt π s.get? a = some r → r.payload.configuration ≠ none

theorem keysConfigured_of_run (hforeign : π.pb.NoForeignOwner)
    {ts : List (Transition (Dict Str B) Label)} (hrun : LedgerRun π tz ts s)
    (hreceiver : ∀ e ∈ ts, e.label.ReceiverIsAccount π) : KeysConfigured π s := by
  have hboth : Sound π s ∧ KeysConfigured π s := by
    apply hrun.invariant (P := fun s => Sound π s ∧ KeysConfigured π s)
    · refine ⟨sound_empty, ?_⟩
      intro a r _ hr
      cases hr
    · rintro e he hstep ⟨hsound, hinv⟩
      refine ⟨hsound.step hforeign (hreceiver e he) hstep, ?_⟩
      intro a r ha hr
      rcases hsound.pubKeyAt_step hforeign hstep ha with hsame | ⟨_, _, _, w, _, _, hw, hpost⟩
      · rw [hsame] at hr
        exact hinv a r ha hr
      · rw [hpost] at hr
        cases hr
        cases hw with
        | store hregistrable => simp [hregistrable.isSet]
        | storeAndPay _ hregistrable => simp [hregistrable.isSet]
        | @revoke _ stored hstored => exact hinv _ stored ha hstored
  exact hboth.2

/-- A record, or the error where there is none. -/
def recordOr {α : Type} (err : RequestError) : Option α → Except RequestError α
  | some m => .ok m
  | none => .error err

/-- The error of `_handle_response`. -/
abbrev resourceNotFound : RequestError := .keyNotFound "Resource not found".toList

/-- Where what an address holds parses, the view is the parsed record. -/
theorem messageView_eq {α : Type} {pbClass : Codec B α}
    (hparse : ∀ d, s.get? a = some d → (pbClass.parseFromString d).isSome = true) :
    messageView pbClass a s.get? =
      recordOr resourceNotFound ((s.get? a).bind pbClass.parseFromString) := by
  unfold messageView valueView
  cases hd : s.get? a with
  | none => rfl
  | some d =>
      obtain ⟨m, hm⟩ := Option.isSome_iff_exists.mp (hparse d hd)
      simp only [Except.bind, parseAs, hm, Option.bind_some, recordOr]

theorem accountView_eq (hinv : AccountsHoldAccounts π s) (ha : IsAccountAddress π a) :
    messageView π.pb.account a s.get? = recordOr resourceNotFound (accountAt π s.get? a) := by
  apply messageView_eq
  intro d hd
  obtain ⟨m, rfl⟩ := hinv a d ha hd
  simp [Protobuf.serialize]

theorem swapView_eq (hinv : WellPlaced π s) (ha : IsSwapAddress π a) :
    messageView π.pb.atomicSwapInfo a s.get? = recordOr resourceNotFound (swapAt π s.get? a) := by
  apply messageView_eq
  intro d hd
  obtain ⟨m, hplaced, rfl⟩ | ⟨henv, -⟩ := hinv a d hd
  · have hclass : m.messageClass = .atomicSwapInfo := hplaced.unique ha
    cases m with
    | atomicSwapInfo w => simp [Protobuf.serialize]
    | _ => cases hclass
  · exact absurd henv ha.not_environment

theorem keyView_eq (hinv : WellPlaced π s) (ha : IsPubKeyAddress π a) :
    messageView π.pb.pubKeyStorage a s.get? = recordOr resourceNotFound (pubKeyAt π s.get? a) := by
  apply messageView_eq
  intro d hd
  obtain ⟨m, hplaced, rfl⟩ | ⟨henv, -⟩ := hinv a d hd
  · have hclass : m.messageClass = .pubKeyStorage := hplaced.unique ha
    cases m with
    | pubKeyStorage r => simp [Protobuf.serialize]
    | _ => cases hclass
  · exact absurd henv ha.not_environment

theorem publicKeyInfo_ne_keyNotFound {r : PubKeyStorage} (hset : r.payload.configuration ≠ none)
    (now : ℚ) (message : Str) : publicKeyInfo now r ≠ .error (.keyNotFound message) := by
  have hpayload : r.payload ≠ {} := by
    intro h
    rw [h] at hset
    exact hset rfl
  unfold publicKeyInfo
  rw [if_neg hpayload]
  cases hconfiguration : r.payload.configuration with
  | none => exact absurd hconfiguration hset
  | some configuration =>
      cases decodeUtf8 r.payload.entityHash with
      | none => simp
      | some entityHash => simp

/-! ## The methods -/

/-- What `get_public_key_info` says of a state. -/
def keyInfoView (π : Platform B) (now : ℚ) (a : Str) (s : Str → Option B) :
    Except RequestError PyVal :=
  (recordOr keyInfoNotFound (pubKeyAt π s a)).bind (publicKeyInfo now)

/-- What `get_block_number` says of a state: the number of blocks up to the latest one. -/
def blockNumberView (π : Platform B) (s : Str → Option B) : Except RequestError ℕ :=
  match s configAddress with
  | none => .ok 0
  | some d => (parseAs π.pb.blockInfoConfig d).map fun config => config.latestBlock.toNat + 1

theorem reads_getBalance (hforeign : π.pb.NoForeignOwner)
    (htruth : Truthful sdk ofBytes v answers) (hcommits : CommitsLedger π tz v)
    (ha : IsAccountAddress π a) :
    Reads sdk v answers (getBalance π sdk ofBytes a) fun s => .ok (balanceAt π s a) := by
  have hread := ((reads_getMessage htruth π.pb.account a).bind_pure
    fun account : Account => account.balance.toNat).exceptKeyNotFound (.ok 0)
  apply hread.congr
  intro m
  obtain ⟨ts, hrun⟩ := hcommits m
  simp only [accountView_eq (accountsHoldAccounts_of_run hforeign hrun) ha, balanceAt]
  cases accountAt π (v.committed m).get? a <;> rfl

theorem reads_getPublicKeysList (hforeign : π.pb.NoForeignOwner)
    (htruth : Truthful sdk ofBytes v answers) (hcommits : CommitsLedger π tz v)
    (ha : IsAccountAddress π a) :
    Reads sdk v answers (getPublicKeysList π sdk ofBytes a) fun s => .ok (pubKeysAt π s a) := by
  have hread := ((reads_getMessage htruth π.pb.account a).bind_pure
    fun account : Account => account.pubKeys).exceptKeyNotFound (.ok [])
  apply hread.congr
  intro m
  obtain ⟨ts, hrun⟩ := hcommits m
  simp only [accountView_eq (accountsHoldAccounts_of_run hforeign hrun) ha, pubKeysAt]
  cases accountAt π (v.committed m).get? a <;> rfl

theorem reads_getBlockNumber (htruth : Truthful sdk ofBytes v answers) :
    Reads sdk v answers (getBlockNumber π sdk ofBytes) (blockNumberView π) := by
  have hread := ((reads_getMessage htruth π.pb.blockInfoConfig configAddress).bind_pure
    fun config : BlockInfoConfig => config.latestBlock.toNat + 1).exceptKeyNotFound (.ok 0)
  apply hread.congr
  intro m
  unfold blockNumberView messageView valueView
  cases (v.committed m).get? configAddress with
  | none => rfl
  | some d =>
      cases hparse : π.pb.blockInfoConfig.parseFromString d <;>
        simp only [Except.bind, parseAs, hparse] <;> rfl

theorem reads_getAtomicSwapInfo (hforeign : π.pb.NoForeignOwner)
    (htruth : Truthful sdk ofBytes v answers) (hcommits : CommitsAccountSwaps π tz v) (id : Str) :
    Reads sdk v answers (getAtomicSwapInfo π sdk ofBytes id) fun s =>
      (recordOr (swapNotFound id) (swapAt π s (swapAddress π id))).map swapInfoDict := by
  have hget : AtomicSwapClient.swapGet π sdk ofBytes id =
      getMessage sdk ofBytes π.pb.atomicSwapInfo (swapAddress π id) := by
    rw [AtomicSwapClient.swapGet, makeAddressFromData_eq]
    rfl
  have hread := ((reads_getMessage htruth π.pb.atomicSwapInfo
    (swapAddress π id)).exceptKeyNotFound (.error (swapNotFound id))).bind_pure swapInfoDict
  rw [← hget] at hread
  apply hread.congr
  intro m
  obtain ⟨ts, hrun, hreceiver⟩ := hcommits m
  simp only [swapView_eq (sound_of_run hforeign hrun hreceiver).placed
    (isSwapAddress_swapAddress π id)]
  cases swapAt π (v.committed m).get? (swapAddress π id) <;> rfl

theorem reads_getPublicKeyInfo (hforeign : π.pb.NoForeignOwner)
    (htruth : Truthful sdk ofBytes v answers) (hcommits : CommitsAccountSwaps π tz v) (now : ℚ)
    (ha : IsPubKeyAddress π a) :
    Reads sdk v answers (getPublicKeyInfo π sdk ofBytes now a) (keyInfoView π now a) := by
  have hread := ((reads_getMessage htruth π.pb.pubKeyStorage a).bind_ofExcept
    (publicKeyInfo now)).exceptKeyNotFound (.error keyInfoNotFound)
  apply hread.congr
  intro m
  obtain ⟨ts, hrun, hreceiver⟩ := hcommits m
  have hset := keysConfigured_of_run hforeign hrun hreceiver a
  simp only [keyView_eq (sound_of_run hforeign hrun hreceiver).placed ha, keyInfoView]
  cases hr : pubKeyAt π (v.committed m).get? a with
  | none => rfl
  | some r =>
      have hne := publicKeyInfo_ne_keyNotFound (hset r ha hr) now
      change onKeyNotFound _ (publicKeyInfo now r) = publicKeyInfo now r
      cases hinfo : publicKeyInfo now r with
      | ok info => rfl
      | error err =>
          cases err with
          | keyNotFound message => exact absurd hinfo (hne message)
          | _ => rfl

/-- Each reading method answers what the ledger holds in the state that the head of the chain
committed at one moment between the call and its answer, however the chain grew or switched
meanwhile, unless the validator did not serve a request; swaps and keys where swaps were only
opened towards accounts. -/
theorem methods_read_one_block (hforeign : π.pb.NoForeignOwner)
    (htruth : Truthful sdk ofBytes v answers) (hcommits : CommitsLedger π tz v) :
    (∀ a, IsAccountAddress π a →
      Reads sdk v answers (getBalance π sdk ofBytes a) (fun s => .ok (balanceAt π s a)) ∧
      Reads sdk v answers (getPublicKeysList π sdk ofBytes a) fun s => .ok (pubKeysAt π s a)) ∧
    Reads sdk v answers (getBlockNumber π sdk ofBytes) (blockNumberView π) ∧
    (CommitsAccountSwaps π tz v →
      (∀ id, Reads sdk v answers (getAtomicSwapInfo π sdk ofBytes id) fun s =>
        (recordOr (swapNotFound id) (swapAt π s (swapAddress π id))).map swapInfoDict) ∧
      ∀ now a, IsPubKeyAddress π a →
        Reads sdk v answers (getPublicKeyInfo π sdk ofBytes now a) (keyInfoView π now a)) := by
  refine ⟨fun a ha => ⟨?_, ?_⟩, reads_getBlockNumber htruth, fun haccounts =>
    ⟨fun id => ?_, fun now a ha => ?_⟩⟩
  · exact reads_getBalance hforeign htruth hcommits ha
  · exact reads_getPublicKeysList hforeign htruth hcommits ha
  · exact reads_getAtomicSwapInfo hforeign htruth haccounts id
  · exact reads_getPublicKeyInfo hforeign htruth haccounts now ha

/-! ## Pages of blocks -/

/-- While blocks are only added and every request is served, `get_blocks` answers what the client
does: nothing is missing, so the exception of its own is never raised. -/
theorem goes_getBlocks_iff {oldest : ℕ} {latest : T → ℕ} {t t' : T} {start limit : ℤ}
    (h : Grows π v oldest latest) (htruth : Truthful sdk ofBytes v answers)
    (hserved : Served sdk answers t t') (hstart : 0 ≤ start)
    {result : Except RequestError (List BlockInfo.BlockRecord)} :
    Goes answers t (getBlocks π sdk ofBytes start limit) result t' ↔
      Goes answers t (BlockInfoClient.getBlocksInfo π sdk ofBytes start limit) result t' := by
  unfold getBlocks exceptKeyNotFound
  rw [goes_handle]
  constructor
  · rintro (⟨blocks, rfl, hgoes⟩ | ⟨err, k, herr, hhandler⟩)
    · exact hgoes
    · obtain ⟨m, blocks, -, -, hresult, -⟩ :=
        h.goes_getBlocksInfo htruth (hserved.mono le_rfl hhandler.le) hstart herr
      cases hresult
  · intro hgoes
    obtain ⟨m, blocks, -, -, rfl, -⟩ := h.goes_getBlocksInfo htruth hserved hstart hgoes
    exact .inl ⟨_, rfl, hgoes⟩

namespace Sample

open Remme.Tp.Sample Remme.Clients.Sample

/-- The supply is issued, and nothing else. -/
def supplyScript : List Input := [.transaction alice (.genesis { totalSupply := 1000000 })]

theorem supplyScript_legal : ∀ i ∈ supplyScript, i.IsLegal := by decide +kernel

theorem supplyScript_accepted : (play platform utc Dict.empty supplyScript).isSome = true := by
  decide +kernel

/-- The wire bytes of the two records that the script writes. -/
def wire : Data → Bytes
  | .account _ => [0x08, 0xc0, 0x84, 0x3d]
  | _ => [0x08, 0x01]

def ofWire (b : Bytes) : Data :=
  if b = [0x08, 0xc0, 0x84, 0x3d] then .account { balance := 1000000 }
  else if b = [0x08, 0x01] then .genesisStatus { status := true }
  else .raw b

/-- The records that `wire` is right about. -/
def isWired : Data → Bool
  | .account m => m = { balance := 1000000 }
  | .genesisStatus m => m = { status := true }
  | _ => false

theorem ofWire_wire {d : Data} (h : isWired d = true) : ofWire (wire d) = d := by
  cases d with
  | account m =>
      have hm : m = { balance := 1000000 } := of_decide_eq_true h
      rw [hm]
      rfl
  | genesisStatus m =>
      have hm : m = { status := true } := of_decide_eq_true h
      rw [hm]
      rfl
  | _ => cases h

theorem isWired_entries :
    ((final supplyScript).entries.all fun entry => isWired entry.2) = true := by
  decide +kernel

theorem ofWire_supply (a : Str) (d : Data) (h : (final supplyScript).get? a = some d) :
    ofWire (wire d) = d :=
  ofWire_wire (List.all_eq_true.mp isWired_entries _ (Dict.get?_eq_some_iff.mp h))

theorem truthful : Truthful sampleSdk ofWire (movingHead Dict.empty (final supplyScript))
    (Serves Dict.empty (final supplyScript) wire) := by
  apply truthful_serves _ ofWire_supply
  intro a d h
  cases h

theorem commitsAccountSwaps :
    CommitsAccountSwaps platform utc (movingHead Dict.empty (final supplyScript)) := by
  intro m
  rw [committed_movingHead]
  split
  · exact ⟨[], .nil, by simp⟩
  · refine ⟨transitions supplyScript,
      run_of_accepted supplyScript_legal supplyScript_accepted, ?_⟩
    apply label_of_play (P := Label.ReceiverIsAccount platform)
      (play_eq_transitions supplyScript_accepted) trivial
    intro signer op hmem u
    simp only [supplyScript, List.mem_singleton, Input.transaction.injEq] at hmem
    rw [hmem.2]
    trivial

/-- The head is asked for at time zero, and the entry at time one. -/
theorem goes_getBalance :
    Goes (Serves Dict.empty (final supplyScript) wire) 0
      (getBalance platform sampleSdk ofWire (accountAddress platform alice)) (.ok 0) 1 := by
  have hhead : Serves Dict.empty (final supplyScript) wire 0 headRequest
      (.ok (some ⟨1, ⟨[headText 0], [], none⟩⟩)) := rfl
  have hentry : Serves Dict.empty (final supplyScript) wire 1
      (.stateGet ['0'] (accountAddress platform alice)) (.ok (some ⟨5, []⟩)) := rfl
  exact .ask le_rfl hhead (.ask zero_le_one hentry (.done le_rfl))

theorem methods_read_one_block_moving_head :
    (∃ m, 0 ≤ m ∧ m ≤ 1 ∧ (.ok 0 : Except RequestError ℕ) =
      .ok (balanceAt platform ((movingHead Dict.empty (final supplyScript)).committed m).get?
        (accountAddress platform alice))) ∧
    Reads sampleSdk (movingHead Dict.empty (final supplyScript))
      (Serves Dict.empty (final supplyScript) wire)
      (getAtomicSwapInfo platform sampleSdk ofWire Tp.Sample.swapId) fun s =>
        (recordOr (swapNotFound Tp.Sample.swapId)
          (swapAt platform s (swapAddress platform Tp.Sample.swapId))).map swapInfoDict := by
  have haccount : IsAccountAddress platform (accountAddress platform alice) :=
    .inl (familyPrefix_isPrefix_address platform _ _)
  have hledger : CommitsLedger platform utc (movingHead Dict.empty (final supplyScript)) := by
    intro m
    obtain ⟨ts, hrun, -⟩ := commitsAccountSwaps m
    exact ⟨ts, hrun⟩
  have hreads := methods_read_one_block noForeignOwner truthful hledger
  refine ⟨?_, (hreads.2.2 commitsAccountSwaps).1 _⟩
  obtain hmoment | ⟨err, herr, -⟩ := (hreads.1 _ haccount).1 0 1 _ goes_getBalance
  · exact hmoment
  · cases herr

end Sample

end Remme.RpcApi
