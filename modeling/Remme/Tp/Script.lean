import Remme.Tp.Ledger
/-!
# Executing scripts of transactions

`play` applies a list of transactions and environment changes and keeps every
transition.  Where it succeeds, the transitions are a run of the step relation,
so a computed script is an example of everything proved about runs.

All results hold for every platform.  `Sample.platform` is one on which scripts
can be computed: records are kept as tagged messages instead of wire bytes, and
the hash and signature functions are tables that hold the true values at the
inputs of the scripts.
-/

namespace Remme.Tp

open Remme.Lib Remme.Protos Remme.Shared Remme.Settings Remme.Clients.BlockInfo

variable {B : Type}

/-- A transaction to apply, or a record that the environment writes. -/
inductive Input where
  | transaction (signer : Str) (op : Operation)
  | environment (address : Str) (record : EnvironmentRecord)

/-- The validator hands on transactions of public keys; the environment keeps to its addresses. -/
def Input.IsLegal : Input → Prop
  | .transaction signer _ => IsPublicKey signer
  | .environment address _ => IsEnvironmentAddress address

instance : DecidablePred Input.IsLegal
  | .transaction signer _ => inferInstanceAs (Decidable (IsPublicKey signer))
  | .environment address _ => inferInstanceAs (Decidable (IsEnvironmentAddress address))

variable (π : Platform B) (tz : TimeZone)

/-- The transitions of a script; `none` if a transaction is refused. -/
def play (s : Dict Str B) : List Input → Option (List (Transition (Dict Str B) Label))
  | [] => some []
  | .transaction signer op :: rest =>
      match op.apply π tz signer s with
      | .ok u => (play (setState π s u) rest).map
          (⟨s, .transaction signer op u, setState π s u⟩ :: ·)
      | .error _ => none
  | .environment address record :: rest =>
      (play (s.set address (π.pb.serializeEnvironment record)) rest).map
        (⟨s, .environment, s.set address (π.pb.serializeEnvironment record)⟩ :: ·)

theorem eq_ok_of_toOption {ε α : Type} {x : Except ε α} {a : α} (h : x.toOption = some a) :
    x = .ok a := by
  cases x with
  | ok a =>
      cases h
      rfl
  | error err => cases h

theorem exists_ok {ε α : Type} {x : Except ε α} (h : x.toOption.isSome = true) :
    ∃ a, x = .ok a := by
  obtain ⟨a, ha⟩ := Option.isSome_iff_exists.mp h
  exact ⟨a, eq_ok_of_toOption ha⟩

/-- The state after some transitions. -/
def lastState (s : Dict Str B) : List (Transition (Dict Str B) Label) → Dict Str B
  | [] => s
  | e :: es => lastState e.post es

variable {π tz} {s : Dict Str B} {inputs : List Input}
  {ts : List (Transition (Dict Str B) Label)}

theorem environmentChange_set {address : Str} {record : EnvironmentRecord}
    (h : IsEnvironmentAddress address) :
    EnvironmentChange π s (s.set address (π.pb.serializeEnvironment record)) := by
  intro a hne
  rw [Dict.get?_set] at hne ⊢
  split_ifs at hne ⊢ with ha
  · subst ha
    refine ⟨h, fun d hd => ?_⟩
    cases hd
    exact ⟨record, rfl⟩
  · exact absurd rfl hne

/-- The transition that an input makes. -/
inductive Plays (π : Platform B) (tz : TimeZone) : Input → Transition (Dict Str B) Label → Prop
  | transaction {s : Dict Str B} {signer : Str} {op : Operation} {u : Dict Str Message}
      (haccepted : op.apply π tz signer s = .ok u) :
      Plays π tz (.transaction signer op) ⟨s, .transaction signer op u, setState π s u⟩
  | environment {s : Dict Str B} {address : Str} {record : EnvironmentRecord} :
      Plays π tz (.environment address record)
        ⟨s, .environment, s.set address (π.pb.serializeEnvironment record)⟩

theorem Plays.step {i : Input} {e : Transition (Dict Str B) Label} (hlegal : i.IsLegal)
    (h : Plays π tz i e) : Step π tz e.pre e.label e.post := by
  cases h with
  | transaction haccepted => exact .transaction hlegal haccepted
  | environment => exact .environment (environmentChange_set hlegal)

/-- The first transition of a played script, and the rest. -/
theorem play_cons {i : Input} (h : play π tz s (i :: inputs) = some ts) :
    ∃ e es, ts = e :: es ∧ e.pre = s ∧ Plays π tz i e ∧ play π tz e.post inputs = some es := by
  cases i with
  | transaction signer op =>
      rw [play] at h
      cases haccepted : op.apply π tz signer s with
      | error err =>
          rw [haccepted] at h
          cases h
      | ok u =>
          rw [haccepted] at h
          obtain ⟨es, hes, rfl⟩ := Option.map_eq_some_iff.mp h
          exact ⟨_, es, rfl, rfl, .transaction haccepted, hes⟩
  | environment address record =>
      rw [play] at h
      obtain ⟨es, hes, rfl⟩ := Option.map_eq_some_iff.mp h
      exact ⟨_, es, rfl, rfl, .environment, hes⟩

theorem run_of_play (hlegal : ∀ i ∈ inputs, i.IsLegal) (h : play π tz s inputs = some ts) :
    Run (Step π tz) s ts (lastState s ts) := by
  induction inputs generalizing s ts with
  | nil =>
      cases h
      exact .nil
  | cons i rest ih =>
      obtain ⟨e, es, rfl, rfl, hi, hes⟩ := play_cons h
      exact .cons (hi.step (hlegal i (by simp))) (ih (fun j hj => hlegal j (by simp [hj])) hes)

/-- The labels of a played script are its inputs. -/
theorem label_of_play {P : Label → Prop} (h : play π tz s inputs = some ts)
    (henvironment : P .environment)
    (htransaction : ∀ signer op, .transaction signer op ∈ inputs →
      ∀ u, P (.transaction signer op u)) : ∀ e ∈ ts, P e.label := by
  induction inputs generalizing s ts with
  | nil =>
      cases h
      simp
  | cons i rest ih =>
      obtain ⟨e, es, rfl, -, hi, hes⟩ := play_cons h
      have hfirst : P e.label := by
        cases hi with
        | transaction => exact htransaction _ _ (by simp) _
        | environment => exact henvironment
      have hrest := ih hes fun signer op hmem => htransaction signer op (by simp [hmem])
      simpa using ⟨hfirst, hrest⟩

theorem length_of_play (h : play π tz s inputs = some ts) : ts.length = inputs.length := by
  induction inputs generalizing s ts with
  | nil =>
      cases h
      rfl
  | cons i rest ih =>
      obtain ⟨e, es, rfl, -, -, hes⟩ := play_cons h
      simp [ih hes]

/-- The transition of one transaction of a played script. -/
theorem split_of_play {signer : Str} {op : Operation} {xs ys : List Input}
    (h : play π tz s (xs ++ .transaction signer op :: ys) = some ts) :
    ∃ es e es' u, ts = es ++ e :: es' ∧ e.label = .transaction signer op u ∧
      es.length = xs.length ∧ es'.length = ys.length := by
  induction xs generalizing s ts with
  | nil =>
      obtain ⟨e, es, rfl, -, hi, hes⟩ := play_cons h
      cases hi with
      | transaction => exact ⟨[], _, es, _, rfl, rfl, rfl, length_of_play hes⟩
  | cons i rest ih =>
      obtain ⟨e, es, rfl, -, -, hes⟩ := play_cons h
      obtain ⟨fs, e', fs', u, rfl, hlabel, hlen, hlen'⟩ := ih hes
      exact ⟨e :: fs, e', fs', u, rfl, hlabel, by simp [hlen], hlen'⟩

namespace Sample

/-! ## Messages as data -/

inductive Data where
  | account (m : Account)
  | genesisStatus (m : GenesisStatus)
  | atomicSwapInfo (m : AtomicSwapInfo)
  | pubKeyStorage (m : PubKeyStorage)
  | setting (m : Setting)
  | blockInfoConfig (m : BlockInfoConfig)
  | blockInfo (m : BlockInfo)
  | transactionPayload (method : ℕ) (data : Data)
  | transferPayload (m : TransferPayload)
  | genesisPayload (m : GenesisPayload)
  | atomicSwapInitPayload (m : AtomicSwapInitPayload)
  | atomicSwapApprovePayload (m : AtomicSwapApprovePayload)
  | atomicSwapExpirePayload (m : AtomicSwapExpirePayload)
  | atomicSwapSetSecretLockPayload (m : AtomicSwapSetSecretLockPayload)
  | atomicSwapClosePayload (m : AtomicSwapClosePayload)
  | newPubKeyPayload (m : NewPubKeyPayload)
  | revokePubKeyPayload (m : RevokePubKeyPayload)
  | newPubKeyStoreAndPayPayload (m : NewPubKeyStoreAndPayPayload)
  /-- Bytes of none of these classes. -/
  | raw (bytes : Bytes)

def protobuf : Protobuf Data where
  account := ⟨.account, fun | .account m => some m | _ => none, fun _ => rfl⟩
  genesisStatus := ⟨.genesisStatus, fun | .genesisStatus m => some m | _ => none, fun _ => rfl⟩
  atomicSwapInfo := ⟨.atomicSwapInfo, fun | .atomicSwapInfo m => some m | _ => none, fun _ => rfl⟩
  pubKeyStorage := ⟨.pubKeyStorage, fun | .pubKeyStorage m => some m | _ => none, fun _ => rfl⟩
  setting := ⟨.setting, fun | .setting m => some m | _ => none, fun _ => rfl⟩
  blockInfoConfig :=
    ⟨.blockInfoConfig, fun | .blockInfoConfig m => some m | _ => none,
      fun _ => rfl⟩
  blockInfo := ⟨.blockInfo, fun | .blockInfo m => some m | _ => none, fun _ => rfl⟩
  transactionPayload :=
    ⟨fun m => .transactionPayload m.method m.data,
      fun | .transactionPayload method data => some ⟨method, data⟩ | _ => none, fun _ => rfl⟩
  transferPayload :=
    ⟨.transferPayload, fun | .transferPayload m => some m | _ => none,
      fun _ => rfl⟩
  genesisPayload := ⟨.genesisPayload, fun | .genesisPayload m => some m | _ => none, fun _ => rfl⟩
  atomicSwapInitPayload :=
    ⟨.atomicSwapInitPayload, fun | .atomicSwapInitPayload m => some m | _ => none,
      fun _ => rfl⟩
  atomicSwapApprovePayload :=
    ⟨.atomicSwapApprovePayload, fun | .atomicSwapApprovePayload m => some m | _ => none,
      fun _ => rfl⟩
  atomicSwapExpirePayload :=
    ⟨.atomicSwapExpirePayload, fun | .atomicSwapExpirePayload m => some m | _ => none,
      fun _ => rfl⟩
  atomicSwapSetSecretLockPayload :=
    ⟨.atomicSwapSetSecretLockPayload, fun | .atomicSwapSetSecretLockPayload m => some m | _ => none,
      fun _ => rfl⟩
  atomicSwapClosePayload :=
    ⟨.atomicSwapClosePayload, fun | .atomicSwapClosePayload m => some m | _ => none,
      fun _ => rfl⟩
  newPubKeyPayload :=
    ⟨.newPubKeyPayload, fun | .newPubKeyPayload m => some m | _ => none,
      fun _ => rfl⟩
  revokePubKeyPayload :=
    ⟨.revokePubKeyPayload, fun | .revokePubKeyPayload m => some m | _ => none,
      fun _ => rfl⟩
  newPubKeyStoreAndPayPayload :=
    ⟨.newPubKeyStoreAndPayPayload, fun | .newPubKeyStoreAndPayPayload m => some m | _ => none,
      fun _ => rfl⟩
  accountMethod := fun | 0 => some .transfer | 1 => some .genesis | _ => none
  atomicSwapMethod := fun
    | 0 => some .init | 1 => some .approve | 2 => some .expire | 3 => some .setSecretLock
    | 4 => some .close | _ => none
  pubKeyMethod := fun | 0 => some .store | 1 => some .revoke | 2 => some .storeAndPay | _ => none

/-! ## Hashes and signatures -/

/-- Bytes as a number, with a leading one so that no two byte strings share it. -/
def bytesNat (d : Bytes) : ℕ := d.foldl (fun n b => 256 * n + b.toNat) 1

/-- The value of a table at some bytes; elsewhere the bytes themselves. -/
def tableAt (table : List (ℕ × ℕ)) (d : Bytes) : ℕ :=
  ((table.find? fun entry => entry.1 = bytesNat d).map (·.2)).getD (bytesNat d)

/-- The digests of the family names, the two public keys, the swap id and the stored key. -/
def sha512Table : List (ℕ × ℕ) :=
  [(0x016163636f756e74,
    0x1120073317f32dc4fa805e721c2b760fc379bdb7ea3b8d1943402d1f51b183a2ac3ef86cdaede190dd36c95b578b1b2ff5dd9ebeff41eb3e11846d6a389fe5f5),
   (0x0141746f6d696353776170,
    0x78173bc3ca0a215be2018de8fd38ff0cd47df5fbecd096cd00a6d83ec470ca2debe240084074795ab6906930bee0903be6bd69aff68369b4ea572f121058b591),
   (0x017075625f6b6579,
    0xa23be1541b39740db12dfcc6bfdff5f01bffc4d495ffcca900815b202a0197f145641b3cb2e57291411c498fcf8dc6812164a8368d4ab1ca8badb8d9643b1645),
   (0x01303266656239383835393163373865353865353763646365356133313462643034373938393731323237666363323331363930373335353339326132633939633235,
    0xdb8a00c010402e2e3a7d03491323e761e0ea612481c518605648ceeb5ed454f7ecfb64f09d50fb93e4ec68802df22ab207c1f730bc919cbb99050121e66d0169),
   (0x01303365636335636234303934656230353331396265366337613633656266313731333364346666616561343863646366643164356663373964616337646237623662,
    0xb9433e1da5c624ff926477141abedfd57585a36590b0a8edc4104ef28093ee3050703d7c5f29e410fcddd39e227d9bd626c4a5ebc719298ab338c0d56446765b),
   (0x0130333331303265343133343632343234373662313561336137393636656235323439323731303235666337666230623337656433666462346263636533383834,
    0x40c633c5f2fbbb9e9c0b39e3e3ae3a3908a47aa322a890d7c7884cb7fbca1830e07adc221d4aa6e3704646b906a145c36c7000c990a0eae4d3d8419d536de264),
   (0x01c1918413848bd17096ef4e4c7bb3d9d110c2ebcb2806496619c5bd1343771644,
    0xe89c351d7dd21bd9a01be1d4c67ed84ae476f9a69ba874834f1fa8bc5b8c3d4af779e8b02a06393f8d054cd3a415dd0b9f1c8515cfb036525bc015465ef79b12)]

/-- The digests of the parts of the two settings keys, and of the texts of two transfer, four
swap and one batch notifications. -/
def sha256Table : List (ℕ × ℕ) :=
  [(0x0172656d6d65,
    0x7ca83d6bbb759da9cf622024f25137fa85124c88286051b54ceebfa59918bcc4),
   (0x0173657474696e6773,
    0xcde0fb0dec1400c54a0f7e7eafa73624c53e4da258bbd34b3380a0defeba95c1),
   (0x01737761705f636f6d697373696f6e,
    0x5cc3bbcd6b1243b26513eccf790be4436e2b55dd7583fd9d8af8725a1a8e7fcb),
   (0x0165636f6e6f6d795f656e61626c6564,
    0xebbaccb7f40378852a50ca8d33ff60f22d9e3b3be2ca95ed0e074ca10398228b),
   (0x01,
    0xe3b0c44298fc1c149afbf4c8996fb92427ae41e4649b934ca495991b7852b855),
   (0x017472616e736665723a7b2761646472657373273a202731313230303764623861303063303130343032653265336137643033343931333233653736316530656136313234383163353138363035363438636565623565643435346637272c202762616c616e6365273a203939393930302e307d2d7b2761646472657373273a202731313230303762393433336531646135633632346666393236343737313431616265646664353735383561333635393062306138656463343130346566323830393365653330272c202762616c616e6365273a203130302e307d,
    0xee583cc2ab94bb0a150428786a2f85d6d4d2a946c0f2cca9e45f59c94c388fa4),
   (0x017472616e736665723a7b2761646472657373273a202731313230303764623861303063303130343032653265336137643033343931333233653736316530656136313234383163353138363035363438636565623565643435346637272c202762616c616e6365273a203939393830302e307d2d7b2761646472657373273a202731313230303762393433336531646135633632346666393236343737313431616265646664353735383561333635393062306138656463343130346566323830393365653330272c202762616c616e6365273a203230302e307d,
    0x295dde0f99e841dbb0d253d8da73cfa6299c30ea5533060b308a0e356c789955),
   (0x0161746f6d69635f737761703a303333313032653431333436323432343736623135613361373936366562353234393237313032356663376662306233376564336664623462636365333838342d4f50454e4544,
    0x3e88fd92eb8afed54d8520e00cf1868491bd5c25e921c2fe026224762b4b2a40),
   (0x0161746f6d69635f737761703a303333313032653431333436323432343736623135613361373936366562353234393237313032356663376662306233376564336664623462636365333838342d5345435245545f4c4f434b5f50524f5649444544,
    0xd1c2eb788337502e9f7572dd3dd93d53aa20274bc7fe2961d603e090033df041),
   (0x0161746f6d69635f737761703a303333313032653431333436323432343736623135613361373936366562353234393237313032356663376662306233376564336664623462636365333838342d415050524f564544,
    0xd446b87e33072b94be3b249d96295c3e8f2b5c3c15ed3bce8b2f3b67738eabb5),
   (0x0161746f6d69635f737761703a303333313032653431333436323432343736623135613361373936366562353234393237313032356663376662306233376564336664623462636365333838342d434c4f534544,
    0x13eedaaa4e9ef042051c546d55ff0d7cac508ccca73d62b4c6e32b8cbeeae0dc),
   (0x0162617463683a30303030303030303030303030303030303030303030303030303030303030303030303030303030303030303030303030303030303030303030303030303030303030303030303030303030303030303030303030303030303030303030303030303030303030303030303030303030303030303030303030303030303030372d50454e44494e47,
    0x421bb7326fbd9a74107cd1ecd2c516f6fc61aef6a5f584f991c1efea39b5a793)]

def alice : Str := Text.hexFixed 66 0x02feb988591c78e58e57cdce5a314bd04798971227fcc2316907355392a2c99c25

def bot : Str := Text.hexFixed 66 0x03ecc5cb4094eb05319be6c7a63ebf17133d4ffaea48cdcfd1d5fc79dac7db7b6b

def swapId : Str := Text.hexFixed 64 0x033102e41346242476b15a3a7966eb5249271025fc7fb0b37ed3fdb4bcce3884

def secretKey : Str := Text.hexFixed 64 0x3e0b064c97247732a3b345ce7b2a835d928623cb2871c26db4c2539a38e61a16

def secretLock : Str := Text.hexFixed 64 0x0728356568862f9da0825aa45ae9d3642d64a6a732ad70b8857b2823dbf2a0b8

/-- The bytes of a number of the given width. -/
def numBytes : ℕ → ℕ → Bytes
  | 0, _ => []
  | width + 1, n => numBytes width (n / 256) ++ [UInt8.ofNat (n % 256)]

/-- An Ed25519 key and its signature over the SHA-256 digest of `entityHash`. -/
def storedKey : Bytes := numBytes 32 0xc1918413848bd17096ef4e4c7bb3d9d110c2ebcb2806496619c5bd1343771644

def entityHash : Bytes := numBytes 5 0x72656d6d65

def entityHashSignature : Bytes := numBytes 64
  0x902056f28c26ae5761e1a6e297e150fd8db42222d9d2f904ee9fecd5c21b5f1e29b5a8f6d33b9fd795163b343a7ccb315b374b43f19d4231abe2d679443abc0c

def platform : Platform Data where
  pb := protobuf
  sha512 := fun d => Text.hexFixed 128 (tableAt sha512Table d)
  sha256 := fun d => Text.hexFixed 64 (tableAt sha256Table d)
  keccak256 := fun d => Text.hexFixed 64 (tableAt
    [(0x013e0b064c97247732a3b345ce7b2a835d928623cb2871c26db4c2539a38e61a16,
      0x0728356568862f9da0825aa45ae9d3642d64a6a732ad70b8857b2823dbf2a0b8)] d)
  isPrintable := fun _ => false
  loadDerPublicKey := fun _ => .valueError
  rsaVerify := fun _ _ _ _ _ => false
  ecdsaVerify := fun _ _ _ _ => false
  ed25519Verify := fun key signature data algorithm =>
    key = storedKey ∧ signature = entityHashSignature ∧ data = entityHash ∧ algorithm = .sha256
  secp256k1FromHex := fun _ => false
  secp256k1Verify := fun _ _ _ => false
  sha512_length := fun _ => Text.hexFixed_length _ _
  sha512_hex := fun _ => Text.isLowerHex_hexFixed _ _
  sha512_account := by decide +kernel
  sha512_atomicSwap := by decide +kernel
  sha512_pubKey := by decide +kernel

theorem noForeignOwner : platform.pb.NoForeignOwner where
  account := by
    intro m r h
    cases h
  genesisStatus := by
    intro m r h
    cases h
  atomicSwapInfo := by
    intro m r h
    cases h
  environment := by
    rintro d r ⟨record, rfl⟩ h
    cases record <;> cases h

/-! ## Scripts from the empty store -/

abbrev utc : TimeZone := fun _ => 0

/-- The transitions of a script of accepted transactions; irreducible, since elaboration would
otherwise try to compute them. -/
@[irreducible] def transitions (inputs : List Input) : List (Transition (Dict Str Data) Label) :=
  (play platform utc Dict.empty inputs).getD []

def final (inputs : List Input) : Dict Str Data := lastState Dict.empty (transitions inputs)

theorem play_eq_transitions {inputs : List Input}
    (h : (play platform utc Dict.empty inputs).isSome = true) :
    play platform utc Dict.empty inputs = some (transitions inputs) := by
  obtain ⟨ts, hts⟩ := Option.isSome_iff_exists.mp h
  unfold transitions
  rw [hts]
  rfl

theorem run_of_accepted {inputs : List Input} (hlegal : ∀ i ∈ inputs, i.IsLegal)
    (h : (play platform utc Dict.empty inputs).isSome = true) :
    LedgerRun platform utc (transitions inputs) (final inputs) :=
  run_of_play hlegal (play_eq_transitions h)

/-- The records that a swap reads: the commission, and the latest block. -/
def environment (timestamp : UInt64) : List Input :=
  [.environment (makeSettingsKey platform settingsSwapCommission)
     (.setting ⟨[⟨settingsSwapCommission, "10".toList⟩]⟩),
   .environment configAddress (.blockInfoConfig { latestBlock := 1 }),
   .environment (createBlockAddress 1)
     (.blockInfo { blockNum := 1, timestamp := timestamp })]

/-- An INIT by the initiator, without a lock. -/
def initPayload : AtomicSwapInitPayload :=
  { receiverAddress := accountAddress platform bot
    senderAddressNonLocal := "0xe6ca0e7c974f06471759e9a05d18b538c5ced11e".toList
    amount := 200
    swapId := swapId
    createdAt := 1548237000 }

/-- A swap from GENESIS to CLOSE. -/
def swapScript : List Input :=
  environment 1548237000 ++
  [.transaction alice (.genesis { totalSupply := 1000000 }),
   .transaction alice (.swapInit initPayload),
   .transaction bot (.swapSetLock { swapId := swapId, secretLock := secretLock }),
   .transaction alice (.swapApprove { swapId := swapId }),
   .transaction bot (.swapClose { swapId := swapId, secretKey := secretKey })]

theorem swapScript_legal : ∀ i ∈ swapScript, i.IsLegal := by decide +kernel

theorem swapScript_accepted : (play platform utc Dict.empty swapScript).isSome = true := by
  decide +kernel

theorem mem_swapScript {signer : Str} {op : Operation}
    (h : .transaction signer op ∈ swapScript) :
    (signer = alice ∧ op = .genesis { totalSupply := 1000000 }) ∨
    (signer = alice ∧ op = .swapInit initPayload) ∨
    (signer = bot ∧ op = .swapSetLock { swapId := swapId, secretLock := secretLock }) ∨
    (signer = alice ∧ op = .swapApprove { swapId := swapId }) ∨
    (signer = bot ∧ op = .swapClose { swapId := swapId, secretKey := secretKey }) := by
  simpa [swapScript, environment] using h

theorem swapScript_receivers :
    ∀ e ∈ transitions swapScript, e.label.ReceiverIsAccount platform := by
  apply label_of_play (P := Label.ReceiverIsAccount platform)
    (play_eq_transitions swapScript_accepted) trivial
  intro signer op hmem u
  rcases mem_swapScript hmem with ⟨-, rfl⟩ | ⟨-, rfl⟩ | ⟨-, rfl⟩ | ⟨-, rfl⟩ | ⟨-, rfl⟩
  · trivial
  · exact familyPrefix_isPrefix_address platform _ _
  · trivial
  · trivial
  · trivial

/-- A payload for the stored key, valid for a year. -/
def keyPayload : NewPubKeyPayload :=
  { entityHash := entityHash
    entityHashSignature := entityHashSignature
    validFrom := 1548237000
    validTo := 1579773000
    configuration := some (.ed25519 storedKey) }

/-- A key registered and revoked by its owner, with the economy switched off. -/
def keyScript : List Input :=
  [.environment (makeSettingsKey platform "remme.economy_enabled".toList)
     (.setting ⟨[⟨"remme.economy_enabled".toList, "False".toList⟩]⟩),
   .transaction alice (.store keyPayload),
   .transaction alice (.revoke { address := pubKeyAddress platform storedKey })]

theorem keyScript_legal : ∀ i ∈ keyScript, i.IsLegal := by decide +kernel

theorem keyScript_accepted : (play platform utc Dict.empty keyScript).isSome = true := by
  decide +kernel

theorem mem_keyScript {signer : Str} {op : Operation} (h : .transaction signer op ∈ keyScript) :
    signer = alice ∧ (op = .store keyPayload ∨
      op = .revoke { address := pubKeyAddress platform storedKey }) := by
  have hmem : (signer = alice ∧ op = .store keyPayload) ∨
      (signer = alice ∧ op = .revoke { address := pubKeyAddress platform storedKey }) := by
    simpa [keyScript] using h
  tauto

theorem keyScript_receivers :
    ∀ e ∈ transitions keyScript, e.label.ReceiverIsAccount platform := by
  apply label_of_play (P := Label.ReceiverIsAccount platform)
    (play_eq_transitions keyScript_accepted) trivial
  intro signer op hmem u
  rcases mem_keyScript hmem with ⟨-, rfl | rfl⟩
  · trivial
  · trivial

end Sample

end Remme.Tp
