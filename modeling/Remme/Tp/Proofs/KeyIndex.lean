import Remme.Tp.Proofs.Registry
import Remme.Tp.Proofs.StoreAndPay
/-!
# The keys listed in an account

`pub_keys` of an account repeats the registry: it is kept by appending to one of
several freshly parsed copies of the account, while every operation that touches
a balance rewrites the whole message.  GENESIS replaces the account and drops the
list, so the index is exact over the runs without it.
-/

namespace Remme.Tp

open Remme.Lib Remme.Protos Remme.Shared Remme.Settings

variable {B : Type} {π : Platform B} {tz : TimeZone} {s s' : Dict Str B} {signer a o : Str}
  {op : Operation} {u : Dict Str Message} {l : Label}
  {ts xs : List (Transition (Dict Str B) Label)} {e : Transition (Dict Str B) Label}

/-! ## Registrations in a history -/

/-- The owner and the payload of the key that the step registers. -/
def Label.registration : Label → Option (Str × NewPubKeyPayload)
  | .transaction signer op _ => op.registration signer
  | .environment => none

/-- The address of the key that the step registers for the owner. -/
def Label.registeredFor (π : Platform B) (o : Str) (l : Label) : Option Str :=
  l.registration.bind fun registered =>
    if registered.1 = o then
      registered.2.configuration.map fun configuration => pubKeyAddress π configuration.key
    else none

/-- The addresses of the keys registered for the owner, in order. -/
def registeredKeys (π : Platform B) (o : Str) (ts : List (Transition (Dict Str B) Label)) :
    List Str :=
  ts.filterMap fun e => e.label.registeredFor π o

/-- No owner of a registered key shares the account address of another one. -/
def OwnersCollisionFree (π : Platform B) (o : Str)
    (ts : List (Transition (Dict Str B) Label)) : Prop :=
  ∀ e ∈ ts, ∀ owner payload, e.label.registration = some (owner, payload) →
    accountAddress π owner = accountAddress π o → owner = o

def Label.IsNotGenesis : Label → Prop
  | .transaction _ (.genesis _) _ => False
  | _ => True

theorem registeredKeys_append :
    registeredKeys π o (xs ++ [e]) =
      registeredKeys π o xs ++ (e.label.registeredFor π o).toList := by
  unfold registeredKeys
  rw [List.filterMap_append]
  cases h : e.label.registeredFor π o <;> simp [h]

/-! ## One step -/

theorem pubKeysAt_of_accountAt {m : Account} (h : accountAt π s.get? a = some m) :
    pubKeysAt π s.get? a = m.pubKeys := by
  unfold pubKeysAt
  rw [h]
  rfl

theorem storePublicKeyToAccount_pubKeys {p : Str} {m : Account} (h : p ∉ m.pubKeys) :
    (storePublicKeyToAccount p m).pubKeys = m.pubKeys ++ [p] := by
  unfold storePublicKeyToAccount
  rw [if_neg h]

/-- Away from the owner of a registered key, the list stays. -/
theorem Sound.pubKeysAt_step (hforeign : π.pb.NoForeignOwner) (hinv : Sound π s)
    (hstep : Step π tz s l s') (hgenesis : l.IsNotGenesis) (ha : IsAccountAddress π a)
    (hother : ∀ owner payload, l.registration = some (owner, payload) →
      a ≠ accountAddress π owner) :
    pubKeysAt π s'.get? a = pubKeysAt π s.get? a := by
  rcases hinv.accountAt_step hforeign hstep ha with hsame | ⟨signer, op, u, m, rfl, -, hw, hpost⟩
  · unfold pubKeysAt
    rw [hsame]
  · rw [pubKeysAt_of_accountAt hpost]
    cases hw with
    | issue => exact absurd hgenesis id
    | debit => rfl
    | credit => rfl
    | register hop => exact absurd rfl (hother _ _ hop)

/-- At the owner of a registered key, the key is appended. -/
theorem pubKeysAt_registration {owner : Str} {payload : NewPubKeyPayload}
    (hstep : Step π tz s l s') (hregistration : l.registration = some (owner, payload)) :
    ∃ configuration, payload.configuration = some configuration ∧
      pubKeyAt π s.get? (pubKeyAddress π configuration.key) = none ∧
      pubKeyAt π s'.get? (pubKeyAddress π configuration.key) =
        some { owner := owner, payload := payload, isRevoked := false } ∧
      (pubKeyAddress π configuration.key ∉ pubKeysAt π s.get? (accountAddress π owner) →
        pubKeysAt π s'.get? (accountAddress π owner) =
          pubKeysAt π s.get? (accountAddress π owner) ++ [pubKeyAddress π configuration.key]) := by
  cases l with
  | environment => cases hregistration
  | transaction signer op u =>
      obtain ⟨-, haccepted, rfl⟩ := hstep.of_transaction
      obtain ⟨configuration, balance, hregistrable, hrecord, haccount⟩ :=
        registration_writes haccepted hregistration
      refine ⟨configuration, hregistrable.isSet, hregistrable.isFree,
        pubKeyAt_setState_of_some hrecord, fun hfresh => ?_⟩
      rw [pubKeysAt_of_accountAt (accountAt_setState_of_some haccount)]
      exact storePublicKeyToAccount_pubKeys hfresh

/-! ## The index over runs -/

/-- The list of an owner is the history of its registrations, and these are the addresses of
the stored records of the owner. -/
structure Indexed (π : Platform B) (o : Str) (xs : List (Transition (Dict Str B) Label))
    (s : Dict Str B) : Prop where
  keys : pubKeysAt π s.get? (accountAddress π o) = registeredKeys π o xs
  nodup : (registeredKeys π o xs).Nodup
  stored : ∀ p, p ∈ registeredKeys π o xs ↔
    IsPubKeyAddress π p ∧ ∃ r, pubKeyAt π s.get? p = some r ∧ r.owner = o

/-- An address without a record stays so unless the step registers its key. -/
theorem Sound.unregistered_step (hforeign : π.pb.NoForeignOwner) (hsound : Sound π s)
    (hstep : Step π tz s l s') {p : Str} (hp : IsPubKeyAddress π p)
    (hother : ∀ owner payload configuration, l.registration = some (owner, payload) →
      payload.configuration = some configuration → p ≠ pubKeyAddress π configuration.key)
    (hnone : pubKeyAt π s.get? p = none) : pubKeyAt π s'.get? p = none := by
  rcases hsound.pubKeyAt_step hforeign hstep hp with hsame | ⟨signer, op, u, r, rfl, -, hw, -⟩
  · exact hsame.trans hnone
  · exfalso
    cases hw with
    | store hregistrable => exact hother _ _ _ rfl hregistrable.isSet rfl
    | storeAndPay _ hregistrable => exact hother _ _ _ rfl hregistrable.isSet rfl
    | revoke hstored =>
        rw [hnone] at hstored
        cases hstored

/-- The owner of the record at an address changes only by a registration there. -/
theorem Sound.owned_step (hforeign : π.pb.NoForeignOwner) (hsound : Sound π e.pre)
    (hstep : Step π tz e.pre e.label e.post) {p : Str} (hp : IsPubKeyAddress π p)
    (hother : ∀ owner payload configuration, e.label.registration = some (owner, payload) →
      payload.configuration = some configuration → p ≠ pubKeyAddress π configuration.key) :
    (∃ r, pubKeyAt π e.post.get? p = some r ∧ r.owner = o) ↔
      ∃ r, pubKeyAt π e.pre.get? p = some r ∧ r.owner = o := by
  cases hpre : pubKeyAt π e.pre.get? p with
  | none =>
      rw [hsound.unregistered_step hforeign hstep hp hother hpre]
  | some r =>
      rcases hsound.record_step hforeign hstep hp hpre with hsame | ⟨hrevoked, -⟩
      · rw [hsame]
      · rw [hrevoked]
        simp

/-- The key that a step registers is determined by the step. -/
theorem ne_registered_key {owner p : Str} {payload : NewPubKeyPayload}
    {configuration : Configuration} (hregistration : l.registration = some (owner, payload))
    (hset : payload.configuration = some configuration)
    (hne : p ≠ pubKeyAddress π configuration.key) :
    ∀ owner' payload' configuration', l.registration = some (owner', payload') →
      payload'.configuration = some configuration' →
        p ≠ pubKeyAddress π configuration'.key := by
  intro owner' payload' configuration' hregistration' hset'
  rw [hregistration] at hregistration'
  cases hregistration'
  rw [hset] at hset'
  cases hset'
  exact hne

/-- A step that registers nothing for the owner. -/
theorem Indexed.extend (hnone : e.label.registeredFor π o = none)
    (hlist : pubKeysAt π e.post.get? (accountAddress π o) =
      pubKeysAt π e.pre.get? (accountAddress π o))
    (howned : ∀ p, IsPubKeyAddress π p →
      ((∃ r, pubKeyAt π e.post.get? p = some r ∧ r.owner = o) ↔
        ∃ r, pubKeyAt π e.pre.get? p = some r ∧ r.owner = o))
    (h : Indexed π o xs e.pre) : Indexed π o (xs ++ [e]) e.post := by
  have hkeys : registeredKeys π o (xs ++ [e]) = registeredKeys π o xs := by
    rw [registeredKeys_append, hnone]
    simp
  refine ⟨?_, ?_, fun p => ?_⟩
  · rw [hkeys, hlist, h.keys]
  · rw [hkeys]
    exact h.nodup
  · rw [hkeys, h.stored p]
    exact and_congr_right fun hp => (howned p hp).symm

/-- A step that registers a key for the owner. -/
theorem Indexed.step_of_owner (hforeign : π.pb.NoForeignOwner) (hsound : Sound π e.pre)
    (hstep : Step π tz e.pre e.label e.post) {payload : NewPubKeyPayload}
    (hregistration : e.label.registration = some (o, payload)) (h : Indexed π o xs e.pre) :
    Indexed π o (xs ++ [e]) e.post := by
  obtain ⟨configuration, hset, hfree, hrecord, hlist⟩ :=
    pubKeysAt_registration hstep hregistration
  have hkeys : registeredKeys π o (xs ++ [e]) =
      registeredKeys π o xs ++ [pubKeyAddress π configuration.key] := by
    rw [registeredKeys_append, Label.registeredFor, hregistration]
    simp [hset]
  have hfresh : pubKeyAddress π configuration.key ∉ registeredKeys π o xs := by
    intro hmem
    obtain ⟨-, r, hr, -⟩ := (h.stored _).mp hmem
    rw [hfree] at hr
    cases hr
  refine ⟨?_, ?_, fun p => ?_⟩
  · rw [hlist (h.keys ▸ hfresh), h.keys, hkeys]
  · rw [hkeys, List.nodup_append]
    refine ⟨h.nodup, List.nodup_singleton _, fun p hp q hq => ?_⟩
    rintro rfl
    rw [List.mem_singleton.mp hq] at hp
    exact hfresh hp
  · rw [hkeys, List.mem_append, List.mem_singleton, h.stored p]
    by_cases hpq : p = pubKeyAddress π configuration.key
    · subst hpq
      exact ⟨fun _ => ⟨isPubKeyAddress_pubKeyAddress π _, _, hrecord, rfl⟩, fun _ => .inr rfl⟩
    · have hother := ne_registered_key hregistration hset hpq
      constructor
      · rintro (⟨hp, howned⟩ | heq)
        · exact ⟨hp, (hsound.owned_step hforeign hstep hp hother).mpr howned⟩
        · exact absurd heq hpq
      · rintro ⟨hp, howned⟩
        exact .inl ⟨hp, (hsound.owned_step hforeign hstep hp hother).mp howned⟩

/-- A step that registers a key for somebody else. -/
theorem Indexed.step_of_other (hforeign : π.pb.NoForeignOwner) (hsound : Sound π e.pre)
    (hstep : Step π tz e.pre e.label e.post) (hgenesis : e.label.IsNotGenesis) {owner : Str}
    {payload : NewPubKeyPayload} (hregistration : e.label.registration = some (owner, payload))
    (hne : accountAddress π o ≠ accountAddress π owner) (h : Indexed π o xs e.pre) :
    Indexed π o (xs ++ [e]) e.post := by
  have howner : owner ≠ o := by
    rintro rfl
    exact hne rfl
  obtain ⟨configuration, hset, hfree, hrecord, -⟩ := pubKeysAt_registration hstep hregistration
  refine h.extend ?_ ?_ fun p hp => ?_
  · rw [Label.registeredFor, hregistration]
    simp [howner]
  · apply hsound.pubKeysAt_step hforeign hstep hgenesis (isAccountAddress_accountAddress π o)
    intro owner' payload' hregistration'
    rw [hregistration] at hregistration'
    cases hregistration'
    exact hne
  · by_cases hpq : p = pubKeyAddress π configuration.key
    · subst hpq
      rw [hfree, hrecord]
      simp [howner]
    · exact hsound.owned_step hforeign hstep hp (ne_registered_key hregistration hset hpq)

theorem Indexed.step (hforeign : π.pb.NoForeignOwner) (hsound : Sound π e.pre)
    (hstep : Step π tz e.pre e.label e.post) (hgenesis : e.label.IsNotGenesis)
    (hcollision : ∀ owner payload, e.label.registration = some (owner, payload) →
      accountAddress π owner = accountAddress π o → owner = o)
    (h : Indexed π o xs e.pre) : Indexed π o (xs ++ [e]) e.post := by
  cases hregistration : e.label.registration with
  | none =>
      apply h.extend
      · rw [Label.registeredFor, hregistration]
        rfl
      · exact hsound.pubKeysAt_step hforeign hstep hgenesis (isAccountAddress_accountAddress π o)
          (by simp [hregistration])
      · intro p hp
        exact hsound.owned_step hforeign hstep hp (by simp [hregistration])
  | some registered =>
      obtain ⟨owner, payload⟩ := registered
      by_cases haddress : accountAddress π owner = accountAddress π o
      · obtain rfl := hcollision owner payload hregistration haddress
        exact h.step_of_owner hforeign hsound hstep hregistration
      · exact h.step_of_other hforeign hsound hstep hgenesis hregistration (Ne.symm haddress)

theorem indexed_of_run (hforeign : π.pb.NoForeignOwner) (hrun : LedgerRun π tz ts s)
    (hreceiver : ∀ e ∈ ts, e.label.ReceiverIsAccount π)
    (hgenesis : ∀ e ∈ ts, e.label.IsNotGenesis) (hcollision : OwnersCollisionFree π o ts) :
    Indexed π o ts s := by
  apply hrun.history (P := Indexed π o)
  · refine ⟨rfl, List.nodup_nil, fun p => ?_⟩
    constructor
    · intro hmem
      cases hmem
    · rintro ⟨-, r, hr, -⟩
      cases hr
  · intro xs e ys heq hstep hinv
    have he : e ∈ ts := by simp [heq]
    exact hinv.step hforeign (sound_pre_of_run hforeign hrun hreceiver he) hstep (hgenesis e he)
      (hcollision e he)

/-- No step makes the list of an owner shorter. -/
theorem Sound.pubKeysAt_grows (hforeign : π.pb.NoForeignOwner) (hsound : Sound π s)
    (hstep : Step π tz s l s') (hgenesis : l.IsNotGenesis) (ha : IsAccountAddress π a) :
    pubKeysAt π s.get? a <+: pubKeysAt π s'.get? a := by
  rcases hsound.accountAt_step hforeign hstep ha with hsame | ⟨signer, op, u, m, rfl, -, hw, hpost⟩
  · unfold pubKeysAt
    rw [hsame]
  · rw [pubKeysAt_of_accountAt hpost]
    cases hw with
    | issue => exact absurd hgenesis id
    | debit => exact List.prefix_rfl
    | credit => exact List.prefix_rfl
    | register =>
        unfold storePublicKeyToAccount
        split
        · exact List.prefix_rfl
        · exact List.prefix_append _ _

/-- Without GENESIS, the keys listed in an owner's account are exactly the stored records of that
owner, each once and in the order of registration, and the list only grows. -/
theorem account_index_matches_registry (hforeign : π.pb.NoForeignOwner)
    (hrun : LedgerRun π tz ts s) (hreceiver : ∀ e ∈ ts, e.label.ReceiverIsAccount π)
    (hgenesis : ∀ e ∈ ts, e.label.IsNotGenesis) (o : Str)
    (hcollision : OwnersCollisionFree π o ts) :
    pubKeysAt π s.get? (accountAddress π o) = registeredKeys π o ts ∧
    (pubKeysAt π s.get? (accountAddress π o)).Nodup ∧
    (∀ p, p ∈ pubKeysAt π s.get? (accountAddress π o) ↔
      IsPubKeyAddress π p ∧ ∃ r, pubKeyAt π s.get? p = some r ∧ r.owner = o) ∧
    (∀ e ∈ ts, pubKeysAt π e.pre.get? (accountAddress π o) <+:
      pubKeysAt π e.post.get? (accountAddress π o)) := by
  have hindexed := indexed_of_run hforeign hrun hreceiver hgenesis hcollision
  refine ⟨hindexed.keys, ?_, ?_, ?_⟩
  · rw [hindexed.keys]
    exact hindexed.nodup
  · rw [hindexed.keys]
    exact hindexed.stored
  · intro e he
    exact (sound_pre_of_run hforeign hrun hreceiver he).pubKeysAt_grows hforeign
      (hrun.step_of_mem he) (hgenesis e he) (isAccountAddress_accountAddress π o)

namespace Sample

/-- Two more Ed25519 keys. -/
def secondKey : Bytes := numBytes 32 0x3b6a27bcceb6a42d62a3a8d02a6f0d73653215771de243a63ac048a18b59da29

def thirdKey : Bytes := numBytes 32 0x8a88e3dd7409f195fd52db2d3cba5d72ca6709bf1d94121bf3748801b40f6f5c

/-- The digests of the two keys. -/
def registryTable : List (ℕ × ℕ) :=
  [(0x013b6a27bcceb6a42d62a3a8d02a6f0d73653215771de243a63ac048a18b59da29,
    0x7dd5cfc679ab634258c055e8bc861cd026a16a241f10c11b5e29333fb4d7c61f73b1dd5753fd9bf0e6183f00892ddfc3a835e9038ff85c5a18f937ee35a7dda2),
   (0x018a88e3dd7409f195fd52db2d3cba5d72ca6709bf1d94121bf3748801b40f6f5c,
    0x3784728ae7309eab0a5db90cb18b80bdff8eb3f3baef030e14d5c4144f3635a858e1be40c1fe52b703da97d03696fcb4ae54a5f2c40e42e088feb02ff512e345)]

/-- The sample platform with owners who sign, where all three keys verify the signature. -/
def registryPlatform : Platform Data :=
  { signingPlatform with
    sha512 := fun d => Text.hexFixed 128 (tableAt (sha512Table ++ registryTable) d)
    sha512_length := fun _ => Text.hexFixed_length _ _
    sha512_hex := fun _ => Text.isLowerHex_hexFixed _ _
    sha512_account := by decide +kernel
    sha512_atomicSwap := by decide +kernel
    sha512_pubKey := by decide +kernel
    ed25519Verify := fun key signature data algorithm =>
      key ∈ [storedKey, secondKey, thirdKey] ∧ signature = entityHashSignature ∧
        data = entityHash ∧ algorithm = .sha256 }

def keyPayloadOf (key : Bytes) : NewPubKeyPayload :=
  { keyPayload with configuration := some (.ed25519 key) }

def payPayloadOf (ownerPublicKey key : Bytes) : NewPubKeyStoreAndPayPayload :=
  { payPayload ownerPublicKey with pubKeyPayload := some (keyPayloadOf key) }

/-- `alice` registers a key, `bot` pays for another one of hers, she pays for one of his, and
revokes her first key. -/
def registryScript : List Input :=
  [.environment (makeSettingsKey platform "remme.economy_enabled".toList)
     (.setting ⟨[⟨"remme.economy_enabled".toList, "False".toList⟩]⟩),
   .transaction alice (.store (keyPayloadOf storedKey)),
   .transaction bot (.storeAndPay (payPayloadOf aliceKey secondKey)),
   .transaction alice (.storeAndPay (payPayloadOf botKey thirdKey)),
   .transaction alice (.revoke { address := pubKeyAddress platform storedKey })]

theorem mem_registryScript {signer : Str} {op : Operation}
    (h : .transaction signer op ∈ registryScript) :
    (signer = alice ∧ op = .store (keyPayloadOf storedKey)) ∨
    op = .storeAndPay (payPayloadOf aliceKey secondKey) ∨
    op = .storeAndPay (payPayloadOf botKey thirdKey) ∨
    op = .revoke { address := pubKeyAddress platform storedKey } := by
  simp only [registryScript, List.mem_cons, reduceCtorEq, false_or, Input.transaction.injEq,
    List.not_mem_nil, or_false] at h
  tauto

theorem owner_registryScript {owner : Str} {payload : NewPubKeyPayload} {signer : Str}
    {op : Operation} (h : .transaction signer op ∈ registryScript)
    (hregistration : op.registration signer = some (owner, payload)) :
    owner ∈ [alice, bot] := by
  have halice : (payPayloadOf aliceKey secondKey).owner = alice := by decide +kernel
  have hbot : (payPayloadOf botKey thirdKey).owner = bot := by decide +kernel
  rcases mem_registryScript h with ⟨rfl, rfl⟩ | rfl | rfl | rfl
  · cases hregistration
    simp
  · cases hregistration
    simp [halice]
  · cases hregistration
    simp [hbot]
  · cases hregistration

end Sample

open Sample in
/-- Each of the two owners has the keys registered for that owner, in order. -/
theorem account_index_matches_registry_keyScript :
    ∃ ts s, LedgerRun registryPlatform utc ts s ∧
      pubKeysAt registryPlatform s.get? (accountAddress registryPlatform alice) =
        [pubKeyAddress registryPlatform storedKey, pubKeyAddress registryPlatform secondKey] ∧
      pubKeysAt registryPlatform s.get? (accountAddress registryPlatform bot) =
        [pubKeyAddress registryPlatform thirdKey] := by
  have hkeys : (play registryPlatform utc Dict.empty registryScript).any (fun ts => decide
      (registeredKeys registryPlatform alice ts =
          [pubKeyAddress registryPlatform storedKey, pubKeyAddress registryPlatform secondKey] ∧
        registeredKeys registryPlatform bot ts = [pubKeyAddress registryPlatform thirdKey])) =
      true := by
    decide +kernel
  obtain ⟨ts, hplay, hkeys⟩ := (Option.any_eq_true ..).mp hkeys
  obtain ⟨halice, hbot⟩ := of_decide_eq_true hkeys
  have hlegal : ∀ i ∈ registryScript, i.IsLegal := by decide +kernel
  have hrun : LedgerRun registryPlatform utc ts (lastState Dict.empty ts) :=
    run_of_play hlegal hplay
  have hreceiver : ∀ e ∈ ts, e.label.ReceiverIsAccount registryPlatform := by
    apply label_of_play (P := Label.ReceiverIsAccount registryPlatform) hplay trivial
    intro signer op hmem u
    rcases mem_registryScript hmem with ⟨-, rfl⟩ | rfl | rfl | rfl <;> trivial
  have hgenesis : ∀ e ∈ ts, e.label.IsNotGenesis := by
    apply label_of_play (P := Label.IsNotGenesis) hplay trivial
    intro signer op hmem u
    rcases mem_registryScript hmem with ⟨-, rfl⟩ | rfl | rfl | rfl <;> trivial
  have hapart : ∀ owner ∈ [alice, bot], ∀ o ∈ [alice, bot],
      accountAddress registryPlatform owner = accountAddress registryPlatform o → owner = o := by
    decide +kernel
  have hcollision : ∀ o ∈ [alice, bot], OwnersCollisionFree registryPlatform o ts := by
    intro o ho
    apply label_of_play (P := fun l => ∀ owner payload, l.registration = some (owner, payload) →
      accountAddress registryPlatform owner = accountAddress registryPlatform o → owner = o) hplay
    · intro owner payload hregistration
      cases hregistration
    · intro signer op hmem u owner payload hregistration
      exact hapart owner (owner_registryScript hmem hregistration) o ho
  have hforeign : registryPlatform.pb.NoForeignOwner := noForeignOwner
  have hindex := account_index_matches_registry hforeign hrun hreceiver hgenesis
  refine ⟨ts, _, hrun, ?_, ?_⟩
  · rw [(hindex alice (hcollision alice (by simp))).1, halice]
  · rw [(hindex bot (hcollision bot (by simp))).1, hbot]

end Remme.Tp
