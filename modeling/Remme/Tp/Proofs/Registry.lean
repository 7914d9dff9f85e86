import Remme.Tp.Proofs.Placement
/-!
# The public key registry

A key record is created by one of two paths, which check the same of the key's
payload and differ in who vouches for the owner, and is changed by REVOKE only.
-/

namespace Remme.Tp

open Remme.Lib Remme.Protos Remme.Shared Remme.Settings

variable {B : Type} {π : Platform B} {tz : TimeZone} {s s' : Dict Str B} {signer p : Str}
  {op : Operation} {u : Dict Str Message} {l : Label} {r r' : PubKeyStorage}
  {ts : List (Transition (Dict Str B) Label)} {e : Transition (Dict Str B) Label}

/-! ## What a stored record promises -/

/-- The record is at the address of its key, its signature verifies, and its validity is at most
365 days. -/
structure Registered (π : Platform B) (p : Str) (r : PubKeyStorage) : Prop where
  verified : ∃ configuration, r.payload.configuration = some configuration ∧
    p = pubKeyAddress π configuration.key ∧
    (detectProcessorCls π r.payload configuration).verify = .ok true
  validity : r.payload.validTo.toNat ≤ r.payload.validFrom.toNat + 365 * 86400

/-- The step creates the record: a STORE signed by its owner, or a STORE_AND_PAY that carries
the owner's signature over its payload. -/
def Creates (π : Platform B) (p : Str) (r : PubKeyStorage)
    (e : Transition (Dict Str B) Label) : Prop :=
  ∃ signer op u, e.label = .transaction signer op u ∧
    u.get? p = some (.pubKeyStorage
      { owner := r.owner, payload := r.payload, isRevoked := false }) ∧
    ((signer = r.owner ∧ op = .store r.payload) ∨
      ∃ payload, op = .storeAndPay payload ∧ payload.owner = r.owner ∧
        payload.pubKeyPayload.getD {} = r.payload ∧ OwnerSigned π payload)

/-- The key that an accepted registration is for. -/
def Operation.registeredKey? (signer : Str) (op : Operation) : Option Bytes :=
  (op.registration signer).bind fun registered => registered.2.configuration.map (·.key)

/-- The step revokes the record on its owner's request. -/
def Revokes (p : Str) (r : PubKeyStorage) (e : Transition (Dict Str B) Label) : Prop :=
  ∃ u, e.label = .transaction r.owner (.revoke { address := p }) u

theorem InValidity.of_constant_offset {off : ℤ} {validFrom validTo : UInt32}
    (h : InValidity (fun _ => off) validFrom validTo) :
    validTo.toNat ≤ validFrom.toNat + 365 * 86400 := by
  obtain ⟨x, y, hx, hy, hle⟩ := h
  obtain ⟨rfl, -⟩ := checkedLocal_eq_ok.mp hx
  obtain ⟨rfl, -⟩ := checkedLocal_eq_ok.mp hy
  unfold pubKeyMaxValidity at hle
  simp only at hle
  omega

theorem Registrable.registered {off : ℤ} {ctx : Str → Option B} {payload : NewPubKeyPayload}
    {configuration : Configuration} {owner : Str} {isRevoked : Bool}
    (h : Registrable π (fun _ => off) ctx payload configuration) :
    Registered π (pubKeyAddress π configuration.key)
      { owner := owner, payload := payload, isRevoked := isRevoked } where
  verified := ⟨configuration, h.isSet, rfl, h.verifies⟩
  validity := h.inValidity.of_constant_offset

/-- Every stored record keeps the promise and was created in the history. -/
def RegistrySound (π : Platform B) (xs : List (Transition (Dict Str B) Label))
    (s : Dict Str B) : Prop :=
  ∀ p r, IsPubKeyAddress π p → pubKeyAt π s.get? p = some r →
    Registered π p r ∧ ∃ e ∈ xs, Creates π p r e

theorem RegistrySound.step (hforeign : π.pb.NoForeignOwner) {off : ℤ} (hsound : Sound π e.pre)
    (hstep : Step π (fun _ => off) e.pre e.label e.post)
    {xs : List (Transition (Dict Str B) Label)} (hinv : RegistrySound π xs e.pre) :
    RegistrySound π (xs ++ [e]) e.post := by
  intro p r hp hr
  rcases hsound.pubKeyAt_step hforeign hstep hp with hsame | ⟨signer, op, u, r', hl, hu, hw, hpost⟩
  · rw [hsame] at hr
    obtain ⟨hregistered, e', he', hcreates⟩ := hinv p r hp hr
    exact ⟨hregistered, e', by simp [he'], hcreates⟩
  · rw [hpost] at hr
    cases hr
    cases hw with
    | store hregistrable =>
        exact ⟨hregistrable.registered, e, by simp, signer, _, u, hl, hu, .inl ⟨rfl, rfl⟩⟩
    | @storeAndPay payload _ hsigned hregistrable =>
        exact ⟨hregistrable.registered, e, by simp, signer, _, u, hl, hu,
          .inr ⟨payload, rfl, rfl, rfl, hsigned⟩⟩
    | @revoke payload stored hstored howner =>
        obtain ⟨hregistered, e', he', hcreates⟩ := hinv _ stored hp hstored
        exact ⟨⟨hregistered.verified, hregistered.validity⟩, e', by simp [he'], hcreates⟩

/-! ## How a stored record can change -/

/-- A record stays as it is, or is revoked by its owner. -/
theorem Sound.record_step (hforeign : π.pb.NoForeignOwner) (hsound : Sound π e.pre)
    (hstep : Step π tz e.pre e.label e.post) (hp : IsPubKeyAddress π p)
    (hr : pubKeyAt π e.pre.get? p = some r) :
    pubKeyAt π e.post.get? p = some r ∨
    (pubKeyAt π e.post.get? p = some { r with isRevoked := true } ∧ r.isRevoked = false ∧
      Revokes p r e) := by
  rcases hsound.pubKeyAt_step hforeign hstep hp with hsame | ⟨signer, op, u, r', hl, -, hw, hpost⟩
  · exact .inl (hsame.trans hr)
  · right
    cases hw with
    | store hregistrable =>
        rw [hregistrable.isFree] at hr
        cases hr
    | storeAndPay _ hregistrable =>
        rw [hregistrable.isFree] at hr
        cases hr
    | @revoke payload stored hstored howner hrevoked =>
        rw [hstored] at hr
        cases hr
        refine ⟨hpost, hrevoked, u, ?_⟩
        rw [howner]
        exact hl

/-! ## Registrations -/

/-- The charge and the owner's account are written after the record, and neither replaces it. -/
theorem record_get? {es : List (Str × Message)} {charged : Option (Dict Str Account)}
    {key : Bytes} {owner : Str} {m record : Message}
    (hcharged : ChargeOutcome π s.get? (accountAddress π signer) charged)
    (hrecord : (Dict.ofList es).get? (pubKeyAddress π key) = some record) :
    (((Dict.ofList es).update ((charged.getD .empty).mapVals .account)).set
      (accountAddress π owner) m).get? (pubKeyAddress π key) = some record := by
  have hkey := isPubKeyAddress_pubKeyAddress π key
  have hne : accountAddress π owner ≠ pubKeyAddress π key :=
    (hkey.ne_account (isAccountAddress_accountAddress π owner)).symm
  rw [Dict.get?_set_of_ne _ _ hne, Dict.get?_update, Dict.get?_mapVals, hrecord]
  cases hx : (charged.getD .empty).get? (pubKeyAddress π key) with
  | none => rfl
  | some x =>
      rcases charge_get? hcharged hx with ⟨-, -, hfrom, -⟩ | ⟨-, -, hzero, -⟩
      · exact absurd hfrom (hkey.ne_account (isAccountAddress_accountAddress π signer))
      · exact absurd hzero (hkey.ne_account (isAccountAddress_zeroAddress π))

/-- An accepted registration writes the record of a free address and lists it, in the account
of its owner, after the keys that were there. -/
theorem registration_writes {owner : Str} {payload : NewPubKeyPayload}
    (haccepted : op.apply π tz signer s = .ok u)
    (hop : op.registration signer = some (owner, payload)) :
    ∃ configuration balance, Registrable π tz s.get? payload configuration ∧
      u.get? (pubKeyAddress π configuration.key) = some (.pubKeyStorage
        { owner := owner, payload := payload, isRevoked := false }) ∧
      u.get? (accountAddress π owner) = some (.account
        (storePublicKeyToAccount (pubKeyAddress π configuration.key)
          { (accountAt π s.get? (accountAddress π owner)).getD {} with balance := balance })) := by
  have hrun := run_of_apply haccepted
  cases op with
  | store payload =>
      cases hop
      obtain ⟨configuration, charged, hregistrable, hcharged, rfl⟩ := storePubKey_spec.mp hrun
      obtain ⟨balance, hpayer⟩ := charge_payer hcharged (accountAddress_ne_zeroAddress signer)
      refine ⟨configuration, balance, hregistrable, ?_, ?_⟩
      · exact record_get? hcharged (Dict.get?_set_self _ _ _)
      · rw [Dict.get?_set_self, hpayer]
  | storeAndPay payload =>
      cases hop
      obtain ⟨-, configuration, charged, hregistrable, hcharged, rfl⟩ :=
        storePublicKeyForOther_spec.mp hrun
      refine ⟨configuration, _, hregistrable, ?_, Dict.get?_set_self _ _ _⟩
      exact record_get? hcharged (Dict.get?_set_self _ _ _)
  | _ => cases hop

/-- A registration finds its address free and fills it. -/
theorem registration_step {key : Bytes} (hstep : Step π tz s (.transaction signer op u) s')
    (hkey : op.registeredKey? signer = some key) :
    pubKeyAt π s.get? (pubKeyAddress π key) = none ∧
      ∃ r, pubKeyAt π s'.get? (pubKeyAddress π key) = some r := by
  obtain ⟨-, haccepted, rfl⟩ := hstep.of_transaction
  unfold Operation.registeredKey? at hkey
  obtain ⟨⟨owner, payload⟩, hop, hconfiguration⟩ := Option.bind_eq_some_iff.mp hkey
  obtain ⟨configuration, balance, hregistrable, hrecord, -⟩ := registration_writes haccepted hop
  rw [hregistrable.isSet] at hconfiguration
  cases hconfiguration
  exact ⟨hregistrable.isFree, _, pubKeyAt_setState_of_some hrecord⟩

/-! ## The registry over runs -/

/-- The address holds a key record. -/
def IsStored (π : Platform B) (p : Str) (s : Dict Str B) : Prop :=
  ∃ r, pubKeyAt π s.get? p = some r

/-- A record, once stored, is there for ever. -/
theorem IsStored.step (hforeign : π.pb.NoForeignOwner) (hsound : Sound π e.pre)
    (hstep : Step π tz e.pre e.label e.post) (hp : IsPubKeyAddress π p)
    (h : IsStored π p e.pre) : IsStored π p e.post := by
  obtain ⟨r, hr⟩ := h
  rcases hsound.record_step hforeign hstep hp hr with hsame | ⟨hrevoked, -⟩
  · exact ⟨r, hsame⟩
  · exact ⟨_, hrevoked⟩

/-- The stored records of a run are well formed and have a creator; a record only changes when its
owner revokes it, and no key is registered twice. -/
theorem registry_invariant (hforeign : π.pb.NoForeignOwner) {off : ℤ}
    (hrun : LedgerRun π (fun _ => off) ts s)
    (hreceiver : ∀ e ∈ ts, e.label.ReceiverIsAccount π) :
    (∀ p r, IsPubKeyAddress π p → pubKeyAt π s.get? p = some r →
      Registered π p r ∧ ∃ e ∈ ts, Creates π p r e) ∧
    (∀ e ∈ ts, ∀ p r, IsPubKeyAddress π p → pubKeyAt π e.pre.get? p = some r →
      pubKeyAt π e.post.get? p = some r ∨
      (pubKeyAt π e.post.get? p = some { r with isRevoked := true } ∧ r.isRevoked = false ∧
        Revokes p r e)) ∧
    (∀ xs e ys, ts = xs ++ e :: ys → ∀ e' ∈ ys, ∀ signer op u signer' op' u' key key',
      e.label = .transaction signer op u → e'.label = .transaction signer' op' u' →
      op.registeredKey? signer = some key → op'.registeredKey? signer' = some key' →
        key ≠ key') := by
  have hsound : ∀ e ∈ ts, Sound π e.pre := fun e he =>
    sound_pre_of_run hforeign hrun hreceiver he
  refine ⟨?_, ?_, ?_⟩
  · apply hrun.history (P := RegistrySound π)
    · intro p r _ hr
      cases hr
    · intro xs e ys heq hstep hinv
      exact hinv.step hforeign (hsound e (by simp [heq])) hstep
  · intro e he p r hp hr
    exact (hsound e he).record_step hforeign (hrun.step_of_mem he) hp hr
  · rintro xs e ys rfl e' he' signer op u signer' op' u' key key' hl hl' hkey hkey' rfl
    obtain ⟨-, hstep, hrest⟩ := hrun.split
    have hstored : IsStored π (pubKeyAddress π key) e.post :=
      (registration_step (hl ▸ hstep) hkey).2
    have hstay : IsStored π (pubKeyAddress π key) e'.pre := by
      apply hrest.invariant_pre hstored _ he'
      intro f hf hfstep hstored
      exact hstored.step hforeign (hsound f (by simp [hf])) hfstep
        (isPubKeyAddress_pubKeyAddress π key)
    obtain ⟨r, hr⟩ := hstay
    have hfree := (registration_step (hl' ▸ hrest.step_of_mem he') hkey').1
    rw [hr] at hfree
    cases hfree

/-- The revoked key of the sample script was created there. -/
theorem registry_invariant_keyScript :
    ∃ r, pubKeyAt Sample.platform (Sample.final Sample.keyScript).get?
        (pubKeyAddress Sample.platform Sample.storedKey) = some r ∧ r.isRevoked = true ∧
      Registered Sample.platform (pubKeyAddress Sample.platform Sample.storedKey) r ∧
      ∃ e ∈ Sample.transitions Sample.keyScript,
        Creates Sample.platform (pubKeyAddress Sample.platform Sample.storedKey) r e := by
  have hrevoked : (pubKeyAt Sample.platform (Sample.final Sample.keyScript).get?
      (pubKeyAddress Sample.platform Sample.storedKey)).map (·.isRevoked) = some true := by
    decide +kernel
  obtain ⟨r, hr, htrue⟩ := Option.map_eq_some_iff.mp hrevoked
  have hregistry := (registry_invariant Sample.noForeignOwner
    (Sample.run_of_accepted Sample.keyScript_legal Sample.keyScript_accepted)
    Sample.keyScript_receivers).1
  exact ⟨r, hr, htrue, hregistry _ r (isPubKeyAddress_pubKeyAddress _ _) hr⟩

end Remme.Tp
