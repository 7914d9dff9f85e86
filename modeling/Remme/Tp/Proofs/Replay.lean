import Remme.Tp.Proofs.Genesis
import Remme.Tp.Proofs.Registry
import Remme.Tp.Proofs.SwapSequence
/-!
# What can be accepted twice

A payload carries no counter and no expiry, so nothing but the state keeps an
operation from being accepted again.  Every operation but TRANSFER has a subject
that it settles: the supply, a step of a swap, a key or its revocation.  What is
settled stays settled, and no operation with that subject is accepted afterwards.
-/

namespace Remme.Tp

open Remme.Lib Remme.Protos Remme.Shared Remme.Settings

variable {B : Type} {π : Platform B} {tz : TimeZone} {s s' : Dict Str B} {signer a : Str}
  {op : Operation} {u : Dict Str Message} {l : Label} {w : AtomicSwapInfo} {n : ℕ}

/-- What an operation settles. -/
inductive Subject where
  | supply
  | swap (address : Str) (rank : ℕ)
  | key (address : Str)
  | revocation (address : Str)

/-- CLOSE and EXPIRE settle the same: the end of the swap. -/
def Operation.subject? (π : Platform B) : Operation → Option Subject
  | .transfer _ => none
  | .genesis _ => some .supply
  | .swapInit payload => some (.swap (swapAddress π payload.swapId) (stateRank .opened))
  | .swapSetLock payload =>
      some (.swap (swapAddress π payload.swapId) (stateRank .secretLockProvided))
  | .swapApprove payload => some (.swap (swapAddress π payload.swapId) (stateRank .approved))
  | .swapExpire payload => some (.swap (swapAddress π payload.swapId) (stateRank .expired))
  | .swapClose payload => some (.swap (swapAddress π payload.swapId) (stateRank .closed))
  | .store payload =>
      payload.configuration.map fun configuration => .key (pubKeyAddress π configuration.key)
  | .storeAndPay payload => (payload.pubKeyPayload.getD {}).configuration.map fun configuration =>
      .key (pubKeyAddress π configuration.key)
  | .revoke payload => some (.revocation payload.address)

/-- The state shows that the subject is settled. -/
def Subject.Settled (π : Platform B) (s : Dict Str B) : Subject → Prop
  | .supply => s.get? genesisAddress = some (π.pb.serialize (.genesisStatus { status := true }))
  | .swap a n => IsSwapAddress π a ∧ HasReached π a n s
  | .key a => IsPubKeyAddress π a ∧ IsStored π a s
  | .revocation a => IsPubKeyAddress π a ∧ ∃ r, pubKeyAt π s.get? a = some r ∧ r.isRevoked = true

/-! ## Operations and their subjects -/

theorem Operation.subject?_of_registeredKey? {key : Bytes}
    (h : op.registeredKey? signer = some key) :
    op.subject? π = some (.key (pubKeyAddress π key)) := by
  unfold Operation.registeredKey? at h
  cases op with
  | store payload =>
      obtain ⟨configuration, hset, rfl⟩ := Option.map_eq_some_iff.mp h
      rw [Operation.subject?, hset]
      rfl
  | storeAndPay payload =>
      obtain ⟨configuration, hset, rfl⟩ := Option.map_eq_some_iff.mp h
      rw [Operation.subject?, hset]
      rfl
  | _ => cases h

theorem Operation.registeredKey?_of_subject? (signer : Str)
    (h : op.subject? π = some (.key a)) :
    ∃ key, op.registeredKey? signer = some key ∧ a = pubKeyAddress π key := by
  cases op with
  | store payload =>
      obtain ⟨configuration, hset, heq⟩ := Option.map_eq_some_iff.mp h
      cases heq
      exact ⟨configuration.key, by simp [registeredKey?, registration, hset], rfl⟩
  | storeAndPay payload =>
      obtain ⟨configuration, hset, heq⟩ := Option.map_eq_some_iff.mp h
      cases heq
      exact ⟨configuration.key, by simp [registeredKey?, registration, hset], rfl⟩
  | _ => cases h

/-- An operation on a swap is for the swap at its subject's address. -/
theorem Operation.swapId?_of_subject? (h : op.subject? π = some (.swap a n)) :
    ∃ i, op.swapId? = some i ∧ a = swapAddress π i := by
  cases op with
  | swapInit payload => cases h; exact ⟨_, rfl, rfl⟩
  | swapSetLock payload => cases h; exact ⟨_, rfl, rfl⟩
  | swapApprove payload => cases h; exact ⟨_, rfl, rfl⟩
  | swapExpire payload => cases h; exact ⟨_, rfl, rfl⟩
  | swapClose payload => cases h; exact ⟨_, rfl, rfl⟩
  | store payload =>
      obtain ⟨_, _, heq⟩ := Option.map_eq_some_iff.mp h
      cases heq
  | storeAndPay payload =>
      obtain ⟨_, _, heq⟩ := Option.map_eq_some_iff.mp h
      cases heq
  | _ => cases h

/-- The record that an operation on a swap writes has the rank of the subject. -/
theorem SwapWrite.rank_eq {a' : Str} (hw : SwapWrite π tz s.get? signer op a' w)
    (h : op.subject? π = some (.swap a n)) : stateRank w.state = n := by
  cases hw <;> cases h <;> rfl

theorem Operation.eq_genesis (h : op.subject? π = some .supply) :
    ∃ payload, op = .genesis payload := by
  cases op with
  | genesis payload => exact ⟨payload, rfl⟩
  | store payload =>
      obtain ⟨_, _, heq⟩ := Option.map_eq_some_iff.mp h
      cases heq
  | storeAndPay payload =>
      obtain ⟨_, _, heq⟩ := Option.map_eq_some_iff.mp h
      cases heq
  | _ => cases h

theorem Operation.eq_revoke (h : op.subject? π = some (.revocation a)) :
    op = .revoke { address := a } := by
  cases op with
  | revoke payload =>
      cases h
      rfl
  | store payload =>
      obtain ⟨_, _, heq⟩ := Option.map_eq_some_iff.mp h
      cases heq
  | storeAndPay payload =>
      obtain ⟨_, _, heq⟩ := Option.map_eq_some_iff.mp h
      cases heq
  | _ => cases h

/-- An accepted operation without a subject is a TRANSFER. -/
theorem eq_transfer_of_subject? (haccepted : op.apply π tz signer s = .ok u)
    (h : op.subject? π = none) : ∃ payload, op = .transfer payload := by
  have hregistered : ∀ registered, op.registration signer = some registered → False := by
    rintro ⟨owner, payload⟩ hop
    obtain ⟨configuration, -, hregistrable, -⟩ := registration_writes haccepted hop
    have hkey : op.registeredKey? signer = some configuration.key := by
      unfold Operation.registeredKey?
      rw [hop]
      simp [hregistrable.isSet]
    rw [Operation.subject?_of_registeredKey? hkey] at h
    cases h
  cases op with
  | transfer payload => exact ⟨payload, rfl⟩
  | store payload => exact (hregistered _ rfl).elim
  | storeAndPay payload => exact (hregistered _ rfl).elim
  | _ => cases h

/-! ## What is settled stays settled -/

/-- The invariants of a run that the subjects rest on. -/
structure Orderly (π : Platform B) (s : Dict Str B) : Prop where
  swaps : SwapSound π s
  issued : IssuedOnce π s

theorem Orderly.step (hforeign : π.pb.NoForeignOwner) (hpayee : NoForeignReceiver π.pb)
    (hinv : Orderly π s) (hreceiver : l.ReceiverIsAccount π) (hstep : Step π tz s l s') :
    Orderly π s' where
  swaps := hinv.swaps.step hforeign hreceiver hstep
  issued := hinv.issued.step hforeign hpayee hstep

theorem Subject.Settled.step {subject : Subject} (hforeign : π.pb.NoForeignOwner)
    (hpayee : NoForeignReceiver π.pb) (hinv : Orderly π s) (hstep : Step π tz s l s')
    (h : subject.Settled π s) : subject.Settled π s' := by
  cases subject with
  | supply => exact (hinv.issued.status_stays hforeign hpayee hstep h).trans h
  | swap a n => exact ⟨h.1, h.2.step hforeign hinv.swaps hstep h.1⟩
  | key a => exact ⟨h.1, IsStored.step (e := ⟨s, l, s'⟩) hforeign hinv.swaps.toSound hstep h.1 h.2⟩
  | revocation a =>
      obtain ⟨ha, r, hr, hrevoked⟩ := h
      rcases Sound.record_step (e := ⟨s, l, s'⟩) hforeign hinv.swaps.toSound hstep ha hr with
        hsame | ⟨-, hfalse, -⟩
      · exact ⟨ha, r, hsame, hrevoked⟩
      · rw [hrevoked] at hfalse
        cases hfalse

/-- An accepted operation settles its subject. -/
theorem settled_of_accepted {subject : Subject} (hforeign : π.pb.NoForeignOwner)
    (hinv : Orderly π s) (hstep : Step π tz s (.transaction signer op u) s')
    (hsubject : op.subject? π = some subject) : subject.Settled π s' := by
  obtain ⟨hsigner, haccepted, rfl⟩ := hstep.of_transaction
  cases subject with
  | supply =>
      obtain ⟨payload, rfl⟩ := Operation.eq_genesis hsubject
      rcases hinv.issued.status with ⟨habsent, -⟩ | hset
      · exact genesis_writes_status haccepted habsent
      · exact absurd haccepted (genesis_refused hset)
  | swap a n =>
      obtain ⟨i, hid, rfl⟩ := Operation.swapId?_of_subject? hsubject
      obtain ⟨w, hw⟩ := exists_written hinv.swaps.toSound haccepted hid
      have hrank := (swapWrite_of_written haccepted hw).rank_eq hsubject
      exact ⟨isSwapAddress_swapAddress π i, w, swapAt_setState_of_some hw, hrank.ge⟩
  | key a =>
      obtain ⟨key, hkey, rfl⟩ := Operation.registeredKey?_of_subject? signer hsubject
      exact ⟨isPubKeyAddress_pubKeyAddress π key, (registration_step hstep hkey).2⟩
  | revocation a =>
      obtain rfl := Operation.eq_revoke hsubject
      obtain ⟨stored, hstored, howner, -, rfl⟩ := revokePubKey_spec.mp (run_of_apply haccepted)
      have ha := hinv.swaps.placed.isPubKeyAddress hforeign hstored (howner ▸ hsigner)
      exact ⟨ha, _, pubKeyAt_setState_of_some (Dict.get?_set_self _ _ _), rfl⟩

/-- No operation is accepted whose subject is settled. -/
theorem not_accepted_of_settled {subject : Subject} (hinv : Orderly π s)
    (hstep : Step π tz s (.transaction signer op u) s')
    (hsubject : op.subject? π = some subject) : ¬ subject.Settled π s := by
  intro h
  obtain ⟨-, haccepted, rfl⟩ := hstep.of_transaction
  cases subject with
  | supply =>
      obtain ⟨payload, rfl⟩ := Operation.eq_genesis hsubject
      exact genesis_refused h haccepted
  | swap a n =>
      obtain ⟨i, hid, rfl⟩ := Operation.swapId?_of_subject? hsubject
      obtain ⟨w, hw⟩ := exists_written hinv.swaps.toSound haccepted hid
      have hrank := (swapWrite_of_written haccepted hw).rank_eq hsubject
      have hlt := HasReached.lt_of_writesSwap (e := ⟨s, _, _⟩) h.2 hinv.swaps hstep
        ⟨hid, hw, swapAt_setState_of_some hw⟩
      omega
  | key a =>
      obtain ⟨key, hkey, rfl⟩ := Operation.registeredKey?_of_subject? signer hsubject
      obtain ⟨-, r, hr⟩ := h
      have hfree := (registration_step hstep hkey).1
      rw [hr] at hfree
      cases hfree
  | revocation a =>
      obtain rfl := Operation.eq_revoke hsubject
      obtain ⟨stored, hstored, -, hunrevoked, -⟩ := revokePubKey_spec.mp (run_of_apply haccepted)
      obtain ⟨-, r, hr, hrevoked⟩ := h
      rw [hstored, Option.some.injEq] at hr
      rw [hr, hrevoked] at hunrevoked
      cases hunrevoked

/-! ## Runs -/

def Label.subject? (π : Platform B) : Label → Option Subject
  | .transaction _ op _ => op.subject? π
  | .environment => none

section Runs

variable {ts : List (Transition (Dict Str B) Label)}

/-- Along a run no subject is settled twice, whoever signs. -/
theorem subjects_apart (hforeign : π.pb.NoForeignOwner) (hpayee : NoForeignReceiver π.pb)
    (hrun : LedgerRun π tz ts s) (hreceiver : ∀ e ∈ ts, e.label.ReceiverIsAccount π) :
    ts.Pairwise fun e e' => ∀ subject, e.label.subject? π = some subject →
      e'.label.subject? π ≠ some subject := by
  have horderly : ∀ e ∈ ts, Orderly π e.pre := by
    intro e he
    apply hrun.invariant_pre ⟨swapSound_empty, issuedOnce_empty⟩ _ he
    intro f hf hstep hinv
    exact hinv.step hforeign hpayee (hreceiver f hf) hstep
  apply Run.pairwise_of_split
  rintro xs e ys e' zs rfl subject hsubject hsubject'
  obtain ⟨-, hstep, hrest⟩ := hrun.split
  have hsettled : subject.Settled π e.post := by
    cases hlabel : e.label with
    | environment =>
        rw [hlabel] at hsubject
        cases hsubject
    | transaction signer op u =>
        rw [hlabel] at hstep hsubject
        exact settled_of_accepted hforeign (horderly e (by simp)) hstep hsubject
  have hstays : subject.Settled π e'.pre := by
    apply hrest.invariant_pre (P := fun s => subject.Settled π s) hsettled _ (by simp)
    intro f hf hfstep hpre
    have hmem : f ∈ xs ++ e :: (ys ++ e' :: zs) :=
      List.mem_append_right xs (List.mem_cons_of_mem e hf)
    exact hpre.step hforeign hpayee (horderly f hmem) hfstep
  cases hlabel : e'.label with
  | environment =>
      rw [hlabel] at hsubject'
      cases hsubject'
  | transaction signer op u =>
      have hstep' := hrest.split.2.1
      rw [hlabel] at hstep' hsubject'
      exact not_accepted_of_settled (horderly e' (by simp)) hstep' hsubject' hstays

/-- The only operation that two transactions of a run can have in common is a TRANSFER. -/
theorem only_transfers_repeat (hforeign : π.pb.NoForeignOwner) (hpayee : NoForeignReceiver π.pb)
    (hrun : LedgerRun π tz ts s) (hreceiver : ∀ e ∈ ts, e.label.ReceiverIsAccount π) :
    ts.Pairwise fun e e' => ∀ signer signer' op u u', e.label = .transaction signer op u →
      e'.label = .transaction signer' op u' → ∃ payload, op = .transfer payload := by
  have hsteps : ∀ e ∈ ts, Step π tz e.pre e.label e.post := fun e he => hrun.step_of_mem he
  refine List.Pairwise.imp_of_mem ?_ (subjects_apart hforeign hpayee hrun hreceiver)
  intro e e' he _ hapart signer signer' op u u' hlabel hlabel'
  cases hsubject : op.subject? π with
  | none =>
      have hstep := hsteps e he
      rw [hlabel] at hstep
      exact eq_transfer_of_subject? hstep.of_transaction.2.1 hsubject
  | some subject =>
      rw [hlabel, hlabel'] at hapart
      exact absurd hsubject (hapart subject hsubject)

end Runs

/-! ## A payment accepted twice -/

/-- `alice` sends the same TRANSFER to `bot` twice. -/
def payTwiceScript : List Input :=
  [.transaction Sample.alice (.genesis { totalSupply := 1000000 }),
   .transaction Sample.alice
     (.transfer { addressTo := accountAddress Sample.platform Sample.bot, value := 5 }),
   .transaction Sample.alice
     (.transfer { addressTo := accountAddress Sample.platform Sample.bot, value := 5 })]

theorem payTwiceScript_legal : ∀ i ∈ payTwiceScript, i.IsLegal := by decide +kernel

theorem payTwiceScript_accepted :
    (play Sample.platform Sample.utc Dict.empty payTwiceScript).isSome = true := by
  decide +kernel

theorem payTwiceScript_receivers :
    ∀ e ∈ Sample.transitions payTwiceScript, e.label.ReceiverIsAccount Sample.platform := by
  apply label_of_play (P := Label.ReceiverIsAccount Sample.platform)
    (Sample.play_eq_transitions payTwiceScript_accepted) trivial
  intro signer op hmem u
  simp only [payTwiceScript, List.mem_cons, Input.transaction.injEq, List.not_mem_nil,
    or_false] at hmem
  rcases hmem with ⟨-, rfl⟩ | ⟨-, rfl⟩ | ⟨-, rfl⟩
  · trivial
  · trivial
  · trivial

theorem payTwice_repeats :
    (Sample.transitions payTwiceScript).length = 3 ∧
    (Sample.transitions payTwiceScript).Pairwise fun e e' => ∀ signer signer' op u u',
      e.label = .transaction signer op u → e'.label = .transaction signer' op u' →
        ∃ payload, op = .transfer payload := by
  have hplay := Sample.play_eq_transitions payTwiceScript_accepted
  refine ⟨length_of_play hplay, ?_⟩
  exact only_transfers_repeat Sample.noForeignOwner Sample.noForeignReceiver
    (Sample.run_of_accepted payTwiceScript_legal payTwiceScript_accepted)
    payTwiceScript_receivers

end Remme.Tp
