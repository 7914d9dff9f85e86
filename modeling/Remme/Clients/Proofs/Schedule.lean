import Remme.Clients.Proofs.Declared
import Remme.Lib.Independent
/-!
# Transactions whose declarations do not meet

A validator schedules transactions by the addresses that their headers declare.
The handlers are fit for that: what `apply` asks of the context, what it writes,
the event and the exception depend only on the entries below the declared inputs.
Transactions whose declarations do not meet can so be applied in any order.
-/

namespace Remme.Clients

open Remme.Lib Remme.Protos Remme.Shared Remme.Settings Remme.Tp

variable {B : Type} {π : Platform B} {tz : TimeZone} {context context' : Str → Option B}
  {inputs outputs : List Str} {a : Str}

/-! ## The entries that a transaction leaves to the validator -/

def ContextCall.write (entries : Dict Str B) : ContextCall B → Dict Str B
  | .setState written => entries.update written
  | _ => entries

/-- What the validator merges: the writes of the context, unless the handler raised. -/
def written (outcome : Outcome B) : Dict Str B :=
  match outcome.error with
  | none => outcome.calls.foldl ContextCall.write Dict.empty
  | some _ => Dict.empty

theorem exists_setState {calls : List (ContextCall B)} {entries : Dict Str B}
    (h : (calls.foldl ContextCall.write entries).get? a ≠ none) :
    entries.get? a ≠ none ∨ ∃ last, .setState last ∈ calls ∧ last.get? a ≠ none := by
  induction calls generalizing entries with
  | nil => exact .inl h
  | cons call calls ih =>
      rcases ih h with hentry | ⟨last, hmem, hlast⟩
      · cases call with
        | setState first =>
            simp only [ContextCall.write, Dict.get?_update] at hentry
            by_cases hfirst : first.get? a = none
            · rw [hfirst, Option.none_or] at hentry
              exact .inl hentry
            · exact .inr ⟨first, by simp, hfirst⟩
        | getState addresses => exact .inl hentry
        | addEvent event => exact .inl hentry
      · exact .inr ⟨last, by simp [hmem], hlast⟩

theorem declared_of_written {outcome : Outcome B}
    (hauthorized : ∀ call ∈ outcome.calls, Authorized inputs outputs call)
    (h : (written outcome).get? a ≠ none) : Declared outputs a := by
  unfold written at h
  cases herror : outcome.error with
  | some err =>
      rw [herror] at h
      exact absurd (Dict.get?_empty a) h
  | none =>
      rw [herror] at h
      rcases exists_setState h with hempty | ⟨last, hmem, hlast⟩
      · exact absurd (Dict.get?_empty a) hempty
      · obtain ⟨v, hv⟩ := Option.ne_none_iff_exists'.mp hlast
        exact hauthorized _ hmem (a, v) (Dict.get?_eq_some_iff.mp hv)

/-! ## The outcome depends on the declared inputs -/

/-- An address that the cache answers was asked before, so it is declared too. -/
theorem declared_of_cachedReads {storage reads : List Str}
    (hstorage : ∀ a ∈ storage, Declared inputs a)
    (h : ∀ call ∈ cachedReads context storage reads, Authorized inputs outputs call) :
    ∀ a ∈ reads, Declared inputs a := by
  induction reads generalizing storage with
  | nil => simp
  | cons address rest ih =>
      unfold cachedReads at h
      by_cases hcached : address ∈ storage
      · rw [if_pos hcached] at h
        exact List.forall_mem_cons.mpr ⟨hstorage address hcached, ih hstorage h⟩
      · rw [if_neg hcached] at h
        obtain ⟨hcall, hrest⟩ := List.forall_mem_cons.mp h
        have haddress : Declared inputs address := hcall address (by simp)
        refine List.forall_mem_cons.mpr ⟨haddress, ih ?_ hrest⟩
        intro a ha
        split_ifs at ha with hdata
        · rcases List.mem_cons.mp ha with rfl | ha
          · exact haddress
          · exact hstorage a ha
        · exact hstorage a ha

theorem declared_of_stateReads {reads : List Str}
    (h : ∀ call ∈ stateReads context inputs reads, Authorized inputs outputs call) :
    ∀ a ∈ reads, Declared inputs a := by
  refine declared_of_cachedReads ?_ fun call hcall => h call (List.mem_cons_of_mem _ hcall)
  intro a ha
  exact declared_of_mem (List.mem_of_mem_filter (List.mem_of_mem_filter ha))

theorem cachedReads_congr {storage reads : List Str} (h : ∀ a ∈ reads, context' a = context a) :
    cachedReads context' storage reads = cachedReads context storage reads := by
  induction reads generalizing storage with
  | nil => rfl
  | cons address rest ih =>
      obtain ⟨haddress, hrest⟩ := List.forall_mem_cons.mp h
      simp only [cachedReads, haddress, ih hrest]

theorem stateReads_congr {reads : List Str} (hcontext : ∀ a, Declared inputs a →
    context' a = context a) (hreads : ∀ a ∈ reads, Declared inputs a) :
    stateReads context' inputs reads = stateReads context inputs reads := by
  have hpreloaded : ((preloaded inputs).filter fun a => (context' a).isSome) =
      (preloaded inputs).filter fun a => (context a).isSome := by
    apply List.filter_congr
    intro a ha
    rw [hcontext a (declared_of_mem (List.mem_of_mem_filter ha))]
  unfold stateReads
  rw [hpreloaded, cachedReads_congr fun a ha => hcontext a (hreads a ha)]

theorem process_congr {entry : MethodEntry B} {transaction : TpProcessRequest B}
    {dataPb : entry.Payload}
    (hauthorized : ∀ call ∈ (entry.process π transaction dataPb context).calls,
      Authorized transaction.inputs outputs call)
    (hcontext : ∀ a, Declared transaction.inputs a → context' a = context a) :
    entry.process π transaction dataPb context' = entry.process π transaction dataPb context := by
  unfold MethodEntry.process at hauthorized ⊢
  cases hvalidator : entry.validator dataPb with
  | error err => rfl
  | ok validator =>
      rw [hvalidator] at hauthorized
      simp only at hauthorized ⊢
      split_ifs at hauthorized ⊢ with hvalid
      · rfl
      · have hreads : ∀ a ∈ (entry.processor transaction.signerPublicKey dataPb).reads context,
            Declared transaction.inputs a := by
          cases hrun : (entry.processor transaction.signerPublicKey dataPb).run context with
          | error err =>
              rw [hrun] at hauthorized
              exact declared_of_stateReads hauthorized
          | ok u =>
              rw [hrun] at hauthorized
              exact declared_of_stateReads fun call hcall =>
                hauthorized call (List.mem_append_left _ hcall)
        obtain ⟨hrun, hread⟩ := StoreM.run_congr fun a ha => hcontext a (hreads a ha)
        rw [hrun, hread, stateReads_congr hcontext hreads]

theorem apply_congr {family : Family} {transaction : TpProcessRequest B}
    (hauthorized : ∀ call ∈ (BasicHandler.apply π tz family transaction context).calls,
      Authorized transaction.inputs outputs call)
    (hcontext : ∀ a, Declared transaction.inputs a → context' a = context a) :
    BasicHandler.apply π tz family transaction context' =
      BasicHandler.apply π tz family transaction context := by
  unfold BasicHandler.apply at hauthorized ⊢
  cases hpayload : π.pb.transactionPayload.parseFromString transaction.payload with
  | none => rfl
  | some transactionPayload =>
      rw [hpayload] at hauthorized
      simp only at hauthorized ⊢
      cases hentry : getStateProcessor π tz family transactionPayload.method with
      | none => rfl
      | some entry =>
          rw [hentry] at hauthorized
          simp only at hauthorized ⊢
          cases hdata : entry.pbClass.parseFromString transactionPayload.data with
          | none => rfl
          | some dataPb =>
              rw [hdata] at hauthorized
              exact process_congr hauthorized hcontext

/-! ## Any order -/

/-- A transaction as the validator runs it, with the addresses that it declares. -/
def ClientTransaction.job (π : Platform B) (tz : TimeZone) (t : ClientTransaction B) :
    Job Str B (Outcome B) where
  reads := Declared t.inputs
  writes := Declared t.outputs
  outcome := BasicHandler.apply π tz t.family t.request
  written := written

/-- What the handlers did for the transactions, one after the other from the state `s`. -/
def appliedOutcomes (π : Platform B) (tz : TimeZone) (s : Dict Str B)
    (ts : List (ClientTransaction B)) : List (Outcome B) :=
  Job.outcomes s (ts.map (ClientTransaction.job π tz))

def appliedState (π : Platform B) (tz : TimeZone) (s : Dict Str B)
    (ts : List (ClientTransaction B)) : Dict Str B :=
  Job.commitAll s (ts.map (ClientTransaction.job π tz))

/-- One address is the other's or lies below it. -/
def Meets (d d' : Str) : Prop := d <+: d' ∨ d' <+: d

instance (d d' : Str) : Decidable (Meets d d') := inferInstanceAs (Decidable (_ ∨ _))

/-- No declared output of one meets a declared address of the other. -/
def DeclaredApart (t t' : ClientTransaction B) : Prop :=
  (∀ d ∈ t.outputs, ∀ d' ∈ t'.inputs ++ t'.outputs, ¬ Meets d d') ∧
    ∀ d' ∈ t'.outputs, ∀ d ∈ t.inputs, ¬ Meets d' d

theorem not_declared_of_apart {ds ds' : List Str} (h : ∀ d ∈ ds, ∀ d' ∈ ds', ¬ Meets d d')
    (ha : Declared ds a) : ¬ Declared ds' a := by
  rintro ⟨d', hd', hbelow'⟩
  obtain ⟨d, hd, hbelow⟩ := ha
  exact h d hd d' hd' (List.prefix_or_prefix_of_prefix hbelow hbelow')

theorem DeclaredApart.job_apart {t t' : ClientTransaction B} (h : DeclaredApart t t') :
    (t.job π tz).Apart (t'.job π tz) where
  left := fun _ ha => not_declared_of_apart
    (fun d hd d' hd' => h.1 d hd d' (List.mem_append_left _ hd')) ha
  right := fun _ ha => not_declared_of_apart h.2 ha
  writes := fun _ ha => not_declared_of_apart
    (fun d hd d' hd' => h.1 d hd d' (List.mem_append_right _ hd')) ha

theorem ClientTransaction.job_keeps {t : ClientTransaction B}
    (h : ∀ call ∈ (BasicHandler.apply π tz t.family t.request context).calls,
      Authorized t.inputs t.outputs call) : (t.job π tz).Keeps context where
  outcome_eq := fun _ hcontext => apply_congr h hcontext
  writes := fun _ ha => declared_of_written h ha

/-- Transactions that the validator authorizes on a state and whose declarations do not meet:
in every order, each is answered as on that state, and the last state has the same entries. -/
theorem authorized_transactions_any_order {s : Dict Str B} {ts ts' : List (ClientTransaction B)}
    (hauthorized : ∀ t ∈ ts,
      ∀ call ∈ (BasicHandler.apply π tz t.family t.request s.get?).calls,
        Authorized t.inputs t.outputs call)
    (hapart : ts.Pairwise DeclaredApart) (hperm : ts'.Perm ts) :
    appliedOutcomes π tz s ts' =
        ts'.map (fun t => BasicHandler.apply π tz t.family t.request s.get?) ∧
      ∀ a, (appliedState π tz s ts').get? a = (appliedState π tz s ts).get? a := by
  have hjobs : (ts.map (ClientTransaction.job π tz)).Pairwise Job.Apart :=
    List.pairwise_map.mpr (hapart.imp fun h => h.job_apart)
  have hkeeps : ∀ job ∈ ts.map (ClientTransaction.job π tz), job.Keeps s.get? := by
    intro job hjob
    obtain ⟨t, ht, rfl⟩ := List.mem_map.mp hjob
    exact t.job_keeps (hauthorized t ht)
  have hperm' := hperm.map (ClientTransaction.job π tz)
  refine ⟨?_, fun a => Job.commitAll_perm hperm' hkeeps hjobs⟩
  have houtcomes : appliedOutcomes π tz s ts' =
      (ts'.map (ClientTransaction.job π tz)).map fun job => job.outcome s.get? :=
    Job.outcomes_eq (fun job hjob => hkeeps job (hperm'.mem_iff.mp hjob))
      ((hperm'.pairwise_iff fun h => h.symm).mpr hjobs) fun job hjob k hk => rfl
  rw [houtcomes, List.map_map]
  rfl

def aliceClient : Signer Sample.Data where
  publicKey := Sample.alice
  sign := fun _ _ _ => []

/-- An account that is neither `alice`'s nor `bot`'s. -/
def thirdAddress : Str := "112007".toList ++ List.replicate 64 'f'

/-- The state after the sample swap was opened. -/
def openedState : Dict Str Sample.Data := Sample.final (Sample.swapScript.take 5)

theorem swapSetSecretLock_eq (numbers : MethodNumbers π.pb) (client : Signer B)
    (payload : AtomicSwapSetSecretLockPayload) :
    ∃ t, AtomicSwapClient.swapSetSecretLock π numbers client payload = .ok t ∧
      t.inputs = [swapAddress π payload.swapId, accountAddress π client.publicKey] ∧
      t.outputs = [swapAddress π payload.swapId] := by
  rw [AtomicSwapClient.swapSetSecretLock, getUserAddress, makeAddressFromData_atomicSwap,
    makeAddressFromData_account]
  exact ⟨_, rfl, rfl, rfl⟩

theorem transfer_eq (numbers : MethodNumbers π.pb) (client : Signer B) (addressTo : Str)
    (value : UInt64) :
    ∃ t, AccountClient.transfer π numbers client addressTo value = .ok t ∧
      t.inputs = [addressTo, accountAddress π client.publicKey] ∧
      t.outputs = [addressTo, accountAddress π client.publicKey] := by
  rw [AccountClient.transfer, getUserAddress, makeAddressFromData_account]
  exact ⟨_, rfl, rfl, rfl⟩

/-- `bot` sets the lock of the sample swap while `alice` sends tokens to a third account. -/
theorem lock_and_transfer_any_order :
    ∃ t t', AtomicSwapClient.swapSetSecretLock Sample.platform sampleNumbers botClient
        { swapId := Sample.swapId, secretLock := Sample.secretLock } = .ok t ∧
      AccountClient.transfer Sample.platform sampleNumbers aliceClient thirdAddress 5 = .ok t' ∧
      appliedOutcomes Sample.platform Sample.utc openedState [t', t] =
        [t', t].map (fun t =>
          BasicHandler.apply Sample.platform Sample.utc t.family t.request openedState.get?) ∧
      ∀ a, (appliedState Sample.platform Sample.utc openedState [t', t]).get? a =
        (appliedState Sample.platform Sample.utc openedState [t, t']).get? a := by
  obtain ⟨t, ht, hinputs, houtputs⟩ := swapSetSecretLock_eq sampleNumbers botClient
    { swapId := Sample.swapId, secretLock := Sample.secretLock }
  obtain ⟨t', ht', hinputs', houtputs'⟩ := transfer_eq sampleNumbers aliceClient thirdAddress 5
  refine ⟨t, t', ht, ht', ?_⟩
  apply authorized_transactions_any_order
  · intro t₀ ht₀
    rcases List.mem_cons.mp ht₀ with rfl | ht₀
    · exact swapSetSecretLock_authorized ht
    · obtain rfl := List.mem_singleton.mp ht₀
      exact transfer_authorized ht'
  · have hapart : DeclaredApart t t' := by
      unfold DeclaredApart
      rw [hinputs, houtputs, hinputs', houtputs']
      decide +kernel
    simpa using hapart
  · exact List.Perm.swap _ _ _

end Remme.Clients
