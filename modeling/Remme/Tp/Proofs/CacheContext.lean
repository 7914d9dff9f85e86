import Remme.Tp.CacheContext
import Remme.Tp.Script
/-!
# The cache is transparent

The storage holds, for some readable addresses, the data that the state had
before the transaction.  The preload and every round of a generator keep that,
so a read gives what one `get_state` and the decoding give, whatever was read
before it and whatever became of the messages handed out.
-/

namespace Remme.Tp

open Remme.Lib Remme.Protos Remme.Shared

variable {B M α : Type} {ctx : Str → Option B} {readable : Str → Prop}
  {storage : Dict Str (Option B)} {address : Str} {pbClass : PbClass B M} {reply : StateReply B}

namespace CacheContextService

theorem preloadState_valid {addresses : List Str} (hreadable : ∀ a ∈ addresses, readable a)
    (hvalid : ReadCache.Valid ctx readable storage)
    (hreply : Answers ctx readable addresses reply) :
    ∃ storage', preloadState storage reply = .ok storage' ∧
      ReadCache.Valid ctx readable storage' := by
  obtain ⟨entries, rfl⟩ := hreply.granted hreadable
  exact ⟨storage.setAll entries, rfl, hvalid.setAll hreply⟩

theorem getCachedData_valid (hvalid : ReadCache.Valid ctx readable storage)
    (hreply : storage.get? address = none → Answers ctx readable [address] reply) :
    ReadCache.Valid ctx readable (getCachedData storage address pbClass reply).1 :=
  hvalid.read_valid hreply noAccess

/-- One round of a generator is a direct read. -/
theorem getCachedData_eq_directRead (hvalid : ReadCache.Valid ctx readable storage)
    (hreply : storage.get? address = none → Answers ctx readable [address] reply)
    {reply' : StateReply B} (hdirect : Answers ctx readable [address] reply') :
    (getCachedData storage address pbClass reply).2 = directRead address pbClass reply' := by
  classical
  have hread := hvalid.read_eq hreply noAccess
  have hvalue := hdirect.reply?_eq noAccess
  simp only [getCachedData, directRead, hread, hvalue]

/-- The decoding of the service is the one of `getData`. -/
theorem decode_ofCodec (codec : Codec B α) (wrap : α → M) (data : Option B) :
    decode (PbClass.ofCodec codec wrap) data =
      .ok ((data.bind codec.parseFromString).map wrap) := by
  cases data with
  | none => rfl
  | some data =>
      simp only [decode, PbClass.ofCodec, Option.bind_some]
      cases codec.parseFromString data with
      | none => rfl
      | some pb => rfl

/-- A read through the service is the `getData` of the processors' programs. -/
theorem getCachedData_eq_getData (hvalid : ReadCache.Valid ctx readable storage)
    (hreply : storage.get? address = none → Answers ctx readable [address] reply)
    (hreadable : readable address) (codec : Codec B α) (wrap : α → M) :
    (getCachedData storage address (PbClass.ofCodec codec wrap) reply).2 =
      ((getData codec address).run ctx).map (Option.map wrap) := by
  classical
  have hread := hvalid.read_eq hreply noAccess
  rw [if_pos hreadable] at hread
  calc (getCachedData storage address (PbClass.ofCodec codec wrap) reply).2
      = decode (PbClass.ofCodec codec wrap) (ctx address) := by
        simp only [getCachedData, hread]
        rfl
    _ = .ok (((ctx address).bind codec.parseFromString).map wrap) := decode_ofCodec codec wrap _
    _ = ((getData codec address).run ctx).map (Option.map wrap) := rfl

/-- A processor that reads only what it may returns or raises through the preloaded service what
it does against the state. -/
theorem run_preloaded {inputs : List Str} (hinputs : ∀ a ∈ preloaded inputs, readable a)
    (hpreload : Answers ctx readable (preloaded inputs) reply) {replies : Str → StateReply B}
    (hreplies : ∀ a, Answers ctx readable [a] (replies a)) {processor : Processor B α}
    (hreads : processor.ReadsWithin ctx readable) :
    ∃ storage, preloadState .empty reply = .ok storage ∧
      ReadCache.run noAccess replies processor storage = processor.run ctx := by
  obtain ⟨storage, hstorage, hvalid⟩ :=
    preloadState_valid hinputs ReadCache.valid_empty hpreload
  exact ⟨storage, hstorage, hvalid.run_eq hreplies noAccess hreads⟩

end CacheContextService

/-! ## Runs -/

namespace ReadState

open CacheContextService

variable {s s' : ReadState B M} {action : ReadAction B M}

/-- A read gave what a direct read gives. -/
def Transparent (ctx : Str → Option B) (readable : Str → Prop) (r : CachedRead B M) : Prop :=
  ∀ reply, Answers ctx readable [r.address] reply → r.result = directRead r.address r.pbClass reply

structure Sound (ctx : Str → Option B) (readable : Str → Prop) (s : ReadState B M) : Prop where
  storage : ReadCache.Valid ctx readable s.storage
  reads : ∀ r ∈ s.reads, Transparent ctx readable r

/-- What `next` does: nothing at the end of a generator, and one round otherwise. -/
theorem next_cases {generator : ℕ} (h : s.next generator reply = some s') :
    s' = s ∨ ∃ address pbClass,
      (s.storage.get? address = none → s.asked generator = some address) ∧
      s'.storage = (getCachedData s.storage address pbClass reply).1 ∧
      s'.reads = s.reads ++
        [⟨address, pbClass, (getCachedData s.storage address pbClass reply).2⟩] := by
  unfold next at h
  cases hgenerator : s.generators[generator]? with
  | none =>
      rw [hgenerator] at h
      cases h
  | some resolvers =>
      rw [hgenerator] at h
      cases resolvers with
      | nil => exact .inl (Option.some.inj h).symm
      | cons resolver resolvers =>
          obtain ⟨address, pbClass⟩ := resolver
          obtain rfl := Option.some.inj h
          refine .inr ⟨address, pbClass, fun hmiss => ?_, rfl, rfl⟩
          simp [asked, hgenerator, hmiss]

theorem Step.sound (h : Step ctx readable s action s') (hs : s.Sound ctx readable) :
    s'.Sound ctx readable := by
  obtain ⟨hlawful, hact⟩ := h
  cases action with
  | getMultipleData resolvers =>
      obtain rfl := Option.some.inj hact
      exact ⟨hs.storage, hs.reads⟩
  | mutate message value =>
      obtain rfl := Option.some.inj hact
      exact ⟨hs.storage, hs.reads⟩
  | next generator reply =>
      rcases next_cases hact with rfl | ⟨address, pbClass, hasked, hstorage, hreads⟩
      · exact hs
      · have hreply : s.storage.get? address = none → Answers ctx readable [address] reply :=
          fun hmiss => hlawful address (hasked hmiss)
        constructor
        · rw [hstorage]
          exact getCachedData_valid hs.storage hreply
        · intro r hr
          rw [hreads] at hr
          rcases List.mem_append.mp hr with hr | hr
          · exact hs.reads r hr
          · obtain rfl := List.mem_singleton.mp hr
            intro reply' hdirect
            exact getCachedData_eq_directRead hs.storage hreply hdirect

/-- `get_data`: a generator over one resolver, asked once. -/
theorem exists_getData_run (storage : Dict Str (Option B)) (pbClass : PbClass B M)
    (hreply : Answers ctx readable [address] reply) :
    ∃ ts s, Run (Step ctx readable) ({ storage } : ReadState B M) ts s ∧
      s.reads = [⟨address, pbClass, (getCachedData storage address pbClass reply).2⟩] := by
  let opened : ReadState B M := { storage, generators := [[(address, pbClass)]] }
  have hopen : Step ctx readable { storage } (.getMultipleData [(address, pbClass)]) opened :=
    ⟨trivial, rfl⟩
  have hlawful : opened.Lawful ctx readable (.next 0 reply) := by
    intro a ha
    simp only [opened, asked, List.getElem?_cons_zero] at ha
    split_ifs at ha
    rwa [← Option.some.inj ha]
  have hnext : Step ctx readable opened (.next 0 reply) _ := ⟨hlawful, rfl⟩
  exact ⟨_, _, .cons hopen (.cons hnext .nil), rfl⟩

theorem sound_of_run {ts : List (Transition (ReadState B M) (ReadAction B M))}
    (hvalid : ReadCache.Valid ctx readable storage)
    (hrun : Run (Step ctx readable) { storage } ts s) : s.Sound ctx readable := by
  have hstart : Sound ctx readable ({ storage } : ReadState B M) :=
    ⟨hvalid, fun r hr => absurd hr List.not_mem_nil⟩
  exact hrun.invariant hstart fun _ _ hstep => hstep.sound

end ReadState

open CacheContextService

/-- Whatever a processor does with the service after the preload, every read gives what a
direct `get_state` and the decoding give in the state before the transaction. -/
theorem cachedReads_transparent {inputs : List Str}
    (hinputs : ∀ a ∈ preloaded inputs, readable a)
    (hpreload : Answers ctx readable (preloaded inputs) reply) :
    ∃ storage, preloadState .empty reply = .ok storage ∧
      ∀ (ts : List (Transition (ReadState B M) (ReadAction B M))) (s : ReadState B M),
        Run (ReadState.Step ctx readable) { storage } ts s →
          ∀ r ∈ s.reads, ∀ reply', Answers ctx readable [r.address] reply' →
            r.result = directRead r.address r.pbClass reply' := by
  obtain ⟨storage, hstorage, hvalid⟩ :=
    preloadState_valid hinputs ReadCache.valid_empty hpreload
  exact ⟨storage, hstorage, fun ts s hrun => (ReadState.sound_of_run hvalid hrun).reads⟩

/-! ## A sample transaction -/

namespace Sample

/-- The state before the transaction: the initiator has an account, the bot has none. -/
def cachedContext : Str → Option Data :=
  fun address => if address = accountAddress platform alice then
    some (.account { balance := 1000 }) else none

def accountClass : PbClass Data Message := .ofCodec protobuf.account .account

def genesisStatusClass : PbClass Data Message := .ofCodec protobuf.genesisStatus .genesisStatus

/-- A full address and a namespace prefix. -/
def cachedInputs : List Str :=
  [accountAddress platform alice, "112007".toList, accountAddress platform alice]

def cachedReply : StateReply Data :=
  .ok ((preloaded cachedInputs).map fun a => (a, cachedContext a))

/-- The declared prefix. -/
def cachedReadable (address : Str) : Prop := "112007".toList <+: address

/-- Two accounts from one generator, a change to the first message, the first address again under
two classes, and a generator dropped after its first item.  The bot's address is asked for twice
and has no data: once it is left out of the reply, once it comes without data. -/
def cachedActions : List (ReadAction Data Message) :=
  [.getMultipleData [(accountAddress platform alice, accountClass),
     (accountAddress platform bot, accountClass)],
   .next 0 (.ok []),
   .next 0 (.ok []),
   .mutate 0 (.account { balance := 0 }),
   .getMultipleData [(accountAddress platform alice, genesisStatusClass)],
   .next 1 (.ok []),
   .getMultipleData [(accountAddress platform alice, accountClass),
     (accountAddress platform bot, accountClass)],
   .next 2 (.ok []),
   .getMultipleData [(accountAddress platform bot, accountClass)],
   .next 3 (.ok [(accountAddress platform bot, none)])]

/-- The reply to an address without data, in either form. -/
def isAbsent (address : Str) : StateReply Data → Bool
  | .ok [] => (cachedContext address).isNone
  | .ok [(a, none)] => a = address && (cachedContext address).isNone
  | _ => false

theorem answers_of_isAbsent {address : Str} {reply : StateReply Data}
    (hreadable : cachedReadable address) (h : isAbsent address reply = true) :
    Answers cachedContext cachedReadable [address] reply := by
  have hkeys : ∀ a ∈ [address], cachedReadable a := List.forall_mem_singleton.mpr hreadable
  unfold isAbsent at h
  split at h
  · have hanswers : Answers cachedContext cachedReadable [address] (_ : StateReply Data) :=
      Answers.of_present hkeys
    simpa [Option.isNone_iff_eq_none.mp h] using hanswers
  · obtain ⟨ha, hnone⟩ := Bool.and_eq_true_iff.mp h
    have hanswers : Answers cachedContext cachedReadable [address] (_ : StateReply Data) :=
      Answers.of_all hkeys
    simpa [of_decide_eq_true ha, Option.isNone_iff_eq_none.mp hnone] using hanswers
  · cases h

/-- The guard of the sample run. -/
def asksForAbsent (s : ReadState Data Message) : ReadAction Data Message → Bool
  | .next generator reply => match s.asked generator with
      | none => true
      | some address => "112007".toList.isPrefixOf address && isAbsent address reply
  | _ => true

theorem lawful_of_asksForAbsent {s : ReadState Data Message} {action : ReadAction Data Message}
    (h : asksForAbsent s action = true) : s.Lawful cachedContext cachedReadable action := by
  cases action with
  | getMultipleData resolvers => trivial
  | mutate message value => trivial
  | next generator reply =>
      intro address hasked
      simp only [asksForAbsent, hasked, Bool.and_eq_true] at h
      exact answers_of_isAbsent (List.isPrefixOf_iff_prefix.mp h.1) h.2

theorem cachedInputs_readable : ∀ a ∈ preloaded cachedInputs, cachedReadable a := by
  intro a ha
  apply List.isPrefixOf_iff_prefix.mp
  revert a ha
  decide +kernel

theorem cachedPreload : Answers cachedContext cachedReadable (preloaded cachedInputs) cachedReply :=
  Answers.of_all cachedInputs_readable

/-- What the five reads gave; the second and the fifth are the bot's. -/
def cachedResults : List (Option (Option Message)) :=
  [some (some (.account { balance := 1000 })), some none, some none,
    some (some (.account { balance := 1000 })), some none]

theorem cachedRun : ∃ ts s,
    Run (ReadState.Step cachedContext cachedReadable)
      { storage := .setAll .empty ((preloaded cachedInputs).map fun a => (a, cachedContext a)) }
      ts s ∧ s.reads.map (fun r => r.result.toOption) = cachedResults := by
  have hexec : (Run.exec (fun s a => if asksForAbsent s a = true then ReadState.act s a else none)
      { storage := .setAll .empty ((preloaded cachedInputs).map fun a => (a, cachedContext a)) }
      cachedActions).any (fun s =>
        decide (s.reads.map (fun r => r.result.toOption) = cachedResults)) = true := by
    decide +kernel
  obtain ⟨ts, s, hrun, hguard, hreads⟩ := Run.exists_of_guarded hexec
  refine ⟨ts, s, hrun.congr fun e he => ?_, hreads⟩
  exact ⟨lawful_of_asksForAbsent (hguard e he), hrun.step_of_mem he⟩

end Sample

/-- A transaction with five reads, of a repeated address and of an absent one. -/
theorem cachedReads_transparent_sample :
    ∃ storage, preloadState .empty Sample.cachedReply = .ok storage ∧
      ∃ ts s, Run (ReadState.Step Sample.cachedContext Sample.cachedReadable) { storage } ts s ∧
        s.reads.map (fun r => r.result.toOption) = Sample.cachedResults ∧
        ∀ r ∈ s.reads, ∀ reply',
          Answers Sample.cachedContext Sample.cachedReadable [r.address] reply' →
            r.result = directRead r.address r.pbClass reply' := by
  obtain ⟨storage, hstorage, htransparent⟩ :=
    cachedReads_transparent (M := Message) Sample.cachedInputs_readable Sample.cachedPreload
  obtain ⟨ts, s, hrun, hreads⟩ := Sample.cachedRun
  rw [Except.ok.inj hstorage] at hrun
  exact ⟨storage, hstorage, ts, s, hrun, hreads, htransparent ts s hrun⟩

end Remme.Tp
