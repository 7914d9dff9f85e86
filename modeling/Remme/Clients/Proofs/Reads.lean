import Remme.Clients.Reads
import Remme.Shared.Proofs.Router
import Remme.Tp.Proofs.Placement
/-!
# A read sees one block

`fetch_state` asks for the head of the chain and then for an entry below the
state root that the head names.  The chain may grow or switch to a fork between
the two requests, and the validator may fail at either.  A root names what it
stands for, so the entry is that of the block which was the head at the first
request: a balance, a list of keys, a swap or a key record is read as of one
moment of the request.
-/

namespace Remme.Clients

open Remme.Lib Remme.Lib.Dialogue Remme.Protos Remme.Shared Remme.Tp

/-! ## The validator -/

/-- The block at the head of the chain over time, and the entries that a state root stands
for. -/
structure Validator (T B : Type) where
  head : T → ExpandedBlock
  entries : Str → Dict Str B

/-- The state that the head of the chain commits. -/
def Validator.committed {T B : Type} (v : Validator T B) (m : T) : Dict Str B :=
  v.entries (v.head m).header.stateRootHash

/-- `_head_to_root` without a block asks for the first block of the list. -/
def headRequest {τ : Type} : Request τ := .blockList none [] [] Router.firstOnly

/-- The enumeration has the members that `_handle_response` compares with. -/
structure IsComplete (enum : StatusEnum) : Prop where
  noResource : ∃ n, enum.noResource = some n ∧ n ≠ enum.ok
  notReady : ∃ n, enum.notReady = some n ∧ n ≠ enum.ok

/-- What the validator documents of its answers: the first block is the head, an entry is that
of the state root, and `NO_RESOURCE` says that there is none. -/
structure Truthful {T B τ : Type} (sdk : Sdk τ) (ofBytes : Bytes → B) (v : Validator T B)
    (answers : T → (q : Request τ) → Reply q → Prop) : Prop where
  headComplete : IsComplete (sdk.statusEnum headRequest)
  stateComplete : ∀ root address, IsComplete (sdk.statusEnum (.stateGet root address))
  head : ∀ m (response : Response (headRequest (τ := τ))),
    answers m headRequest (.ok (some response)) →
    response.status = (sdk.statusEnum headRequest).ok →
      ∃ block rest, Page.resources response.content = block :: rest ∧
        expandBlock sdk block = .ok (v.head m)
  exists_head : ∀ m (response : Response (headRequest (τ := τ))),
    answers m headRequest (.ok (some response)) →
      (sdk.statusEnum headRequest).noResource ≠ some response.status
  entry : ∀ m root address (response : Response (.stateGet root address)),
    answers m (.stateGet root address) (.ok (some response)) →
      response.status = (sdk.statusEnum (.stateGet root address)).ok →
        ∃ d data, (v.entries root).get? address = some d ∧ ofBytes data = d ∧
          response.content = Text.base64 data
  absent : ∀ m root address (response : Response (.stateGet root address)),
    answers m (.stateGet root address) (.ok (some response)) →
      (sdk.statusEnum (.stateGet root address)).noResource = some response.status →
        (v.entries root).get? address = none

/-- The request was not served: nothing came back, or a status that is neither `OK` nor
`NO_RESOURCE`. -/
def Refused {τ : Type} (sdk : Sdk τ) (q : Request τ) (reply : Reply q) : Prop :=
  ∀ response, reply = .ok (some response) →
    response.status ≠ (sdk.statusEnum q).ok ∧
      (sdk.statusEnum q).noResource ≠ some response.status

/-- The errors that stand for a request that was not served. -/
def IsFault (err : RequestError) : Prop :=
  (∃ message, err = .clientException message) ∨ err = .validatorNotReady

section Reads

variable {T B τ : Type} [Preorder T] {sdk : Sdk τ} {ofBytes : Bytes → B} {v : Validator T B}
  {answers : T → (q : Request τ) → Reply q → Prop} {t t' m : T} {α β : Type}

/-! ## One request -/

theorem sendError_isFault (exc : SendException) : IsFault (sendError exc) := by
  cases exc <;> exact .inl ⟨_, rfl⟩

theorem check_ok {enum : StatusEnum} (h : IsComplete enum) : enum.check enum.ok = .ok () := by
  obtain ⟨n, hn, hnok⟩ := h.noResource
  obtain ⟨r, hr, hrok⟩ := h.notReady
  simp only [StatusEnum.check, hn, hr, if_neg hnok.symm, if_neg hrok.symm, ne_eq,
    not_true_eq_false, if_false]

theorem check_noResource {enum : StatusEnum} {status : ℕ} (h : enum.noResource = some status) :
    enum.check status = .error (.keyNotFound "Resource not found".toList) := by
  simp only [StatusEnum.check, h, if_true]

theorem check_refused {enum : StatusEnum} {status : ℕ} (h : IsComplete enum)
    (hok : status ≠ enum.ok) (hno : enum.noResource ≠ some status) :
    ∃ err, enum.check status = .error err ∧ IsFault err := by
  obtain ⟨n, hn, -⟩ := h.noResource
  obtain ⟨r, hr, -⟩ := h.notReady
  have hne : status ≠ n := by
    intro heq
    exact hno (by rw [hn, heq])
  simp only [StatusEnum.check, hn, hr, if_neg hne, if_pos hok]
  by_cases hready : status = r
  · exact ⟨_, if_pos hready, .inr rfl⟩
  · exact ⟨_, if_neg hready, .inl ⟨_, rfl⟩⟩

/-- How a request can end. -/
theorem goes_handleResponse {q : Request τ} {result : Except RequestError (Content q)}
    (hcomplete : IsComplete (sdk.statusEnum q))
    (h : Goes answers t (handleResponse sdk q) result t') :
    ∃ m reply, t ≤ m ∧ m ≤ t' ∧ answers m q reply ∧
      ((∃ err, result = .error err ∧ IsFault err ∧ Refused sdk q reply) ∨
        ∃ response, reply = .ok (some response) ∧
          ((response.status = (sdk.statusEnum q).ok ∧ result = .ok response.content) ∨
            ((sdk.statusEnum q).noResource = some response.status ∧
              result = .error (.keyNotFound "Resource not found".toList)))) := by
  obtain ⟨err, -, herr⟩ | ⟨reply, m, hreply, hrest⟩ := goes_bind.mp h
  · obtain ⟨r, m, hresult, -⟩ := goes_question.mp herr
    cases hresult
  · obtain ⟨r, m', hr, hanswer, hle, hle'⟩ := goes_question.mp hreply
    cases hr
    refine ⟨m', reply, hle, hle'.trans hrest.le, hanswer, ?_⟩
    cases reply with
    | error exc =>
        left
        obtain ⟨hresult, -⟩ := goes_ofExcept.mp hrest
        refine ⟨_, hresult, sendError_isFault exc, ?_⟩
        intro response hreply
        cases hreply
    | ok message =>
        cases message with
        | none =>
            left
            obtain ⟨hresult, -⟩ := goes_ofExcept.mp hrest
            refine ⟨_, hresult, sendError_isFault _, ?_⟩
            intro response hreply
            cases hreply
        | some response =>
            have hchecked : Goes answers m
                (Dialogue.ofExcept ((sdk.statusEnum q).check response.status) >>= fun _ =>
                  (pure response.content : Query τ (Content q))) result t' := hrest
            by_cases hok : response.status = (sdk.statusEnum q).ok
            · right
              refine ⟨response, rfl, .inl ⟨hok, ?_⟩⟩
              rw [hok, check_ok hcomplete, ofExcept_ok_bind] at hchecked
              exact (goes_pure.mp hchecked).1
            · by_cases hno : (sdk.statusEnum q).noResource = some response.status
              · right
                refine ⟨response, rfl, .inr ⟨hno, ?_⟩⟩
                rw [check_noResource hno, ofExcept_error_bind] at hchecked
                exact (goes_ofExcept.mp hchecked).1
              · left
                obtain ⟨err, hcheck, hfault⟩ := check_refused hcomplete hok hno
                rw [hcheck, ofExcept_error_bind] at hchecked
                refine ⟨err, (goes_ofExcept.mp hchecked).1, hfault, ?_⟩
                intro response' hreply
                cases hreply
                exact ⟨hok, hno⟩

/-! ## One read -/

variable (sdk answers) in
/-- The error stands for a request that the validator did not serve meanwhile. -/
def Unserved (t t' : T) (err : RequestError) : Prop :=
  IsFault err ∧ ∃ m q reply, t ≤ m ∧ m ≤ t' ∧ answers m q reply ∧ Refused sdk q reply

variable (sdk v answers) in
/-- Whenever the program runs, its result is what `view` says of the state that the head of the
chain committed at one moment of the run, unless a request was not served. -/
def Reads (x : Query τ α) (view : (Str → Option B) → Except RequestError α) : Prop :=
  ∀ t t' result, Goes answers t x result t' →
    (∃ m, t ≤ m ∧ m ≤ t' ∧ result = view (v.committed m).get?) ∨
      ∃ err, result = .error err ∧ Unserved sdk answers t t' err

theorem Unserved.mono {k k' : T} {err : RequestError} (h : Unserved sdk answers k k' err)
    (hle : t ≤ k) (hle' : k' ≤ t') : Unserved sdk answers t t' err := by
  obtain ⟨hfault, m, q, reply, hm, hm', hanswer⟩ := h
  exact ⟨hfault, m, q, reply, hle.trans hm, hm'.trans hle', hanswer⟩

theorem Unserved.ne_keyNotFound {err : RequestError} (h : Unserved sdk answers t t' err)
    (message : Str) : err ≠ .keyNotFound message := by
  rintro rfl
  obtain ⟨message', hmessage⟩ | hready := h.1
  · cases hmessage
  · cases hready

theorem goes_headToRoot (htruth : Truthful sdk ofBytes v answers)
    {result : Except RequestError (Str × Str)}
    (h : Goes answers t (Router.headToRoot sdk none) result t') :
    (∃ m, t ≤ m ∧ m ≤ t' ∧ result =
      .ok ((v.head m).headerSignature, (v.head m).header.stateRootHash)) ∨
      ∃ err, result = .error err ∧ Unserved sdk answers t t' err := by
  obtain ⟨block, hblock, rfl⟩ := goes_bind_pure.mp h
  obtain ⟨resp, hask, rfl⟩ := goes_bind_ofExcept.mp hblock
  obtain ⟨m, reply, hle, hle', hanswer, hend⟩ := goes_handleResponse htruth.headComplete hask
  obtain ⟨err, rfl, hfault, hrefused⟩ | ⟨response, rfl, hstatus⟩ := hend
  · exact .inr ⟨err, rfl, hfault, m, _, reply, hle, hle', hanswer, hrefused⟩
  · obtain ⟨hok, rfl⟩ | ⟨hno, -⟩ := hstatus
    · obtain ⟨first, rest, hblocks, hhead⟩ := htruth.head m response hanswer hok
      have hexpand : Router.expandFirst sdk response.content = .ok (v.head m) := by
        unfold Router.expandFirst
        rw [hblocks]
        exact hhead
      refine .inl ⟨m, hle, hle', ?_⟩
      change (Router.expandFirst sdk response.content).map _ = _
      rw [hexpand]
      rfl
    · exact absurd hno (htruth.exists_head m response hanswer)

/-- A page of the state is one of the block that was the head at one moment of the call, and the
envelope names that block. -/
theorem listState_of_one_block (htruth : Truthful sdk ofBytes v answers)
    {address start reverse : Option Str} {limit : Option LimitParam}
    {envelope : PagedEnvelope StateEntry}
    (h : Goes answers t (Router.listState sdk address start limit none reverse) (.ok envelope)
      t') :
    ∃ m k sent response, t ≤ m ∧ m ≤ k ∧ k ≤ t' ∧ SentLimit limit sent ∧
      answers k (.stateList (v.head m).header.stateRootHash address
        (getSortingMessage reverse "default".toList) ⟨start, sent⟩) (.ok (some response)) ∧
      envelope.head = (v.head m).headerSignature ∧
      envelope.data = (show Page StateEntry from response.content).resources := by
  unfold Router.listState at h
  obtain ⟨err, herr, -⟩ | ⟨controls, k₀, hcontrols, h⟩ := goes_bind.mp h
  · cases herr
  obtain ⟨hcontrols, hk₀⟩ := goes_ofExcept.mp hcontrols
  obtain ⟨err, herr, -⟩ | ⟨⟨head, root⟩, k₁, hroot, h⟩ := goes_bind.mp h
  · cases herr
  obtain ⟨err, herr, -⟩ | ⟨paging, k₂, hpaging, h⟩ := goes_bind.mp h
  · cases herr
  obtain ⟨hpaging, hk₂⟩ := goes_ofExcept.mp hpaging
  obtain ⟨y, hy, henvelope⟩ := goes_bind_ofExcept.mp h
  obtain ⟨m, hle, hle', hm⟩ | ⟨err, herr, -⟩ := goes_headToRoot htruth hroot
  · cases hm
    obtain ⟨sent, hsent, rfl⟩ := paging_eq_ok.mp ⟨controls, hcontrols.symm, hpaging.symm⟩
    cases y with
    | error err => cases henvelope
    | ok content =>
        obtain ⟨k, response, hk, hk', hanswer, -, rfl⟩ := goes_handleResponse_ok.mp hy
        refine ⟨m, k, sent, response, hk₀.trans hle, (hle'.trans hk₂).trans hk, hk', hsent, hanswer,
          ?_⟩
        change _ = wrapPaginatedResponse _ _ _ _ at henvelope
        unfold wrapPaginatedResponse at henvelope
        split at henvelope
        · cases henvelope
        · cases henvelope
          exact ⟨rfl, rfl⟩
  · cases herr

/-- An entry, or the error for an address that holds none. -/
def valueView (address : Str) (s : Str → Option B) : Except RequestError B :=
  match s address with
  | some d => .ok d
  | none => .error (.keyNotFound "Resource not found".toList)

theorem reads_getStateValue (htruth : Truthful sdk ofBytes v answers) (address : Str) :
    Reads sdk v answers (getStateValue sdk ofBytes address) (valueView address) := by
  intro t t' result h
  obtain ⟨envelope, hfetch, rfl⟩ := goes_bind_ofExcept.mp h
  obtain ⟨err, rfl, hroot⟩ | ⟨⟨head, root⟩, k, hroot, hget⟩ := goes_bind.mp hfetch
  · obtain ⟨m, -, -, hm⟩ | ⟨err', herr', hunserved⟩ := goes_headToRoot htruth hroot
    · cases hm
    · cases herr'
      exact .inr ⟨err, rfl, hunserved⟩
  · obtain ⟨m, hle, hle', hm⟩ | ⟨err, herr, -⟩ := goes_headToRoot htruth hroot
    · cases hm
      obtain ⟨value, hvalue, rfl⟩ := goes_bind_pure.mp hget
      obtain ⟨k', reply, hk, hk', hanswer, hend⟩ :=
        goes_handleResponse (htruth.stateComplete _ address) hvalue
      obtain ⟨err, rfl, hfault, hrefused⟩ | ⟨response, rfl, hstatus⟩ := hend
      · have hstart : t ≤ k' := (hle.trans hle').trans hk
        exact .inr ⟨err, rfl, hfault, k', _, reply, hstart, hk', hanswer, hrefused⟩
      · refine .inl ⟨m, hle, (hle'.trans hk).trans hk', ?_⟩
        obtain ⟨hok, rfl⟩ | ⟨hno, rfl⟩ := hstatus
        · obtain ⟨d, data, hd, rfl, hcontent⟩ := htruth.entry k' _ _ response hanswer hok
          simp only [Except.map, Except.bind, b64decodeAs, hcontent, Text.b64decode_base64,
            valueView, Validator.committed, hd]
        · have hd := htruth.absent k' _ _ response hanswer hno
          simp only [Except.map, Except.bind, valueView, Validator.committed, hd]
    · cases herr

/-! ## What follows a read -/

theorem Reads.bind_ofExcept {x : Query τ α} {view : (Str → Option B) → Except RequestError α}
    (h : Reads sdk v answers x view) (f : α → Except RequestError β) :
    Reads sdk v answers (x >>= fun a => .ofExcept (f a)) fun s => (view s).bind f := by
  intro t t' result hgoes
  obtain ⟨y, hy, rfl⟩ := goes_bind_ofExcept.mp hgoes
  obtain ⟨m, hle, hle', rfl⟩ | ⟨err, rfl, hunserved⟩ := h t t' y hy
  · exact .inl ⟨m, hle, hle', rfl⟩
  · exact .inr ⟨err, rfl, hunserved⟩

theorem Reads.bind_pure {x : Query τ α} {view : (Str → Option B) → Except RequestError α}
    (h : Reads sdk v answers x view) (f : α → β) :
    Reads sdk v answers (x >>= fun a => pure (f a)) fun s => (view s).map f := by
  intro t t' result hgoes
  obtain ⟨y, hy, rfl⟩ := goes_bind_pure.mp hgoes
  obtain ⟨m, hle, hle', rfl⟩ | ⟨err, rfl, hunserved⟩ := h t t' y hy
  · exact .inl ⟨m, hle, hle', rfl⟩
  · exact .inr ⟨err, rfl, hunserved⟩

/-- `handled` where the view has no entry. -/
def onKeyNotFound (handled : Except RequestError α) : Except RequestError α → Except RequestError α
  | .error (.keyNotFound _) => handled
  | result => result

/-- A request that was not served is never taken for a missing entry. -/
theorem Reads.exceptKeyNotFound {x : Query τ α} {view : (Str → Option B) → Except RequestError α}
    (h : Reads sdk v answers x view) (handled : Except RequestError α) :
    Reads sdk v answers (exceptKeyNotFound x (.ofExcept handled)) fun s =>
      onKeyNotFound handled (view s) := by
  intro t t' result hgoes
  obtain ⟨a, rfl, ha⟩ | ⟨err, k, herr, hhandler⟩ := goes_handle.mp hgoes
  · obtain ⟨m, hle, hle', hview⟩ | ⟨err, herr, -⟩ := h t t' _ ha
    · refine .inl ⟨m, hle, hle', ?_⟩
      change _ = onKeyNotFound handled (view _)
      rw [← hview]
      rfl
    · cases herr
  · obtain ⟨m, hle, hle', hview⟩ | ⟨err', herr', hunserved⟩ := h t k _ herr
    · refine .inl ⟨m, hle, hle'.trans hhandler.le, ?_⟩
      change _ = onKeyNotFound handled (view _)
      rw [← hview]
      cases err with
      | keyNotFound message => exact (goes_ofExcept.mp hhandler).1
      | _ => exact (goes_ofExcept.mp hhandler).1
    · cases herr'
      refine .inr ⟨err, ?_, hunserved.mono le_rfl hhandler.le⟩
      cases err with
      | keyNotFound message => exact absurd rfl (hunserved.ne_keyNotFound message)
      | _ => exact (goes_ofExcept.mp hhandler).1

theorem Reads.congr {x : Query τ α} {view view' : (Str → Option B) → Except RequestError α}
    (h : Reads sdk v answers x view)
    (heq : ∀ m, view (v.committed m).get? = view' (v.committed m).get?) :
    Reads sdk v answers x view' := by
  intro t t' result hgoes
  obtain ⟨m, hle, hle', hview⟩ | hunserved := h t t' result hgoes
  · exact .inl ⟨m, hle, hle', hview.trans (heq m)⟩
  · exact .inr hunserved

/-- An entry read as a message. -/
def messageView (pbClass : Codec B α) (address : Str) (s : Str → Option B) :
    Except RequestError α :=
  (valueView address s).bind (parseAs pbClass)

theorem reads_getMessage (htruth : Truthful sdk ofBytes v answers) (pbClass : Codec B α)
    (address : Str) :
    Reads sdk v answers (getMessage sdk ofBytes pbClass address) (messageView pbClass address) :=
  (reads_getStateValue htruth address).bind_ofExcept (parseAs pbClass)

end Reads

/-! ## A validator that serves -/

namespace Sample

open Remme.Tp.Sample

/-- The requests with the transactions of the sample platform. -/
abbrev SampleRequest := Request (ClientTransaction Data)

/-- The bytes of a block header with a state root of one character, and no other field. -/
def headerWire (root : Char) : Bytes := [0x32, 0x01, UInt8.ofNat root.toNat]

def headerOf (root : Str) : BlockHeader :=
  { blockNum := 0
    previousBlockId := []
    signerPublicKey := []
    batchIds := []
    consensus := []
    stateRootHash := root }

def sampleSdk : Sdk (ClientTransaction Data) where
  statusEnum := fun _ => ⟨1, some 5, some 3⟩
  blockHeader := fun b =>
    match b with
    | [0x32, 0x01, root] => some (headerOf [Char.ofNat root.toNat])
    | _ => none
  batchHeader := fun _ => none
  transactionHeader := fun _ => none

/-- The head moves at time one. -/
def rootAt (m : ℕ) : Char := if m = 0 then '0' else '1'

variable (first second : Dict Str Data) (wire : Data → Bytes)

def movingHead : Validator ℕ Data where
  head := fun m => ⟨headerOf [rootAt m], [], []⟩
  entries := fun root => if root = ['0'] then first else second

theorem entries_movingHead (root : Str) : (movingHead first second).entries root = first ∨
    (movingHead first second).entries root = second := by
  unfold movingHead
  dsimp only
  split
  · exact .inl rfl
  · exact .inr rfl

theorem committed_movingHead (m : ℕ) :
    (movingHead first second).committed m = if m = 0 then first else second := by
  unfold Validator.committed movingHead rootAt headerOf
  by_cases hm : m = 0
  · simp [hm]
  · simp [hm]

/-- The block at the head, as the validator sends it. -/
def headText (m : ℕ) : BlockDict Str Str Str := ⟨Text.base64 (headerWire (rootAt m)), [], []⟩

/-- The reply to a request for an entry, whose data goes over the wire. -/
def entryReply (root address : Str) : Reply (.stateGet root address : SampleRequest) :=
  match ((movingHead first second).entries root).get? address with
  | some d => .ok (some ⟨1, Text.base64 (wire d)⟩)
  | none => .ok (some ⟨5, []⟩)

/-- The response to a request for what the validator has not got. -/
def noContent : (q : SampleRequest) → Content q
  | .blockGetById _ | .batchGet _ | .transactionGet _ => none
  | .blockList .. | .stateList .. | .batchList .. | .transactionList .. => ⟨[], [], none⟩
  | .stateGet .. => []
  | .receiptGet _ | .batchStatus _ => PyVal.array []
  | .peersGet => []
  | .batchSubmit _ => ()

/-- The validator serves the requests of a read, and has nothing else. -/
def Serves (m : ℕ) : (q : SampleRequest) → Reply q → Prop
  | .blockList .., reply => reply = .ok (some ⟨1, ⟨[headText m], [], none⟩⟩)
  | .stateGet root address, reply => reply = entryReply first second wire root address
  | q, reply => reply = .ok (some ⟨5, noContent q⟩)

theorem exists_serves (m : ℕ) (q : SampleRequest) :
    ∃ reply, Serves first second wire m q reply := by
  cases q <;> exact ⟨_, rfl⟩

theorem expandBlock_headText (m : ℕ) :
    expandBlock sampleSdk (headText m) = .ok ((movingHead first second).head m) := by
  have hroot : rootAt m = '0' ∨ rootAt m = '1' := by
    unfold rootAt
    split <;> simp
  change expandBlock sampleSdk ⟨Text.base64 (headerWire (rootAt m)), [], []⟩ =
    .ok ⟨headerOf [rootAt m], [], []⟩
  obtain hroot | hroot := hroot
  · rw [hroot]
    rfl
  · rw [hroot]
    rfl

theorem isComplete (q : SampleRequest) : IsComplete (sampleSdk.statusEnum q) where
  noResource := ⟨5, rfl, Nat.succ_succ_ne_one 3⟩
  notReady := ⟨3, rfl, Nat.succ_succ_ne_one 1⟩

variable {first second wire}

theorem truthful_serves {ofWire : Bytes → Data}
    (hfirst : ∀ a d, first.get? a = some d → ofWire (wire d) = d)
    (hsecond : ∀ a d, second.get? a = some d → ofWire (wire d) = d) :
    Truthful sampleSdk ofWire (movingHead first second) (Serves first second wire) where
  headComplete := isComplete headRequest
  stateComplete := fun root address => isComplete (.stateGet root address)
  head := by
    intro m response hserves _
    cases hserves
    exact ⟨headText m, [], rfl, expandBlock_headText first second m⟩
  exists_head := by
    intro m response hserves
    cases hserves
    intro hno
    cases hno
  entry := by
    intro m root address response hserves hok
    change .ok (some response) = entryReply first second wire root address at hserves
    unfold entryReply at hserves
    cases hd : ((movingHead first second).entries root).get? address with
    | none =>
        rw [hd] at hserves
        cases hserves
        cases hok
    | some d =>
        rw [hd] at hserves
        cases hserves
        refine ⟨d, wire d, rfl, ?_, rfl⟩
        obtain hroot | hroot := entries_movingHead first second root
        · rw [hroot] at hd
          exact hfirst address d hd
        · rw [hroot] at hd
          exact hsecond address d hd
  absent := by
    intro m root address response hserves hno
    change .ok (some response) = entryReply first second wire root address at hserves
    unfold entryReply at hserves
    cases hd : ((movingHead first second).entries root).get? address with
    | none => rfl
    | some d =>
        rw [hd] at hserves
        cases hserves
        cases hno

end Sample

end Remme.Clients
