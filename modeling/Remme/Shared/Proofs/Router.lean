import Remme.Shared.Router
import Remme.RpcApi.Proofs.Identifiers
/-!
# What the router asks for

The lists take the ids of a filter as one text, joined by commas, and cut it
again; the ids that reach the validator are those of the caller wherever these
are ids at all, and a method that names a block, a batch or a transaction sends
nothing before each id of the request has been matched as a whole.
-/

namespace Remme.Shared

open Remme.Lib Remme.Lib.Dialogue Remme.RpcApi

variable {T τ : Type} [Preorder T] {sdk : Sdk τ} {answers : T → (q : Request τ) → Reply q → Prop}
  {t t' m : T} {q q' : Request τ} {α ρ : Type}

/-! ## One request -/

theorem asks_handleResponse :
    Asks answers t (handleResponse sdk q) q' m ↔ q' = q ∧ t ≤ m := by
  unfold handleResponse
  rw [asks_bind]
  constructor
  · rintro (h | ⟨reply, k, -, h⟩)
    · exact asks_question.mp h
    · cases reply with
      | error exc => exact absurd h not_asks_done
      | ok message =>
          cases message with
          | none => exact absurd h not_asks_done
          | some response =>
              obtain ⟨u, -, hpure⟩ := asks_ofExcept_bind.mp h
              exact absurd hpure not_asks_done
  · intro h
    exact .inl (asks_question.mpr h)

theorem asksAtMost_handleResponse (q : Request τ) : AsksAtMost 1 (handleResponse sdk q) := by
  refine (asksAtMost_question q).bind (k := 0) fun reply => ?_
  cases reply with
  | error exc => exact .done
  | ok message =>
      cases message with
      | none => exact .done
      | some response => exact .ofExcept_bind (fun _ => .done) _

/-- A request comes back with the content of a response whose status passes. -/
theorem goes_handleResponse_ok {content : Content q} :
    Goes answers t (handleResponse sdk q) (.ok content) t' ↔
      ∃ m response, t ≤ m ∧ m ≤ t' ∧ answers m q (.ok (some response)) ∧
        (sdk.statusEnum q).check response.status = .ok () ∧ content = response.content := by
  unfold handleResponse
  rw [goes_bind]
  constructor
  · rintro (⟨err, herr, -⟩ | ⟨reply, k, hreply, hrest⟩)
    · cases herr
    · obtain ⟨r, m, hr, hanswer, hle, hle'⟩ := goes_question.mp hreply
      cases hr
      cases reply with
      | error exc => cases (goes_ofExcept.mp hrest).1
      | ok message =>
          cases message with
          | none => cases (goes_ofExcept.mp hrest).1
          | some response =>
              cases hcheck : (sdk.statusEnum q).check response.status with
              | error err =>
                  simp only [hcheck, ofExcept_error_bind] at hrest
                  cases (goes_ofExcept.mp hrest).1
              | ok u =>
                  simp only [hcheck, ofExcept_ok_bind] at hrest
                  obtain ⟨hcontent, hle''⟩ := goes_pure.mp hrest
                  cases hcontent
                  exact ⟨m, response, hle, hle'.trans hle'', hanswer, hcheck, rfl⟩
  · rintro ⟨m, response, hle, hle', hanswer, hcheck, rfl⟩
    refine .inr ⟨.ok (some response), m, goes_question.mpr ⟨_, m, rfl, hanswer, hle, le_rfl⟩, ?_⟩
    simp only [hcheck, ofExcept_ok_bind]
    exact goes_pure.mpr ⟨rfl, hle'⟩

/-! ## Ids -/

/-- The ids that a caller's list names: an entry may hold several, with commas between them. -/
def namedIds (ids : List Str) : List Str := ids.flatMap splitCommas

theorem checkId_eq_ok {id : Str} : checkId id = .ok () ↔ IsHexText 128 id := by
  rw [← validateId_iff]
  unfold checkId
  cases validateId id with
  | error err => simp
  | ok u => simp

theorem forM_checkId {ids : List Str} :
    ids.forM checkId = .ok () ↔ ∀ id ∈ ids, IsHexText 128 id := by
  induction ids with
  | nil => simp [pure, Except.pure]
  | cons id rest ih =>
      rw [List.forall_mem_cons, ← checkId_eq_ok, ← ih]
      change (checkId id >>= fun _ => rest.forM checkId) = _ ↔ _
      cases checkId id with
      | error err => simp [Bind.bind, Except.bind]
      | ok u => simp [Bind.bind, Except.bind]

/-- A text joined from texts is cut at the commas of each. -/
theorem splitCommas_intercalate {ids : List Str} (h : ids ≠ []) :
    splitCommas (List.intercalate [','] ids) = namedIds ids := by
  induction ids with
  | nil => exact absurd rfl h
  | cons id rest ih =>
      cases rest with
      | nil => simp [namedIds]
      | cons id' rest =>
          have htail := ih (List.cons_ne_nil id' rest)
          rw [List.intercalate_cons_cons, List.append_assoc, List.singleton_append]
          unfold splitCommas at htail ⊢
          rw [List.splitOn_append_cons_self, htail]
          rfl

theorem not_mem_of_isHexText {n : ℕ} {id : Str} (h : IsHexText n id) : ',' ∉ id := by
  intro hmem
  exact absurd (h.2 ',' hmem) (by decide)

/-- Ids without commas are the ids that they name. -/
theorem namedIds_of_isHexText {ids : List Str} (h : ∀ id ∈ ids, IsHexText 128 id) :
    namedIds ids = ids := by
  induction ids with
  | nil => rfl
  | cons id rest ih =>
      have hid : splitCommas id = [id] :=
        List.splitOn_eq_singleton (not_mem_of_isHexText (h id (by simp)))
      rw [namedIds, List.flatMap_cons, hid, List.singleton_append]
      exact congrArg (id :: ·) (ih fun id' hid' => h id' (by simp [hid']))

theorem getFilterIds_eq_ok {ids filterIds : List Str} :
    getFilterIds (idQuery ids) = .ok filterIds ↔
      filterIds = namedIds ids ∧ ∀ id ∈ namedIds ids, IsHexText 128 id := by
  cases ids with
  | nil => simp [idQuery, getFilterIds, namedIds, eq_comm]
  | cons id rest =>
      have hsplit := splitCommas_intercalate (List.cons_ne_nil id rest)
      rw [← forM_checkId]
      simp only [idQuery, getFilterIds, hsplit]
      cases (namedIds (id :: rest)).forM checkId with
      | error err => simp [Bind.bind, Except.bind]
      | ok u => simp [Bind.bind, Except.bind, pure, Except.pure, eq_comm]

theorem getHeadId_eq_ok {head headId : Option Str} :
    getHeadId head = .ok headId ↔ headId = head ∧ ∀ id ∈ head, IsHexText 128 id := by
  cases head with
  | none => simp [getHeadId, eq_comm]
  | some id =>
      simp only [getHeadId, Option.mem_def, Option.some.injEq, forall_eq', ← checkId_eq_ok]
      cases checkId id with
      | error err => simp [Bind.bind, Except.bind]
      | ok u => simp [Bind.bind, Except.bind, pure, Except.pure, eq_comm]

/-! ## The limit -/

/-- A limit is a positive `int32`, where there is one. -/
def LimitFits (limit : Option LimitParam) : Prop :=
  ∀ l ∈ limit, ∃ n, l.toInt = .ok n ∧ 0 < n ∧ n < 2 ^ 31

/-- The limit that is sent for the limit of the caller. -/
inductive SentLimit : Option LimitParam → Option ℕ → Prop
  | none : SentLimit none none
  | some {l : LimitParam} {n : ℕ} (hint : l.toInt = .ok (n : ℤ)) (hpos : 0 < n)
      (hfits : n < 2 ^ 31) : SentLimit (some l) (some n)

theorem limitFits_iff {limit : Option LimitParam} :
    LimitFits limit ↔ ∃ sent, SentLimit limit sent := by
  unfold LimitFits
  constructor
  · intro h
    cases limit with
    | none => exact ⟨none, .none⟩
    | some l =>
        obtain ⟨n, hint, hpos, hfits⟩ := h l rfl
        have hn : (n.toNat : ℤ) = n := Int.toNat_of_nonneg hpos.le
        rw [← hn] at hint
        exact ⟨some n.toNat, .some hint (by omega) (by omega)⟩
  · rintro ⟨sent, hsent⟩
    cases hsent with
    | none => simp
    | @some l n hint hpos hfits =>
        intro l' hl'
        cases hl'
        exact ⟨n, hint, by omega, by omega⟩

theorem paging_eq_ok {start : Option Str} {limit : Option LimitParam} {paging : PagingControls} :
    (∃ controls, getPagingControls start limit = .ok controls ∧
      makePagingMessage controls = .ok paging) ↔
        ∃ sent, SentLimit limit sent ∧ paging = ⟨start, sent⟩ := by
  unfold getPagingControls
  cases limit with
  | none =>
      simp only [Except.ok.injEq, exists_eq_left', makePagingMessage]
      constructor
      · rintro rfl
        exact ⟨none, .none, rfl⟩
      · rintro ⟨sent, hsent, rfl⟩
        cases hsent
        rfl
  | some l =>
      simp only
      constructor
      · rintro ⟨controls, hcontrols, hpaging⟩
        cases hint : l.toInt with
        | error err => simp [hint, Bind.bind, Except.bind] at hcontrols
        | ok n =>
            simp only [hint, Bind.bind, Except.bind] at hcontrols
            split_ifs at hcontrols with hpos
            cases hcontrols
            simp only [makePagingMessage] at hpaging
            split_ifs at hpaging with hfits
            cases hpaging
            have hn : (n.toNat : ℤ) = n := Int.toNat_of_nonneg (by omega)
            rw [← hn] at hint
            exact ⟨some n.toNat, .some hint (by omega) (by omega), rfl⟩
      · rintro ⟨sent, hsent, rfl⟩
        cases hsent with
        | @some _ n hint hpos hfits =>
            have hfits' : (n : ℤ) < 2 ^ 31 := by exact_mod_cast hfits
            refine ⟨⟨some (n : ℤ), start⟩, ?_, ?_⟩
            · simp [hint, Nat.pos_iff_ne_zero.mp hpos, Bind.bind, Except.bind]
            · simp only [makePagingMessage, if_pos hfits', Int.toNat_natCast]

/-! ## The methods -/

/-- The ids that a request carries. -/
def Request.ids : Request τ → List Str
  | .blockGetById id | .batchGet id | .transactionGet id => [id]
  | .blockList head ids _ _ | .batchList head ids _ _ | .transactionList head ids _ _ =>
      head.toList ++ ids
  | .receiptGet ids | .batchStatus ids => ids
  | .stateGet .. | .stateList .. | .peersGet | .batchSubmit _ => []

variable (answers) in
/-- The program asks for nothing but these ids, and asks exactly if the condition holds. -/
def SendsIds (x : Query τ α) (ids : List Str) (condition : Prop) : Prop :=
  (∀ t q m, Asks answers t x q m → condition ∧ q.ids = ids) ∧
    (condition → ∀ t, ∃ q, Asks answers t x q t)

variable (answers) in
/-- The program only asks the one request. -/
def AsksOnly (x : Query τ α) (q : Request τ) : Prop :=
  ∀ t q' m, Asks answers t x q' m ↔ q' = q ∧ t ≤ m

theorem SendsIds.bind_ofExcept {β : Type} {x : Query τ α} {ids : List Str} {condition : Prop}
    (h : SendsIds answers x ids condition) (g : α → Except RequestError β) :
    SendsIds answers (x >>= fun a => .ofExcept (g a)) ids condition := by
  refine ⟨fun t q m hasks => h.1 t q m (asks_bind_ofExcept.mp hasks), fun hcondition t => ?_⟩
  obtain ⟨q, hasks⟩ := h.2 hcondition t
  exact ⟨q, asks_bind_ofExcept.mpr hasks⟩

/-- What a list asks for. -/
theorem asks_listResources
    {request : Option Str → List Str → List SortControls → PagingControls → Query τ (Page ρ)}
    {mk : Option Str → List Str → List SortControls → PagingControls → Request τ}
    (hrequest : ∀ head ids sorting paging,
      AsksOnly answers (request head ids sorting paging) (mk head ids sorting paging))
    (key : Str) (ids : List Str) (start : Option Str) (limit : Option LimitParam)
    (head reverse : Option Str) :
    Asks answers t (Router.listResources request key ids start limit head reverse) q m ↔
      t ≤ m ∧ (∀ id ∈ head.toList ++ namedIds ids, IsHexText 128 id) ∧
        ∃ sent, SentLimit limit sent ∧
          q = mk head (namedIds ids) (getSortingMessage reverse key) ⟨start, sent⟩ := by
  have hvalid : (∀ id ∈ head.toList ++ namedIds ids, IsHexText 128 id) ↔
      (∀ id ∈ head, IsHexText 128 id) ∧ ∀ id ∈ namedIds ids, IsHexText 128 id := by
    simp only [List.mem_append, Option.mem_toList, Option.mem_def, or_imp, forall_and]
  rw [hvalid]
  unfold Router.listResources
  constructor
  · intro hasks
    obtain ⟨controls, hcontrols, hasks⟩ := asks_ofExcept_bind.mp hasks
    obtain ⟨headId, hheadId, hasks⟩ := asks_ofExcept_bind.mp hasks
    obtain ⟨filterIds, hfilterIds, hasks⟩ := asks_ofExcept_bind.mp hasks
    obtain ⟨paging, hpaging, hasks⟩ := asks_ofExcept_bind.mp hasks
    obtain ⟨rfl, hhead⟩ := getHeadId_eq_ok.mp hheadId
    obtain ⟨rfl, hnamed⟩ := getFilterIds_eq_ok.mp hfilterIds
    obtain ⟨sent, hsent, rfl⟩ := paging_eq_ok.mp ⟨controls, hcontrols, hpaging⟩
    obtain ⟨rfl, hle⟩ := (hrequest _ _ _ _ t q m).mp (asks_bind_pure.mp hasks)
    exact ⟨hle, ⟨hhead, hnamed⟩, sent, hsent, rfl⟩
  · rintro ⟨hle, ⟨hhead, hnamed⟩, sent, hsent, rfl⟩
    obtain ⟨controls, hcontrols, hpaging⟩ :=
      paging_eq_ok.mpr ⟨sent, hsent, (rfl : (⟨start, sent⟩ : PagingControls) = _)⟩
    refine asks_ofExcept_bind.mpr ⟨controls, hcontrols, ?_⟩
    refine asks_ofExcept_bind.mpr ⟨head, getHeadId_eq_ok.mpr ⟨rfl, hhead⟩, ?_⟩
    refine asks_ofExcept_bind.mpr ⟨namedIds ids, getFilterIds_eq_ok.mpr ⟨rfl, hnamed⟩, ?_⟩
    refine asks_ofExcept_bind.mpr ⟨_, hpaging, ?_⟩
    exact asks_bind_pure.mpr ((hrequest _ _ _ _ t _ m).mpr ⟨rfl, hle⟩)

theorem sendsIds_listResources
    {request : Option Str → List Str → List SortControls → PagingControls → Query τ (Page ρ)}
    {mk : Option Str → List Str → List SortControls → PagingControls → Request τ}
    (hrequest : ∀ head ids sorting paging,
      AsksOnly answers (request head ids sorting paging) (mk head ids sorting paging))
    (hids : ∀ head ids sorting paging, (mk head ids sorting paging).ids = head.toList ++ ids)
    (key : Str) (ids : List Str) (start : Option Str) (limit : Option LimitParam)
    (head reverse : Option Str) :
    SendsIds answers (Router.listResources request key ids start limit head reverse)
      (head.toList ++ namedIds ids)
      (LimitFits limit ∧ ∀ id ∈ head.toList ++ namedIds ids, IsHexText 128 id) := by
  rw [limitFits_iff]
  constructor
  · intro t q m hasks
    obtain ⟨-, hvalid, sent, hsent, rfl⟩ :=
      (asks_listResources hrequest key ids start limit head reverse).mp hasks
    exact ⟨⟨⟨sent, hsent⟩, hvalid⟩, hids _ _ _ _⟩
  · rintro ⟨⟨sent, hsent⟩, hvalid⟩ t
    exact ⟨_, (asks_listResources hrequest key ids start limit head reverse).mpr
      ⟨le_rfl, hvalid, sent, hsent, rfl⟩⟩

theorem sendsIds_fetchResource {request : Str → Query τ (Option ρ)} {mk : Str → Request τ}
    (hrequest : ∀ id, AsksOnly answers (request id) (mk id)) (hids : ∀ id, (mk id).ids = [id])
    (expand : ρ → Except RequestError α) (id : Str) :
    SendsIds answers (Router.fetchResource request expand id) [id] (IsHexText 128 id) := by
  unfold Router.fetchResource
  constructor
  · intro t q m hasks
    obtain ⟨u, hu, hasks⟩ := asks_ofExcept_bind.mp hasks
    obtain hasks | ⟨response, k, -, hrest⟩ := asks_bind.mp hasks
    · obtain ⟨rfl, -⟩ := (hrequest id t q m).mp hasks
      exact ⟨checkId_eq_ok.mp hu, hids id⟩
    · obtain ⟨resource, -, hrest⟩ := asks_ofExcept_bind.mp hrest
      obtain ⟨data, -, hpure⟩ := asks_ofExcept_bind.mp hrest
      exact absurd hpure not_asks_done
  · intro hvalid t
    refine ⟨mk id, asks_ofExcept_bind.mpr ⟨(), checkId_eq_ok.mpr hvalid, ?_⟩⟩
    exact asks_bind.mpr (.inl ((hrequest id t _ t).mpr ⟨rfl, le_rfl⟩))

theorem sendsIds_listProps {request : List Str → Query τ PyVal} {mk : List Str → Request τ}
    (hrequest : ∀ ids, AsksOnly answers (request ids) (mk ids)) (hids : ∀ ids, (mk ids).ids = ids)
    (ids : List Str) :
    SendsIds answers (Router.listProps request ids) (namedIds ids)
      (∀ id ∈ namedIds ids, IsHexText 128 id) := by
  unfold Router.listProps
  constructor
  · intro t q m hasks
    obtain ⟨filterIds, hfilterIds, hasks⟩ := asks_ofExcept_bind.mp hasks
    obtain ⟨rfl, hnamed⟩ := getFilterIds_eq_ok.mp hfilterIds
    obtain ⟨rfl, -⟩ := (hrequest _ t q m).mp (asks_bind_pure.mp hasks)
    exact ⟨hnamed, hids _⟩
  · intro hnamed t
    refine ⟨mk (namedIds ids), asks_ofExcept_bind.mpr
      ⟨namedIds ids, getFilterIds_eq_ok.mpr ⟨rfl, hnamed⟩, ?_⟩⟩
    exact asks_bind_pure.mpr ((hrequest _ t _ t).mpr ⟨rfl, le_rfl⟩)

/-- A list sends a request exactly if its limit is a positive `int32` and each id that it names is
128 lower-case hexadecimal digits, a fetch exactly if its id is; the request carries these ids and
no others, which are the caller's own wherever those are ids. -/
theorem ids_sent_as_named :
    (∀ ids start limit head reverse,
      SendsIds answers (Router.listBlocks sdk ids start limit head reverse)
        (head.toList ++ namedIds ids)
        (LimitFits limit ∧ ∀ id ∈ head.toList ++ namedIds ids, IsHexText 128 id) ∧
      SendsIds answers (Router.listBatches sdk ids start limit head reverse)
        (head.toList ++ namedIds ids)
        (LimitFits limit ∧ ∀ id ∈ head.toList ++ namedIds ids, IsHexText 128 id) ∧
      ∀ familyName,
        SendsIds answers (Router.listTransactions sdk ids start limit head reverse familyName)
          (head.toList ++ namedIds ids)
          (LimitFits limit ∧ ∀ id ∈ head.toList ++ namedIds ids, IsHexText 128 id)) ∧
    (∀ id, SendsIds answers (Router.fetchBlock sdk id) [id] (IsHexText 128 id) ∧
      SendsIds answers (Router.fetchBatch sdk id) [id] (IsHexText 128 id) ∧
      SendsIds answers (Router.fetchTransaction sdk id) [id] (IsHexText 128 id)) ∧
    (∀ ids, SendsIds answers (Router.listReceipts sdk ids) (namedIds ids)
        (∀ id ∈ namedIds ids, IsHexText 128 id) ∧
      SendsIds answers (Router.listStatuses sdk ids) (namedIds ids)
        (∀ id ∈ namedIds ids, IsHexText 128 id)) ∧
    ∀ ids, (∀ id ∈ ids, IsHexText 128 id) → namedIds ids = ids := by
  have hask : ∀ q : Request τ, AsksOnly answers (handleResponse sdk q) q := fun q t q' m =>
    asks_handleResponse
  refine ⟨fun ids start limit head reverse => ⟨?_, ?_, fun familyName => ?_⟩,
    fun id => ⟨?_, ?_, ?_⟩, fun ids => ⟨?_, ?_⟩, fun ids => namedIds_of_isHexText⟩
  · exact (sendsIds_listResources (fun _ _ _ _ => hask _) (fun _ _ _ _ => rfl) _ ids start limit
      head reverse).bind_ofExcept fun x => Router.wrapExpanded (expandBlock sdk) x.1 x.2
  · exact (sendsIds_listResources (fun _ _ _ _ => hask _) (fun _ _ _ _ => rfl) _ ids start limit
      head reverse).bind_ofExcept fun x => Router.wrapExpanded (expandBatch sdk) x.1 x.2
  · exact (sendsIds_listResources (fun _ _ _ _ => hask _) (fun _ _ _ _ => rfl) _ ids start limit
      head reverse).bind_ofExcept fun x => wrapPaginatedResponse x.1 x.2
        (Router.transactionsOf sdk familyName x.1.resources) none
  · exact sendsIds_fetchResource (fun _ => hask _) (fun _ => rfl) _ id
  · exact sendsIds_fetchResource (fun _ => hask _) (fun _ => rfl) _ id
  · exact sendsIds_fetchResource (fun _ => hask _) (fun _ => rfl) _ id
  · exact sendsIds_listProps (fun _ => hask _) (fun _ => rfl) ids
  · exact sendsIds_listProps (fun _ => hask _) (fun _ => rfl) ids

end Remme.Shared
