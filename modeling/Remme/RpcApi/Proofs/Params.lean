import Remme.RpcApi.Params
import Remme.RpcApi.Proofs.Submissions
/-!
# What a request's parameters come to

Which JSON objects get through to the validator, and as what.  The lists send
the ids that their parameters name, in every form in which a parameter can name
ids.  `list_blocks` lets through the keys of another method, so that it never
has ids to send, and `send_tokens` lets through none of the keys that it needs.
-/

namespace Remme.RpcApi

open Remme.Lib Remme.Lib.Dialogue Remme.Protos Remme.Shared Remme.Shared.Forms Remme.Tp
  Remme.Clients

variable {T τ : Type} [Preorder T] {sdk : Sdk τ} {answers : T → (q : Request τ) → Reply q → Prop}
  {t m : T} {q : Request τ} {forms : FormLibrary} {params : Dict Str Json} {ignoreFields : List Str}

/-! ## Keys -/

/-- The form knows every key of the object. -/
def KnownKeys (ignoreFields : List Str) (params : Dict Str Json) : Prop :=
  ∀ k, (params.get? k).isSome = true → k ∈ ownArguments ∨ k ∈ ignoreFields

theorem wrongFields_eq_nil :
    wrongFields ignoreFields params = [] ↔ KnownKeys ignoreFields params := by
  simp only [wrongFields, List.filter_eq_nil_iff, decide_eq_true_eq, KnownKeys, not_and_or, not_not]
  constructor
  · intro h k hk
    obtain ⟨value, hvalue⟩ := Option.isSome_iff_exists.mp hk
    exact h k (List.mem_map_of_mem (Dict.get?_eq_some_iff.mp hvalue))
  · intro h k hk
    obtain ⟨⟨k', value⟩, hmem, rfl⟩ := List.mem_map.mp hk
    exact h k' (by rw [Dict.get?_eq_some_iff.mpr hmem]; rfl)

theorem validateProtoForm_eq_ok :
    validateProtoForm forms ignoreFields params = .ok () ↔
      forms.construct params = .ok () ∧ KnownKeys ignoreFields params := by
  rw [← wrongFields_eq_nil]
  unfold validateProtoForm
  cases forms.construct params with
  | error err => simp [Except.mapError, Bind.bind, Except.bind]
  | ok u =>
      cases wrongFields ignoreFields params with
      | nil => simp [Except.mapError, Bind.bind, Except.bind]
      | cons k rest => simp [Except.mapError, Bind.bind, Except.bind]

/-- A wrong key ends the request. -/
theorem validateProtoForm_error {k : Str} (hk : (params.get? k).isSome = true)
    (hown : k ∉ ownArguments) (hignored : k ∉ ignoreFields) :
    ∃ err, validateProtoForm forms ignoreFields params = .error err := by
  cases hvalidate : validateProtoForm forms ignoreFields params with
  | error err => exact ⟨err, rfl⟩
  | ok u =>
      rcases (validateProtoForm_eq_ok.mp hvalidate).2 k hk with h | h
      · exact absurd h hown
      · exact absurd h hignored

/-! ## Values -/

def Json.ofOption : Option Str → Json
  | none => .null
  | some s => .text s

theorem Json.asOptionalText_eq_ok {err : PyError} {value : Json} {o : Option Str} :
    value.asOptionalText err = .ok o ↔ value = .ofOption o := by
  cases value <;> cases o <;> simp [asOptionalText, ofOption, eq_comm]

/-- The ids that a parameter names: those in a list of texts, or the keys of an object. -/
inductive NamesIds : Json → List Str → Prop
  | none {ids : Json} (h : ids.isFalsy = true) : NamesIds ids []
  | array {texts : List Str} : NamesIds (.array (texts.map .text)) (namedIds texts)
  | object {fields : List (Str × Json)} : NamesIds (.object fields) (namedIds (fields.map (·.1)))

theorem mapM_asText {items : List Json} {texts : List Str} :
    items.mapM Json.asText = .ok texts ↔ items = texts.map .text := by
  induction items generalizing texts with
  | nil => cases texts <;> simp [pure, Except.pure]
  | cons item rest ih =>
      simp only [List.mapM_cons, Forms.bind_eq_ok, ih]
      constructor
      · rintro ⟨text, htext, texts', rfl, hcons⟩
        cases hcons
        cases item with
        | text s =>
            cases htext
            rfl
        | _ => cases htext
      · intro h
        cases texts with
        | nil => cases h
        | cons text texts' =>
            obtain ⟨rfl, rfl⟩ := List.cons.inj h
            exact ⟨text, rfl, texts', rfl, rfl⟩

/-- A text is cut into its characters, and none of them is an id. -/
theorem not_isHexText_characters {s : Str} (h : s ≠ []) :
    ∃ id ∈ namedIds (s.map fun c => [c]), ¬IsHexText 128 id := by
  cases s with
  | nil => exact absurd rfl h
  | cons c rest =>
      have hshort : ∃ id ∈ splitCommas [c], id.length ≤ 1 := by
        by_cases hcomma : c = ','
        · subst hcomma
          exact ⟨[], by decide, by decide⟩
        · refine ⟨[c], ?_, le_rfl⟩
          have hnot : ',' ∉ [c] := by
            simpa using Ne.symm hcomma
          rw [splitCommas, List.splitOn_eq_singleton hnot]
          exact List.mem_singleton_self _
      obtain ⟨id, hid, hlength⟩ := hshort
      refine ⟨id, List.mem_append_left _ hid, fun hhex => ?_⟩
      rw [hhex.1] at hlength
      omega

/-- The texts that are joined, where each is cut into ids. -/
theorem namesIds_of_idTexts {ids : Json} {texts : List Str} (h : ids.idTexts = .ok texts)
    (hhex : ∀ id ∈ namedIds texts, IsHexText 128 id) : NamesIds ids (namedIds texts) := by
  unfold Json.idTexts at h
  split_ifs at h with hfalsy
  · cases h
    exact .none hfalsy
  · cases ids with
    | text s =>
        cases h
        have hne : s ≠ [] := by
          rintro rfl
          exact hfalsy rfl
        obtain ⟨id, hid, hnot⟩ := not_isHexText_characters hne
        exact absurd (hhex id hid) hnot
    | array items =>
        obtain rfl := mapM_asText.mp h
        exact .array
    | object fields =>
        cases h
        exact .object
    | _ => cases h

theorem NamesIds.exists_idTexts {ids : Json} {named : List Str} (h : NamesIds ids named) :
    ∃ texts, ids.idTexts = .ok texts ∧ namedIds texts = named := by
  cases h with
  | none hfalsy => exact ⟨[], if_pos hfalsy, rfl⟩
  | @array texts =>
      refine ⟨texts, ?_, rfl⟩
      unfold Json.idTexts
      split_ifs with hfalsy
      · have hnil : texts = [] := by simpa [Json.isFalsy] using hfalsy
        rw [hnil]
      · exact mapM_asText.mpr rfl
  | @object fields =>
      refine ⟨fields.map (·.1), ?_, rfl⟩
      unfold Json.idTexts
      split_ifs with hfalsy
      · have hnil : fields = [] := by simpa [Json.isFalsy] using hfalsy
        rw [hnil]
        rfl
      · rfl

/-! ## Lists -/

/-- The parameters of a list come to these ids and controls. -/
structure Names (params : Dict Str Json) (named : List Str) (headId start reverse : Option Str)
    (sent : Option ℕ) : Prop where
  ids : NamesIds (getParam params "ids") named
  limit : ∃ limit, (getParam params "limit").limitParam = .ok limit ∧ SentLimit limit sent
  head : getParam params "head" = .ofOption headId
  start : getParam params "start" = .ofOption start
  reverse : getParam params "reverse" = .ofOption reverse
  areIds : ∀ id ∈ headId.toList ++ named, IsHexText 128 id

theorem listArguments_eq_ok {a : ListArguments} :
    listArguments params = .ok a ↔
      (getParam params "limit").limitParam = .ok a.limit ∧
      (∃ controls, getPagingControls none a.limit = .ok controls) ∧
      (getParam params "ids").idTexts = .ok a.ids ∧
      getParam params "head" = .ofOption a.head ∧ (∀ id ∈ a.head, IsHexText 128 id) ∧
      (∀ id ∈ namedIds a.ids, IsHexText 128 id) ∧
      getParam params "reverse" = .ofOption a.reverse ∧
      getParam params "start" = .ofOption a.start := by
  unfold listArguments
  simp only [Forms.bind_eq_ok, Json.asOptionalText_eq_ok, getHeadId_eq_ok, getFilterIds_eq_ok]
  constructor
  · rintro ⟨limit, hlimit, controls, hcontrols, ids, hids, head, hhead, _, ⟨rfl, hheadId⟩, _,
      ⟨rfl, hnamed⟩, reverse, hreverse, start, hstart, ha⟩
    cases ha
    exact ⟨hlimit, ⟨controls, hcontrols⟩, hids, hhead, hheadId, hnamed, hreverse, hstart⟩
  · rintro ⟨hlimit, ⟨controls, hcontrols⟩, hids, hhead, hheadId, hnamed, hreverse, hstart⟩
    exact ⟨a.limit, hlimit, controls, hcontrols, a.ids, hids, a.head, hhead, a.head,
      ⟨rfl, hheadId⟩, _, ⟨rfl, hnamed⟩, a.reverse, hreverse, a.start, hstart, rfl⟩

/-- A list that asks for what its arguments say asks for what its parameters name. -/
theorem asks_list {α : Type} {x : ListArguments → Query τ α} {key : Str}
    {mk : Option Str → List Str → List SortControls → PagingControls → Request τ}
    (hx : ∀ a, Asks answers t (x a) q m ↔
      t ≤ m ∧ (∀ id ∈ a.head.toList ++ namedIds a.ids, IsHexText 128 id) ∧
        ∃ sent, SentLimit a.limit sent ∧
          q = mk a.head (namedIds a.ids) (getSortingMessage a.reverse key) ⟨a.start, sent⟩) :
    Asks answers t (.ofExcept (validateProtoForm forms ignoreFields params) >>= fun _ =>
        .ofExcept (listArguments params) >>= x) q m ↔
      t ≤ m ∧ forms.construct params = .ok () ∧ KnownKeys ignoreFields params ∧
        ∃ named headId start reverse sent, Names params named headId start reverse sent ∧
          q = mk headId named (getSortingMessage reverse key) ⟨start, sent⟩ := by
  rw [asks_ofExcept_bind]
  simp only [asks_ofExcept_bind, hx]
  constructor
  · rintro ⟨u, hvalidate, a, ha, hle, hareIds, sent, hsent, rfl⟩
    obtain ⟨hconstruct, hknown⟩ := validateProtoForm_eq_ok.mp hvalidate
    obtain ⟨hlimit, -, hids, hhead, -, hnamed, hreverse, hstart⟩ := listArguments_eq_ok.mp ha
    exact ⟨hle, hconstruct, hknown, namedIds a.ids, a.head, a.start, a.reverse, sent,
      ⟨namesIds_of_idTexts hids hnamed, ⟨a.limit, hlimit, hsent⟩, hhead, hstart, hreverse,
        hareIds⟩, rfl⟩
  · rintro ⟨hle, hconstruct, hknown, named, headId, start, reverse, sent, hnames, rfl⟩
    obtain ⟨texts, htexts, rfl⟩ := hnames.ids.exists_idTexts
    obtain ⟨limit, hlimit, hsent⟩ := hnames.limit
    obtain ⟨controls, hcontrols, -⟩ :=
      paging_eq_ok.mpr ⟨sent, hsent, (rfl : (⟨none, sent⟩ : PagingControls) = _)⟩
    refine ⟨(), validateProtoForm_eq_ok.mpr ⟨hconstruct, hknown⟩,
      ⟨texts, start, limit, headId, reverse⟩, listArguments_eq_ok.mpr ?_, hle, hnames.areIds,
      sent, hsent, rfl⟩
    refine ⟨hlimit, ⟨controls, hcontrols⟩, htexts, hnames.head, fun id hid => ?_, fun id hid => ?_,
      hnames.reverse, hnames.start⟩
    · exact hnames.areIds id (List.mem_append_left _ (Option.mem_toList.mpr hid))
    · exact hnames.areIds id (List.mem_append_right _ hid)

/-! ## The methods -/

theorem asks_listBlocks {a : ListArguments} :
    Asks answers t (Router.listBlocks sdk a.ids a.start a.limit a.head a.reverse) q m ↔
      t ≤ m ∧ (∀ id ∈ a.head.toList ++ namedIds a.ids, IsHexText 128 id) ∧
        ∃ sent, SentLimit a.limit sent ∧ q = .blockList a.head (namedIds a.ids)
          (getSortingMessage a.reverse "block_num".toList) ⟨a.start, sent⟩ :=
  asks_bind_ofExcept.trans (asks_listResources (fun _ _ _ _ _ _ _ => asks_handleResponse) ..)

theorem asks_listBatches {a : ListArguments} :
    Asks answers t (Router.listBatches sdk a.ids a.start a.limit a.head a.reverse) q m ↔
      t ≤ m ∧ (∀ id ∈ a.head.toList ++ namedIds a.ids, IsHexText 128 id) ∧
        ∃ sent, SentLimit a.limit sent ∧ q = .batchList a.head (namedIds a.ids)
          (getSortingMessage a.reverse "default".toList) ⟨a.start, sent⟩ :=
  asks_bind_ofExcept.trans (asks_listResources (fun _ _ _ _ _ _ _ => asks_handleResponse) ..)

theorem asks_listTransactions {a : ListArguments} (familyName : Option Str) :
    Asks answers t (Router.listTransactions sdk a.ids a.start a.limit a.head a.reverse familyName)
        q m ↔
      t ≤ m ∧ (∀ id ∈ a.head.toList ++ namedIds a.ids, IsHexText 128 id) ∧
        ∃ sent, SentLimit a.limit sent ∧ q = .transactionList a.head (namedIds a.ids)
          (getSortingMessage a.reverse "default".toList) ⟨a.start, sent⟩ :=
  asks_bind_ofExcept.trans (asks_listResources (fun _ _ _ _ _ _ _ => asks_handleResponse) ..)

/-- A list of blocks has no ids to send. -/
theorem Names.eq_nil {named : List Str} {headId start reverse : Option Str} {sent : Option ℕ}
    (h : Names params named headId start reverse sent)
    (hknown : KnownKeys (["address", "start", "limit", "head", "reverse"].map (·.toList)) params) :
    named = [] := by
  have hmissing : params.get? "ids".toList = none := by
    rw [← Option.not_isSome_iff_eq_none]
    intro hsome
    exact absurd (hknown _ hsome) (by decide)
  have hids := h.ids
  rw [getParam, hmissing, Option.getD_none] at hids
  cases hids
  rfl

/-- What `send_tokens` needs is a wrong key. -/
theorem sendTokens_error {B : Type} (π : Platform B) (numbers : MethodNumbers π.pb)
    (sdk : Sdk (ClientTransaction B)) (ofBytes : Bytes → B) (signer : Signer B)
    (batchSigner : BatchSigner) (params : Dict Str Json) :
    ∃ err, sendTokens forms π numbers sdk ofBytes signer batchSigner params =
      .ofExcept (.error err) := by
  cases hvalidate : validateProtoForm forms [] params with
  | error err =>
      refine ⟨err, ?_⟩
      rw [sendTokens, hvalidate]
      rfl
  | ok u =>
      have hmissing : params.get? "amount".toList = none := by
        rw [← Option.not_isSome_iff_eq_none]
        intro hsome
        exact absurd ((validateProtoForm_eq_ok.mp hvalidate).2 _ hsome) (by decide)
      refine ⟨.invalidParams "Missed amount".toList, ?_⟩
      rw [sendTokens, hvalidate, requireParam, hmissing]
      rfl

variable (sdk answers forms) in
/-- A list asks the validator exactly if its form's constructor takes the object, every key is
known, the limit is a positive `int32`, the other controls are texts or `None`, and every id that
it names is 128 lower-case hexadecimal digits; it asks for these ids.  `list_blocks` never sends
ids and answers an object with ids by an error; `send_tokens` answers every object by an error,
and asks for nothing. -/
theorem parameters_sent (params : Dict Str Json) :
    (∀ t q m, Asks answers t (listBatches forms sdk params) q m ↔
      t ≤ m ∧ forms.construct params = .ok () ∧
        KnownKeys (["ids", "start", "limit", "head", "reverse"].map (·.toList)) params ∧
        ∃ named headId start reverse sent, Names params named headId start reverse sent ∧
          q = .batchList headId named (getSortingMessage reverse "default".toList)
            ⟨start, sent⟩) ∧
    (∀ t q m, Asks answers t (listTransactions forms sdk params) q m ↔
      t ≤ m ∧ forms.construct params = .ok () ∧
        KnownKeys (["ids", "start", "limit", "head", "reverse", "family_name"].map (·.toList))
          params ∧
        ∃ named headId start reverse sent, Names params named headId start reverse sent ∧
          q = .transactionList headId named (getSortingMessage reverse "default".toList)
            ⟨start, sent⟩) ∧
    (∀ t q m, Asks answers t (listBlocks forms sdk params) q m ↔
      t ≤ m ∧ forms.construct params = .ok () ∧
        KnownKeys (["address", "start", "limit", "head", "reverse"].map (·.toList)) params ∧
        ∃ headId start reverse sent, Names params [] headId start reverse sent ∧
          q = .blockList headId [] (getSortingMessage reverse "block_num".toList)
            ⟨start, sent⟩) ∧
    ((params.get? "ids".toList).isSome = true →
      ∃ err, listBlocks forms sdk params = .ofExcept (.error err)) ∧
    ∀ (B : Type) (π : Platform B) numbers sdk' ofBytes signer batchSigner,
      ∃ err, sendTokens forms π numbers sdk' ofBytes signer batchSigner params =
        .ofExcept (.error err) := by
  refine ⟨fun t q m => asks_list fun a => asks_listBatches, fun t q m => asks_list fun a => ?_,
    fun t q m => (asks_list fun a => asks_listBlocks).trans ?_, fun hids => ?_,
    fun B π numbers sdk' ofBytes signer batchSigner =>
      sendTokens_error π numbers sdk' ofBytes signer batchSigner params⟩
  · cases getParam params "family_name" with
    | null => exact asks_listTransactions none
    | text familyName => exact asks_listTransactions (some familyName)
    | _ => exact asks_bind_pure.trans (asks_listTransactions none)
  · constructor
    · rintro ⟨hle, hconstruct, hknown, named, headId, start, reverse, sent, hnames, rfl⟩
      cases hnames.eq_nil hknown
      exact ⟨hle, hconstruct, hknown, headId, start, reverse, sent, hnames, rfl⟩
    · rintro ⟨hle, hconstruct, hknown, headId, start, reverse, sent, hnames, rfl⟩
      exact ⟨hle, hconstruct, hknown, [], headId, start, reverse, sent, hnames, rfl⟩
  · have herror : ∃ err, validateProtoForm forms
        (["address", "start", "limit", "head", "reverse"].map (·.toList)) params = .error err :=
      validateProtoForm_error hids (by decide) (by decide)
    obtain ⟨err, herr⟩ := herror
    refine ⟨err, ?_⟩
    rw [listBlocks, herr]
    rfl

end Remme.RpcApi
