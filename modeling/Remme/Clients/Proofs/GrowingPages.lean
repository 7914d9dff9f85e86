import Remme.Clients.Proofs.BlockPages
import Remme.Clients.Proofs.Reads
/-!
# Pages of a chain that grows

`get_blocks_info` reads the configuration and every block of its window at a
moment of its own, so a page is not a read of one state.  Where blocks are only
added meanwhile, it lies between the page of the first moment and that of the
last; and where the window was stored from the start, or ends at the latest
block by default, it is the page of one moment after all.
-/

namespace Remme.Clients

open Remme.Lib Remme.Lib.Dialogue Remme.Protos Remme.Shared Remme.Clients.BlockInfo

variable {T B τ : Type} [Preorder T] {π : Platform B} {sdk : Sdk τ} {ofBytes : Bytes → B}
  {v : Validator T B} {answers : T → (q : Request τ) → Reply q → Prop} {t t' m : T} {α : Type}
  {oldest : ℕ} {latest : T → ℕ} {start limit : ℤ}

/-- Blocks are only added: the block-info family never rewrites a record, and the chain does not
switch to a fork. -/
structure Grows (π : Platform B) (v : Validator T B) (oldest : ℕ) (latest : T → ℕ) : Prop where
  chain : ∀ m, IsChain π (v.committed m).get? oldest (latest m)
  kept : ∀ m m', m ≤ m' → ∀ i d, (v.committed m).get? (createBlockAddress i) = some d →
    (v.committed m').get? (createBlockAddress i) = some d

variable (sdk answers) in
/-- The validator serves every request meanwhile. -/
def Served (t t' : T) : Prop :=
  ∀ m q reply, t ≤ m → m ≤ t' → answers m q reply → ¬Refused sdk q reply

theorem Served.mono {k k' : T} (h : Served sdk answers t t') (hle : t ≤ k) (hle' : k' ≤ t') :
    Served sdk answers k k' := by
  intro m q reply hm hm'
  exact h m q reply (hle.trans hm) (hm'.trans hle')

theorem Reads.of_served {x : Query τ α} {view : (Str → Option B) → Except RequestError α}
    {result : Except RequestError α} (h : Reads sdk v answers x view)
    (hserved : Served sdk answers t t') (hgoes : Goes answers t x result t') :
    ∃ m, t ≤ m ∧ m ≤ t' ∧ result = view (v.committed m).get? := by
  obtain hmoment | ⟨err, -, -, m, q, reply, hle, hle', hanswer, hrefused⟩ := h t t' result hgoes
  · exact hmoment
  · exact absurd hrefused (hserved m q reply hle hle' hanswer)

/-! ## One record -/

variable (π v) in
/-- The record with an index at a moment. -/
def recordOf (m : T) (i : ℤ) : Option BlockRecord := recordAt π (v.committed m).get? i

theorem Grows.recordOf_mono (h : Grows π v oldest latest) {m m' : T} (hle : m ≤ m') {i : ℤ}
    {record : BlockRecord} (hrecord : recordOf π v m i = some record) :
    recordOf π v m' i = some record := by
  unfold recordOf recordAt blockAt at hrecord ⊢
  obtain ⟨bi, hbi, rfl⟩ := Option.map_eq_some_iff.mp hrecord
  obtain ⟨d, hd, hparse⟩ := Option.bind_eq_some_iff.mp hbi
  rw [h.kept m m' hle _ d hd, Option.bind_some, hparse]
  rfl

theorem Grows.toList_sublist (h : Grows π v oldest latest) {m m' : T} (hle : m ≤ m') (i : ℤ) :
    (recordOf π v m i).toList.Sublist (recordOf π v m' i).toList := by
  cases hrecord : recordOf π v m i with
  | none => exact List.nil_sublist _
  | some record =>
      rw [h.recordOf_mono hle hrecord]

theorem filterMap_cons_eq {κ ν : Type} (f : κ → Option ν) (i : κ) (l : List κ) :
    (i :: l).filterMap f = (f i).toList ++ l.filterMap f := by
  rw [List.filterMap_cons]
  cases f i <;> rfl

theorem filterMap_sublist {κ ν : Type} {f g : κ → Option ν}
    (h : ∀ i, (f i).toList.Sublist (g i).toList) (l : List κ) :
    (l.filterMap f).Sublist (l.filterMap g) := by
  induction l with
  | nil => exact List.Sublist.refl _
  | cons i rest ih =>
      rw [filterMap_cons_eq, filterMap_cons_eq]
      exact (h i).append ih

/-- The body of the loop, on a state that holds a chain. -/
theorem recordView_eq {state : Str → Option B} {oldest latest : ℕ}
    (h : IsChain π state oldest latest) {i : ℤ} (hi : 0 ≤ i) :
    onKeyNotFound (.ok none) ((messageView π.pb.blockInfo (createBlockAddressOfInt i) state).map
      fun bi => some (interpretBlockInfo bi)) = .ok (recordAt π state i) := by
  obtain ⟨n, rfl⟩ := Int.eq_ofNat_of_zero_le hi
  have haddress : createBlockAddressOfInt n = createBlockAddress n := rfl
  rw [haddress, recordAt, Int.toNat_natCast, blockAt]
  by_cases hinside : oldest ≤ n ∧ n ≤ latest
  · obtain ⟨bi, hbi, -⟩ := h.stored n hinside.1 hinside.2
    obtain ⟨d, hd, hparse⟩ := Option.bind_eq_some_iff.mp hbi
    simp only [messageView, valueView, hd, Except.bind, parseAs, hparse, Except.map,
      onKeyNotFound, Option.bind_some, Option.map_some]
  · have hd : state (createBlockAddress n) = none := h.absent n (by omega)
    simp only [messageView, valueView, hd, Except.bind, Except.map, onKeyNotFound,
      Option.bind_none, Option.map_none]

theorem Grows.goes_record (h : Grows π v oldest latest) (htruth : Truthful sdk ofBytes v answers)
    (hserved : Served sdk answers t t') {i : ℤ} (hi : 0 ≤ i)
    {result : Except RequestError (Option BlockRecord)}
    (hgoes : Goes answers t (exceptKeyNotFound
      (BlockInfoClient.getBlockInfo π sdk ofBytes i >>= fun bi =>
        pure (some (interpretBlockInfo bi))) (pure none)) result t') :
    ∃ m, t ≤ m ∧ m ≤ t' ∧ result = .ok (recordOf π v m i) := by
  have hread := ((reads_getMessage htruth π.pb.blockInfo (createBlockAddressOfInt i)).bind_pure
    fun bi : BlockInfo => some (interpretBlockInfo bi)).exceptKeyNotFound (.ok none)
  obtain ⟨m, hle, hle', hresult⟩ := hread.of_served hserved hgoes
  exact ⟨m, hle, hle', hresult.trans (recordView_eq (h.chain m) hi)⟩

/-! ## The loop -/

/-- The loop collects what was there at its begin, and nothing that is not there at its end. -/
theorem Grows.goes_collectBlocks (h : Grows π v oldest latest)
    (htruth : Truthful sdk ofBytes v answers) {indices : List ℤ}
    (hindices : ∀ i ∈ indices, 0 ≤ i) {result : Except RequestError (List BlockRecord)}
    (hserved : Served sdk answers t t')
    (hgoes : Goes answers t (BlockInfoClient.collectBlocks π sdk ofBytes indices) result t') :
    ∃ blocks, result = .ok blocks ∧ (indices.filterMap (recordOf π v t)).Sublist blocks ∧
      blocks.Sublist (indices.filterMap (recordOf π v t')) := by
  induction indices generalizing t result with
  | nil =>
      obtain ⟨rfl, -⟩ := goes_pure.mp hgoes
      exact ⟨[], rfl, List.Sublist.refl _, List.Sublist.refl _⟩
  | cons i rest ih =>
      obtain ⟨err, -, herr⟩ | ⟨record, k, hrecord, hrest⟩ := goes_bind.mp hgoes
      · obtain ⟨m, -, -, hm⟩ := h.goes_record htruth hserved (hindices i (by simp)) herr
        cases hm
      · obtain ⟨y, hy, rfl⟩ := goes_bind_pure.mp hrest
        have hleft := hserved.mono le_rfl hrest.le
        obtain ⟨m, hle, hle', hm⟩ := h.goes_record htruth hleft (hindices i (by simp)) hrecord
        cases hm
        obtain ⟨blocks, rfl, hlower, hupper⟩ :=
          ih (fun j hj => hindices j (by simp [hj])) (hserved.mono hrecord.le le_rfl) hy
        refine ⟨_, rfl, ?_, ?_⟩
        · rw [filterMap_cons_eq]
          have hmono := filterMap_sublist (h.toList_sublist hrecord.le) rest
          exact (h.toList_sublist hle i).append (hmono.trans hlower)
        · rw [filterMap_cons_eq]
          exact (h.toList_sublist (hle'.trans hrest.le) i).append hupper

/-! ## The window -/

variable (π v) in
/-- Start and limit with their defaults, as the configuration of a moment gives them. -/
def bounds (m : T) (start limit : ℤ) : Option (ℤ × ℤ) :=
  BlockInfo.withDefaults π (v.committed m).get? start limit

theorem configView_eq {state : Str → Option B} {oldest latest : ℕ}
    (h : IsChain π state oldest latest) :
    ∃ config, messageView π.pb.blockInfoConfig configAddress state = .ok config ∧
      BlockInfo.getBlockInfoConfig π state = .ok config := by
  obtain ⟨config, hconfig, -⟩ := h.config
  obtain ⟨d, hd, hparse⟩ := Option.bind_eq_some_iff.mp hconfig
  refine ⟨config, ?_, ?_⟩
  · simp only [messageView, valueView, hd, Except.bind, parseAs, hparse]
  · simp [BlockInfo.getBlockInfoConfig, getValue, parseMessage, hd, hparse, Bind.bind, Except.bind]

theorem Grows.goes_withDefaults (h : Grows π v oldest latest)
    (htruth : Truthful sdk ofBytes v answers) (hserved : Served sdk answers t t')
    {result : Except RequestError (Option (ℤ × ℤ))}
    (hgoes : Goes answers t (BlockInfoClient.withDefaults π sdk ofBytes start limit) result t') :
    ∃ m, t ≤ m ∧ m ≤ t' ∧ result = .ok (bounds π v m start limit) := by
  unfold BlockInfoClient.withDefaults at hgoes
  by_cases hgiven : start ≠ 0 ∧ limit ≠ 0
  · rw [if_pos hgiven] at hgoes
    obtain ⟨rfl, hle⟩ := goes_pure.mp hgoes
    refine ⟨t, le_rfl, hle, ?_⟩
    rw [bounds, BlockInfo.withDefaults, if_pos hgiven]
  · rw [if_neg hgiven] at hgoes
    have hread := reads_getMessage htruth π.pb.blockInfoConfig configAddress
    obtain ⟨a, rfl, ha⟩ | ⟨err, k, herr, hhandler⟩ := goes_handle.mp hgoes
    · obtain ⟨y, hy, hmap⟩ := goes_bind_pure.mp ha
      obtain ⟨m, hle, hle', rfl⟩ := hread.of_served hserved hy
      obtain ⟨config, hview, hconfig⟩ := configView_eq (h.chain m)
      refine ⟨m, hle, hle', ?_⟩
      rw [hmap, hview, bounds, BlockInfo.withDefaults, if_neg hgiven, hconfig]
      rfl
    · obtain ⟨y, hy, hmap⟩ := goes_bind_pure.mp herr
      obtain ⟨m, -, -, rfl⟩ := hread.of_served (hserved.mono le_rfl hhandler.le) hy
      obtain ⟨config, hview, -⟩ := configView_eq (h.chain m)
      rw [hview] at hmap
      cases hmap

variable (π v) in
/-- The indices of the window at a moment. -/
def window (m : T) (start limit : ℤ) : List ℤ :=
  BlockInfo.blockIndices π (v.committed m).get? start limit

variable (π v) in
/-- The page of a moment. -/
def pageAt (m : T) (start limit : ℤ) : List BlockRecord :=
  ((window π v m start limit).filterMap (recordOf π v m)).reverse

theorem Grows.window_nonneg (h : Grows π v oldest latest) (hstart : 0 ≤ start) (limit : ℤ)
    (m : T) :
    ∀ i ∈ window π v m start limit, 0 ≤ i := by
  obtain ⟨lo, -, hnonneg, -⟩ := (h.chain m).getBlocksInfo_eq limit hstart
  exact hnonneg

theorem Grows.mem_window_lt (h : Grows π v oldest latest) (hstart : 0 ≤ start) (m : T) {i : ℤ}
    (hi : i ∈ window π v m start limit) : i < pageStart (latest m) start := by
  obtain ⟨lo, -, hindices, -⟩ := (h.chain m).blockIndices_eq hstart limit
  rw [window, hindices] at hi
  exact (mem_pyRange.mp hi).2

/-- On a state that stands still, the method returns the page. -/
theorem Grows.getBlocksInfo_eq (h : Grows π v oldest latest) (hstart : 0 ≤ start) (m : T) :
    BlockInfo.getBlocksInfo π (v.committed m).get? start limit =
      .ok (pageAt π v m start limit) := by
  have hcollect := (h.chain m).collectBlocks_eq (h.window_nonneg hstart limit m)
  rw [BlockInfo.getBlocksInfo]
  change (BlockInfo.collectBlocks π _ (window π v m start limit) >>= _) = _
  rw [hcollect]
  rfl

/-- A start that the caller gives fixes the window. -/
theorem Grows.window_eq (h : Grows π v oldest latest) (hstart : start ≠ 0) (m m' : T) :
    window π v m start limit = window π v m' start limit := by
  have hbounds : ∀ k, BlockInfo.withDefaults π (v.committed k).get? start limit =
      some (start, if limit = 0 then start - oldest + 1 else limit) := by
    intro k
    obtain ⟨config, hconfig, holdest, -⟩ := (h.chain k).config
    obtain ⟨d, hd, hparse⟩ := Option.bind_eq_some_iff.mp hconfig
    have hread : BlockInfo.getBlockInfoConfig π (v.committed k).get? = .ok config := by
      simp [BlockInfo.getBlockInfoConfig, getValue, parseMessage, hd, hparse, Bind.bind,
        Except.bind]
    unfold BlockInfo.withDefaults
    rw [hread]
    by_cases hgiven : start ≠ 0 ∧ limit ≠ 0
    · simp only [if_pos hgiven, if_neg hgiven.2]
    · simp only [if_neg hgiven, if_neg hstart, holdest]
  rw [window, window, BlockInfo.blockIndices, BlockInfo.blockIndices, hbounds m, hbounds m']

/-- What was stored up to an index stays what is stored there. -/
theorem Grows.recordOf_eq (h : Grows π v oldest latest) {m m' : T} (hle : m ≤ m') {i : ℤ}
    (hi : 0 ≤ i) (hlatest : i ≤ latest m) : recordOf π v m' i = recordOf π v m i := by
  by_cases hstored : oldest ≤ i
  · obtain ⟨record, hrecord, -⟩ := (h.chain m).recordAt_stored hstored hlatest
    rw [h.recordOf_mono hle hrecord]
    exact hrecord.symm
  · have habsent : ∀ k, recordOf π v k i = none := fun k =>
      (h.chain k).recordAt_absent hi (by omega)
    rw [habsent m, habsent m']

/-! ## Pages -/

theorem Grows.goes_getBlocksInfo (h : Grows π v oldest latest)
    (htruth : Truthful sdk ofBytes v answers) (hserved : Served sdk answers t t')
    (hstart : 0 ≤ start) {result : Except RequestError (List BlockRecord)}
    (hgoes : Goes answers t (BlockInfoClient.getBlocksInfo π sdk ofBytes start limit) result t') :
    ∃ m blocks, t ≤ m ∧ m ≤ t' ∧ result = .ok blocks.reverse ∧
      ((window π v m start limit).filterMap (recordOf π v m)).Sublist blocks ∧
      blocks.Sublist ((window π v m start limit).filterMap (recordOf π v t')) := by
  obtain ⟨err, -, herr⟩ | ⟨found, k, hfound, hrest⟩ := goes_bind.mp hgoes
  · obtain ⟨m, -, -, hm⟩ := h.goes_withDefaults htruth hserved herr
    cases hm
  · obtain ⟨m, hle, hle', hm⟩ :=
      h.goes_withDefaults htruth (hserved.mono le_rfl hrest.le) hfound
    rw [Except.ok.injEq] at hm
    have hnonneg := h.window_nonneg hstart limit m
    cases found with
    | none =>
        obtain ⟨rfl, -⟩ := goes_pure.mp hrest
        have hwindow : window π v m start limit = [] := by
          rw [window, BlockInfo.blockIndices, show BlockInfo.withDefaults π _ start limit = none
            from hm.symm]
        refine ⟨m, [], hle, hle'.trans hrest.le, rfl, ?_, List.nil_sublist _⟩
        rw [hwindow]
        exact List.Sublist.refl _
    | some given =>
        have hwindow : window π v m start limit = pyRange
            (given.1 - (if given.2 - given.1 > 0 then given.1 else given.2)) given.1 := by
          rw [window, BlockInfo.blockIndices,
            show BlockInfo.withDefaults π _ start limit = some given from hm.symm]
        obtain ⟨y, hy, rfl⟩ := goes_bind_pure.mp hrest
        rw [hwindow] at hnonneg
        obtain ⟨blocks, rfl, hlower, hupper⟩ :=
          h.goes_collectBlocks htruth hnonneg (hserved.mono hfound.le le_rfl) hy
        refine ⟨m, blocks, hle, hle'.trans hrest.le, rfl, ?_, ?_⟩
        · rw [hwindow]
          exact (filterMap_sublist (h.toList_sublist hle') _).trans hlower
        · rw [hwindow]
          exact hupper

/-- While blocks are only added and every request is served, the method returns a page between
that of the call and that of the answer, and the page of one moment where the start is the
default or was stored at the call. -/
theorem page_of_growing_chain (h : Grows π v oldest latest)
    (htruth : Truthful sdk ofBytes v answers) (hserved : Served sdk answers t t')
    (hstart : 0 ≤ start) {result : Except RequestError (List BlockRecord)}
    (hgoes : Goes answers t (BlockInfoClient.getBlocksInfo π sdk ofBytes start limit) result t') :
    (start = 0 → ∃ m blocks, t ≤ m ∧ m ≤ t' ∧ result = .ok blocks ∧
      BlockInfo.getBlocksInfo π (v.committed m).get? start limit = .ok blocks) ∧
    (start ≠ 0 → ∃ before blocks after, result = .ok blocks ∧
      BlockInfo.getBlocksInfo π (v.committed t).get? start limit = .ok before ∧
      BlockInfo.getBlocksInfo π (v.committed t').get? start limit = .ok after ∧
      before.Sublist blocks ∧ blocks.Sublist after ∧
      (start ≤ latest t + 1 → blocks = before)) := by
  obtain ⟨m, blocks, hle, hle', rfl, hlower, hupper⟩ :=
    h.goes_getBlocksInfo htruth hserved hstart hgoes
  constructor
  · rintro rfl
    refine ⟨m, blocks.reverse, hle, hle', rfl, ?_⟩
    have hsame : (window π v m 0 limit).filterMap (recordOf π v t') =
        (window π v m 0 limit).filterMap (recordOf π v m) := by
      apply List.filterMap_congr
      intro i hi
      have hlt := h.mem_window_lt le_rfl m hi
      rw [pageStart, if_pos rfl] at hlt
      exact h.recordOf_eq hle' (h.window_nonneg le_rfl limit m i hi) (by omega)
    rw [hsame] at hupper
    rw [h.getBlocksInfo_eq le_rfl, pageAt, hlower.antisymm hupper]
  · intro hne
    rw [h.window_eq hne m t] at hlower hupper
    have hbefore := (filterMap_sublist (h.toList_sublist hle) (window π v t start limit)).trans
      hlower
    refine ⟨pageAt π v t start limit, blocks.reverse, pageAt π v t' start limit, rfl,
      h.getBlocksInfo_eq hstart t, h.getBlocksInfo_eq hstart t', hbefore.reverse, ?_, ?_⟩
    · rw [pageAt, h.window_eq hne t' t]
      exact hupper.reverse
    · intro hstored
      have hsame : (window π v t start limit).filterMap (recordOf π v t') =
          (window π v t start limit).filterMap (recordOf π v t) := by
        apply List.filterMap_congr
        intro i hi
        have hlt := h.mem_window_lt hstart t hi
        rw [pageStart, if_neg hne] at hlt
        exact h.recordOf_eq (hle.trans hle') (h.window_nonneg hstart limit t i hi) (by omega)
      rw [hsame] at hupper
      rw [pageAt, hbefore.antisymm hupper]

namespace Sample

open Remme.Tp.Sample Remme.Clients.BlockInfo.Sample

/-- The chain of the sample, with one more block. -/
def fourBlocks : Dict Str Data :=
  (threeBlocks.set configAddress (.blockInfoConfig { latestBlock := 4, oldestBlock := 1 })).set
    (createBlockAddress 4) (.blockInfo { blockNum := 4 })

theorem get?_fourBlocks {i : ℕ} (hi : i ≠ 4) :
    fourBlocks.get? (createBlockAddress i) = threeBlocks.get? (createBlockAddress i) := by
  rw [fourBlocks, Dict.get?_set_of_ne _ _ (createBlockAddress_injective.ne hi.symm),
    Dict.get?_set_of_ne _ _ (createBlockAddress_ne_configAddress i).symm]

theorem isChain_fourBlocks : IsChain platform fourBlocks.get? 1 4 where
  nonempty := by omega
  config := ⟨{ latestBlock := 4, oldestBlock := 1 }, by decide +kernel, rfl, rfl⟩
  stored := by
    intro i hoge hle
    by_cases hi : i = 4
    · rw [hi]
      exact ⟨{ blockNum := 4 }, by decide +kernel, rfl⟩
    · rw [blockAt, get?_fourBlocks hi]
      exact isChain_threeBlocks.stored i hoge (by omega)
  absent := by
    intro i houtside
    rw [get?_fourBlocks (by omega)]
    exact isChain_threeBlocks.absent i (by omega)

/-- The wire bytes of the records of the two chains. -/
def blockWire : Data → Bytes
  | .blockInfoConfig m => [0x08, UInt8.ofNat m.latestBlock.toNat, 0x10, 0x01]
  | .blockInfo m => [0x08, UInt8.ofNat m.blockNum.toNat]
  | _ => []

def ofBlockWire : Bytes → Data
  | [0x08, latest, 0x10, 0x01] =>
      .blockInfoConfig { latestBlock := UInt64.ofNat latest.toNat, oldestBlock := 1 }
  | [0x08, num] => .blockInfo { blockNum := UInt64.ofNat num.toNat }
  | b => .raw b

/-- The records that `blockWire` is right about. -/
def isBlockWired : Data → Bool
  | .blockInfoConfig m => m.latestBlock.toNat < 256 && decide (m = { m with oldestBlock := 1 })
  | .blockInfo m => m.blockNum.toNat < 256 && decide (m = { blockNum := m.blockNum })
  | _ => false

theorem ofBlockWire_blockWire {d : Data} (h : isBlockWired d = true) :
    ofBlockWire (blockWire d) = d := by
  have hbyte : ∀ {u : UInt64}, u.toNat < 256 →
      UInt64.ofNat (UInt8.ofNat u.toNat).toNat = u := by
    intro u hlt
    rw [UInt8.toNat_ofNat_of_lt' hlt, UInt64.ofNat_toNat]
  cases d with
  | blockInfoConfig m =>
      obtain ⟨hlt, heq⟩ := Bool.and_eq_true_iff.mp h
      rw [blockWire, ofBlockWire, hbyte (of_decide_eq_true hlt)]
      exact congrArg Data.blockInfoConfig (of_decide_eq_true heq).symm
  | blockInfo m =>
      obtain ⟨hlt, heq⟩ := Bool.and_eq_true_iff.mp h
      rw [blockWire, ofBlockWire, hbyte (of_decide_eq_true hlt)]
      exact congrArg Data.blockInfo (of_decide_eq_true heq).symm
  | _ => cases h

theorem isBlockWired_blocks :
    ((threeBlocks.entries ++ fourBlocks.entries).all fun entry => isBlockWired entry.2) = true := by
  decide +kernel

theorem truthful_blocks : Truthful sampleSdk ofBlockWire (movingHead threeBlocks fourBlocks)
    (Serves threeBlocks fourBlocks blockWire) := by
  have hwired := List.all_eq_true.mp isBlockWired_blocks
  apply truthful_serves
  · intro a d h
    have hmem := List.mem_append_left fourBlocks.entries (Dict.get?_eq_some_iff.mp h)
    exact ofBlockWire_blockWire (hwired _ hmem)
  · intro a d h
    have hmem := List.mem_append_right threeBlocks.entries (Dict.get?_eq_some_iff.mp h)
    exact ofBlockWire_blockWire (hwired _ hmem)

def latestOf (m : ℕ) : ℕ := if m = 0 then 3 else 4

theorem fourBlocks_kept {i : ℕ} {d : Data}
    (h : threeBlocks.get? (createBlockAddress i) = some d) :
    fourBlocks.get? (createBlockAddress i) = some d := by
  have hi : i ≠ 4 := by
    rintro rfl
    rw [isChain_threeBlocks.absent 4 (by omega)] at h
    cases h
  rw [get?_fourBlocks hi, h]

theorem grows_blocks : Grows platform (movingHead threeBlocks fourBlocks) 1 latestOf where
  chain := by
    intro m
    rw [committed_movingHead, latestOf]
    by_cases hm : m = 0
    · rw [if_pos hm, if_pos hm]
      exact isChain_threeBlocks
    · rw [if_neg hm, if_neg hm]
      exact isChain_fourBlocks
  kept := by
    intro m m' hle i d h
    rw [committed_movingHead] at h ⊢
    by_cases hm' : m' = 0
    · rw [if_pos (by omega)] at h
      rw [if_pos hm']
      exact h
    · rw [if_neg hm']
      by_cases hm : m = 0
      · rw [if_pos hm] at h
        exact fourBlocks_kept h
      · rw [if_neg hm] at h
        exact h

theorem served_blocks (t t' : ℕ) :
    Served sampleSdk (Serves threeBlocks fourBlocks blockWire) t t' := by
  intro m q reply _ _ hserves hrefused
  cases q with
  | stateGet root address =>
      change reply = entryReply threeBlocks fourBlocks blockWire root address at hserves
      unfold entryReply at hserves
      cases hd : ((movingHead threeBlocks fourBlocks).entries root).get? address with
      | none =>
          rw [hd] at hserves
          exact (hrefused _ hserves).2 rfl
      | some d =>
          rw [hd] at hserves
          exact (hrefused _ hserves).1 rfl
  | blockList => exact (hrefused _ hserves).1 rfl
  | _ => exact (hrefused _ hserves).2 rfl

/-- Records read at one moment. -/
theorem goes_collectBlocks_blocks (m : ℕ) (indices : List ℤ) (hindices : ∀ i ∈ indices, 0 ≤ i) :
    Goes (Serves threeBlocks fourBlocks blockWire) m
      (BlockInfoClient.collectBlocks platform sampleSdk ofBlockWire indices)
      (.ok (indices.filterMap (recordOf platform (movingHead threeBlocks fourBlocks) m))) m := by
  obtain ⟨result, hgoes⟩ := exists_goes (exists_serves threeBlocks fourBlocks blockWire) m
    (BlockInfoClient.collectBlocks platform sampleSdk ofBlockWire indices)
  obtain ⟨blocks, rfl, hlower, hupper⟩ :=
    grows_blocks.goes_collectBlocks truthful_blocks hindices (served_blocks m m) hgoes
  rwa [hlower.antisymm hupper]

theorem goes_withDefaults_blocks (m : ℕ) (start limit : ℤ) :
    Goes (Serves threeBlocks fourBlocks blockWire) m
      (BlockInfoClient.withDefaults platform sampleSdk ofBlockWire start limit)
      (.ok (bounds platform (movingHead threeBlocks fourBlocks) m start limit)) m := by
  obtain ⟨result, hgoes⟩ := exists_goes (exists_serves threeBlocks fourBlocks blockWire) m
    (BlockInfoClient.withDefaults platform sampleSdk ofBlockWire start limit)
  obtain ⟨k, hle, hle', rfl⟩ :=
    grows_blocks.goes_withDefaults truthful_blocks (served_blocks m m) hgoes
  rwa [Nat.le_antisymm hle' hle] at hgoes

theorem goes_record_blocks (m : ℕ) {i : ℤ} (hi : 0 ≤ i) :
    Goes (Serves threeBlocks fourBlocks blockWire) m
      (exceptKeyNotFound (BlockInfoClient.getBlockInfo platform sampleSdk ofBlockWire i >>=
        fun bi => pure (some (interpretBlockInfo bi))) (pure none))
      (.ok (recordOf platform (movingHead threeBlocks fourBlocks) m i)) m := by
  obtain ⟨result, hgoes⟩ := exists_goes (exists_serves threeBlocks fourBlocks blockWire) m
    (exceptKeyNotFound (BlockInfoClient.getBlockInfo platform sampleSdk ofBlockWire i >>=
      fun bi => pure (some (interpretBlockInfo bi))) (pure none))
  obtain ⟨k, hle, hle', rfl⟩ :=
    grows_blocks.goes_record truthful_blocks (served_blocks m m) hi hgoes
  rwa [Nat.le_antisymm hle' hle] at hgoes

theorem recordOf_blocks {m : ℕ} {i : ℤ} (hoge : 1 ≤ i) (hle : i ≤ latestOf m) :
    ∃ record, recordOf platform (movingHead threeBlocks fourBlocks) m i = some record ∧
      (record.blockNumber : ℤ) = i + 1 :=
  (grows_blocks.chain m).recordAt_stored hoge hle

/-- The two newest blocks, with the latest index read before the fourth block and the records after
it; and three blocks from a given start on, the oldest read before the fourth block and the others
after it. -/
theorem page_of_growing_chain_blocks :
    (∃ blocks, Goes (Serves threeBlocks fourBlocks blockWire) 0
        (BlockInfoClient.getBlocksInfo platform sampleSdk ofBlockWire 0 2) (.ok blocks) 1 ∧
      blocks.map (·.blockNumber) = [4, 3] ∧ ∃ m page, 0 ≤ m ∧ m ≤ 1 ∧
        (.ok blocks : Except RequestError (List BlockRecord)) = .ok page ∧
        BlockInfo.getBlocksInfo platform ((movingHead threeBlocks fourBlocks).committed m).get?
          0 2 = .ok page) ∧
    ∃ blocks, Goes (Serves threeBlocks fourBlocks blockWire) 0
        (BlockInfoClient.getBlocksInfo platform sampleSdk ofBlockWire 5 3) (.ok blocks) 1 ∧
      blocks.map (·.blockNumber) = [5, 4, 3] ∧ ∃ before page after,
        (.ok blocks : Except RequestError (List BlockRecord)) = .ok page ∧
        BlockInfo.getBlocksInfo platform ((movingHead threeBlocks fourBlocks).committed 0).get?
          5 3 = .ok before ∧
        BlockInfo.getBlocksInfo platform ((movingHead threeBlocks fourBlocks).committed 1).get?
          5 3 = .ok after ∧ before.Sublist page ∧ page.Sublist after := by
  have hbounds : bounds platform (movingHead threeBlocks fourBlocks) 0 0 2 = some (4, 2) := by
    decide +kernel
  obtain ⟨two, htwo, hnumberTwo⟩ := recordOf_blocks (m := 1) (i := 2) (by decide) (by decide)
  obtain ⟨three, hthree, hnumberThree⟩ := recordOf_blocks (m := 1) (i := 3) (by decide) (by decide)
  obtain ⟨four, hfour, hnumberFour⟩ := recordOf_blocks (m := 1) (i := 4) (by decide) (by decide)
  have hlatest : Goes (Serves threeBlocks fourBlocks blockWire) 0
      (BlockInfoClient.getBlocksInfo platform sampleSdk ofBlockWire 0 2) (.ok [three, two]) 1 := by
    have hdefaults := goes_withDefaults_blocks 0 0 2
    have hrecords := goes_collectBlocks_blocks 1 [2, 3] (by decide)
    rw [hbounds] at hdefaults
    simp only [List.filterMap_cons, List.filterMap_nil, htwo, hthree] at hrecords
    exact goes_bind.mpr (.inr ⟨_, 0, hdefaults,
      goes_bind_pure.mpr ⟨_, hrecords.of_le zero_le_one, rfl⟩⟩)
  have hgiven : Goes (Serves threeBlocks fourBlocks blockWire) 0
      (BlockInfoClient.getBlocksInfo platform sampleSdk ofBlockWire 5 3)
      (.ok [four, three, two]) 1 := by
    have holdest := goes_record_blocks 0 (i := 2) (by decide)
    have hrecords := goes_collectBlocks_blocks 1 [3, 4] (by decide)
    have hsame : recordOf platform (movingHead threeBlocks fourBlocks) 1 2 =
        recordOf platform (movingHead threeBlocks fourBlocks) 0 2 :=
      grows_blocks.recordOf_eq zero_le_one (by decide) (by decide)
    rw [← hsame, htwo] at holdest
    simp only [List.filterMap_cons, List.filterMap_nil, hthree, hfour] at hrecords
    have hloop : Goes (Serves threeBlocks fourBlocks blockWire) 0
        (BlockInfoClient.collectBlocks platform sampleSdk ofBlockWire [2, 3, 4])
        (.ok [two, three, four]) 1 :=
      goes_bind.mpr (.inr ⟨_, 0, holdest,
        goes_bind_pure.mpr ⟨_, hrecords.of_le zero_le_one, rfl⟩⟩)
    exact goes_bind.mpr (.inr ⟨some (5, 3), 0, .done le_rfl, goes_bind_pure.mpr ⟨_, hloop, rfl⟩⟩)
  have hserved := served_blocks 0 1
  obtain ⟨hfirst, -⟩ := page_of_growing_chain grows_blocks truthful_blocks hserved le_rfl hlatest
  obtain ⟨-, hsecond⟩ :=
    page_of_growing_chain grows_blocks truthful_blocks hserved (by decide) hgiven
  obtain ⟨before, page, after, hpage, hbefore, hafter, hlower, hupper, -⟩ := hsecond (by decide)
  refine ⟨⟨_, hlatest, ?_, hfirst rfl⟩, ⟨_, hgiven, ?_, before, page, after, hpage, hbefore, hafter,
    hlower, hupper⟩⟩
  · simp only [List.map_cons, List.map_nil, List.cons.injEq, and_true]
    omega
  · simp only [List.map_cons, List.map_nil, List.cons.injEq, and_true]
    omega

end Sample

end Remme.Clients
