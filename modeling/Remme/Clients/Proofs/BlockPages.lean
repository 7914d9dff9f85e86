import Remme.Clients.BlockPages
import Remme.Tp.Script
/-!
# What the pages hold

On a chain that holds the records of a range of indices, a page is the part of
its window that the chain holds.  The window is cut at index zero, so a caller
that goes back page by page meets every block once.
-/

namespace Remme.Clients.BlockInfo

open Remme.Lib Remme.Protos Remme.Shared

variable {B : Type} {π : Platform B} {state : Str → Option B} {oldest latest : ℕ}
  {start limit i j : ℤ}

/-! ## Block addresses -/

theorem createBlockAddress_injective : Function.Injective createBlockAddress := by
  intro m n h
  have hzfill : Text.zfill 62 (Text.hex m) = Text.zfill 62 (Text.hex n) :=
    List.append_cancel_left h
  have hvalue : ∀ k, Text.hexNat (Text.zfill 62 (Text.hex k)) = k := fun k =>
    (Text.hexNat_zfill 62 _).trans (Text.hexNat_hex k)
  rw [← hvalue m, hzfill, hvalue n]

theorem createBlockAddress_length (n : ℕ) (hn : n < 16 ^ 62) :
    (createBlockAddress n).length = 70 := by
  have hdigits : (Text.hex n).length ≤ 62 :=
    (Nat.length_toDigits_le_iff (by omega) (by omega)).mpr hn
  have hnamespace : blockInfoNamespace.length = 8 := rfl
  rw [createBlockAddress, List.length_append, Text.zfill, List.length_append,
    List.length_replicate, hnamespace]
  omega

theorem createBlockAddress_ne_configAddress (n : ℕ) : createBlockAddress n ≠ configAddress := by
  intro h
  have heighth := congrArg (fun s : Str => s[7]?) h
  have hblock : (createBlockAddress n)[7]? = some '0' := by
    rw [createBlockAddress, List.getElem?_append_left (by decide)]
    rfl
  simp only [hblock] at heighth
  exact absurd heighth (by decide)

/-! ## The chain -/

variable (π state) in
/-- The record of a block. -/
def blockAt (i : ℕ) : Option BlockInfo :=
  (state (createBlockAddress i)).bind π.pb.blockInfo.parseFromString

/-- The state holds the records of the blocks with indices from `oldest` to `latest`, each with
its own index, and the configuration that says so. -/
structure IsChain (π : Platform B) (state : Str → Option B) (oldest latest : ℕ) : Prop where
  nonempty : oldest ≤ latest
  config : ∃ config, (state configAddress).bind π.pb.blockInfoConfig.parseFromString =
    some config ∧ config.oldestBlock.toNat = oldest ∧ config.latestBlock.toNat = latest
  stored : ∀ i, oldest ≤ i → i ≤ latest →
    ∃ bi, blockAt π state i = some bi ∧ bi.blockNum.toNat = i
  absent : ∀ i, i < oldest ∨ latest < i → state (createBlockAddress i) = none

variable (π state) in
/-- The record is that of a stored block, as callers see it. -/
def IsStored (record : BlockRecord) : Prop :=
  ∃ i bi, blockAt π state i = some bi ∧ record = interpretBlockInfo bi

variable (π state) in
/-- The stored block with an index, as callers see it. -/
def recordAt (i : ℤ) : Option BlockRecord := (blockAt π state i.toNat).map interpretBlockInfo

theorem IsChain.recordAt_absent (h : IsChain π state oldest latest) (hi : 0 ≤ i)
    (houtside : i < oldest ∨ latest < i) : recordAt π state i = none := by
  rw [recordAt, blockAt, h.absent i.toNat (by omega)]
  rfl

theorem IsChain.recordAt_stored (h : IsChain π state oldest latest) (hoge : oldest ≤ i)
    (hle : i ≤ latest) : ∃ record, recordAt π state i = some record ∧
      (record.blockNumber : ℤ) = i + 1 := by
  obtain ⟨bi, hbi, hnum⟩ := h.stored i.toNat (by omega) (by omega)
  refine ⟨interpretBlockInfo bi, by rw [recordAt, hbi]; rfl, ?_⟩
  simp only [interpretBlockInfo, hnum]
  omega

theorem IsChain.of_recordAt (h : IsChain π state oldest latest) (hi : 0 ≤ i)
    {record : BlockRecord} (hrecord : recordAt π state i = some record) :
    oldest ≤ i ∧ i ≤ latest ∧ (record.blockNumber : ℤ) = i + 1 := by
  by_cases hinside : oldest ≤ i ∧ i ≤ latest
  · obtain ⟨record', hrecord', hnumber⟩ := h.recordAt_stored hinside.1 hinside.2
    rw [hrecord'] at hrecord
    cases hrecord
    exact ⟨hinside.1, hinside.2, hnumber⟩
  · rw [h.recordAt_absent hi (by omega)] at hrecord
    cases hrecord

theorem isStored_iff {record : BlockRecord} :
    IsStored π state record ↔ ∃ i : ℤ, 0 ≤ i ∧ recordAt π state i = some record := by
  constructor
  · rintro ⟨i, bi, hbi, rfl⟩
    refine ⟨i, by omega, ?_⟩
    rw [recordAt, Int.toNat_natCast, hbi]
    rfl
  · rintro ⟨i, -, hrecord⟩
    obtain ⟨bi, hbi, rfl⟩ := Option.map_eq_some_iff.mp hrecord
    exact ⟨i.toNat, bi, hbi, rfl⟩

/-! ## The loop -/

/-- A record that is there parses, so the loop skips the others and raises nothing. -/
theorem IsChain.collectBlocks_eq (h : IsChain π state oldest latest) {indices : List ℤ}
    (hindices : ∀ i ∈ indices, 0 ≤ i) :
    collectBlocks π state indices = .ok (indices.filterMap (recordAt π state)) := by
  induction indices with
  | nil => rfl
  | cons i rest ih =>
      have hi : 0 ≤ i := hindices i (by simp)
      have htail := ih fun j hj => hindices j (by simp [hj])
      obtain ⟨n, rfl⟩ := Int.eq_ofNat_of_zero_le hi
      have haddress : createBlockAddressOfInt n = createBlockAddress n := rfl
      by_cases hinside : oldest ≤ n ∧ n ≤ latest
      · obtain ⟨bi, hbi, -⟩ := h.stored n hinside.1 hinside.2
        obtain ⟨data, hdata, hparse⟩ := Option.bind_eq_some_iff.mp hbi
        have hinfo : getBlockInfo π state n = .ok bi := by
          simp [getBlockInfo, getValue, parseMessage, haddress, hdata, hparse, bind, Except.bind]
        have hrecord : recordAt π state n = some (interpretBlockInfo bi) := by
          rw [recordAt, Int.toNat_natCast, hbi]
          rfl
        simp only [collectBlocks, hinfo, htail, List.filterMap_cons, hrecord]
        rfl
      · have hdata : state (createBlockAddress n) = none := h.absent n (by omega)
        have hinfo : getBlockInfo π state n = .error .keyNotFound := by
          simp [getBlockInfo, getValue, haddress, hdata, bind, Except.bind]
        have hrecord : recordAt π state n = none := h.recordAt_absent hi (by omega)
        simp only [collectBlocks, hinfo, htail, List.filterMap_cons, hrecord]

theorem mem_pyRange : i ∈ pyRange start limit ↔ start ≤ i ∧ i < limit := by
  unfold pyRange
  simp only [List.mem_map, List.mem_range]
  constructor
  · rintro ⟨k, hk, rfl⟩
    omega
  · intro h
    exact ⟨(i - start).toNat, by omega, by omega⟩

theorem pairwise_pyRange (start stop : ℤ) : (pyRange start stop).Pairwise (· < ·) := by
  unfold pyRange
  rw [List.pairwise_map]
  exact List.pairwise_lt_range.imp fun hlt => by omega

theorem pyRange_append {lo mid hi : ℤ} (hlo : lo ≤ mid) (hhi : mid ≤ hi) :
    pyRange lo hi = pyRange lo mid ++ pyRange mid hi := by
  have hsplit : (hi - lo).toNat = (mid - lo).toNat + (hi - mid).toNat := by omega
  unfold pyRange
  rw [hsplit, List.range_add, List.map_append, List.map_map]
  congr 1
  apply List.map_congr_left
  intro k _
  simp only [Function.comp_apply]
  omega

/-! ## The window -/

/-- The number of the first block of a page. -/
def pageStart (latest : ℕ) (start : ℤ) : ℤ := if start = 0 then latest + 1 else start

/-- The window ends below the page's first number and is never cut below the oldest block by a
default limit. -/
theorem IsChain.blockIndices_eq (h : IsChain π state oldest latest) (hstart : 0 ≤ start)
    (limit : ℤ) :
    ∃ lo, 0 ≤ lo ∧ blockIndices π state start limit = pyRange lo (pageStart latest start) ∧
      (limit ≠ 0 → lo = max 0 (pageStart latest start - limit)) ∧ (limit = 0 → lo ≤ oldest) := by
  obtain ⟨config, hconfig, holdest, hlatest⟩ := h.config
  obtain ⟨data, hdata, hparse⟩ := Option.bind_eq_some_iff.mp hconfig
  have hread : getBlockInfoConfig π state = .ok config := by
    simp [getBlockInfoConfig, getValue, parseMessage, hdata, hparse, bind, Except.bind]
  have hdefaults : withDefaults π state start limit = some (pageStart latest start,
      if limit = 0 then pageStart latest start - oldest + 1 else limit) := by
    unfold withDefaults
    rw [hread]
    by_cases hgiven : start ≠ 0 ∧ limit ≠ 0
    · simp only [if_pos hgiven, pageStart, if_neg hgiven.1, if_neg hgiven.2]
    · simp only [if_neg hgiven, holdest, hlatest, pageStart]
  have hpos : 0 < pageStart latest start := by
    unfold pageStart
    split_ifs
    · omega
    · omega
  unfold blockIndices
  rw [hdefaults]
  simp only
  by_cases hzero : limit = 0
  · simp only [if_pos hzero]
    split_ifs with hcut
    · exact ⟨_, by omega, rfl, fun hne => absurd hzero hne, fun _ => by omega⟩
    · exact ⟨_, by omega, rfl, fun hne => absurd hzero hne, fun _ => by omega⟩
  · simp only [if_neg hzero]
    split_ifs with hcut
    · exact ⟨_, by omega, rfl, fun _ => by omega, fun heq => absurd heq hzero⟩
    · exact ⟨_, by omega, rfl, fun _ => by omega, fun heq => absurd heq hzero⟩

variable (π state) in
/-- The stored blocks with indices from `lo` to below `hi`, newest first. -/
def blocksBetween (lo hi : ℤ) : List BlockRecord :=
  ((pyRange lo hi).filterMap (recordAt π state)).reverse

/-- A page is the stored part of its window. -/
theorem IsChain.getBlocksInfo_eq (h : IsChain π state oldest latest) {start : ℤ} (limit : ℤ)
    (hstart : 0 ≤ start) :
    ∃ lo, 0 ≤ lo ∧ (∀ i ∈ blockIndices π state start limit, 0 ≤ i) ∧
      getBlocksInfo π state start limit =
        .ok (blocksBetween π state lo (pageStart latest start)) ∧
      (limit ≠ 0 → lo = max 0 (pageStart latest start - limit)) ∧ (limit = 0 → lo ≤ oldest) := by
  obtain ⟨lo, hlo, hindices, hgiven, hdefault⟩ := h.blockIndices_eq hstart limit
  have hnonneg : ∀ i ∈ blockIndices π state start limit, 0 ≤ i := by
    rw [hindices]
    intro i hi
    have hmem := mem_pyRange.mp hi
    omega
  refine ⟨lo, hlo, hnonneg, ?_, hgiven, hdefault⟩
  rw [getBlocksInfo, h.collectBlocks_eq hnonneg, hindices]
  rfl

theorem IsChain.mem_blocksBetween (h : IsChain π state oldest latest) {lo hi : ℤ} (hlo : 0 ≤ lo)
    {record : BlockRecord} :
    record ∈ blocksBetween π state lo hi ↔
      IsStored π state record ∧ lo < record.blockNumber ∧ record.blockNumber ≤ hi := by
  simp only [blocksBetween, List.mem_reverse, List.mem_filterMap, mem_pyRange]
  rw [isStored_iff]
  constructor
  · rintro ⟨i, hi, hrecord⟩
    have hnumber := (h.of_recordAt (by omega) hrecord).2.2
    exact ⟨⟨i, by omega, hrecord⟩, by omega, by omega⟩
  · rintro ⟨⟨i, hi, hrecord⟩, hlower, hupper⟩
    have hnumber := (h.of_recordAt hi hrecord).2.2
    exact ⟨i, by omega, hrecord⟩

theorem IsChain.pairwise_blocksBetween (h : IsChain π state oldest latest) {lo hi : ℤ}
    (hlo : 0 ≤ lo) :
    (blocksBetween π state lo hi).Pairwise fun r r' => r'.blockNumber < r.blockNumber := by
  rw [blocksBetween, List.pairwise_reverse, List.pairwise_filterMap]
  refine List.Pairwise.imp_of_mem ?_ (pairwise_pyRange lo hi)
  intro i j hi hj hlt r hr r' hr'
  have hnumber := (h.of_recordAt (by have := mem_pyRange.mp hi; omega) hr).2.2
  have hnumber' := (h.of_recordAt (by have := mem_pyRange.mp hj; omega) hr').2.2
  omega

/-! ## Going back -/

theorem blocksBetween_append {lo mid hi : ℤ} (hlo : lo ≤ mid) (hhi : mid ≤ hi) :
    blocksBetween π state lo hi = blocksBetween π state mid hi ++ blocksBetween π state lo mid := by
  simp only [blocksBetween, pyRange_append hlo hhi, List.filterMap_append, List.reverse_append]

theorem IsChain.blocksBetween_eq_nil (h : IsChain π state oldest latest) {lo hi : ℤ}
    (hlo : 0 ≤ lo) (hhi : hi ≤ max lo oldest) : blocksBetween π state lo hi = [] := by
  rw [List.eq_nil_iff_forall_not_mem]
  intro record hrecord
  obtain ⟨hstored, hlower, hupper⟩ := (h.mem_blocksBetween hlo).mp hrecord
  obtain ⟨i, hi, hrecord⟩ := isStored_iff.mp hstored
  obtain ⟨hoge, -, hnumber⟩ := h.of_recordAt hi hrecord
  omega

/-- A page that starts above the oldest block and not above the latest ends with a block. -/
theorem IsChain.getLast?_blocksBetween (h : IsChain π state oldest latest) {lo hi : ℤ}
    (hlo : 0 ≤ lo) (hlt : max lo oldest < hi) (hle : hi ≤ latest + 1) :
    ∃ record, (blocksBetween π state lo hi).getLast? = some record ∧
      (record.blockNumber : ℤ) = max lo oldest + 1 := by
  obtain ⟨record, hrecord, hnumber⟩ := h.recordAt_stored (i := max lo oldest) (by omega) (by omega)
  have hone : blocksBetween π state (max lo oldest) (max lo oldest + 1) = [record] := by
    have hrange : pyRange (max lo oldest) (max lo oldest + 1) = [max lo oldest] := by
      simp [pyRange]
    rw [blocksBetween, hrange, List.filterMap_cons, hrecord]
    rfl
  have hpage : blocksBetween π state lo hi =
      blocksBetween π state (max lo oldest + 1) hi ++ [record] := by
    rw [blocksBetween_append (le_max_left lo oldest) hlt.le, h.blocksBetween_eq_nil hlo le_rfl,
      List.append_nil, blocksBetween_append (Int.le_add_one le_rfl) hlt, hone]
  refine ⟨record, ?_, hnumber⟩
  rw [hpage, List.getLast?_concat]

/-- From the number of a block on, the caller visits all blocks up to it. -/
theorem IsChain.visitBlocks_eq (h : IsChain π state oldest latest) (hlimit : 1 ≤ limit) (n : ℕ)
    (hn : 1 ≤ n) (hle : n ≤ latest + 1) (fuel : ℕ) (hfuel : n < fuel) :
    visitBlocks π state limit fuel n = .ok (blocksBetween π state 0 n) := by
  -- The next page starts at a smaller number, so the induction is on that number.
  induction n using Nat.strongRecOn generalizing fuel with
  | ind n ih =>
      obtain ⟨fuel, rfl⟩ : ∃ k, fuel = k + 1 := ⟨fuel - 1, by omega⟩
      have hstart : 0 ≤ (n : ℤ) := by omega
      obtain ⟨lo, hlo, -, hpage, hgiven, -⟩ := h.getBlocksInfo_eq limit hstart
      have hpageStart : pageStart latest n = n := if_neg (by omega)
      rw [hpageStart] at hpage hgiven
      have hwindow := hgiven (by omega)
      have hsplit : blocksBetween π state 0 n =
          blocksBetween π state lo n ++ blocksBetween π state 0 lo :=
        blocksBetween_append (by omega) (by omega)
      rw [visitBlocks, hpage]
      rcases Nat.lt_or_ge oldest n with hlt | hge
      · have hbelow : max lo oldest < (n : ℤ) := by omega
        obtain ⟨smallest, hlast, hnumber⟩ := h.getLast?_blocksBetween hlo hbelow (by omega)
        obtain ⟨next, hnext⟩ : ∃ next : ℕ, (next : ℤ) = max lo oldest :=
          ⟨(max lo oldest).toNat, by omega⟩
        have hrest : blocksBetween π state 0 next = blocksBetween π state 0 lo := by
          rw [blocksBetween_append hlo (by omega), h.blocksBetween_eq_nil hlo hnext.le,
            List.nil_append]
        have hstep : (smallest.blockNumber : ℤ) - 1 = next := by omega
        simp only [bind, Except.bind, hlast, hstep]
        split_ifs with hzero
        · rw [hsplit, ← hrest, hzero, h.blocksBetween_eq_nil le_rfl (by omega), List.append_nil]
          rfl
        · rw [ih next (by omega) (by omega) (by omega) fuel (by omega), hrest, hsplit]
          rfl
      · rw [h.blocksBetween_eq_nil hlo (by omega), h.blocksBetween_eq_nil le_rfl (by omega)]
        rfl

/-! ## Exact pages -/

variable (π state) in
/-- A page asks for no negative index and holds, newest first, exactly the stored blocks of the
window that its start and its limit give. -/
def PageExact (latest : ℕ) (start limit : ℤ) : Prop :=
  (∀ i ∈ blockIndices π state start limit, 0 ≤ i) ∧
    ∃ blocks, getBlocksInfo π state start limit = .ok blocks ∧
      (blocks.Pairwise fun r r' => r'.blockNumber < r.blockNumber) ∧
      ∀ record, record ∈ blocks ↔ IsStored π state record ∧
        record.blockNumber ≤ pageStart latest start ∧
        (limit ≠ 0 → pageStart latest start - limit < record.blockNumber)

theorem IsChain.pageExact (h : IsChain π state oldest latest) (limit : ℤ) (hstart : 0 ≤ start) :
    PageExact π state latest start limit := by
  obtain ⟨lo, hlo, hnonneg, hpage, hgiven, hdefault⟩ := h.getBlocksInfo_eq limit hstart
  refine ⟨hnonneg, _, hpage, h.pairwise_blocksBetween hlo, fun record => ?_⟩
  rw [h.mem_blocksBetween hlo]
  constructor
  · rintro ⟨hstored, hlower, hupper⟩
    exact ⟨hstored, hupper, fun hne => by have := hgiven hne; omega⟩
  · rintro ⟨hstored, hupper, hlower⟩
    refine ⟨hstored, ?_, hupper⟩
    obtain ⟨i, hi, hrecord⟩ := isStored_iff.mp hstored
    obtain ⟨hoge, -, hnumber⟩ := h.of_recordAt hi hrecord
    by_cases hzero : limit = 0
    · have hle := hdefault hzero
      omega
    · have heq := hgiven hzero
      have hlt := hlower hzero
      omega

/-- A start of zero is one of the latest block. -/
theorem IsChain.visitBlocks_zero (h : IsChain π state oldest latest) (hlimit : 1 ≤ limit)
    (fuel : ℕ) :
    visitBlocks π state limit fuel 0 = visitBlocks π state limit fuel (latest + 1 : ℕ) := by
  cases fuel with
  | zero => rfl
  | succ fuel =>
      have hlatest : 0 ≤ ((latest + 1 : ℕ) : ℤ) := by omega
      obtain ⟨lo, -, -, hpage, hgiven, -⟩ := h.getBlocksInfo_eq limit (le_refl 0)
      obtain ⟨lo', -, -, hpage', hgiven', -⟩ := h.getBlocksInfo_eq limit hlatest
      have hstart : pageStart latest 0 = pageStart latest (latest + 1 : ℕ) := by
        simp [pageStart]
      have hlo : lo = lo' := by rw [hgiven (by omega), hgiven' (by omega), hstart]
      rw [visitBlocks, visitBlocks, hpage, hpage', hlo, hstart]

/-- Every page is exact, a caller that goes back page by page visits every block once, and block
addresses are addresses of their own. -/
theorem blocks_paged_exactly (h : IsChain π state oldest latest) :
    (∀ start limit : ℤ, 0 ≤ start → 0 ≤ limit → PageExact π state latest start limit) ∧
    (∀ limit : ℤ, 1 ≤ limit → ∃ visited,
      (∀ fuel, latest + 2 ≤ fuel → visitBlocks π state limit fuel 0 = .ok visited) ∧
      (visited.map (·.blockNumber)).Nodup ∧
      ∀ record, record ∈ visited ↔ IsStored π state record) ∧
    Function.Injective createBlockAddress ∧
    (∀ n < 16 ^ 62, (createBlockAddress n).length = 70) ∧
    ∀ n, createBlockAddress n ≠ configAddress := by
  refine ⟨fun start limit hstart _ => h.pageExact limit hstart, fun limit hlimit => ?_,
    createBlockAddress_injective, createBlockAddress_length, createBlockAddress_ne_configAddress⟩
  refine ⟨blocksBetween π state 0 (latest + 1 : ℕ), fun fuel hfuel => ?_, ?_, fun record => ?_⟩
  · rw [h.visitBlocks_zero hlimit]
    exact h.visitBlocks_eq hlimit (latest + 1) (by omega) le_rfl fuel (by omega)
  · rw [List.Nodup, List.pairwise_map]
    exact (h.pairwise_blocksBetween le_rfl).imp fun hlt => hlt.ne'
  · rw [h.mem_blocksBetween le_rfl]
    refine ⟨fun hmem => hmem.1, fun hstored => ⟨hstored, ?_⟩⟩
    obtain ⟨i, hi, hrecord⟩ := isStored_iff.mp hstored
    obtain ⟨-, hle, hnumber⟩ := h.of_recordAt hi hrecord
    omega

namespace Sample

open Remme.Tp.Sample

/-- A chain that forgot its first block. -/
def threeBlocks : Dict Str Data :=
  Dict.ofList
    [(configAddress, .blockInfoConfig { latestBlock := 3, oldestBlock := 1 }),
     (createBlockAddress 1, .blockInfo { blockNum := 1 }),
     (createBlockAddress 2, .blockInfo { blockNum := 2 }),
     (createBlockAddress 3, .blockInfo { blockNum := 3 })]

theorem isChain_threeBlocks : IsChain platform threeBlocks.get? 1 3 where
  nonempty := by omega
  config := ⟨{ latestBlock := 3, oldestBlock := 1 }, by decide +kernel, rfl, rfl⟩
  stored := by
    intro i hoge hle
    obtain rfl | rfl | rfl : i = 1 ∨ i = 2 ∨ i = 3 := by omega
    · exact ⟨{ blockNum := 1 }, by decide +kernel, rfl⟩
    · exact ⟨{ blockNum := 2 }, by decide +kernel, rfl⟩
    · exact ⟨{ blockNum := 3 }, by decide +kernel, rfl⟩
  absent := by
    intro i houtside
    apply Dict.get?_ofList_of_not_mem
    simp only [List.map_cons, List.map_nil, List.mem_cons, List.not_mem_nil, or_false, not_or,
      createBlockAddress_injective.eq_iff]
    exact ⟨createBlockAddress_ne_configAddress i, by omega, by omega, by omega⟩

end Sample

open Sample Remme.Tp.Sample in
/-- Two pages of at most two blocks. -/
theorem blocks_paged_exactly_threeBlocks :
    IsChain platform threeBlocks.get? 1 3 ∧
      ∃ visited, visitBlocks platform threeBlocks.get? 2 5 0 = .ok visited ∧
        (visited.map (·.blockNumber)).Nodup ∧
        ∀ record, record ∈ visited ↔ IsStored platform threeBlocks.get? record := by
  obtain ⟨-, hvisits, -⟩ := blocks_paged_exactly isChain_threeBlocks
  obtain ⟨visited, hvisited, hnodup, hmem⟩ := hvisits 2 (by omega)
  exact ⟨isChain_threeBlocks, visited, hvisited 5 (by omega), hnodup, hmem⟩

end Remme.Clients.BlockInfo
