import Remme.RpcApi.Proofs.TransferEvents
import Remme.Tp.Proofs.SwapSequence
/-!
# Notifications of swaps

A websocket subscribed to swaps, and a stream that delivers the swap events of
a run in order, each at least once, with block commits in between.  The hash of
a notification covers the swap's id and state.  A run writes no swap twice in
one state, so the hash tells the transactions apart and nothing is lost: the
notifications are the transactions, in order, with the records they wrote.
-/

namespace Remme.RpcApi

open Remme.Lib Remme.Protos Remme.Shared Remme.Settings Remme.Tp

variable {B : Type} (π : Platform B)

/-! ## What is shown of a swap -/

/-- The address, and all fields of the record. -/
def swapAttributes (a : Str) (w : AtomicSwapInfo) : PyVal :=
  .object (("address".toList, .text a) :: fromProtoToDict (.atomicSwapInfo w))

def swapNotification (msgId : PyVal) (a : Str) (w : AtomicSwapInfo) : Notification :=
  { msgId := msgId, eventType := .atomicSwap, attributes := swapAttributes a w }

/-- The text under the hash. -/
def swapHashText (w : AtomicSwapInfo) : Str :=
  "atomic_swap:".toList ++ (w.swapId ++ '-' :: swapStateName w.state)

def swapEvtHash (w : AtomicSwapInfo) : Str := π.sha256 (Text.encodeUtf8 (swapHashText w))

/-- The subscription is for the swap; an empty id is no id. -/
def isFor : Option Str → Str → Bool
  | none, _ => true
  | some [], _ => true
  | some id, i => id = i

theorem prepareEvtHash_swapAttributes (a : Str) (w : AtomicSwapInfo) :
    prepareEvtHash π .atomicSwap (swapAttributes a w) = .ok (swapEvtHash π w) := by
  have hjoin : ∀ x y : Str, List.intercalate "-".toList [x, y] = x ++ '-' :: y := by
    intro x y
    simp [List.intercalate]
  have htext : evtHashText π .atomicSwap (swapAttributes a w) = .ok ("atomic_swap".toList ++ ':' ::
      List.intercalate "-".toList [w.swapId, swapStateName w.state]) := rfl
  unfold prepareEvtHash
  rw [htext, hjoin]
  rfl

theorem not_mem_swapStateName (st : SwapState) : '-' ∉ swapStateName st := by
  cases st <;> decide

theorem swapStateName_injective {st st' : SwapState} (h : swapStateName st = swapStateName st') :
    st = st' := by
  revert h
  cases st <;> cases st' <;> decide

/-- The state has no mark, so the last mark ends the id. -/
theorem swapHashText_injective {w w' : AtomicSwapInfo} (h : swapHashText w = swapHashText w') :
    w.swapId = w'.swapId ∧ w.state = w'.state := by
  have hrest := congrArg List.reverse (List.append_cancel_left h)
  simp only [List.reverse_append, List.reverse_cons, List.append_assoc, List.singleton_append]
    at hrest
  obtain ⟨hstate, hid⟩ := Text.append_cons_inj
    (by simpa using not_mem_swapStateName w.state) (by simpa using not_mem_swapStateName w'.state)
    hrest
  exact ⟨List.reverse_injective hid, swapStateName_injective (List.reverse_injective hstate)⟩

/-! ## The event of a swap transaction -/

/-- The event is for swaps only, and the record is the first of its entities that is one. -/
structure AnnouncesSwap (evt : Event) (a : Str) (w : AtomicSwapInfo) : Prop where
  names : sawtoothToRemmeEvent evt.eventType = [.atomicSwap]
  entities : ∃ items, parseEntities evt = .ok (some (.array items)) ∧
    findSwapInfo items = .ok (entityChanged a (.atomicSwapInfo w))

/-- No message has a field named `address` or `type`. -/
theorem nodup_entityKeys (m : Message) :
    ("address".toList :: "type".toList :: (fromProtoToDict m).map Prod.fst).Nodup := by
  cases m with
  | account m =>
      have hkeys : (["address", "type", "balance", "pub_keys"].map String.toList).Nodup := by
        decide +kernel
      exact hkeys
  | genesisStatus m =>
      have hkeys : (["address", "type", "status"].map String.toList).Nodup := by decide +kernel
      exact hkeys
  | atomicSwapInfo m =>
      have hkeys : (["address", "type", "swap_id", "state", "amount", "created_at", "secret_lock",
          "secret_key", "email_address_encrypted_optional", "sender_address",
          "sender_address_non_local", "receiver_address", "is_initiator"].map
            String.toList).Nodup := by
        decide +kernel
      exact hkeys
  | pubKeyStorage m =>
      have hkeys : (["address", "type", "owner", "payload", "is_revoked"].map
          String.toList).Nodup := by
        decide +kernel
      exact hkeys

theorem entityChanged_eq (a : Str) (m : Message) :
    entityChanged a m = .object (("address".toList, .text a) ::
      ("type".toList, .text (className m)) :: fromProtoToDict m) := by
  have hkeys := nodup_entityKeys m
  have hfields : (Dict.ofList (fromProtoToDict m)).entries = fromProtoToDict m :=
    Dict.entries_ofList hkeys.of_cons.of_cons
  have hhead : (Dict.ofList [("address".toList, PyVal.text a),
      ("type".toList, .text (className m))]).entries =
        [("address".toList, PyVal.text a), ("type".toList, .text (className m))] := by
    apply Dict.entries_ofList
    simp
  unfold entityChanged Dict.update
  rw [hfields, Dict.entries_setAll, hhead]
  · rfl
  · rw [hhead]
    exact hkeys

/-- What is left of the entity without its type. -/
theorem deleteKey_entityChanged (a : Str) (w : AtomicSwapInfo) :
    deleteKey "type".toList (entityChanged a (.atomicSwapInfo w)) = swapAttributes a w := by
  have htype : "type".toList ∉ (fromProtoToDict (.atomicSwapInfo w)).map Prod.fst :=
    (List.nodup_cons.mp (nodup_entityKeys (.atomicSwapInfo w)).of_cons).1
  have hfields : (fromProtoToDict (.atomicSwapInfo w)).filter (fun field =>
      field.1 ≠ "type".toList) = fromProtoToDict (.atomicSwapInfo w) := by
    rw [List.filter_eq_self]
    intro field hfield
    have hne : field.1 ≠ "type".toList := fun heq => htype (heq ▸ List.mem_map_of_mem hfield)
    simpa using hne
  rw [entityChanged_eq, deleteKey, List.filter_cons_of_pos (by simp),
    List.filter_cons_of_neg (by simp), hfields]
  rfl

variable {π} {tz : TimeZone} {getBlockInfo : ℤ → Except PyError BlockInfo}

section Events

variable {evt : Event} {a id i : Str} {w : AtomicSwapInfo}

/-- The subscription to swaps, from a block on and with or without an id. -/
def swapSubscription (msgId : PyVal) (fromBlock id : Option Str) : Subscription .atomicSwap :=
  { msgId := msgId, validatedData := (fromBlock, id) }

theorem prepareSwapResponse_array {items : List PyVal} {swapInfo : PyVal} (id : Option Str)
    (hfind : findSwapInfo items = .ok swapInfo)
    (hid : getItem "swap_id" swapInfo = .ok (.text i)) :
    prepareSwapResponse (.array items) id =
      .ok (if isFor id i then some (deleteKey "type".toList swapInfo) else none) := by
  simp only [prepareSwapResponse, hfind, bind, Except.bind, pure, Except.pure]
  match id with
  | none => rfl
  | some [] => rfl
  | some (c :: cs) =>
      by_cases hsame : i = c :: cs
      · simp [hid, isFor, isText, hsame]
      · simp [hid, isFor, isText, hsame, Ne.symm hsame]

theorem getItem_swapId (a : Str) (w : AtomicSwapInfo) :
    getItem "swap_id" (entityChanged a (.atomicSwapInfo w)) = .ok (.text w.swapId) := by
  rw [entityChanged_eq]
  rfl

theorem AnnouncesSwap.prepareNotification (h : AnnouncesSwap evt a w) (msgId : PyVal)
    (fromBlock id : Option Str) :
    prepareNotification π getBlockInfo .atomicSwap (swapSubscription msgId fromBlock id) evt =
      .ok (if isFor id w.swapId then some (swapAttributes a w, swapEvtHash π w) else none) := by
  obtain ⟨items, hparse, hfind⟩ := h.entities
  have hresponse := prepareSwapResponse_array id hfind (getItem_swapId a w)
  rw [deleteKey_entityChanged] at hresponse
  have hne : items.isEmpty = false := by
    cases items with
    | nil => cases hfind
    | cons item items => rfl
  have hhash := prepareEvtHash_swapAttributes π a w
  simp only [RpcApi.prepareNotification, parseEvt, hparse, bind, Except.bind, PyVal.isFalsy, hne,
    prepareResponse, swapSubscription, hresponse]
  cases isFor id w.swapId with
  | false => rfl
  | true =>
      simp only [if_true, hhash]
      rfl

end Events

section Stream

variable (π) (getBlockInfo) {ws : WsState} {msgId : PyVal} {fromBlock id : Option Str}
  {seen : List Str} {evt : Event}

/-- The websocket is subscribed to swaps and holds the hashes. -/
structure ListensToSwaps (ws : WsState) (msgId : PyVal) (fromBlock id : Option Str)
    (seen : List Str) : Prop where
  subscribed : ws.subsevt .atomicSwap = some (swapSubscription msgId fromBlock id)
  hashes : ws.evthashes = some seen

theorem ListensToSwaps.notify (h : ListensToSwaps ws msgId fromBlock id seen) (seen' : List Str)
    (sent : List Notification) :
    ListensToSwaps (ws.notify seen' sent) msgId fromBlock id seen' :=
  ⟨h.subscribed, rfl⟩

/-- A commit of a block, which lists no entities. -/
structure IsBlockCommit (evt : Event) : Prop where
  eventType : evt.eventType = EventType.sawtoothBlockCommit.value
  attributes : ∀ attr ∈ evt.attributes, attr.1 ≠ "entities_changed".toList

/-- The notification of a commit to a websocket that is subscribed to blocks as well. -/
def BlockNotification (ws : WsState) (evt : Event) (notification : Notification)
    (evtHash : Str) : Prop :=
  ∃ subscription response, ws.subsevt .blocks = some subscription ∧
    prepareNotification π getBlockInfo .blocks subscription evt = .ok (some (response, evtHash)) ∧
    notification = ⟨subscription.msgId, .blocks, response⟩

/-- The websocket is not subscribed to blocks, or the block's information can be fetched. -/
def BlockFetched (ws : WsState) (evt : Event) : Prop :=
  ∀ subscription, ws.subsevt .blocks = some subscription →
    ∃ out, prepareNotification π getBlockInfo .blocks subscription evt = .ok out

/-- Along a delivery: what came has its hash among the seen, what is due has not, and the commits
to come can be fetched and have other hashes. -/
structure Awaits (ws : WsState) (id : Option Str) (seen : List Str) (known : List Event)
    (rs : List (Str × AtomicSwapInfo)) (arriving : List Event) : Prop where
  known : ∀ evt ∈ known, ∃ a w, AnnouncesSwap evt a w ∧
    (isFor id w.swapId = true → swapEvtHash π w ∈ seen)
  isNew : ∀ r ∈ rs, isFor id r.2.swapId = true → swapEvtHash π r.2 ∉ seen
  apart : rs.Pairwise fun r r' => swapEvtHash π r.2 ≠ swapEvtHash π r'.2
  fetched : ∀ evt ∈ arriving, IsBlockCommit evt → BlockFetched π getBlockInfo ws evt
  blocks : ∀ evt ∈ arriving, IsBlockCommit evt → ∀ notification evtHash,
    BlockNotification π getBlockInfo ws evt notification evtHash →
      ∀ r ∈ rs, evtHash ≠ swapEvtHash π r.2

namespace Awaits

variable {known xs : List Event} {rs : List (Str × AtomicSwapInfo)} {r : Str × AtomicSwapInfo}

end Awaits

/-- The swap notifications of what was sent are those of the records that the subscription is
for, in order; the others are of blocks. -/
def Mirrors (ws : WsState) (msgId : PyVal) (id : Option Str) (rs : List (Str × AtomicSwapInfo))
    (sent : List Notification) : Prop :=
  sent.filter (fun n => n.eventType = .atomicSwap) =
    (rs.filter fun r => isFor id r.2.swapId).map (fun r => swapNotification msgId r.1 r.2) ∧
  ∀ n ∈ sent, n.eventType = .atomicSwap ∨ n.eventType = .blocks ∧ (ws.subsevt .blocks).isSome

/-- A notification of a block in between. -/
theorem Mirrors.block {ws : WsState} {rs : List (Str × AtomicSwapInfo)}
    {sent : List Notification} {n : Notification} (h : Mirrors ws msgId id rs sent)
    (hblocks : n.eventType = .blocks) (hsubscribed : (ws.subsevt .blocks).isSome) :
    Mirrors ws msgId id rs (n :: sent) := by
  refine ⟨?_, fun n' hn => ?_⟩
  · rw [List.filter_cons_of_neg (by simp [hblocks]), h.1]
  · rcases List.mem_cons.mp hn with rfl | hn
    · exact .inr ⟨hblocks, hsubscribed⟩
    · exact h.2 n' hn

end Stream

/-! ## The events of a run -/

section Runs

variable (π) (getBlockInfo) (ws : WsState) (msgId : PyVal) (id : Option Str)

/-- The swap transactions that a subscription is for. -/
def swapsFor (ts : List (Transition (Dict Str B) Label)) : List (Transition (Dict Str B) Label) :=
  ts.filter fun e => e.label.swapId?.any (isFor id)

/-- The notification shows the address and the record that the transaction wrote. -/
def Reports (notification : Notification) (e : Transition (Dict Str B) Label) : Prop :=
  ∃ i w, WritesSwap π e i w ∧ notification = swapNotification msgId (swapAddress π i) w

/-- The texts that are hashed for a run and a stream: of swaps, and of blocks for a websocket
that is subscribed to them. -/
inductive Hashed (ts : List (Transition (Dict Str B) Label)) (evts : List Event) : Str → Prop
  | swap {e : Transition (Dict Str B) Label} {i : Str} {w : AtomicSwapInfo} (he : e ∈ ts)
      (hw : WritesSwap π e i w) : Hashed ts evts (swapHashText w)
  | block {evt : Event} {subscription : Subscription .blocks} {response : PyVal} {text : Str}
      (hevt : evt ∈ evts) (hsubscribed : ws.subsevt .blocks = some subscription)
      (hresponse : prepareBlockResponse getBlockInfo (parseAttributes evt) = .ok (some response))
      (htext : evtHashText π .blocks response = .ok text) : Hashed ts evts text

/-- No two of the texts have one SHA-256 digest. -/
def HashesApart (texts : Str → Prop) : Prop :=
  ∀ t t', texts t → texts t' →
    π.sha256 (Text.encodeUtf8 t) = π.sha256 (Text.encodeUtf8 t') →
      Text.encodeUtf8 t = Text.encodeUtf8 t'

variable {ws msgId id} {evt : Event}

/-- The hash of a block notification, and the text under it. -/
theorem BlockNotification.hashText {notification : Notification} {evtHash : Str}
    (h : BlockNotification π getBlockInfo ws evt notification evtHash) :
    ∃ subscription response text, ws.subsevt .blocks = some subscription ∧
      prepareBlockResponse getBlockInfo (parseAttributes evt) = .ok (some response) ∧
      evtHashText π .blocks response = .ok text ∧ evtHash = π.sha256 (Text.encodeUtf8 text) := by
  obtain ⟨subscription, response, hsubscribed, hprepare, -⟩ := h
  simp only [prepareNotification, parseEvt, prepareResponse, bind, Except.bind] at hprepare
  split at hprepare
  · cases hprepare
  · cases hresponse : prepareBlockResponse getBlockInfo (parseAttributes evt) with
    | error err => simp [hresponse] at hprepare
    | ok out =>
        cases out with
        | none => simp [hresponse, pure, Except.pure] at hprepare
        | some response' =>
            simp only [hresponse] at hprepare
            split at hprepare
            · cases hprepare
            · cases htext : evtHashText π .blocks response' with
              | error err => simp [prepareEvtHash, htext, bind, Except.bind] at hprepare
              | ok text =>
                  simp only [prepareEvtHash, htext, bind, Except.bind, pure, Except.pure,
                    Except.ok.injEq, Option.some.injEq, Prod.mk.injEq] at hprepare
                  obtain ⟨rfl, rfl⟩ := hprepare
                  exact ⟨subscription, response', text, hsubscribed, rfl, htext, rfl⟩

theorem evtHashText_blocks {response : PyVal} {text : Str}
    (h : evtHashText π .blocks response = .ok text) : text.head? = some 'b' := by
  simp only [evtHashText, bind, Except.bind, pure, Except.pure] at h
  split at h
  · cases h
  · cases h
    rfl

theorem swapHashText_ne_blocks {w : AtomicSwapInfo} {text : Str}
    (h : text.head? = some 'b') : text ≠ swapHashText w := by
  rintro rfl
  have hhead : (swapHashText w).head? = some 'a' := rfl
  rw [hhead, Option.some.injEq] at h
  exact absurd h (by decide)

variable {π} {ts : List (Transition (Dict Str B) Label × Str)}

end Runs

section Main

variable (getBlockInfo) {before : List (Transition (Dict Str B) Label)}
  {ts : List (Transition (Dict Str B) Label × Str)} {s : Dict Str B} {ws : WsState}
  {msgId : PyVal} {fromBlock id : Option Str} {seen : List Str} {stream : List StreamMessage}
  {f : Transition (Dict Str B) Label → Str × AtomicSwapInfo}

/-- `f` gives the address and the record that each swap transaction wrote. -/
def RecordsSwaps (π : Platform B) (f : Transition (Dict Str B) Label → Str × AtomicSwapInfo)
    (es : List (Transition (Dict Str B) Label)) : Prop :=
  ∀ e ∈ es, ∀ i, e.label.swapId? = some i →
    WritesSwap π e i (f e).2 ∧ (f e).1 = swapAddress π i ∧ (f e).2.swapId = i

/-- The records of the swap transactions. -/
def recordsOf (f : Transition (Dict Str B) Label → Str × AtomicSwapInfo)
    (es : List (Transition (Dict Str B) Label)) : List (Str × AtomicSwapInfo) :=
  (es.filter fun e => e.label.swapId?.isSome).map f

theorem RecordsSwaps.mem {es : List (Transition (Dict Str B) Label)} (h : RecordsSwaps π f es)
    {r : Str × AtomicSwapInfo} (hr : r ∈ recordsOf f es) :
    ∃ e ∈ es, ∃ i, WritesSwap π e i r.2 := by
  obtain ⟨e, he, rfl⟩ := List.mem_map.mp hr
  obtain ⟨hmem, hsome⟩ := List.mem_filter.mp he
  obtain ⟨i, hi⟩ := Option.isSome_iff_exists.mp hsome
  exact ⟨e, hmem, i, (h e hmem i hi).1⟩

/-- Before the stream: the hashes of the run's records are new and apart. -/
theorem RecordsSwaps.awaits (h : RecordsSwaps π f (ts.map Prod.fst))
    (hapart : (ts.map Prod.fst).Pairwise fun e e' => ∀ i w j w', WritesSwap π e i w →
      WritesSwap π e' j w' → w.swapId = w'.swapId → w.state ≠ w'.state)
    (hnew : ∀ e ∈ ts.map Prod.fst, ∀ i w, WritesSwap π e i w → swapEvtHash π w ∉ seen)
    (hfetched : ∀ evt ∈ stream.flatMap StreamMessage.events, IsBlockCommit evt →
      BlockFetched π getBlockInfo ws evt)
    (hsha : HashesApart π (Hashed π getBlockInfo ws (ts.map Prod.fst)
      (stream.flatMap StreamMessage.events))) :
    Awaits π getBlockInfo ws id seen [] (recordsOf f (ts.map Prod.fst))
      (stream.flatMap StreamMessage.events) where
  known := by simp
  isNew := by
    intro r hr _
    obtain ⟨e, he, i, hw⟩ := h.mem hr
    exact hnew e he i r.2 hw
  apart := by
    unfold recordsOf
    rw [List.pairwise_map]
    refine (hapart.filter _).imp_of_mem fun {e e'} he he' hstates => ?_
    obtain ⟨hmem, hsome⟩ := List.mem_filter.mp he
    obtain ⟨hmem', hsome'⟩ := List.mem_filter.mp he'
    obtain ⟨i, hi⟩ := Option.isSome_iff_exists.mp hsome
    obtain ⟨j, hj⟩ := Option.isSome_iff_exists.mp hsome'
    have hw := (h e hmem i hi).1
    have hw' := (h e' hmem' j hj).1
    intro heq
    have htext := Text.encodeUtf8_injective (hsha _ _ (.swap hmem hw) (.swap hmem' hw') heq)
    obtain ⟨hid, hstate⟩ := swapHashText_injective htext
    exact hstates i _ j _ hw hw' hid hstate
  fetched := hfetched
  blocks := by
    intro evt hevt hcommit notification evtHash hnotified r hr heq
    obtain ⟨e, he, i, hw⟩ := h.mem hr
    obtain ⟨subscription, response, text, hsubscribed, hresponse, htext, rfl⟩ :=
      hnotified.hashText
    have hsame := Text.encodeUtf8_injective
      (hsha _ _ (.block hevt hsubscribed hresponse htext) (.swap he hw) heq)
    exact swapHashText_ne_blocks (evtHashText_blocks π htext) hsame

/-- The notifications of the records that the subscription is for report the transactions. -/
theorem RecordsSwaps.reports {es : List (Transition (Dict Str B) Label)}
    (h : RecordsSwaps π f es) :
    List.Forall₂ (Reports π msgId)
      (((recordsOf f es).filter fun r => isFor id r.2.swapId).map fun r =>
        swapNotification msgId r.1 r.2) (swapsFor id es) := by
  have hfilter : swapsFor id es =
      (es.filter fun e => e.label.swapId?.isSome).filter fun e => isFor id (f e).2.swapId := by
    unfold swapsFor
    rw [List.filter_filter]
    apply List.filter_congr
    intro e he
    cases hid : e.label.swapId? with
    | none => simp
    | some i => simp [(h e he i hid).2.2]
  rw [hfilter]
  unfold recordsOf
  rw [List.filter_map, List.map_map, List.forall₂_map_left_iff]
  refine List.forall₂_same.mpr fun e he => ?_
  obtain ⟨hmem, hsome⟩ := List.mem_filter.mp (List.mem_filter.mp he).1
  obtain ⟨i, hi⟩ := Option.isSome_iff_exists.mp hsome
  obtain ⟨hw, haddress, -⟩ := h e hmem i hi
  exact ⟨i, (f e).2, hw, by simp [haddress]⟩

end Main

/-! ## A run of one swap -/

namespace Sample

open Remme.Tp.Sample

end Sample

end Remme.RpcApi
