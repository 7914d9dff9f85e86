import Remme.RpcApi.Event
import Remme.Lib.Fresh
import Remme.Tp.Proofs.Writes
import Remme.Tp.Script
/-!
# Notifications of transfers

A websocket subscribed to the transfers of an address, and a stream that
delivers every transfer event of a run at least once.  The server keeps a hash
of the response it sent, and the response shows the parties and their balances
as floats, not the transaction.  So a transfer is notified once exactly when no
other transfer of the run shows the same parties with the same balances.
-/

namespace Remme.RpcApi

open Remme.Lib Remme.Protos Remme.Shared Remme.Settings Remme.Tp

variable {B : Type} (π : Platform B)

/-! ## Transfers of a run -/

/-- A transfer as the ledger records it: the parties, and their balances after it. -/
structure TransferRecord where
  sender : Str
  receiver : Str
  senderBalance : ℕ
  receiverBalance : ℕ
  deriving DecidableEq

def transferRecord (e : Transition (Dict Str B) Label) : Option TransferRecord :=
  match e.label with
  | .transaction signer (.transfer payload) _ => some
      { sender := accountAddress π signer
        receiver := payload.addressTo
        senderBalance := balanceAt π e.post.get? (accountAddress π signer)
        receiverBalance := balanceAt π e.post.get? payload.addressTo }
  | _ => none

/-- The transfers of a run in which the address takes part. -/
def transfersOf (a : Str) (ts : List (Transition (Dict Str B) Label)) : List TransferRecord :=
  (ts.filterMap (transferRecord π)).filter fun t => t.sender = a ∨ t.receiver = a

/-- The event of a transfer, with the transaction's signature. -/
def transferEvent (e : Transition (Dict Str B) Label × Str) : Option Event :=
  match e.1.label with
  | .transaction _ (.transfer payload) u => emittedEvent (.transfer payload) u e.2
  | _ => none

/-- The stream holds the transfer events of the run, each at least once, and no others. -/
def Delivers (ts : List (Transition (Dict Str B) Label × Str)) (stream : List StreamMessage) :
    Prop :=
  ∀ evt, evt ∈ stream.flatMap StreamMessage.events ↔ evt ∈ ts.filterMap transferEvent

/-! ## What is shown of a transfer -/

structure TransferResponse where
  sender : Str
  senderBalance : Double
  receiver : Str
  receiverBalance : Double
  deriving DecidableEq

def TransferRecord.response (t : TransferRecord) : TransferResponse :=
  { sender := t.sender
    senderBalance := .ofNat t.senderBalance
    receiver := t.receiver
    receiverBalance := .ofNat t.receiverBalance }

namespace TransferResponse

def party (address : Str) (balance : Double) : PyVal :=
  .object [("address".toList, .text address), ("balance".toList, .float balance)]

def value (r : TransferResponse) : PyVal :=
  .object [("from".toList, party r.sender r.senderBalance),
    ("to".toList, party r.receiver r.receiverBalance)]

def notification (msgId : PyVal) (r : TransferResponse) : Notification :=
  { msgId := msgId, eventType := .transfer, attributes := r.value }

/-- The text under the hash. -/
def hashText (r : TransferResponse) : Str :=
  "transfer:".toList ++ (PyVal.repr π.isPrintable (party r.sender r.senderBalance) ++
    '-' :: PyVal.repr π.isPrintable (party r.receiver r.receiverBalance))

def evtHash (r : TransferResponse) : Str := π.sha256 (Text.encodeUtf8 (r.hashText π))

theorem prepareEvtHash_value (r : TransferResponse) :
    prepareEvtHash π .transfer r.value = .ok (r.evtHash π) := by
  have hjoin : ∀ x y : Str, List.intercalate "-".toList [x, y] = x ++ '-' :: y := by
    intro x y
    simp [List.intercalate]
  have htext : evtHashText π .transfer r.value = .ok ("transfer".toList ++ ':' ::
      List.intercalate "-".toList
        [PyVal.repr π.isPrintable (party r.sender r.senderBalance),
          PyVal.repr π.isPrintable (party r.receiver r.receiverBalance)]) := rfl
  unfold prepareEvtHash
  rw [htext, hjoin]
  rfl

theorem notification_injective (msgId : PyVal) : Function.Injective (notification msgId) := by
  intro r r' h
  cases r
  cases r'
  simp only [notification, value, party, Notification.mk.injEq, PyVal.object.injEq,
    List.cons.injEq, Prod.mk.injEq, PyVal.text.injEq, PyVal.float.injEq, true_and, and_true] at h
  simp only [mk.injEq]
  tauto

/-- A party in front of another text can be read off it. -/
theorem party_append_inj {a a' x y : Str} {b b' : Double}
    (h : PyVal.repr π.isPrintable (party a b) ++ x = PyVal.repr π.isPrintable (party a' b') ++ y) :
    a = a' ∧ b = b' ∧ x = y := by
  have hbrace : ∀ d : Double, '\x7d' ∉ d.repr := fun d =>
    Double.not_mem_repr (by decide) (by decide) d
  have hrepr : ∀ (a : Str) (b : Double) (x : Str),
      PyVal.repr π.isPrintable (party a b) ++ x =
        '\x7b' :: (PyVal.reprText π.isPrintable "address".toList ++ (": ".toList ++
          (PyVal.reprText π.isPrintable a ++ (", ".toList ++
            (PyVal.reprText π.isPrintable "balance".toList ++ (": ".toList ++
              (b.repr ++ '\x7d' :: x))))))) := by
    intro a b x
    simp [party, PyVal.repr, PyVal.reprFields, List.intercalate]
  rw [hrepr, hrepr, List.cons.injEq] at h
  obtain ⟨ha, hrest⟩ := PyVal.reprText_append_inj
    (List.append_cancel_left (List.append_cancel_left h.2))
  have hbalance := List.append_cancel_left (List.append_cancel_left
    (List.append_cancel_left hrest))
  obtain ⟨hb, hx⟩ := Text.append_cons_inj (hbrace b) (hbrace b') hbalance
  exact ⟨ha, Double.repr_injective hb, hx⟩

theorem hashText_injective {r r' : TransferResponse} (h : r.hashText π = r'.hashText π) :
    r = r' := by
  obtain ⟨hsender, hsenderBalance, hrest⟩ := party_append_inj π (List.append_cancel_left h)
  have hreceiver : PyVal.repr π.isPrintable (party r.receiver r.receiverBalance) ++ [] =
      PyVal.repr π.isPrintable (party r'.receiver r'.receiverBalance) ++ [] := by
    rw [(List.cons.inj hrest).2]
  obtain ⟨hreceiver, hreceiverBalance, -⟩ := party_append_inj π hreceiver
  cases r
  cases r'
  simp only [mk.injEq]
  exact ⟨hsender, hsenderBalance, hreceiver, hreceiverBalance⟩

end TransferResponse

/-! ## The event of a transfer -/

/-- The event lists the two accounts that the transfer wrote, the sender's first. -/
def Announces (evt : Event) (t : TransferRecord) : Prop :=
  ∃ sender receiver : Account, ∃ headerSignature : Str,
    sender.balance.toNat = t.senderBalance ∧ receiver.balance.toNat = t.receiverBalance ∧
    evt = { eventType := EventType.accountTransfer.value
            attributes :=
              [("entities_changed".toList, .dumped (.array
                 [entityChanged t.sender (.account sender),
                  entityChanged t.receiver (.account receiver)])),
               ("header_signature".toList, .plain headerSignature)] }

theorem getItem_address (address : Str) (account : Account) :
    getItem "address" (entityChanged address (.account account)) = .ok (.text address) := rfl

theorem getItem_balance (address : Str) (account : Account) :
    getItem "balance" (entityChanged address (.account account)) =
      .ok (uint64Value account.balance) := rfl

theorem pyFloat_uint64Value (n : UInt64) :
    pyFloat (uint64Value n) = .ok (.ofNat n.toNat) := by
  have hall : (Nat.toDigits 10 n.toNat).all Char.isDigit = true := by
    rw [List.all_eq_true]
    intro c hc
    exact Nat.isDigit_of_mem_toDigits (by omega) (by omega) hc
  calc pyFloat (uint64Value n) = .ok (.ofNat (Nat.ofDigitChars 10 (Nat.toDigits 10 n.toNat) 0)) :=
        if_pos ⟨Nat.toDigits_ne_nil, hall⟩
    _ = .ok (.ofNat n.toNat) := by rw [Nat.ofDigitChars_ten_toDigits]

theorem partyResponse_entityChanged (address : Str) (account : Account) :
    partyResponse (entityChanged address (.account account)) =
      .ok (TransferResponse.party address (.ofNat account.balance.toNat)) := by
  unfold partyResponse
  rw [getItem_address, getItem_balance]
  change (pyFloat (uint64Value account.balance) >>= _) = _
  rw [pyFloat_uint64Value]
  rfl

/-- The response to an announced transfer, for a websocket subscribed to `a`. -/
theorem prepareTransferResponse_entities (a x y : Str) (sender receiver : Account) :
    prepareTransferResponse (.array [entityChanged x (.account sender),
        entityChanged y (.account receiver)]) a =
      .ok (if x = a ∨ y = a then some (TransferResponse.value
        ⟨x, .ofNat sender.balance.toNat, y, .ofNat receiver.balance.toNat⟩) else none) := by
  unfold prepareTransferResponse
  change (if isText a (.text x) || isText a (.text y) then _ else _) = _
  rw [partyResponse_entityChanged, partyResponse_entityChanged]
  by_cases h : x = a ∨ y = a
  · have hparty : (isText a (.text x) || isText a (.text y)) = true := by
      simpa [isText] using h
    rw [hparty, if_pos h]
    rfl
  · have hparty : (isText a (.text x) || isText a (.text y)) = false := by
      simpa [isText] using h
    rw [hparty, if_neg h]
    rfl

variable {π} {getBlockInfo : ℤ → Except PyError BlockInfo} {tz : TimeZone}

/-- The subscription to the transfers of an address. -/
def transferSubscription (msgId : PyVal) (a : Str) : Subscription .transfer :=
  { msgId := msgId, validatedData := a }

theorem Announces.prepareNotification {evt : Event} {t : TransferRecord} (h : Announces evt t)
    (msgId : PyVal) (a : Str) :
    prepareNotification π getBlockInfo .transfer (transferSubscription msgId a) evt =
      .ok (if t.sender = a ∨ t.receiver = a
        then some (t.response.value, t.response.evtHash π) else none) := by
  obtain ⟨sender, receiver, sig, hsender, hreceiver, rfl⟩ := h
  have hresponse := prepareTransferResponse_entities a t.sender t.receiver sender receiver
  unfold RpcApi.prepareNotification
  change (prepareTransferResponse _ a >>= _) = _
  rw [hresponse, hsender, hreceiver]
  by_cases hparty : t.sender = a ∨ t.receiver = a
  · rw [if_pos hparty, if_pos hparty]
    change (do
      let evthash ← prepareEvtHash π .transfer t.response.value
      pure (some (t.response.value, evthash))) = _
    rw [TransferResponse.prepareEvtHash_value]
    rfl
  · rw [if_neg hparty, if_neg hparty]
    rfl

theorem entityChanged_account_inj {x x' : Str} {m m' : Account}
    (h : entityChanged x (.account m) = entityChanged x' (.account m')) :
    x = x' ∧ m.balance.toNat = m'.balance.toNat := by
  have haddress := congrArg (getItem "address") h
  have hbalance := congrArg (getItem "balance") h
  rw [getItem_address, getItem_address, Except.ok.injEq, PyVal.text.injEq] at haddress
  rw [getItem_balance, getItem_balance, Except.ok.injEq, uint64Value, uint64Value,
    PyVal.text.injEq] at hbalance
  exact ⟨haddress, Double.toDigits_inj hbalance⟩

/-- An event announces at most one transfer. -/
theorem Announces.unique {evt : Event} {t t' : TransferRecord} (h : Announces evt t)
    (h' : Announces evt t') : t = t' := by
  obtain ⟨sender, receiver, sig, hsender, hreceiver, rfl⟩ := h
  obtain ⟨sender', receiver', sig', hsender', hreceiver', heq⟩ := h'
  simp only [Event.mk.injEq, List.cons.injEq, Prod.mk.injEq, AttributeValue.dumped.injEq,
    PyVal.array.injEq, true_and] at heq
  obtain ⟨⟨hfirst, hsecond, -⟩, -⟩ := heq
  obtain ⟨hx, hb⟩ := entityChanged_account_inj hfirst
  obtain ⟨hy, hb'⟩ := entityChanged_account_inj hsecond
  cases t
  cases t'
  simp only [TransferRecord.mk.injEq]
  simp only at hx hy hsender hreceiver hsender' hreceiver'
  exact ⟨hx, hy, by omega, by omega⟩

/-- An accepted transfer writes the sender's account and then the receiver's, with the balances
that they have afterwards. -/
theorem transfer_writes {s s' : Dict Str B} {signer : Str} {payload : TransferPayload}
    {u : Dict Str Message} (hstep : Step π tz s (.transaction signer (.transfer payload) u) s') :
    ∃ sender receiver : Account,
      u.entries = [(accountAddress π signer, .account sender),
        (payload.addressTo, .account receiver)] ∧
      balanceAt π s'.get? (accountAddress π signer) = sender.balance.toNat ∧
      balanceAt π s'.get? payload.addressTo = receiver.balance.toNat := by
  obtain ⟨-, haccepted, rfl⟩ := hstep.of_transaction
  obtain ⟨accounts, haccounts, rfl⟩ := transfer_spec.mp (run_of_apply haccepted)
  obtain ⟨-, -, hne, debited, credited, -, -, rfl⟩ := transferFromAddress_spec.mp haccounts
  rw [Dict.mapVals_ofList _ (by simpa using hne)]
  have hnodup : ∀ x y : Message,
      ([(accountAddress π signer, x), (payload.addressTo, y)].map Prod.fst).Nodup := by
    intro x y
    simpa using hne
  refine ⟨_, _, Dict.entries_ofList (hnodup _ _), ?_, ?_⟩
  · apply balanceAt_setState_of_some
    rw [List.map_cons, List.map_cons, List.map_nil, Dict.get?_ofList (hnodup _ _)]
    simp [Dict.lookup]
  · apply balanceAt_setState_of_some
    rw [List.map_cons, List.map_cons, List.map_nil, Dict.get?_ofList (hnodup _ _)]
    simp [Dict.lookup, hne]

/-- An accepted transfer emits the event that announces it. -/
theorem announces_of_step {e : Transition (Dict Str B) Label} {t : TransferRecord} (sig : Str)
    (hstep : Step π tz e.pre e.label e.post) (ht : transferRecord π e = some t) :
    ∃ evt, transferEvent (e, sig) = some evt ∧ Announces evt t := by
  unfold transferRecord at ht
  unfold transferEvent
  split at ht
  · rename_i signer payload u hlabel
    cases ht
    simp only [hlabel]
    rw [hlabel] at hstep
    obtain ⟨sender, receiver, hentries, hsender, hreceiver⟩ := transfer_writes hstep
    refine ⟨_, rfl, sender, receiver, sig, hsender.symm, hreceiver.symm, ?_⟩
    unfold getEventAttributes
    rw [hentries]
    rfl
  · cases ht

/-! ## Processing a stream of transfer events -/

section Stream

variable (π) (getBlockInfo)

/-- The websocket after a notification. -/
def WsState.notify (ws : WsState) (seen : List Str) (sent : List Notification) : WsState :=
  { ws with evthashes := some seen, sent := ws.sent ++ sent }

theorem processEvent_transfer {evt : Event} {t : TransferRecord} (h : Announces evt t)
    {ws : WsState} {msgId : PyVal} {a : Str} {seen : List Str}
    (hsubscribed : ws.subsevt .transfer = some (transferSubscription msgId a))
    (hhashes : ws.evthashes = some seen) :
    processEvent π getBlockInfo evt ws =
      if (t.sender = a ∨ t.receiver = a) ∧ t.response.evtHash π ∉ seen then
        .ok () (ws.notify (t.response.evtHash π :: seen) [t.response.notification msgId])
      else .ok () ws := by
  have hnames : sawtoothToRemmeEvent evt.eventType = [.transfer] := by
    obtain ⟨sender, receiver, sig, -, -, rfl⟩ := h
    change sawtoothToRemmeEvent EventType.accountTransfer.value = _
    decide
  have hone : processEvent π getBlockInfo evt ws =
      (processName π getBlockInfo evt .transfer >>= fun _ => pure ()) ws := by
    unfold processEvent
    rw [hnames]
    rfl
  rw [hone, bind_pure_unit]
  unfold processName
  simp only [hsubscribed, hhashes, h.prepareNotification]
  by_cases hparty : t.sender = a ∨ t.receiver = a
  · simp only [hparty, true_and]
    by_cases hseen : t.response.evtHash π ∈ seen
    · simp only [hseen, if_true, not_true_eq_false, if_false]
    · simp only [hseen, if_false, not_false_eq_true, if_true]
      rfl
  · simp only [hparty, false_and, if_false]

theorem consume_eq (stream : List StreamMessage) :
    consume π getBlockInfo stream =
      (stream.flatMap StreamMessage.events).forM (processEvent π getBlockInfo) := by
  unfold consume
  induction stream with
  | nil => rfl
  | cons msg stream ih =>
      simp only [List.forM_eq_forM] at ih ⊢
      rw [List.flatMap_cons, List.forM_append, ← ih]
      cases msg with
      | other => rfl
      | clientEvents events => rfl

theorem forM_cons_run {evt : Event} {evts : List Event} {ws ws' : WsState}
    (h : processEvent π getBlockInfo evt ws = .ok () ws') :
    (evt :: evts).forM (processEvent π getBlockInfo) ws =
      evts.forM (processEvent π getBlockInfo) ws' := by
  change (processEvent π getBlockInfo evt >>= fun _ =>
    evts.forM (processEvent π getBlockInfo)) ws = _
  simp only [bind, EStateM.bind, h]

/-- A stream of announced transfers sends those of the subscribed address whose hash is new. -/
theorem forM_processEvent {msgId : PyVal} {a : Str} {evts : List Event}
    {rs : List TransferRecord} (h : List.Forall₂ Announces evts rs) {ws : WsState}
    {seen : List Str} (hsubscribed : ws.subsevt .transfer = some (transferSubscription msgId a))
    (hhashes : ws.evthashes = some seen) :
    ∃ seen', evts.forM (processEvent π getBlockInfo) ws = .ok () (ws.notify seen'
      ((fresh (TransferResponse.evtHash π) seen
        ((rs.filter fun t => t.sender = a ∨ t.receiver = a).map TransferRecord.response)).map
          (TransferResponse.notification msgId))) := by
  induction h generalizing ws seen with
  | nil =>
      refine ⟨seen, ?_⟩
      have hsame : ws.notify seen [] = ws := by
        unfold WsState.notify
        rw [← hhashes, List.append_nil]
      exact congrArg (EStateM.Result.ok ()) hsame.symm
  | @cons evt t evts rs hone _ ih =>
      have hstep := processEvent_transfer π getBlockInfo hone hsubscribed hhashes
      by_cases hparty : t.sender = a ∨ t.receiver = a
      · rw [List.filter_cons_of_pos (by simpa using hparty), List.map_cons, fresh]
        by_cases hseen : t.response.evtHash π ∈ seen
        · rw [if_neg (by tauto)] at hstep
          rw [if_pos hseen, forM_cons_run π getBlockInfo hstep]
          exact ih hsubscribed hhashes
        · rw [if_pos ⟨hparty, hseen⟩] at hstep
          rw [if_neg hseen, forM_cons_run π getBlockInfo hstep]
          have hsubscribed' : (ws.notify (t.response.evtHash π :: seen)
              [t.response.notification msgId]).subsevt .transfer =
                some (transferSubscription msgId a) := hsubscribed
          obtain ⟨seen', hrest⟩ := ih hsubscribed' rfl
          refine ⟨seen', ?_⟩
          rw [hrest]
          simp [WsState.notify]
      · rw [if_neg (by tauto)] at hstep
        rw [List.filter_cons_of_neg (by simpa using hparty), forM_cons_run π getBlockInfo hstep]
        exact ih hsubscribed hhashes

end Stream

/-! ## The events of a run -/

section Runs

variable {ts : List (Transition (Dict Str B) Label × Str)} {s₀ s : Dict Str B}

theorem announced_of_mem (hrun : Run (Step π tz) s₀ (ts.map Prod.fst) s) {t : TransferRecord}
    (ht : t ∈ (ts.map Prod.fst).filterMap (transferRecord π)) :
    ∃ evt ∈ ts.filterMap transferEvent, Announces evt t := by
  obtain ⟨e, he, hrecord⟩ := List.mem_filterMap.mp ht
  obtain ⟨⟨_, sig⟩, hmem, rfl⟩ := List.mem_map.mp he
  obtain ⟨evt, hevt, hannounces⟩ := announces_of_step sig (hrun.step_of_mem he) hrecord
  exact ⟨evt, List.mem_filterMap.mpr ⟨_, hmem, hevt⟩, hannounces⟩

theorem mem_of_announced (hrun : Run (Step π tz) s₀ (ts.map Prod.fst) s) {evt : Event}
    (hevt : evt ∈ ts.filterMap transferEvent) :
    ∃ t ∈ (ts.map Prod.fst).filterMap (transferRecord π), Announces evt t := by
  obtain ⟨⟨e, sig⟩, hmem, hevent⟩ := List.mem_filterMap.mp hevt
  have he : e ∈ ts.map Prod.fst := List.mem_map.mpr ⟨_, hmem, rfl⟩
  obtain ⟨t, ht⟩ : ∃ t, transferRecord π e = some t := by
    unfold transferEvent at hevent
    split at hevent
    · rename_i signer payload u hlabel
      unfold transferRecord
      rw [hlabel]
      exact ⟨_, rfl⟩
    · cases hevent
  obtain ⟨evt', hevent', hannounces⟩ := announces_of_step sig (hrun.step_of_mem he) ht
  rw [hevent] at hevent'
  cases hevent'
  exact ⟨t, List.mem_filterMap.mpr ⟨e, he, ht⟩, hannounces⟩

/-- The transfers that a stream announces are those of the run. -/
theorem exists_announced (hrun : Run (Step π tz) s₀ (ts.map Prod.fst) s)
    {stream : List StreamMessage} (hstream : Delivers ts stream) :
    ∃ rs, List.Forall₂ Announces (stream.flatMap StreamMessage.events) rs ∧
      ∀ t, t ∈ rs ↔ t ∈ (ts.map Prod.fst).filterMap (transferRecord π) := by
  have hannounced : ∀ evt, ∃ t, evt ∈ stream.flatMap StreamMessage.events →
      t ∈ (ts.map Prod.fst).filterMap (transferRecord π) ∧ Announces evt t := by
    intro evt
    by_cases hevt : evt ∈ stream.flatMap StreamMessage.events
    · obtain ⟨t, ht, hannounces⟩ := mem_of_announced hrun ((hstream evt).mp hevt)
      exact ⟨t, fun _ => ⟨ht, hannounces⟩⟩
    · exact ⟨⟨[], [], 0, 0⟩, fun h => absurd h hevt⟩
  choose record hrecord using hannounced
  refine ⟨(stream.flatMap StreamMessage.events).map record, ?_, ?_⟩
  · rw [List.forall₂_map_right_iff, List.forall₂_same]
    exact fun evt hevt => (hrecord evt hevt).2
  · intro t
    constructor
    · intro ht
      obtain ⟨evt, hevt, rfl⟩ := List.mem_map.mp ht
      exact (hrecord evt hevt).1
    · intro ht
      obtain ⟨evt, hevt, hannounces⟩ := announced_of_mem hrun ht
      have hmem := (hstream evt).mpr hevt
      rw [hannounces.unique (hrecord evt hmem).2]
      exact List.mem_map_of_mem hmem

end Runs

/-! ## One notification for each transfer -/

section Notifications

variable (π) (getBlockInfo) (ws : WsState) (msgId : PyVal) (a : Str)
  (ts : List (Transition (Dict Str B) Label))

/-- A websocket subscribed to the transfers of `a` on which none of the run's was notified. -/
structure Listening : Prop where
  subscribed : ws.subsevt .transfer = some (transferSubscription msgId a)
  isNew : ∃ seen, ws.evthashes = some seen ∧
    ∀ t ∈ transfersOf π a ts, t.response.evtHash π ∉ seen

/-- No two of the texts that are hashed for the run have one SHA-256 digest. -/
def Sha256Apart : Prop :=
  ∀ t ∈ transfersOf π a ts, ∀ t' ∈ transfersOf π a ts,
    π.sha256 (Text.encodeUtf8 (t.response.hashText π)) =
      π.sha256 (Text.encodeUtf8 (t'.response.hashText π)) →
    Text.encodeUtf8 (t.response.hashText π) = Text.encodeUtf8 (t'.response.hashText π)

/-- The stream is processed, and what is sent is one notification for each transfer of the run
in which `a` takes part. -/
def NotifiesEachOnce (stream : List StreamMessage) : Prop :=
  ∃ ws' sent, consume π getBlockInfo stream ws = .ok () ws' ∧ ws'.sent = ws.sent ++ sent ∧
    sent.Perm ((transfersOf π a ts).map fun t => t.response.notification msgId)

/-- No two transfers in which `a` takes part leave the same sender and the same receiver with
balances that are the same doubles. -/
def TransfersApart : Prop :=
  (transfersOf π a ts).Pairwise fun t t' =>
    ¬(t.sender = t'.sender ∧ t.receiver = t'.receiver ∧
      roundDouble t.senderBalance = roundDouble t'.senderBalance ∧
      roundDouble t.receiverBalance = roundDouble t'.receiverBalance)

theorem transfersApart_iff_nodup :
    TransfersApart π a ts ↔ ((transfersOf π a ts).map TransferRecord.response).Nodup := by
  unfold TransfersApart List.Nodup
  rw [List.pairwise_map]
  apply iff_of_eq
  congr 1
  ext t t'
  simp only [TransferRecord.response, Double.ofNat, ne_eq, TransferResponse.mk.injEq,
    Double.mk.injEq]
  tauto

end Notifications

section Main

variable (getBlockInfo) {ts : List (Transition (Dict Str B) Label × Str)} {s₀ s : Dict Str B}
  {ws : WsState} {msgId : PyVal} {a : Str} {stream : List StreamMessage}

/-- What a stream of the run's events sends. -/
theorem notifiesEachOnce_iff_fresh (hrun : Run (Step π tz) s₀ (ts.map Prod.fst) s)
    (hws : Listening π ws msgId a (ts.map Prod.fst)) (hstream : Delivers ts stream) :
    ∃ seen xs, (∀ r, r ∈ xs ↔ r ∈ (transfersOf π a (ts.map Prod.fst)).map
        TransferRecord.response) ∧
      (∀ t ∈ transfersOf π a (ts.map Prod.fst), t.response.evtHash π ∉ seen) ∧
      (NotifiesEachOnce π getBlockInfo ws msgId a (ts.map Prod.fst) stream ↔
        (fresh (TransferResponse.evtHash π) seen xs).Perm
          ((transfersOf π a (ts.map Prod.fst)).map TransferRecord.response)) := by
  obtain ⟨seen, hhashes, hnew⟩ := hws.isNew
  obtain ⟨rs, hannounced, hmem⟩ := exists_announced hrun hstream
  obtain ⟨seen', hconsume⟩ := forM_processEvent π getBlockInfo hannounced hws.subscribed hhashes
  rw [← consume_eq] at hconsume
  refine ⟨seen, (rs.filter fun t => t.sender = a ∨ t.receiver = a).map TransferRecord.response,
    ?_, hnew, ?_⟩
  · intro r
    simp only [transfersOf, List.mem_map, List.mem_filter, hmem]
  · rw [← List.map_perm_map_iff (TransferResponse.notification_injective msgId), List.map_map]
    constructor
    · rintro ⟨ws', sent, hrun', hsent, hperm⟩
      rw [hconsume] at hrun'
      cases hrun'
      rwa [← List.append_cancel_left hsent] at hperm
    · intro hperm
      exact ⟨_, _, hconsume, rfl, hperm⟩

/-- The transfers of an address are notified once each exactly when their parties and rounded
balances tell them apart. -/
theorem notifiesEachOnce_iff_transfersApart (hrun : Run (Step π tz) s₀ (ts.map Prod.fst) s)
    (hws : Listening π ws msgId a (ts.map Prod.fst)) (hstream : Delivers ts stream)
    (hsha : Sha256Apart π a (ts.map Prod.fst)) :
    NotifiesEachOnce π getBlockInfo ws msgId a (ts.map Prod.fst) stream ↔
      TransfersApart π a (ts.map Prod.fst) := by
  obtain ⟨seen, xs, hmem, hnew, hiff⟩ :=
    notifiesEachOnce_iff_fresh getBlockInfo hrun hws hstream
  rw [hiff, transfersApart_iff_nodup]
  apply fresh_perm_iff _ _ hmem
  · intro r hr r' hr' hkey
    obtain ⟨t, ht, rfl⟩ := List.mem_map.mp hr
    obtain ⟨t', ht', rfl⟩ := List.mem_map.mp hr'
    apply TransferResponse.hashText_injective π
    exact Text.encodeUtf8_injective (hsha t ht t' ht' hkey)
  · intro r hr
    obtain ⟨t, ht, rfl⟩ := List.mem_map.mp hr
    exact hnew t ht

end Main

/-! ## Two runs of transfers -/

namespace Sample

open Remme.Tp.Sample

/-- A run with a signature for each transaction. -/
def signed (ts : List (Transition (Dict Str Data) Label)) :
    List (Transition (Dict Str Data) Label × Str) :=
  ts.zipIdx.map fun e => (e.1, Text.hexFixed 128 e.2)

theorem map_fst_signed (ts : List (Transition (Dict Str Data) Label)) :
    (signed ts).map Prod.fst = ts := by
  unfold signed
  rw [List.map_map]
  exact List.zipIdx_map_fst 0 ts

/-- Every event comes twice. -/
def twice (ts : List (Transition (Dict Str Data) Label)) : List StreamMessage :=
  [.clientEvents ((signed ts).filterMap transferEvent),
   .clientEvents ((signed ts).filterMap transferEvent)]

theorem delivers_twice (ts : List (Transition (Dict Str Data) Label)) :
    Delivers (signed ts) (twice ts) := by
  intro evt
  simp [twice, StreamMessage.events]

/-- A new websocket, subscribed to Alice's transfers. -/
def aliceWs : WsState where
  subsevt := fun
    | .transfer => some (transferSubscription (.text "42".toList) (accountAddress platform alice))
    | _ => none
  evthashes := some []
  sent := []

theorem aliceWs_listening (ts : List (Transition (Dict Str Data) Label)) :
    Listening platform aliceWs (.text "42".toList) (accountAddress platform alice) ts :=
  ⟨rfl, [], rfl, fun _ _ => List.not_mem_nil⟩

def noBlockInfo : ℤ → Except PyError BlockInfo := fun _ => .error .keyError

def toBot : Input :=
  .transaction alice (.transfer { addressTo := accountAddress platform bot, value := 100 })

def toAlice : Input :=
  .transaction bot (.transfer { addressTo := accountAddress platform alice, value := 100 })

def issue : Input := .transaction alice (.genesis { totalSupply := 1000000 })

theorem run_payments : LedgerRun platform utc (transitions [issue, toBot, toBot])
    (final [issue, toBot, toBot]) :=
  run_of_accepted (by decide +kernel) (by decide +kernel)

theorem run_backAndForth : LedgerRun platform utc (transitions [issue, toBot, toAlice, toBot])
    (final [issue, toBot, toAlice, toBot]) :=
  run_of_accepted (by decide +kernel) (by decide +kernel)

end Sample

open Remme.Tp.Sample Sample in
theorem notifiesEachOnce_payments :
    NotifiesEachOnce platform noBlockInfo aliceWs (.text "42".toList)
      (accountAddress platform alice) ((signed (transitions [issue, toBot, toBot])).map Prod.fst)
      (twice (transitions [issue, toBot, toBot])) := by
  have hrun := run_payments
  have hws := aliceWs_listening (transitions [issue, toBot, toBot])
  have hsha : Sha256Apart platform (accountAddress platform alice)
      (transitions [issue, toBot, toBot]) := by
    unfold Sha256Apart
    decide +kernel
  have hapart : TransfersApart platform (accountAddress platform alice)
      (transitions [issue, toBot, toBot]) := by
    unfold TransfersApart
    decide +kernel
  rw [← map_fst_signed (transitions [issue, toBot, toBot])] at hrun hws hsha hapart
  exact (notifiesEachOnce_iff_transfersApart noBlockInfo hrun hws (delivers_twice _) hsha).mpr
    hapart

open Remme.Tp.Sample Sample in
/-- A transfer, the same amount back, and the transfer again: the third event shows what the
first one showed and is taken for a repetition. -/
theorem backAndForth_not_notifiesEachOnce :
    LedgerRun platform utc ((signed (transitions [issue, toBot, toAlice, toBot])).map Prod.fst)
        (final [issue, toBot, toAlice, toBot]) ∧
      Listening platform aliceWs (.text "42".toList) (accountAddress platform alice)
        ((signed (transitions [issue, toBot, toAlice, toBot])).map Prod.fst) ∧
      Delivers (signed (transitions [issue, toBot, toAlice, toBot]))
        (twice (transitions [issue, toBot, toAlice, toBot])) ∧
      ¬NotifiesEachOnce platform noBlockInfo aliceWs (.text "42".toList)
        (accountAddress platform alice)
        ((signed (transitions [issue, toBot, toAlice, toBot])).map Prod.fst)
        (twice (transitions [issue, toBot, toAlice, toBot])) := by
  have hrun := run_backAndForth
  have hws := aliceWs_listening (transitions [issue, toBot, toAlice, toBot])
  have hrepeats : ¬((transfersOf platform (accountAddress platform alice)
      (transitions [issue, toBot, toAlice, toBot])).map TransferRecord.response).Nodup := by
    decide +kernel
  have hstream := delivers_twice (transitions [issue, toBot, toAlice, toBot])
  rw [← map_fst_signed (transitions [issue, toBot, toAlice, toBot])] at hrun hws hrepeats
  refine ⟨hrun, hws, hstream, fun hnotifies => ?_⟩
  obtain ⟨seen, xs, -, -, hiff⟩ := notifiesEachOnce_iff_fresh noBlockInfo hrun hws hstream
  exact hrepeats ((hiff.mp hnotifies).nodup_iff.mp (nodup_fresh seen xs))

end Remme.RpcApi
