import Remme.Tp.Proofs.Withdrawal
/-!
# The book that the ledger keeps

A `Book` is the ledger in its own terms: tokens are natural numbers without a
bound, and balances, lists of keys, swaps and keys are functions that do not
share a store.  `Book.Does` says what each operation is for.  On every state
that a run reaches, the processors accept an operation exactly if the book
allows it, and what they write is what the book says: no two records get in
each other's way in the store, and no balance leaves its 64 bits.
-/

namespace Remme.Tp

open Remme.Lib Remme.Protos Remme.Shared Remme.Settings

/-! ## The book -/

@[ext] structure Book where
  balance : Str → ℕ
  pubKeys : Str → List Str
  swap : Str → Option AtomicSwapInfo
  key : Str → Option PubKeyStorage
  issued : Bool

/-- What the other families lay down: the latest block, the commission of a swap, and whether
keys have a price. -/
structure Terms where
  latestBlock : Option BlockInfo
  commission : Option ℤ
  economyEnabled : Bool

namespace Book

def empty : Book where
  balance _ := 0
  pubKeys _ := []
  swap _ := none
  key _ := none
  issued := false

variable (b : Book)

def setBalance (a : Str) (n : ℕ) : Book := { b with balance := Function.update b.balance a n }

def setPubKeys (a : Str) (keys : List Str) : Book :=
  { b with pubKeys := Function.update b.pubKeys a keys }

def recordSwap (a : Str) (w : AtomicSwapInfo) : Book :=
  { b with swap := Function.update b.swap a (some w) }

def recordKey (a : Str) (r : PubKeyStorage) : Book :=
  { b with key := Function.update b.key a (some r) }

def credit (a : Str) (n : ℕ) : Book := b.setBalance a (b.balance a + n)

def debit (a : Str) (n : ℕ) : Book := b.setBalance a (b.balance a - n)

/-- A key is listed once. -/
def enlist (owner p : Str) : Book :=
  b.setPubKeys owner (if p ∈ b.pubKeys owner then b.pubKeys owner else b.pubKeys owner ++ [p])

/-- The price of a key goes from the payer to the zero address while the economy is on. -/
inductive Charges (terms : Terms) (payer : Str) : Book → Book → Prop
  | free {b : Book} (hoff : terms.economyEnabled = false) : Charges terms payer b b
  | paid {b : Book} (hon : terms.economyEnabled = true)
      (hfunds : pubKeyStorePrice.toNat ≤ b.balance payer) :
      Charges terms payer b
        ((b.debit payer pubKeyStorePrice.toNat).credit zeroAddress pubKeyStorePrice.toNat)

variable {B : Type} (π : Platform B) (tz : TimeZone) (terms : Terms)

/-- A key can be registered: its payload names one, the proof of its possession verifies, it is
not registered yet, and it is valid for at most the maximum. -/
structure Registers (payload : NewPubKeyPayload) (configuration : Configuration) : Prop where
  isSet : payload.configuration = some configuration
  verifies : (detectProcessorCls π payload configuration).verify = .ok true
  isFree : b.key (pubKeyAddress π configuration.key) = none
  inValidity : InValidity tz payload.validFrom payload.validTo

/-- What an operation of the signer makes of a book. -/
inductive Does (signer : Str) : Operation → Book → Prop
  | transfer {payload : TransferPayload} (hvalue : payload.value ≠ 0)
      (hto : IsAccountAddress π payload.addressTo)
      (hother : accountAddress π signer ≠ payload.addressTo)
      (hfunds : payload.value.toNat ≤ b.balance (accountAddress π signer)) :
      Does signer (.transfer payload)
        ((b.debit (accountAddress π signer) payload.value.toNat).credit payload.addressTo
          payload.value.toNat)
  | genesis {payload : GenesisPayload} (hfirst : b.issued = false) :
      Does signer (.genesis payload)
        { (b.credit (accountAddress π signer) payload.totalSupply.toNat).setPubKeys
            (accountAddress π signer) [] with issued := true }
  | swapInit {payload : AtomicSwapInitPayload} {block : BlockInfo} {createdAt : UInt32} {c : ℕ}
      (hfree : b.swap (swapAddress π payload.swapId) = none)
      (hblock : terms.latestBlock = some block)
      (hcreated : createdAt.toNat = block.timestamp.toNat)
      (hcommission : terms.commission = some (c : ℤ)) (hpositive : 0 < c)
      (hfunds : payload.amount.toNat + c ≤ b.balance (accountAddress π signer)) :
      Does signer (.swapInit payload)
        (((b.debit (accountAddress π signer) (payload.amount.toNat + c)).credit zeroAddress
          c).recordSwap (swapAddress π payload.swapId) (openedSwap π signer payload createdAt))
  | swapSetLock {payload : AtomicSwapSetSecretLockPayload} {w : AtomicSwapInfo}
      (hswap : b.swap (swapAddress π payload.swapId) = some w)
      (hopen : notPermittedToChange w.state = false) (hempty : w.secretLock = []) :
      Does signer (.swapSetLock payload)
        (b.recordSwap (swapAddress π payload.swapId)
          { w with secretLock := payload.secretLock, state := .secretLockProvided })
  | swapApprove {payload : AtomicSwapApprovePayload} {w : AtomicSwapInfo}
      (hswap : b.swap (swapAddress π payload.swapId) = some w)
      (hstate : w.state = .secretLockProvided) (hinitiator : w.isInitiator = true)
      (hsender : w.senderAddress = accountAddress π signer) (hlock : w.secretLock ≠ []) :
      Does signer (.swapApprove payload)
        (b.recordSwap (swapAddress π payload.swapId) { w with state := .approved })
  | swapExpire {payload : AtomicSwapExpirePayload} {w : AtomicSwapInfo} {block : BlockInfo}
      (hswap : b.swap (swapAddress π payload.swapId) = some w)
      (hopen : notPermittedToChange w.state = false)
      (hsender : w.senderAddress = accountAddress π signer)
      (hblock : terms.latestBlock = some block) (htime : Withdrawable tz w block) :
      Does signer (.swapExpire payload)
        ((b.credit (accountAddress π signer) w.amount.toNat).recordSwap
          (swapAddress π payload.swapId) { w with state := .expired })
  | swapClose {payload : AtomicSwapClosePayload} {w : AtomicSwapInfo}
      (hswap : b.swap (swapAddress π payload.swapId) = some w)
      (hopen : notPermittedToChange w.state = false) (hlock : w.secretLock ≠ [])
      (hhash : web3Hash π payload.secretKey = .ok w.secretLock)
      (happroved : w.isInitiator = true → w.state = .approved) :
      Does signer (.swapClose payload)
        ((b.credit w.receiverAddress w.amount.toNat).recordSwap (swapAddress π payload.swapId)
          { w with secretKey := payload.secretKey, state := .closed })
  | store {payload : NewPubKeyPayload} {configuration : Configuration} {b' : Book}
      (hregisters : b.Registers π tz payload configuration)
      (hcharges : Charges terms (accountAddress π signer) b b') :
      Does signer (.store payload)
        ((b'.enlist (accountAddress π signer) (pubKeyAddress π configuration.key)).recordKey
          (pubKeyAddress π configuration.key)
          { owner := signer, payload := payload, isRevoked := false })
  | storeAndPay {payload : NewPubKeyStoreAndPayPayload} {configuration : Configuration}
      {b' : Book} (hsigned : OwnerSigned π payload)
      (hregisters : b.Registers π tz (payload.pubKeyPayload.getD {}) configuration)
      (hcharges : Charges terms (accountAddress π signer) b b') :
      Does signer (.storeAndPay payload)
        ((b'.enlist (accountAddress π payload.owner)
          (pubKeyAddress π configuration.key)).recordKey (pubKeyAddress π configuration.key)
          { owner := payload.owner, payload := payload.pubKeyPayload.getD {},
            isRevoked := false })
  | revoke {payload : RevokePubKeyPayload} {r : PubKeyStorage}
      (hkey : b.key payload.address = some r) (howner : r.owner = signer)
      (hrevoked : r.isRevoked = false) :
      Does signer (.revoke payload) (b.recordKey payload.address { r with isRevoked := true })

end Book

/-! ## The book of a store -/

variable {B : Type} {π : Platform B} {tz : TimeZone} {s s' : Dict Str B} {signer a : Str}
  {op : Operation} {u : Dict Str Message} {l : Label} {b b₁ b₂ : Book}

def book (π : Platform B) (s : Dict Str B) : Book where
  balance a := if IsAccountAddress π a then balanceAt π s.get? a else 0
  pubKeys a := if IsAccountAddress π a then pubKeysAt π s.get? a else []
  swap a := if IsSwapAddress π a then swapAt π s.get? a else none
  key a := if IsPubKeyAddress π a then pubKeyAt π s.get? a else none
  issued := (genesisStatusAt π s.get? genesisAddress).any (·.status)

def terms (π : Platform B) (s : Dict Str B) : Terms where
  latestBlock := latestBlock π s.get?
  commission := commission π s.get?
  economyEnabled := economyEnabled π s.get?

theorem book_balance (ha : IsAccountAddress π a) :
    (book π s).balance a = balanceAt π s.get? a := if_pos ha

theorem book_pubKeys (ha : IsAccountAddress π a) :
    (book π s).pubKeys a = pubKeysAt π s.get? a := if_pos ha

theorem book_swap (ha : IsSwapAddress π a) : (book π s).swap a = swapAt π s.get? a := if_pos ha

theorem book_key (ha : IsPubKeyAddress π a) : (book π s).key a = pubKeyAt π s.get? a := if_pos ha

theorem book_empty : book π Dict.empty = .empty := by
  ext a
  all_goals simp [book, Book.empty, balanceAt, pubKeysAt, accountAt, swapAt, pubKeyAt,
    genesisStatusAt]

/-- A message that is written at an address of its class. -/
def Book.put (b : Book) (a : Str) : Message → Book
  | .account m => (b.setBalance a m.balance.toNat).setPubKeys a m.pubKeys
  | .atomicSwapInfo w => b.recordSwap a w
  | .pubKeyStorage r => b.recordKey a r
  | .genesisStatus m => { b with issued := m.status }

/-! ## What a store has to do with its book -/

theorem book_accounts_congr (h : ∀ x, IsAccountAddress π x → s'.get? x = s.get? x) :
    (book π s').balance = (book π s).balance ∧ (book π s').pubKeys = (book π s).pubKeys := by
  constructor
  all_goals
    funext x
    simp only [book]
    by_cases hx : IsAccountAddress π x
    · simp only [if_pos hx, balanceAt, pubKeysAt, accountAt, h x hx]
    · simp only [if_neg hx]

theorem book_swap_congr (h : ∀ x, IsSwapAddress π x → s'.get? x = s.get? x) :
    (book π s').swap = (book π s).swap := by
  funext x
  simp only [book]
  by_cases hx : IsSwapAddress π x
  · simp only [if_pos hx, swapAt, h x hx]
  · simp only [if_neg hx]

theorem book_key_congr (h : ∀ x, IsPubKeyAddress π x → s'.get? x = s.get? x) :
    (book π s').key = (book π s).key := by
  funext x
  simp only [book]
  by_cases hx : IsPubKeyAddress π x
  · simp only [if_pos hx, pubKeyAt, h x hx]
  · simp only [if_neg hx]

theorem book_issued_congr (h : s'.get? genesisAddress = s.get? genesisAddress) :
    (book π s').issued = (book π s).issued := by
  simp only [book, genesisStatusAt, h]

/-- The environment is not in the book. -/
theorem book_environment (hchange : EnvironmentChange π s s') : book π s' = book π s := by
  have hsame : ∀ x, ¬IsEnvironmentAddress x → s'.get? x = s.get? x := by
    intro x hx
    by_contra hne
    exact hx (hchange x hne).1
  obtain ⟨hbalance, hpubKeys⟩ := book_accounts_congr fun x hx => hsame x hx.not_environment
  exact Book.ext hbalance hpubKeys (book_swap_congr fun x hx => hsame x hx.not_environment)
    (book_key_congr fun x hx => hsame x hx.not_environment)
    (book_issued_congr (hsame _ fun henv => henv.2.2 rfl))

section Put

variable {m : Message}

/-- What is written at an address shows at its place in the book, and nowhere else. -/
theorem book_set (hplaced : Placed π a m.messageClass) :
    book π (s.set a (π.pb.serialize m)) = (book π s).put a m := by
  -- An address for another class is another address.
  have hframe : ∀ c x, Placed π x c → m.messageClass ≠ c →
      (s.set a (π.pb.serialize m)).get? x = s.get? x := by
    intro c x hx hne
    apply Dict.get?_set_of_ne
    rintro rfl
    exact hne (hplaced.unique hx)
  have haccounts := fun hne => book_accounts_congr fun x hx => hframe .account x hx hne
  have hswaps := fun hne => book_swap_congr fun x hx => hframe .atomicSwapInfo x hx hne
  have hkeys := fun hne => book_key_congr fun x hx => hframe .pubKeyStorage x hx hne
  have hissued := fun hne => book_issued_congr (π := π) (hframe .genesisStatus _ rfl hne)
  cases m with
  | account m =>
      have ha : IsAccountAddress π a := hplaced
      refine Book.ext ?_ ?_ (hswaps (by rintro ⟨⟩)) (hkeys (by rintro ⟨⟩))
        (hissued (by rintro ⟨⟩))
      all_goals
        funext x
        by_cases hx : x = a
        · subst hx
          simp [book, Book.put, Book.setBalance, Book.setPubKeys, ha, balanceAt, pubKeysAt,
            accountAt, Protobuf.serialize]
        · simp [book, Book.put, Book.setBalance, Book.setPubKeys, hx, balanceAt, pubKeysAt,
            accountAt, Dict.get?_set_of_ne _ _ (Ne.symm hx)]
  | genesisStatus m =>
      have ha : a = genesisAddress := hplaced
      obtain ⟨hbalance, hpubKeys⟩ := haccounts (by rintro ⟨⟩)
      refine Book.ext hbalance hpubKeys (hswaps (by rintro ⟨⟩)) (hkeys (by rintro ⟨⟩)) ?_
      simp [book, Book.put, genesisStatusAt, ha, Protobuf.serialize]
  | atomicSwapInfo w =>
      have ha : IsSwapAddress π a := hplaced
      obtain ⟨hbalance, hpubKeys⟩ := haccounts (by rintro ⟨⟩)
      refine Book.ext hbalance hpubKeys ?_ (hkeys (by rintro ⟨⟩)) (hissued (by rintro ⟨⟩))
      funext x
      by_cases hx : x = a
      · subst hx
        simp [book, Book.put, Book.recordSwap, ha, swapAt, Protobuf.serialize]
      · simp [book, Book.put, Book.recordSwap, hx, swapAt, Dict.get?_set_of_ne _ _ (Ne.symm hx)]
  | pubKeyStorage r =>
      have ha : IsPubKeyAddress π a := hplaced
      obtain ⟨hbalance, hpubKeys⟩ := haccounts (by rintro ⟨⟩)
      refine Book.ext hbalance hpubKeys (hswaps (by rintro ⟨⟩)) ?_ (hissued (by rintro ⟨⟩))
      funext x
      by_cases hx : x = a
      · subst hx
        simp [book, Book.put, Book.recordKey, ha, pubKeyAt, Protobuf.serialize]
      · simp [book, Book.put, Book.recordKey, hx, pubKeyAt, Dict.get?_set_of_ne _ _ (Ne.symm hx)]

/-- The messages of a dictionary are put into the book one after the other. -/
theorem book_setState {es : List (Str × Message)} (hu : u = .ofList es)
    (hnodup : (es.map Prod.fst).Nodup) (hplaced : ∀ e ∈ es, Placed π e.1 e.2.messageClass) :
    book π (setState π s u) = es.foldl (fun b e => b.put e.1 e.2) (book π s) := by
  have hset : setState π s u = es.foldl (fun s e => s.set e.1 (π.pb.serialize e.2)) s := by
    unfold setState Dict.update
    rw [hu, Dict.mapVals_ofList _ hnodup,
      Dict.entries_ofList (by simpa [Function.comp_def] using hnodup)]
    exact List.foldl_map
  rw [hset]
  clear hset hu hnodup
  induction es generalizing s with
  | nil => rfl
  | cons e rest ih =>
      rw [List.foldl_cons, List.foldl_cons, ih fun e' he' => hplaced e' (by simp [he']),
        book_set (hplaced e (by simp))]

end Put

/-! ## Accounts in the book -/

section Accounts

variable {x : Str} {n k : ℕ}

theorem Book.setBalance_balance_of_ne (h : x ≠ a) : (b.setBalance a n).balance x = b.balance x :=
  Function.update_of_ne h ..

@[simp] theorem Book.setBalance_pubKeys : (b.setBalance a n).pubKeys = b.pubKeys := rfl

theorem Book.setBalance_balance_eq (h : n = b.balance a) : b.setBalance a n = b := by
  rw [h, Book.setBalance, Function.update_eq_self]

theorem Book.setPubKeys_eq {keys : List Str} (h : keys = b.pubKeys a) :
    b.setPubKeys a keys = b := by
  rw [h, Book.setPubKeys, Function.update_eq_self]

/-- An account that is written with its keys as they are changes in its balance. -/
theorem Book.put_account {balance : UInt64} {keys : List Str} (h : keys = b.pubKeys a) :
    b.put a (.account ⟨balance, keys⟩) = b.setBalance a balance.toNat :=
  Book.setPubKeys_eq h

/-- Tokens that leave one account and come in at another. -/
theorem Book.setBalance_setBalance (hne : a ≠ x) {n' k' : ℕ} (hdebit : n' + n = b.balance a)
    (hcredit : k' = b.balance x + k) :
    (b.setBalance a n').setBalance x k' = (b.debit a n).credit x k := by
  unfold Book.debit Book.credit
  rw [Book.setBalance_balance_of_ne (Ne.symm hne), hcredit,
    show n' = b.balance a - n by omega]

theorem Book.enlist_pubKeys_of_ne {p : Str} (h : x ≠ a) :
    (b.enlist a p).pubKeys x = b.pubKeys x :=
  Function.update_of_ne h ..

theorem balance_accountAt (ha : IsAccountAddress π a) :
    ((accountAt π s.get? a).getD {}).balance.toNat = (book π s).balance a :=
  (book_balance ha).symm

theorem pubKeys_accountAt (ha : IsAccountAddress π a) :
    ((accountAt π s.get? a).getD {}).pubKeys = (book π s).pubKeys a :=
  (book_pubKeys ha).symm

end Accounts

/-! ## What is accepted, the book does -/

theorem does_transfer {payload : TransferPayload}
    (h : (transfer π signer payload).run s.get? = .ok u) :
    (book π s).Does π tz (terms π s) signer (.transfer payload) (book π (setState π s u)) := by
  obtain ⟨accounts, haccounts, rfl⟩ := transfer_spec.mp h
  obtain ⟨hvalue, hto, hne, debited, credited, hdebited, hcredited, rfl⟩ :=
    transferFromAddress_spec.mp haccounts
  have hfrom := isAccountAddress_accountAddress π signer
  rw [← book_balance hfrom] at hdebited
  rw [← book_balance hto] at hcredited
  rw [book_setState (Dict.mapVals_ofList _ (by simp [hne])) (by simp [hne])
    (by simp [Message.messageClass, Placed, hfrom, hto])]
  simp only [List.map_cons, List.map_nil, List.foldl_cons, List.foldl_nil]
  rw [Book.put_account (pubKeys_accountAt hfrom),
    Book.put_account (b := (book π s).setBalance _ _) (pubKeys_accountAt hto),
    Book.setBalance_setBalance hne hdebited hcredited]
  exact .transfer hvalue hto hne (by omega)

theorem does_genesis {payload : GenesisPayload} {supplies : List UInt64}
    (hsupplied : Supplied π s supplies) (h : (genesis π signer payload).run s.get? = .ok u) :
    (book π s).Does π tz (terms π s) signer (.genesis payload) (book π (setState π s u)) := by
  obtain ⟨hfirst, hu⟩ := genesis_spec.mp h
  have hsender := isAccountAddress_accountAddress π signer
  obtain ⟨habsent, htotal⟩ : s.get? genesisAddress = none ∧ s.total (tokenWeight π) = 0 := by
    match supplies, hsupplied with
    | [], hsupplied => exact hsupplied
    | [supply], hsupplied =>
        rw [hsupplied.1] at hfirst
        exact absurd rfl hfirst
  have hbalance : (book π s).balance (accountAddress π signer) = 0 := by
    have hle := balanceAt_le_total (s := s) hsender
    rw [book_balance hsender]
    omega
  rw [book_setState hu (by simp [hsender.ne_genesisAddress])
    (by simp [Message.messageClass, Placed, hsender])]
  have heffect : (book π s).Does π tz (terms π s) signer (.genesis payload) _ :=
    .genesis (by simpa [book] using hfirst)
  rw [Book.credit, hbalance, zero_add] at heffect
  simpa [Book.put, genesisStatusAt, habsent] using heffect

theorem does_swapInit {payload : AtomicSwapInitPayload}
    (h : (swapInit π signer payload).run s.get? = .ok u) :
    (book π s).Does π tz (terms π s) signer (.swapInit payload) (book π (setState π s u)) := by
  obtain ⟨hfree, block, createdAt, c, debited, credited, hblock, hcreated, hcommission, hpos,
    hdebited, hcredited, hu⟩ := swapInit_spec.mp h
  have hsender := isAccountAddress_accountAddress π signer
  have hzero := isAccountAddress_zeroAddress π
  have hswap := isSwapAddress_swapAddress π payload.swapId
  have hsz : accountAddress π signer ≠ zeroAddress := accountAddress_ne_zeroAddress signer
  rw [← book_swap hswap] at hfree
  rw [← book_balance hsender, add_assoc] at hdebited
  rw [← book_balance hzero] at hcredited
  rw [book_setState hu (by simp [hswap.ne_account hsender, hswap.ne_account hzero, hsz])
    (by simp [Message.messageClass, Placed, hsender, hzero, hswap])]
  simp only [List.foldl_cons, List.foldl_nil]
  rw [Book.put_account (b := (book π s).put _ (.atomicSwapInfo _)) (pubKeys_accountAt hsender),
    Book.put_account (b := ((book π s).put _ (.atomicSwapInfo _)).setBalance _ _)
      (pubKeys_accountAt hzero),
    Book.setBalance_setBalance (b := (book π s).put _ (.atomicSwapInfo _)) hsz hdebited hcredited]
  exact .swapInit hfree hblock hcreated hcommission hpos (by omega)

theorem does_swapSetLock {payload : AtomicSwapSetSecretLockPayload}
    (h : (swapSetLock π payload).run s.get? = .ok u) :
    (book π s).Does π tz (terms π s) signer (.swapSetLock payload) (book π (setState π s u)) := by
  obtain ⟨w, hw, hopen, hempty, hu⟩ := swapSetLock_spec.mp h
  have hswap := isSwapAddress_swapAddress π payload.swapId
  rw [← book_swap hswap] at hw
  rw [book_setState hu (by simp) (by simp [Message.messageClass, Placed, hswap])]
  exact .swapSetLock hw hopen hempty

theorem does_swapApprove {payload : AtomicSwapApprovePayload}
    (h : (swapApprove π signer payload).run s.get? = .ok u) :
    (book π s).Does π tz (terms π s) signer (.swapApprove payload) (book π (setState π s u)) := by
  obtain ⟨w, hw, hstate, hinitiator, hsender, hlock, hu⟩ := swapApprove_spec.mp h
  have hswap := isSwapAddress_swapAddress π payload.swapId
  rw [← book_swap hswap] at hw
  rw [book_setState hu (by simp) (by simp [Message.messageClass, Placed, hswap])]
  exact .swapApprove hw hstate hinitiator hsender hlock

/-- A payout in the book: the record changes, and an account has the amount more. -/
theorem book_payout {x : Str} {w : AtomicSwapInfo} {balance : UInt64} {n : ℕ}
    (hu : u = .ofList [(a, .atomicSwapInfo w),
      (x, .account { (accountAt π s.get? x).getD {} with balance := balance })])
    (ha : IsSwapAddress π a) (hx : IsAccountAddress π x)
    (hbalance : balance.toNat = balanceAt π s.get? x + n) :
    book π (setState π s u) = ((book π s).credit x n).recordSwap a w := by
  rw [← book_balance hx] at hbalance
  rw [book_setState hu (by simp [ha.ne_account hx])
    (by simp [Message.messageClass, Placed, ha, hx])]
  simp only [List.foldl_cons, List.foldl_nil]
  rw [Book.put_account (b := (book π s).put _ (.atomicSwapInfo _)) (pubKeys_accountAt hx),
    hbalance]
  rfl

theorem does_swapExpire {payload : AtomicSwapExpirePayload}
    (h : (swapExpire π tz signer payload).run s.get? = .ok u) :
    (book π s).Does π tz (terms π s) signer (.swapExpire payload) (book π (setState π s u)) := by
  obtain ⟨w, block, balance, hw, hopen, hsender, hblock, htime, hbalance, hu⟩ :=
    swapExpire_spec.mp h
  have hswap := isSwapAddress_swapAddress π payload.swapId
  rw [book_payout hu hswap (isAccountAddress_accountAddress π signer) hbalance]
  rw [← book_swap hswap] at hw
  exact .swapExpire hw hopen hsender hblock htime

theorem does_swapClose (hsound : Sound π s) {payload : AtomicSwapClosePayload}
    (h : (swapClose π payload).run s.get? = .ok u) :
    (book π s).Does π tz (terms π s) signer (.swapClose payload) (book π (setState π s u)) := by
  obtain ⟨w, balance, hw, hopen, hlock, hhash, happroved, hbalance, hu⟩ := swapClose_spec.mp h
  have hswap := isSwapAddress_swapAddress π payload.swapId
  rw [book_payout hu hswap (.inl (hsound.receiver _ w hswap hw)) hbalance]
  rw [← book_swap hswap] at hw
  exact .swapClose hw hopen hlock hhash happroved

theorem does_revoke (hforeign : π.pb.NoForeignOwner) (hsound : Sound π s)
    (hsigner : IsPublicKey signer) {payload : RevokePubKeyPayload}
    (h : (revokePubKey π signer payload).run s.get? = .ok u) :
    (book π s).Does π tz (terms π s) signer (.revoke payload) (book π (setState π s u)) := by
  obtain ⟨r, hr, howner, hrevoked, hu⟩ := revokePubKey_spec.mp h
  have hkey : IsPubKeyAddress π payload.address := by
    apply hsound.placed.isPubKeyAddress hforeign hr
    rw [howner]
    exact hsigner
  rw [← book_key hkey] at hr
  rw [book_setState hu (by simp) (by simp [Message.messageClass, Placed, hkey])]
  exact .revoke hr howner hrevoked

/-! ## Registrations in the book -/

theorem Book.put_enlisted {m : Account} {p : Str} (h : m.pubKeys = b.pubKeys a) :
    b.put a (.account (storePublicKeyToAccount p m)) =
      (b.setBalance a m.balance.toNat).enlist a p := by
  unfold Book.enlist storePublicKeyToAccount
  rw [h, Book.setBalance_pubKeys]
  by_cases hp : p ∈ b.pubKeys a
  · rw [if_pos hp, if_pos hp]
    exact congrArg (Book.setPubKeys _ a) h
  · rw [if_neg hp, if_neg hp]
    rfl

theorem registers_of_registrable {payload : NewPubKeyPayload} {configuration : Configuration} :
    (book π s).Registers π tz payload configuration ↔
      Registrable π tz s.get? payload configuration := by
  have hkey := isPubKeyAddress_pubKeyAddress π configuration.key
  constructor
  · rintro ⟨hset, hverifies, hfree, hvalidity⟩
    rw [book_key hkey] at hfree
    exact ⟨hset, hverifies, hfree, hvalidity⟩
  · rintro ⟨hset, hverifies, hfree, hvalidity⟩
    rw [← book_key hkey] at hfree
    exact ⟨hset, hverifies, hfree, hvalidity⟩

/-- The two accounts of a charge, in the book. -/
theorem Charged.charges {payer : Str} {debited credited : UInt64}
    (hpayer : IsAccountAddress π payer) (hne : payer ≠ zeroAddress)
    (hon : economyEnabled π s.get? = true)
    (hdebited : debited.toNat + 10 = balanceAt π s.get? payer)
    (hcredited : credited.toNat = balanceAt π s.get? zeroAddress + 10) :
    Book.Charges (terms π s) payer (book π s)
      (((book π s).setBalance payer debited.toNat).setBalance zeroAddress credited.toNat) := by
  rw [← book_balance hpayer] at hdebited
  rw [← book_balance (isAccountAddress_zeroAddress π)] at hcredited
  rw [Book.setBalance_setBalance hne hdebited hcredited]
  refine .paid hon ?_
  change 10 ≤ _
  omega

theorem does_store {payload : NewPubKeyPayload}
    (h : (storePubKey π tz signer payload).run s.get? = .ok u) :
    (book π s).Does π tz (terms π s) signer (.store payload) (book π (setState π s u)) := by
  obtain ⟨configuration, charged, hregistrable, hcharged, hu⟩ := storePubKey_spec.mp h
  have hregisters := registers_of_registrable.mpr hregistrable
  have hsender := isAccountAddress_accountAddress π signer
  have hzero := isAccountAddress_zeroAddress π
  have hkey := isPubKeyAddress_pubKeyAddress π configuration.key
  have hne : accountAddress π signer ≠ pubKeyAddress π configuration.key :=
    (hkey.ne_account hsender).symm
  have hsz : accountAddress π signer ≠ zeroAddress := accountAddress_ne_zeroAddress signer
  have hkz : pubKeyAddress π configuration.key ≠ zeroAddress := hkey.ne_account hzero
  cases charged with
  | none =>
      rw [book_setState (hu.trans (storeUpdates_free hne _ _ _)) (by simp [hne])
        (by simp [Message.messageClass, Placed, hsender, hkey])]
      simp only [List.foldl_cons, List.foldl_nil, Option.getD_none, Dict.get?_empty]
      rw [Book.put_enlisted (pubKeys_accountAt hsender),
        Book.setBalance_balance_eq (balance_accountAt hsender)]
      exact .store hregisters (.free hcharged)
  | some accounts =>
      obtain ⟨hon, debited, credited, hdebited, hcredited, rfl⟩ := hcharged
      rw [book_setState (hu.trans (storeUpdates_charged hne hsz hkz _ _ _ _ _))
        (by simp [hne, hsz, hkz])
        (by simp [Message.messageClass, Placed, hsender, hkey, hzero])]
      simp only [List.foldl_cons, List.foldl_nil, Option.getD_some, get?_ofList_fst hsz]
      rw [Book.put_enlisted (m := ⟨debited, _⟩) (pubKeys_accountAt hsender),
        Book.put_account (b := (((book π s).setBalance _ _).enlist _ _).put _ (.pubKeyStorage _))
          ((pubKeys_accountAt hzero).trans (Book.enlist_pubKeys_of_ne hsz.symm).symm)]
      exact .store hregisters (Charged.charges hsender hsz hon hdebited hcredited)

/-- The dictionary of a STORE_AND_PAY for another account, without a charge. -/
theorem payUpdates_free {owner payer key : Str} (hop : owner ≠ payer) (hok : owner ≠ key)
    (hpk : payer ≠ key) (m m' y r : Message) :
    ((Dict.ofList [(owner, m), (payer, y), (key, r)]).update
        ((Dict.empty : Dict Str Account).mapVals .account)).set owner m' =
      .ofList [(owner, m'), (payer, y), (key, r)] := by
  ext1
  simp [Dict.ofList, Dict.update, Dict.setAll, Dict.set, Dict.assign, Dict.empty, Dict.mapVals, hop,
    hok, hpk]

/-- The dictionary of a STORE_AND_PAY for another account, with a charge. -/
theorem payUpdates_charged {owner payer key zero : Str} (hop : owner ≠ payer) (hok : owner ≠ key)
    (hoz : owner ≠ zero) (hpk : payer ≠ key) (hpz : payer ≠ zero) (hkz : key ≠ zero)
    (m m' x r : Message) (y z : Account) :
    ((Dict.ofList [(owner, m), (payer, x), (key, r)]).update
        ((Dict.ofList [(payer, y), (zero, z)]).mapVals .account)).set owner m' =
      .ofList [(owner, m'), (payer, .account y), (key, r), (zero, .account z)] := by
  ext1
  simp [Dict.ofList, Dict.update, Dict.setAll, Dict.set, Dict.assign, Dict.empty, Dict.mapVals, hop,
    hok, hoz, hpk, hpz, hkz]

theorem does_storeAndPay {payload : NewPubKeyStoreAndPayPayload}
    (hother : accountAddress π payload.owner ≠ accountAddress π signer)
    (h : (storePublicKeyForOther π tz signer payload).run s.get? = .ok u) :
    (book π s).Does π tz (terms π s) signer (.storeAndPay payload) (book π (setState π s u)) := by
  obtain ⟨hsigned, configuration, charged, hregistrable, hcharged, hu⟩ :=
    storePublicKeyForOther_spec.mp h
  have hregisters := registers_of_registrable.mpr hregistrable
  have howner := isAccountAddress_accountAddress π payload.owner
  have hsender := isAccountAddress_accountAddress π signer
  have hzero := isAccountAddress_zeroAddress π
  have hkey := isPubKeyAddress_pubKeyAddress π configuration.key
  have hok : accountAddress π payload.owner ≠ pubKeyAddress π configuration.key :=
    (hkey.ne_account howner).symm
  have hsk : accountAddress π signer ≠ pubKeyAddress π configuration.key :=
    (hkey.ne_account hsender).symm
  have hoz : accountAddress π payload.owner ≠ zeroAddress := accountAddress_ne_zeroAddress _
  have hsz : accountAddress π signer ≠ zeroAddress := accountAddress_ne_zeroAddress signer
  have hkz : pubKeyAddress π configuration.key ≠ zeroAddress := hkey.ne_account hzero
  cases charged with
  | none =>
      rw [book_setState (hu.trans (payUpdates_free hother hok hsk _ _ _ _))
        (by simp [hother, hok, hsk])
        (by simp [Message.messageClass, Placed, howner, hsender, hkey])]
      simp only [List.foldl_cons, List.foldl_nil]
      rw [Book.put_enlisted (pubKeys_accountAt howner),
        Book.setBalance_balance_eq (balance_accountAt howner),
        Book.put_account (b := (book π s).enlist _ _)
          ((pubKeys_accountAt hsender).trans (Book.enlist_pubKeys_of_ne hother.symm).symm),
        Book.setBalance_balance_eq (b := (book π s).enlist _ _) (balance_accountAt hsender)]
      exact .storeAndPay hsigned hregisters (.free hcharged)
  | some accounts =>
      obtain ⟨hon, debited, credited, hdebited, hcredited, rfl⟩ := hcharged
      rw [book_setState (hu.trans (payUpdates_charged hother hok hoz hsk hsz hkz _ _ _ _ _ _))
        (by simp [hother, hok, hoz, hsk, hsz, hkz])
        (by simp [Message.messageClass, Placed, howner, hsender, hkey, hzero])]
      simp only [List.foldl_cons, List.foldl_nil]
      rw [Book.put_enlisted (pubKeys_accountAt howner),
        Book.setBalance_balance_eq (balance_accountAt howner),
        Book.put_account (b := (book π s).enlist _ _)
          ((pubKeys_accountAt hsender).trans (Book.enlist_pubKeys_of_ne hother.symm).symm),
        Book.put_account (b := (((book π s).enlist _ _).setBalance _ _).put _ (.pubKeyStorage _))
          ((pubKeys_accountAt hzero).trans (Book.enlist_pubKeys_of_ne hoz.symm).symm)]
      exact .storeAndPay hsigned hregisters
        (Charged.charges hsender hsz hon hdebited hcredited)

/-! ## What the book does, is accepted -/

theorem Book.Charges.unique {t : Terms} {payer : Str} (h₁ : Charges t payer b b₁)
    (h₂ : Charges t payer b b₂) : b₁ = b₂ := by
  cases h₁ with
  | free hoff =>
      cases h₂ with
      | free => rfl
      | paid hon =>
          rw [hoff] at hon
          cases hon
  | paid hon =>
      cases h₂ with
      | free hoff =>
          rw [hon] at hoff
          cases hoff
      | paid => rfl

theorem Book.Does.unique {t : Terms} (h₁ : b.Does π tz t signer op b₁)
    (h₂ : b.Does π tz t signer op b₂) : b₁ = b₂ := by
  cases h₁ with
  | transfer => cases h₂ with | transfer => rfl
  | genesis => cases h₂ with | genesis => rfl
  | swapInit hfree hblock hcreated hcommission =>
      cases h₂ with
      | swapInit hfree' hblock' hcreated' hcommission' =>
          rw [hblock] at hblock'
          rw [hcommission] at hcommission'
          cases hblock'
          obtain rfl := Int.ofNat.inj (Option.some.inj hcommission')
          obtain rfl := UInt32.toNat_inj.mp (hcreated.trans hcreated'.symm)
          rfl
  | swapSetLock hswap =>
      cases h₂ with
      | swapSetLock hswap' =>
          rw [hswap] at hswap'
          cases hswap'
          rfl
  | swapApprove hswap =>
      cases h₂ with
      | swapApprove hswap' =>
          rw [hswap] at hswap'
          cases hswap'
          rfl
  | swapExpire hswap =>
      cases h₂ with
      | swapExpire hswap' =>
          rw [hswap] at hswap'
          cases hswap'
          rfl
  | swapClose hswap =>
      cases h₂ with
      | swapClose hswap' =>
          rw [hswap] at hswap'
          cases hswap'
          rfl
  | store hregisters hcharges =>
      cases h₂ with
      | store hregisters' hcharges' =>
          obtain rfl := Option.some.inj (hregisters.isSet.symm.trans hregisters'.isSet)
          rw [hcharges.unique hcharges']
  | storeAndPay _ hregisters hcharges =>
      cases h₂ with
      | storeAndPay _ hregisters' hcharges' =>
          obtain rfl := Option.some.inj (hregisters.isSet.symm.trans hregisters'.isSet)
          rw [hcharges.unique hcharges']
  | revoke hkey =>
      cases h₂ with
      | revoke hkey' =>
          rw [hkey] at hkey'
          cases hkey'
          rfl

/-- A move of tokens that the book allows has room in both balances. -/
theorem exists_balances (htotal : s.total (tokenWeight π) < 2 ^ 64) {x : Str} {n k : ℕ}
    (ha : IsAccountAddress π a) (hx : IsAccountAddress π x) (hne : a ≠ x) (hle : k ≤ n)
    (hfunds : n ≤ balanceAt π s.get? a) :
    ∃ debited credited : UInt64, debited.toNat + n = balanceAt π s.get? a ∧
      credited.toNat = balanceAt π s.get? x + k := by
  have hsum := add_balance_le_total (s := s) ha hx hne
  obtain ⟨debited, hdebited⟩ := exists_uint64 (n := balanceAt π s.get? a - n) (by omega)
  obtain ⟨credited, hcredited⟩ := exists_uint64 (n := balanceAt π s.get? x + k) (by omega)
  exact ⟨debited, credited, by omega, hcredited⟩

theorem Book.Charges.chargeOutcome (htotal : s.total (tokenWeight π) < 2 ^ 64)
    (h : Charges (terms π s) (accountAddress π signer) (book π s) b) :
    ∃ charged, ChargeOutcome π s.get? (accountAddress π signer) charged := by
  have hsender := isAccountAddress_accountAddress π signer
  generalize hbook : book π s = b₀ at h
  cases h with
  | free hoff => exact ⟨none, hoff⟩
  | paid hon hfunds =>
      rw [← hbook, book_balance hsender] at hfunds
      obtain ⟨debited, credited, hdebited, hcredited⟩ := exists_balances htotal hsender
        (isAccountAddress_zeroAddress π) (accountAddress_ne_zeroAddress signer) le_rfl hfunds
      exact ⟨some _, hon, debited, credited, hdebited, hcredited, rfl⟩

theorem run_of_does (hsound : Sound π s) (htotal : s.total (tokenWeight π) < 2 ^ 64)
    (h : (book π s).Does π tz (terms π s) signer op b) :
    ∃ u, (op.processor π tz signer).run s.get? = .ok u := by
  have hsender := isAccountAddress_accountAddress π signer
  have hzero := isAccountAddress_zeroAddress π
  have hsz : accountAddress π signer ≠ zeroAddress := accountAddress_ne_zeroAddress signer
  have hswapAddress := isSwapAddress_swapAddress π
  cases h with
  | transfer hvalue hto hother hfunds =>
      rw [book_balance hsender] at hfunds
      obtain ⟨debited, credited, hdebited, hcredited⟩ :=
        exists_balances htotal hsender hto hother le_rfl hfunds
      exact ⟨_, transfer_spec.mpr ⟨_, transferFromAddress_spec.mpr
        ⟨hvalue, hto, hother, debited, credited, hdebited, hcredited, rfl⟩, rfl⟩⟩
  | genesis hfirst => exact ⟨_, genesis_spec.mpr ⟨by simpa [book] using hfirst, rfl⟩⟩
  | swapInit hfree hblock hcreated hcommission hpositive hfunds =>
      rw [book_swap (hswapAddress _)] at hfree
      rw [book_balance hsender] at hfunds
      obtain ⟨debited, credited, hdebited, hcredited⟩ :=
        exists_balances htotal hsender hzero hsz (Nat.le_add_left _ _) hfunds
      rw [← add_assoc] at hdebited
      exact ⟨_, swapInit_spec.mpr ⟨hfree, _, _, _, debited, credited, hblock, hcreated,
        hcommission, hpositive, hdebited, hcredited, rfl⟩⟩
  | swapSetLock hswap hopen hempty =>
      rw [book_swap (hswapAddress _)] at hswap
      exact ⟨_, swapSetLock_spec.mpr ⟨_, hswap, hopen, hempty, rfl⟩⟩
  | swapApprove hswap hstate hinitiator hsame hlock =>
      rw [book_swap (hswapAddress _)] at hswap
      exact ⟨_, swapApprove_spec.mpr ⟨_, hswap, hstate, hinitiator, hsame, hlock, rfl⟩⟩
  | swapExpire hswap hopen hsame hblock htime =>
      rw [book_swap (hswapAddress _)] at hswap
      have hsum := add_escrow_le_total hsender (hswapAddress _) hswap hopen
      obtain ⟨balance, hbalance⟩ := exists_uint64 (hsum.trans_lt htotal)
      exact ⟨_, swapExpire_spec.mpr ⟨_, _, balance, hswap, hopen, hsame, hblock, htime, hbalance,
        rfl⟩⟩
  | swapClose hswap hopen hlock hhash happroved =>
      rw [book_swap (hswapAddress _)] at hswap
      have hreceiver := hsound.receiver _ _ (hswapAddress _) hswap
      have hsum := add_escrow_le_total (.inl hreceiver) (hswapAddress _) hswap hopen
      obtain ⟨balance, hbalance⟩ := exists_uint64 (hsum.trans_lt htotal)
      exact ⟨_, swapClose_spec.mpr ⟨_, balance, hswap, hopen, hlock, hhash, happroved, hbalance,
        rfl⟩⟩
  | store hregisters hcharges =>
      obtain ⟨charged, hcharged⟩ := hcharges.chargeOutcome htotal
      exact ⟨_, storePubKey_spec.mpr
        ⟨_, charged, registers_of_registrable.mp hregisters, hcharged, rfl⟩⟩
  | storeAndPay hsigned hregisters hcharges =>
      obtain ⟨charged, hcharged⟩ := hcharges.chargeOutcome htotal
      exact ⟨_, storePublicKeyForOther_spec.mpr
        ⟨hsigned, _, charged, registers_of_registrable.mp hregisters, hcharged, rfl⟩⟩
  | @revoke payload r hkey howner hrevoked =>
      have haddress : IsPubKeyAddress π payload.address := by
        by_contra hnot
        simp [book, hnot] at hkey
      rw [book_key haddress] at hkey
      exact ⟨_, revokePubKey_spec.mpr ⟨_, hkey, howner, hrevoked, rfl⟩⟩

/-! ## Runs -/

/-- A STORE_AND_PAY is for the key of another account. -/
def Operation.PaysForOther (π : Platform B) (signer : Str) : Operation → Prop
  | .storeAndPay payload => accountAddress π payload.owner ≠ accountAddress π signer
  | _ => True

def Label.PaysForOther (π : Platform B) : Label → Prop
  | .transaction signer op _ => op.PaysForOther π signer
  | .environment => True

theorem storeAndPay_conserves {payload : NewPubKeyStoreAndPayPayload}
    (hother : accountAddress π payload.owner ≠ accountAddress π signer)
    (h : (storePublicKeyForOther π tz signer payload).run s.get? = .ok u) :
    (setState π s u).total (tokenWeight π) = s.total (tokenWeight π) := by
  obtain ⟨-, configuration, charged, -, hcharged, hu⟩ := storePublicKeyForOther_spec.mp h
  have howner := isAccountAddress_accountAddress π payload.owner
  have hsender := isAccountAddress_accountAddress π signer
  have hzero := isAccountAddress_zeroAddress π
  have hkey := isPubKeyAddress_pubKeyAddress π configuration.key
  have hok : accountAddress π payload.owner ≠ pubKeyAddress π configuration.key :=
    (hkey.ne_account howner).symm
  have hsk : accountAddress π signer ≠ pubKeyAddress π configuration.key :=
    (hkey.ne_account hsender).symm
  have hoz : accountAddress π payload.owner ≠ zeroAddress := accountAddress_ne_zeroAddress _
  have hsz : accountAddress π signer ≠ zeroAddress := accountAddress_ne_zeroAddress signer
  have hkz : pubKeyAddress π configuration.key ≠ zeroAddress := hkey.ne_account hzero
  cases charged with
  | none =>
      apply total_eq_of_items (hu.trans (payUpdates_free hother hok hsk _ _ _ _))
        (by simp [hother, hok, hsk])
      simp only [List.map_cons, List.map_nil, List.sum_cons, List.sum_nil, weigh_account howner,
        weigh_account hsender, tokenWeight_account howner, tokenWeight_account hsender,
        weigh_other hkey.weightless.1 hkey.weightless.2,
        tokenWeight_other hkey.weightless.1 hkey.weightless.2, storePublicKeyToAccount_balance]
      rfl
  | some accounts =>
      obtain ⟨-, debited, credited, hdebited, hcredited, rfl⟩ := hcharged
      apply total_eq_of_items
        (hu.trans (payUpdates_charged hother hok hoz hsk hsz hkz _ _ _ _ _ _))
        (by simp [hother, hok, hoz, hsk, hsz, hkz])
      simp only [List.map_cons, List.map_nil, List.sum_cons, List.sum_nil, weigh_account howner,
        weigh_account hsender, weigh_account hzero, tokenWeight_account howner,
        tokenWeight_account hsender, tokenWeight_account hzero,
        weigh_other hkey.weightless.1 hkey.weightless.2,
        tokenWeight_other hkey.weightless.1 hkey.weightless.2, storePublicKeyToAccount_balance,
        balance_eq_balanceAt]
      omega

/-- What the processors rely on: every record in its place, and at most the supply in tokens. -/
structure Kept (π : Platform B) (s : Dict Str B) : Prop where
  sound : Sound π s
  supplied : ∃ supplies, Supplied π s supplies

theorem Kept.total_lt (h : Kept π s) : s.total (tokenWeight π) < 2 ^ 64 := by
  obtain ⟨supplies, hsupplied⟩ := h.supplied
  exact hsupplied.total_lt

theorem Kept.step (hforeign : π.pb.NoForeignOwner) (h : Kept π s)
    (hreceiver : l.ReceiverIsAccount π) (hpays : l.PaysForOther π) (hstep : Step π tz s l s') :
    Kept π s' := by
  refine ⟨h.sound.step hforeign hreceiver hstep, ?_⟩
  obtain ⟨supplies, hsupplied⟩ := h.supplied
  by_cases hpay : l.IsNotStoreAndPay
  · exact ⟨_, hsupplied.step hforeign h.sound hstep hpay⟩
  · cases hstep with
    | environment => exact absurd trivial hpay
    | @transaction signer op u hsigner haccepted =>
        cases op with
        | storeAndPay payload =>
            refine ⟨supplies, hsupplied.conserved ?_
              (storeAndPay_conserves hpays (run_of_apply haccepted))⟩
            exact h.sound.genesis_entry hforeign (.transaction hsigner haccepted) rfl
        | _ => exact absurd id hpay

theorem kept_empty : Kept π Dict.empty := ⟨sound_empty, [], rfl, rfl⟩

/-- An accepted operation is what the book does. -/
theorem Kept.does (hforeign : π.pb.NoForeignOwner) (h : Kept π s) (hsigner : IsPublicKey signer)
    (hpays : op.PaysForOther π signer) (haccepted : op.apply π tz signer s = .ok u) :
    (book π s).Does π tz (terms π s) signer op (book π (setState π s u)) := by
  have hrun := run_of_apply haccepted
  obtain ⟨supplies, hsupplied⟩ := h.supplied
  cases op with
  | transfer payload => exact does_transfer hrun
  | genesis payload => exact does_genesis hsupplied hrun
  | swapInit payload => exact does_swapInit hrun
  | swapApprove payload => exact does_swapApprove hrun
  | swapExpire payload => exact does_swapExpire hrun
  | swapSetLock payload => exact does_swapSetLock hrun
  | swapClose payload => exact does_swapClose h.sound hrun
  | store payload => exact does_store hrun
  | revoke payload => exact does_revoke hforeign h.sound hsigner hrun
  | storeAndPay payload => exact does_storeAndPay hpays hrun

/-- The processors and the book agree on what an operation makes of a state. -/
theorem Kept.accepted_iff_does (hforeign : π.pb.NoForeignOwner) (h : Kept π s)
    (hsigner : IsPublicKey signer) (hpays : op.PaysForOther π signer) :
    (∃ u, op.apply π tz signer s = .ok u ∧ book π (setState π s u) = b) ↔
      op.FormValid ∧ (book π s).Does π tz (terms π s) signer op b := by
  constructor
  · rintro ⟨u, haccepted, rfl⟩
    obtain ⟨result, hvalidate, hvalid, -⟩ := apply_eq_ok.mp haccepted
    exact ⟨⟨result, hvalidate, hvalid⟩, h.does hforeign hsigner hpays haccepted⟩
  · rintro ⟨⟨result, hvalidate, hvalid⟩, hdoes⟩
    obtain ⟨u, hrun⟩ := run_of_does h.sound h.total_lt hdoes
    have haccepted := apply_eq_ok.mpr ⟨result, hvalidate, hvalid, hrun⟩
    exact ⟨u, haccepted, (h.does hforeign hsigner hpays haccepted).unique hdoes⟩

/-- A run begins with the empty book, each of its steps is a step of the book, and in the state
that it reaches the processors accept what the book allows, with the effect that the book says. -/
theorem processors_keep_book (hforeign : π.pb.NoForeignOwner)
    {ts : List (Transition (Dict Str B) Label)} (hrun : LedgerRun π tz ts s)
    (hreceiver : ∀ e ∈ ts, e.label.ReceiverIsAccount π)
    (hpays : ∀ e ∈ ts, e.label.PaysForOther π) :
    book π Dict.empty = .empty ∧
    (∀ e ∈ ts,
      (e.label = .environment → book π e.post = book π e.pre) ∧
      ∀ signer op u, e.label = .transaction signer op u →
        (book π e.pre).Does π tz (terms π e.pre) signer op (book π e.post)) ∧
    ∀ signer op b, IsPublicKey signer → op.PaysForOther π signer →
      ((∃ u, op.apply π tz signer s = .ok u ∧ book π (setState π s u) = b) ↔
        op.FormValid ∧ (book π s).Does π tz (terms π s) signer op b) := by
  have hkeep : ∀ e ∈ ts, Step π tz e.pre e.label e.post → Kept π e.pre → Kept π e.post :=
    fun e he hstep hinv => hinv.step hforeign (hreceiver e he) (hpays e he) hstep
  refine ⟨book_empty, fun e he => ?_, fun signer op b hsigner hother =>
    (hrun.invariant kept_empty hkeep).accepted_iff_does hforeign hsigner hother⟩
  have hinv := hrun.invariant_pre kept_empty hkeep he
  have hstep := hrun.step_of_mem he
  constructor
  · intro hlabel
    rw [hlabel] at hstep
    cases hstep with
    | environment hchange => exact book_environment hchange
  · intro signer op u hlabel
    have hother := hpays e he
    rw [hlabel] at hstep hother
    obtain ⟨hsigner, haccepted, hpost⟩ := hstep.of_transaction
    rw [hpost]
    exact hinv.does hforeign hsigner hother haccepted

/-! ## The book after the sample swap -/

namespace Sample

theorem swapScript_paysForOther :
    ∀ e ∈ transitions swapScript, e.label.PaysForOther platform := by
  apply label_of_play (P := Label.PaysForOther platform)
    (play_eq_transitions swapScript_accepted) trivial
  intro signer op hmem u
  rcases mem_swapScript hmem with ⟨-, rfl⟩ | ⟨-, rfl⟩ | ⟨-, rfl⟩ | ⟨-, rfl⟩ | ⟨-, rfl⟩
  all_goals trivial

/-- The receiver of the closed swap passes its 200 tokens on. -/
def passOn : TransferPayload := { addressTo := accountAddress platform alice, value := 200 }

theorem passOn_allowed :
    (book platform (final swapScript)).Does platform utc (terms platform (final swapScript)) bot
      (.transfer passOn)
      (((book platform (final swapScript)).debit (accountAddress platform bot) 200).credit
        (accountAddress platform alice) 200) := by
  have hfunds : 200 ≤ (book platform (final swapScript)).balance (accountAddress platform bot) := by
    decide +kernel
  exact Book.Does.transfer (by decide)
    (isAccountAddress_accountAddress platform alice) (by decide +kernel) hfunds

theorem processors_keep_book_swapScript :
    ∃ u, (Operation.transfer passOn).apply platform utc bot (final swapScript) = .ok u ∧
      book platform (setState platform (final swapScript) u) =
        ((book platform (final swapScript)).debit (accountAddress platform bot) 200).credit
          (accountAddress platform alice) 200 :=
  ((processors_keep_book noForeignOwner
      (run_of_accepted swapScript_legal swapScript_accepted) swapScript_receivers
      swapScript_paysForOther).2.2 bot (.transfer passOn) _ (by decide +kernel) trivial).mpr
    ⟨formValid_of_any (by decide +kernel), passOn_allowed⟩

end Sample

end Remme.Tp
