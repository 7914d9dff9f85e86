import Remme.Tp.Proofs.Book
/-!
# Auditing the ledger

Every balance can be explained by the accepted transactions, with the terms in
force when each of them was accepted: what they added to the account, less what
they took from it.  The payout of a swap is explained by the transaction that
opened it.  Nothing of the store is needed.
-/

namespace Remme.Tp

open Remme.Lib Remme.Protos Remme.Shared Remme.Settings

/-! ## The log -/

/-- An accepted transaction, with the terms in force. -/
structure LogEntry where
  signer : Str
  op : Operation
  terms : Terms

def LogEntry.commission (e : LogEntry) : ℕ := (e.terms.commission.getD 0).toNat

def LogEntry.price (e : LogEntry) : ℕ :=
  if e.terms.economyEnabled then pubKeyStorePrice.toNat else 0

/-- An amount that concerns the account `b`, in the statement of `a`. -/
def concerning (a b : Str) (n : ℕ) : ℕ := if a = b then n else 0

section Statement

variable {B : Type} (π : Platform B)

/-- The opening of the swap at an address: by whom, and with which payload. -/
def LogEntry.opens (x : Str) (e : LogEntry) : Option (Str × AtomicSwapInitPayload) :=
  match e.op with
  | .swapInit payload =>
      if swapAddress π payload.swapId = x then some (e.signer, payload) else none
  | _ => none

def offer (x : Str) (log : List LogEntry) : Option (Str × AtomicSwapInitPayload) :=
  log.findSome? (LogEntry.opens π x)

/-- What a transaction adds to an account, after the ones before it. -/
def LogEntry.credited (a : Str) (before : List LogEntry) (e : LogEntry) : ℕ :=
  match e.op with
  | .transfer payload => concerning a payload.addressTo payload.value.toNat
  | .genesis payload => concerning a (accountAddress π e.signer) payload.totalSupply.toNat
  | .swapInit _ => concerning a zeroAddress e.commission
  | .swapExpire payload =>
      match offer π (swapAddress π payload.swapId) before with
      | none => 0
      | some (opener, opened) => concerning a (accountAddress π opener) opened.amount.toNat
  | .swapClose payload =>
      match offer π (swapAddress π payload.swapId) before with
      | none => 0
      | some (_, opened) => concerning a opened.receiverAddress opened.amount.toNat
  | .store _ => concerning a zeroAddress e.price
  | .storeAndPay _ => concerning a zeroAddress e.price
  | .swapApprove _ => 0
  | .swapSetLock _ => 0
  | .revoke _ => 0

/-- What a transaction takes from an account. -/
def LogEntry.debited (a : Str) (e : LogEntry) : ℕ :=
  match e.op with
  | .transfer payload => concerning a (accountAddress π e.signer) payload.value.toNat
  | .swapInit payload =>
      concerning a (accountAddress π e.signer) (payload.amount.toNat + e.commission)
  | .store _ => concerning a (accountAddress π e.signer) e.price
  | .storeAndPay _ => concerning a (accountAddress π e.signer) e.price
  | _ => 0

/-- The credits of an account in a log that goes on after `before`. -/
def credits (a : Str) : (before log : List LogEntry) → ℕ
  | _, [] => 0
  | before, e :: log => e.credited π a before + credits a (before ++ [e]) log

def debits (a : Str) (log : List LogEntry) : ℕ := (log.map (LogEntry.debited π a)).sum

theorem credits_concat (a : Str) (before log : List LogEntry) (e : LogEntry) :
    credits π a before (log ++ [e]) =
      credits π a before log + e.credited π a (before ++ log) := by
  induction log generalizing before with
  | nil => simp [credits]
  | cons e' log ih =>
      rw [List.cons_append, credits, credits, ih, List.append_assoc, List.singleton_append]
      omega

theorem debits_concat (a : Str) (log : List LogEntry) (e : LogEntry) :
    debits π a (log ++ [e]) = debits π a log + e.debited π a := by
  simp [debits]

theorem offer_concat (x : Str) (log : List LogEntry) (e : LogEntry) :
    offer π x (log ++ [e]) = (offer π x log).or (e.opens π x) := by
  unfold offer
  rw [List.findSome?_append, List.findSome?_cons, List.findSome?_nil]
  cases e.opens π x <;> rfl

end Statement

/-! ## The book of a log -/

section Audited

variable {B : Type} {π : Platform B} {tz : TimeZone} {log : List LogEntry} {b b' : Book}
  {signer : Str} {op : Operation} {terms : Terms}

variable (π) in
/-- The log explains the balances, and knows how the swaps were opened. -/
structure Audited (log : List LogEntry) (b : Book) : Prop where
  balance : ∀ a, b.balance a + debits π a log = credits π a [] log
  unopened : ∀ x, b.swap x = none → offer π x log = none
  opened : ∀ x w, b.swap x = some w → ∃ opener payload, offer π x log = some (opener, payload) ∧
    w.amount = payload.amount ∧ w.receiverAddress = payload.receiverAddress ∧
    w.senderAddress = accountAddress π opener

/-- A transaction that opens no swap and leaves the terms of the swaps as they are. -/
theorem Audited.concat (h : Audited π log b) {e : LogEntry}
    (hopens : ∀ x, e.opens π x = none)
    (hbalance : ∀ a, b'.balance a + e.debited π a = b.balance a + e.credited π a log)
    (hnone : ∀ x, b'.swap x = none → b.swap x = none)
    (hsome : ∀ x w', b'.swap x = some w' → ∃ w, b.swap x = some w ∧ w'.amount = w.amount ∧
      w'.receiverAddress = w.receiverAddress ∧ w'.senderAddress = w.senderAddress) :
    Audited π (log ++ [e]) b' := by
  have hoffer : ∀ x, offer π x (log ++ [e]) = offer π x log := by
    intro x
    rw [offer_concat, hopens, Option.or_none]
  refine ⟨fun a => ?_, fun x hx => ?_, fun x w' hx => ?_⟩
  · have hold := h.balance a
    have hnew := hbalance a
    rw [debits_concat, credits_concat, List.nil_append]
    omega
  · rw [hoffer]
    exact h.unopened x (hnone x hx)
  · obtain ⟨w, hw, hamount, hreceiver, hsender⟩ := hsome x w' hx
    obtain ⟨opener, payload, ho, hamount', hreceiver', hsender'⟩ := h.opened x w hw
    rw [hoffer]
    exact ⟨opener, payload, ho, hamount.trans hamount', hreceiver.trans hreceiver',
      hsender.trans hsender'⟩

theorem balance_credit {x : Str} {n : ℕ} (a : Str) :
    (b.credit x n).balance a = b.balance a + concerning a x n := by
  unfold Book.credit Book.setBalance concerning
  by_cases hx : a = x
  · simp [hx]
  · simp [hx]

/-- Tokens that leave one account and come in at another. -/
theorem balance_debit_credit {x y : Str} {n k : ℕ} (hfunds : n ≤ b.balance x) (a : Str) :
    ((b.debit x n).credit y k).balance a + concerning a x n =
      b.balance a + concerning a y k := by
  have hdebit : (b.debit x n).balance a + concerning a x n = b.balance a := by
    unfold Book.debit Book.setBalance concerning
    rcases eq_or_ne a x with rfl | hne
    · simp [hfunds]
    · simp [hne]
  have hcredit := balance_credit (b := b.debit x n) (x := y) (n := k) a
  omega

/-- A swap that was opened is recorded again, with the same parties and the same amount. -/
theorem Audited.recorded (h : Audited π log b) {e : LogEntry} {x₀ : Str} {w₀ w₁ : AtomicSwapInfo}
    (hswap : b'.swap = Function.update b.swap x₀ (some w₁)) (hold : b.swap x₀ = some w₀)
    (hterms : w₁.amount = w₀.amount ∧ w₁.receiverAddress = w₀.receiverAddress ∧
      w₁.senderAddress = w₀.senderAddress) (hopens : ∀ x, e.opens π x = none)
    (hbalance : ∀ a, b'.balance a + e.debited π a = b.balance a + e.credited π a log) :
    Audited π (log ++ [e]) b' := by
  refine h.concat hopens hbalance (fun x hx => ?_) fun x w' hx => ?_
  · rw [hswap] at hx
    rcases eq_or_ne x x₀ with rfl | hne
    · rw [Function.update_self] at hx
      cases hx
    · rwa [Function.update_of_ne hne] at hx
  · rw [hswap] at hx
    rcases eq_or_ne x x₀ with rfl | hne
    · rw [Function.update_self] at hx
      cases hx
      exact ⟨w₀, hold, hterms⟩
    · rw [Function.update_of_ne hne] at hx
      exact ⟨w', hx, rfl, rfl, rfl⟩

/-- The price of a key. -/
theorem balance_charged {payer : Str} (h : Book.Charges terms payer b b') (e : LogEntry)
    (hterms : e.terms = terms) (a : Str) :
    b'.balance a + concerning a payer e.price = b.balance a + concerning a zeroAddress e.price := by
  unfold LogEntry.price
  rw [hterms]
  cases h with
  | free hoff => simp [hoff, concerning]
  | paid hon hfunds =>
      simp only [hon, if_true]
      exact balance_debit_credit hfunds a

theorem swap_charged {payer : Str} (h : Book.Charges terms payer b b') : b'.swap = b.swap := by
  cases h <;> rfl

theorem Audited.charged (h : Audited π log b) {b₁ : Book}
    (hcharges : Book.Charges terms (accountAddress π signer) b b₁)
    (hop : (∃ payload, op = .store payload) ∨ ∃ payload, op = .storeAndPay payload)
    (hbalance : b'.balance = b₁.balance) (hswap : b'.swap = b₁.swap) :
    Audited π (log ++ [⟨signer, op, terms⟩]) b' := by
  have hcharged := balance_charged hcharges ⟨signer, op, terms⟩ rfl
  have hsame : b'.swap = b.swap := hswap.trans (swap_charged hcharges)
  apply h.concat
  · intro x
    rcases hop with ⟨payload, rfl⟩ | ⟨payload, rfl⟩ <;> rfl
  · intro a
    rw [hbalance]
    rcases hop with ⟨payload, rfl⟩ | ⟨payload, rfl⟩ <;> exact hcharged a
  · intro x hx
    rwa [hsame] at hx
  · intro x w' hx
    rw [hsame] at hx
    exact ⟨w', hx, rfl, rfl, rfl⟩

theorem Audited.opens_swap (h : Audited π log b) {payload : AtomicSwapInitPayload}
    {createdAt : UInt32} {c : ℕ} (hfree : b.swap (swapAddress π payload.swapId) = none)
    (hcommission : terms.commission = some (c : ℤ))
    (hfunds : payload.amount.toNat + c ≤ b.balance (accountAddress π signer)) :
    Audited π (log ++ [⟨signer, .swapInit payload, terms⟩])
      (((b.debit (accountAddress π signer) (payload.amount.toNat + c)).credit zeroAddress
        c).recordSwap (swapAddress π payload.swapId) (openedSwap π signer payload createdAt)) := by
  have hc : LogEntry.commission ⟨signer, .swapInit payload, terms⟩ = c := by
    unfold LogEntry.commission
    rw [hcommission]
    rfl
  have hopens : ∀ x, LogEntry.opens π x ⟨signer, .swapInit payload, terms⟩ =
      if swapAddress π payload.swapId = x then some (signer, payload) else none := fun _ => rfl
  refine ⟨fun a => ?_, fun x hx => ?_, fun x w hx => ?_⟩
  · have hold := h.balance a
    have hnew := balance_debit_credit (y := zeroAddress) (k := c) hfunds a
    rw [debits_concat, credits_concat, List.nil_append]
    change ((b.debit (accountAddress π signer) (payload.amount.toNat + c)).credit zeroAddress
        c).balance a + (debits π a log + concerning a (accountAddress π signer)
          (payload.amount.toNat + LogEntry.commission ⟨signer, .swapInit payload, terms⟩)) =
      credits π a [] log +
        concerning a zeroAddress (LogEntry.commission ⟨signer, .swapInit payload, terms⟩)
    rw [hc]
    omega
  · change Function.update b.swap _ _ x = none at hx
    rw [offer_concat, hopens]
    rcases eq_or_ne x (swapAddress π payload.swapId) with rfl | hne
    · rw [Function.update_self] at hx
      cases hx
    · rw [Function.update_of_ne hne] at hx
      rw [h.unopened x hx, if_neg (Ne.symm hne)]
      rfl
  · change Function.update b.swap _ _ x = some w at hx
    rw [offer_concat, hopens]
    rcases eq_or_ne x (swapAddress π payload.swapId) with rfl | hne
    · rw [Function.update_self] at hx
      cases hx
      rw [h.unopened _ hfree, if_pos rfl]
      exact ⟨signer, payload, rfl, rfl, rfl, rfl⟩
    · rw [Function.update_of_ne hne] at hx
      obtain ⟨opener, opened, ho, hterms⟩ := h.opened x w hx
      rw [ho]
      exact ⟨opener, opened, rfl, hterms⟩

/-- What the book does, the log explains. -/
theorem Audited.step (h : Audited π log b) (hdoes : b.Does π tz terms signer op b') :
    Audited π (log ++ [⟨signer, op, terms⟩]) b' := by
  have hkept : ∀ x w, b.swap x = some w → ∃ w', b.swap x = some w' ∧ w.amount = w'.amount ∧
      w.receiverAddress = w'.receiverAddress ∧ w.senderAddress = w'.senderAddress :=
    fun x w hw => ⟨w, hw, rfl, rfl, rfl⟩
  cases hdoes with
  | transfer hvalue hto hother hfunds =>
      exact h.concat (fun _ => rfl) (balance_debit_credit hfunds) (fun _ hx => hx) hkept
  | genesis hfirst => exact h.concat (fun _ => rfl) balance_credit (fun _ hx => hx) hkept
  | swapInit hfree hblock hcreated hcommission hpositive hfunds =>
      exact h.opens_swap hfree hcommission hfunds
  | swapSetLock hswap hopen hempty =>
      exact h.recorded rfl hswap ⟨rfl, rfl, rfl⟩ (fun _ => rfl) fun _ => rfl
  | swapApprove hswap hstate hinitiator hsender hlock =>
      exact h.recorded rfl hswap ⟨rfl, rfl, rfl⟩ (fun _ => rfl) fun _ => rfl
  | @swapExpire payload w block hswap hopen hsender hblock htime =>
      obtain ⟨opener, opened, ho, hamount, -, hsender'⟩ := h.opened _ w hswap
      refine h.recorded rfl hswap ⟨rfl, rfl, rfl⟩ (fun _ => rfl) fun a => ?_
      unfold LogEntry.credited
      simp only [ho]
      rw [← hsender', ← hamount, hsender]
      exact balance_credit a
  | @swapClose payload w hswap hopen hlock hhash happroved =>
      obtain ⟨opener, opened, ho, hamount, hreceiver, -⟩ := h.opened _ w hswap
      refine h.recorded rfl hswap ⟨rfl, rfl, rfl⟩ (fun _ => rfl) fun a => ?_
      unfold LogEntry.credited
      simp only [ho]
      rw [← hreceiver, ← hamount]
      exact balance_credit a
  | store hregisters hcharges => exact h.charged hcharges (.inl ⟨_, rfl⟩) rfl rfl
  | storeAndPay hsigned hregisters hcharges => exact h.charged hcharges (.inr ⟨_, rfl⟩) rfl rfl
  | revoke hkey howner hrevoked =>
      exact h.concat (fun _ => rfl) (fun _ => rfl) (fun _ hx => hx) hkept

end Audited

/-! ## The log of a run -/

section Runs

variable {B : Type} {π : Platform B} {tz : TimeZone} {s : Dict Str B}
  {ts : List (Transition (Dict Str B) Label)}

variable (π) in
def logEntry (e : Transition (Dict Str B) Label) : Option LogEntry :=
  match e.label with
  | .transaction signer op _ => some { signer := signer, op := op, terms := terms π e.pre }
  | .environment => none

variable (π) in
/-- The accepted transactions of a run, in their order. -/
def ledgerLog (ts : List (Transition (Dict Str B) Label)) : List LogEntry :=
  ts.filterMap (logEntry π)

theorem audited_empty : Audited π [] Book.empty where
  balance := fun _ => rfl
  unopened := fun _ _ => rfl
  opened := fun _ _ h => by cases h

theorem audited_of_run (hforeign : π.pb.NoForeignOwner) (hrun : LedgerRun π tz ts s)
    (hreceiver : ∀ e ∈ ts, e.label.ReceiverIsAccount π)
    (hpays : ∀ e ∈ ts, e.label.PaysForOther π) : Audited π (ledgerLog π ts) (book π s) := by
  suffices hboth : Kept π s ∧ Audited π (ledgerLog π ts) (book π s) from hboth.2
  apply hrun.history (P := fun ts s => Kept π s ∧ Audited π (ledgerLog π ts) (book π s))
  · refine ⟨kept_empty, ?_⟩
    rw [book_empty]
    exact audited_empty
  · rintro xs e ys heq hstep ⟨hkept, haudited⟩
    have he : e ∈ ts := by simp [heq]
    have hrec := hreceiver e he
    have hpay := hpays e he
    refine ⟨hkept.step hforeign hrec hpay hstep, ?_⟩
    obtain ⟨pre, label, post⟩ := e
    simp only at hstep hrec hpay hkept haudited ⊢
    cases hstep with
    | environment hchange =>
        have hlog : ledgerLog π (xs ++ [⟨pre, .environment, post⟩]) = ledgerLog π xs := by
          simp [ledgerLog, logEntry]
        rw [hlog, book_environment hchange]
        exact haudited
    | @transaction signer op u hsigner haccepted =>
        have hlog : ledgerLog π (xs ++ [⟨pre, .transaction signer op u, setState π pre u⟩]) =
            ledgerLog π xs ++ [⟨signer, op, terms π pre⟩] := by
          simp [ledgerLog, logEntry]
        rw [hlog]
        exact haudited.step (hkept.does hforeign hsigner hpay haccepted)

/-- After every run the balance of each account is what the accepted transactions added to it,
less what they took from it; nothing is ever taken from the zero address. -/
theorem balances_audited (hforeign : π.pb.NoForeignOwner) (hrun : LedgerRun π tz ts s)
    (hreceiver : ∀ e ∈ ts, e.label.ReceiverIsAccount π)
    (hpays : ∀ e ∈ ts, e.label.PaysForOther π) :
    (∀ a, IsAccountAddress π a →
      balanceAt π s.get? a + debits π a (ledgerLog π ts) = credits π a [] (ledgerLog π ts)) ∧
    debits π zeroAddress (ledgerLog π ts) = 0 := by
  constructor
  · intro a ha
    rw [← book_balance ha]
    exact (audited_of_run hforeign hrun hreceiver hpays).balance a
  · apply List.sum_eq_zero
    intro n hn
    obtain ⟨e, -, rfl⟩ := List.mem_map.mp hn
    have hne : zeroAddress ≠ accountAddress π e.signer := (accountAddress_ne_zeroAddress _).symm
    unfold LogEntry.debited concerning
    cases e.op <;> simp [hne]

end Runs

/-! ## The statement of the sample swap -/

namespace Sample

theorem balances_audited_swapScript :
    balanceAt platform (final swapScript).get? (accountAddress platform bot) = 200 := by
  have hdebits : debits platform (accountAddress platform bot)
      (ledgerLog platform (transitions swapScript)) = 0 := by decide +kernel
  have hcredits : credits platform (accountAddress platform bot) []
      (ledgerLog platform (transitions swapScript)) = 200 := by decide +kernel
  have hstatement := (balances_audited noForeignOwner
    (run_of_accepted swapScript_legal swapScript_accepted) swapScript_receivers
    swapScript_paysForOther).1 (accountAddress platform bot)
    (isAccountAddress_accountAddress platform bot)
  omega

end Sample

end Remme.Tp
