import VtsaCsms.Foundation.Runs
import VtsaCsms.Payments.QrTopups

/-!
# Top-up credits

A paid top-up and the wallet's entry for it come and stay together, whatever order the calls'
statements run in.
-/
namespace VtsaCsms.Payments
open Foundation Foundation.Action Billing

/-- The entry is the credit of a top-up. -/
def Credits (reference : String) (e : PrepaidEntry) : Prop := e.referenceId = reference ∧ e.kind = .topup

/-- The wallet holds one top-up entry for the reference. -/
def HoldsOne (w : Wallet) (reference : String) : Prop :=
  ∃ k e, w.entries.get? k = some e ∧ Credits reference e ∧
    ∀ k' e', w.entries.get? k' = some e' → Credits reference e' → k' = k

/-- A top-up is paid exactly when the wallet holds one entry for it, and that of its amount. -/
def CreditedOnce (s : Topups) : Prop :=
  ∀ id row, s.rows.get? id = some row →
    (row.status = .paid ↔ HoldsOne s.wallet id) ∧
    ∀ k e, s.wallet.entries.get? k = some e → Credits id e → e.amountMinor = row.amountMinor

/-- What every step keeps. A simulated order is never paid by these calls: that is what lets the
unguarded write of `create` alone. -/
structure Sound (s : Topups) : Prop where
  live : ∀ id row, s.rows.get? id = some row → row.status = .paid → row.book = "live"
  pesos : ∀ id row, s.rows.get? id = some row → row.currency = "PHP"
  held : ∀ id row, s.rows.get? id = some row → row.status = .paid → HoldsOne s.wallet id
  owned : ∀ k e, s.wallet.entries.get? k = some e → e.kind = .topup → ∃ row,
    s.rows.get? e.referenceId = some row ∧ row.status = .paid ∧ row.amountMinor = e.amountMinor
  ordered : ∀ call id book, s.calls.get? call = some (.ordered id book) →
    ∃ row, s.rows.get? id = some row ∧ row.book = book

variable {s s' s₁ s₂ : Topups} {env : TopupEnvironment} {topup : String} {row : QrTopup}

theorem Sound.creditedOnce (sound : Sound s) : CreditedOnce s := by
  intro id row stored
  have own : ∀ k e, s.wallet.entries.get? k = some e → Credits id e →
      row.status = .paid ∧ e.amountMinor = row.amountMinor := by
    rintro k e entry ⟨here, kind⟩
    obtain ⟨row', stored', paid, amount⟩ := sound.owned k e entry kind
    rw [here, stored] at stored'
    cases stored'
    exact ⟨paid, amount.symm⟩
  refine ⟨⟨sound.held id row stored, ?_⟩, fun k e entry credits => (own k e entry credits).2⟩
  rintro ⟨k, e, entry, credits, -⟩
  exact (own k e entry credits).1

/-! ### Steps that credit nothing -/

/-- What a top-up is for is as before, and so is whether it is paid. -/
structure SameOrder (row row' : QrTopup) : Prop where
  book : row'.book = row.book
  currency : row'.currency = row.currency
  amount : row'.amountMinor = row.amountMinor
  paid : row'.status = .paid ↔ row.status = .paid

/-- The wallet is as it was, no order is lost or paid, and new ones are not paid. -/
structure Retouched (s s' : Topups) : Prop where
  wallet : s'.wallet = s.wallet
  kept : ∀ id row, s.rows.get? id = some row → ∃ row', s'.rows.get? id = some row' ∧ SameOrder row row'
  new : ∀ id row, s'.rows.get? id = some row → s.rows.get? id = none →
    row.status ≠ .paid ∧ row.currency = "PHP"
  calls : ∀ call id book, s'.calls.get? call = some (.ordered id book) →
    s.calls.get? call = some (.ordered id book) ∨ ∃ row, s'.rows.get? id = some row ∧ row.book = book

namespace Retouched

theorem of_rows (rows : s'.rows = s.rows) (wallet : s'.wallet = s.wallet)
    (calls : ∀ call id book, s'.calls.get? call = some (.ordered id book) →
      s.calls.get? call = some (.ordered id book) ∨ ∃ row, s'.rows.get? id = some row ∧ row.book = book) :
    Retouched s s' where
  wallet := wallet
  kept := fun id row stored => ⟨row, by rw [rows, stored], rfl, rfl, rfl, Iff.rfl⟩
  new := fun id row stored fresh => by
    rw [rows, fresh] at stored
    contradiction
  calls := calls

theorem refl (s : Topups) : Retouched s s := of_rows rfl rfl fun _ _ _ waiting => Or.inl waiting

theorem before (retouched : Retouched s s') (stored : s'.rows.get? topup = some row) :
    (s.rows.get? topup = none ∧ row.status ≠ .paid ∧ row.currency = "PHP") ∨
      ∃ old, s.rows.get? topup = some old ∧ SameOrder old row := by
  cases old : s.rows.get? topup with
  | none => exact Or.inl ⟨rfl, retouched.new topup row stored old⟩
  | some row₀ =>
    obtain ⟨row', stored', same⟩ := retouched.kept topup row₀ old
    rw [stored] at stored'
    cases stored'
    exact Or.inr ⟨row₀, rfl, same⟩

theorem trans (first : Retouched s s₁) (second : Retouched s₁ s₂) : Retouched s s₂ where
  wallet := second.wallet.trans first.wallet
  kept := by
    intro id row stored
    obtain ⟨row₁, stored₁, same₁⟩ := first.kept id row stored
    obtain ⟨row₂, stored₂, same₂⟩ := second.kept id row₁ stored₁
    exact ⟨row₂, stored₂, same₂.book.trans same₁.book, same₂.currency.trans same₁.currency,
      same₂.amount.trans same₁.amount, same₂.paid.trans same₁.paid⟩
  new := by
    intro id row stored fresh
    rcases second.before stored with ⟨-, new⟩ | ⟨old, stored₁, same⟩
    · exact new
    · have new := first.new id old stored₁ fresh
      exact ⟨fun paid => new.1 (same.paid.mp paid), same.currency.trans new.2⟩
  calls := by
    intro call id book waiting
    rcases second.calls call id book waiting with earlier | placed
    · rcases first.calls call id book earlier with first' | ⟨row, stored, here⟩
      · exact Or.inl first'
      · obtain ⟨row', stored', same⟩ := second.kept id row stored
        exact Or.inr ⟨row', stored', same.book.trans here⟩
    · exact Or.inr placed

theorem sound (sound : Sound s) (retouched : Retouched s s') : Sound s' where
  live := by
    intro id row stored paid
    rcases retouched.before stored with ⟨-, unpaid, -⟩ | ⟨old, stored₀, same⟩
    · exact absurd paid unpaid
    · exact same.book.trans (sound.live id old stored₀ (same.paid.mp paid))
  pesos := by
    intro id row stored
    rcases retouched.before stored with ⟨-, -, pesos⟩ | ⟨old, stored₀, same⟩
    · exact pesos
    · exact same.currency.trans (sound.pesos id old stored₀)
  held := by
    intro id row stored paid
    rw [retouched.wallet]
    rcases retouched.before stored with ⟨-, unpaid, -⟩ | ⟨old, stored₀, same⟩
    · exact absurd paid unpaid
    · exact sound.held id old stored₀ (same.paid.mp paid)
  owned := by
    intro k e entry kind
    rw [retouched.wallet] at entry
    obtain ⟨row, stored, paid, amount⟩ := sound.owned k e entry kind
    obtain ⟨row', stored', same⟩ := retouched.kept _ row stored
    exact ⟨row', stored', same.paid.mpr paid, same.amount.trans amount⟩
  ordered := by
    intro call id book waiting
    rcases retouched.calls call id book waiting with earlier | placed
    · obtain ⟨row, stored, here⟩ := sound.ordered call id book earlier
      obtain ⟨row', stored', same⟩ := retouched.kept id row stored
      exact ⟨row', stored', same.book.trans here⟩
    · exact placed

theorem rewritten {p : String → QrTopup → Bool} {f : QrTopup → QrTopup}
    (same : ∀ id row, s.rows.get? id = some row → p id row = true → SameOrder row (f row)) :
    Retouched s { s with rows := s.rows.updateWhere p f } where
  wallet := rfl
  kept := by
    intro id row stored
    show ∃ row', (s.rows.updateWhere p f).get? id = some row' ∧ SameOrder row row'
    rw [Table.get?_updateWhere, stored, Option.map_some]
    refine ⟨_, rfl, ?_⟩
    split
    · rename_i touched
      exact same id row stored touched
    · exact ⟨rfl, rfl, rfl, Iff.rfl⟩
  new := by
    intro id row stored fresh
    rw [Table.get?_updateWhere, fresh] at stored
    contradiction
  calls := fun _ _ _ waiting => Or.inl waiting

theorem saved {f : QrTopup → QrTopup} (unpaid : ∀ row, s.rows.get? topup = some row → row.status ≠ .paid)
    (stays : ∀ row, (f row).status ≠ .paid ∧ (f row).book = row.book ∧ (f row).currency = row.currency ∧
      (f row).amountMinor = row.amountMinor) : Retouched s { s with rows := s.rows.update topup f } := by
  refine rewritten (s := s) (f := f) fun k row stored here => ?_
  obtain rfl := of_decide_eq_true here
  obtain ⟨status, book, currency, amount⟩ := stays row
  exact ⟨book, currency, amount, iff_of_false status (unpaid row stored)⟩

theorem of_call_ended (call : Nat) :
    Retouched s { s with calls := s.calls.removeWhere fun k _ => k = call } :=
  of_rows rfl rfl fun _ _ _ waiting => Or.inl (Table.get?_removeWhere_some waiting)

theorem of_stage (call : Nat) (stage : CreateStage) (waits : ∀ id book, stage ≠ .ordered id book) :
    Retouched s { s with calls := s.calls.put call stage } := by
  refine of_rows rfl rfl fun k id book waiting => Or.inl ?_
  rw [Table.get?_put] at waiting
  split at waiting
  · exact absurd (Option.some.inj waiting) (waits id book)
  · exact waiting

end Retouched

namespace QrTopups

theorem requireFunding_keeps (subject : String) (accountId : Option String) :
    Keeps id (requireFunding env subject accountId) := by
  cases accountId with
  | none => exact keeps_pure _
  | some => exact keeps_lift _

theorem create_retouched {subject key : String} {amount : Int} {accountId : Option String} :
    Retouched s (after (create env subject amount key accountId) s) := by
  apply after_silent_bind (keeps_lift _) (.refl s)
  intro book
  apply after_silent_bind (keeps_lift _) (.refl s)
  intro _
  apply after_silent_bind (requireFunding_keeps _ _) (.refl s)
  intro _
  apply after_silent_bind (keeps_read _) (.refl s)
  intro existing
  cases existing with
  | some =>
    rw [after_throwIf_only]
    exact .refl s
  | none =>
    apply after_silent_bind (keeps_throwIf _ _) (.refl s)
    intro _
    apply after_silent_bind (keeps_throwIf _ _) (.refl s)
    intro _
    refine .of_rows rfl rfl fun call id book waiting => Or.inl ?_
    rcases Table.get?_create_cases waiting with ⟨-, new⟩ | old
    · cases new
    · exact old

theorem order_returns {newId subject book key : String} {amount : Int} {accountId created : Option String}
    (success : Returns (order env newId subject book amount key accountId) s created s') :
    (created = none ∧ s' = s) ∨ (created = some newId ∧ s.rows.get? newId = none ∧
      ∃ row : QrTopup, row.status = .creating ∧ row.currency = "PHP" ∧ row.book = book ∧
        s' = { s with rows := s.rows.put newId row }) := by
  unfold order at success
  simp only [returns_transaction, returns_bind, returns_read] at success
  obtain ⟨found, _, ⟨-, rfl⟩, success⟩ := success
  cases found with
  | some =>
    simp only [returns_bind, returns_throwIf, returns_pure] at success
    obtain ⟨_, _, ⟨-, rfl⟩, none', same⟩ := success
    exact Or.inl ⟨none', same⟩
  | none =>
    simp only [returns_bind, returns_read, returns_throwIf, returns_write, returns_pure] at success
    obtain ⟨taken, _, ⟨rfl, rfl⟩, _, _, ⟨free, rfl⟩, _, _, ⟨-, rfl⟩, _, _, rfl, rfl, rfl⟩ := success
    refine Or.inr ⟨rfl, ?_, _, rfl, rfl, rfl, rfl⟩
    simpa using free

theorem ordered_retouched {newId : String} {new : QrTopup} (call : Nat) (fresh : s.rows.get? newId = none)
    (status : new.status = .creating) (pesos : new.currency = "PHP") :
    Retouched s { s with rows := s.rows.put newId new, calls := s.calls.put call (.ordered newId new.book) } where
  wallet := rfl
  kept := by
    intro id row stored
    refine ⟨row, ?_, rfl, rfl, rfl, Iff.rfl⟩
    show (s.rows.put newId new).get? id = some row
    rw [Table.get?_put, if_neg, stored]
    rintro rfl
    rw [fresh] at stored
    contradiction
  new := by
    intro id row stored absent
    rw [Table.get?_put] at stored
    split at stored
    · cases stored
      exact ⟨by simp [status], pesos⟩
    · rw [absent] at stored
      contradiction
  calls := by
    intro k id book waiting
    rw [Table.get?_put] at waiting
    split at waiting
    · cases waiting
      refine Or.inr ⟨new, ?_, rfl⟩
      show (s.rows.put newId new).get? newId = some new
      rw [Table.get?_put, if_pos rfl]
    · exact Or.inl waiting

theorem saveTopup_returns {f : QrTopup → QrTopup} {u : Unit} :
    Returns (saveTopup topup f) s u s' ↔ s' = { s with rows := s.rows.update topup f } := by
  unfold saveTopup
  rw [returns_write]

theorem answered_retouched {answer : Except TopupFailure Fields} {u : Unit}
    (success : Returns (answered env topup answer) s u s') : Retouched s s' := by
  unfold answered at success
  simp only [returns_transaction, returns_bind, returns_read, returns_lift, returns_orThrow] at success
  obtain ⟨result, s, ⟨-, rfl⟩, found, s, ⟨rfl, rfl⟩, row, s, ⟨stored, rfl⟩, success⟩ := success
  split at success
  · rw [returns_pure] at success
    rw [success.2]
    exact .refl _
  · rename_i unpaid
    have own : ∀ row', s.rows.get? topup = some row' → row'.status ≠ .paid := by
      intro row' stored'
      rw [stored] at stored'
      cases stored'
      exact unpaid
    split at success
    · rw [saveTopup_returns] at success
      rw [success]
      exact .saved own fun _ => ⟨by simp, rfl, rfl, rfl⟩
    · rw [returns_bind] at success
      obtain ⟨_, s₁, kept, success⟩ := success
      -- the invoice may be saved before the other fields are looked at
      have invoiced : Retouched s s₁ ∧ ∀ row', s₁.rows.get? topup = some row' → row'.status ≠ .paid := by
        rw [returns_doIf, saveTopup_returns] at kept
        rcases kept with ⟨-, rfl⟩ | ⟨-, rfl⟩
        · refine ⟨?_, ?_⟩
          · refine .rewritten fun id row' stored' here => ?_
            exact ⟨rfl, rfl, rfl, Iff.rfl⟩
          · intro row' stored'
            rw [Table.get?_update_self, stored, Option.map_some] at stored'
            cases stored'
            exact unpaid
        · exact ⟨.refl _, own⟩
      split at success
      · rw [saveTopup_returns] at success
        rw [success]
        exact invoiced.1.trans (.saved invoiced.2 fun _ => ⟨by simp, rfl, rfl, rfl⟩)
      · rw [returns_bind] at success
        obtain ⟨expiry, _, parsed, success⟩ := success
        rw [returns_orThrow] at parsed
        obtain ⟨-, rfl⟩ := parsed
        rw [saveTopup_returns] at success
        rw [success]
        exact invoiced.1.trans (.saved invoiced.2 fun _ => ⟨by simp, rfl, rfl, rfl⟩)

theorem answered_atomic (answer : Except TopupFailure Fields) : Atomic (answered env topup answer) := by
  apply (atomic_lift _).bind
  · intro s a s' success
    rw [returns_lift] at success
    exact success.2
  · intro _
    exact atomic_transaction _

theorem proceed_retouched (sound : Sound s) (call : Nat) (newId : String) (answer : Except TopupFailure Fields) :
    Retouched s (after (proceed env call newId answer) s) := by
  unfold proceed
  rw [after_read]
  cases stage : s.calls.get? call with
  | none => exact .refl s
  | some stage' =>
    cases stage' with
    | checked =>
      have ended : Retouched s _ := .of_call_ended call
      refine after_bind (atomic_transaction _) ended fun created s₁ success => ?_
      rcases order_returns success with ⟨rfl, rfl⟩ | ⟨rfl, fresh, row, status, pesos, rfl, rfl⟩
      · exact ended
      · exact ended.trans (ordered_retouched call fresh status pesos)
    | ordered id book =>
      simp only
      split
      · rename_i simulated
        subst simulated
        have unpaid : ∀ row, s.rows.get? id = some row → row.status ≠ .paid := by
          intro row stored paid
          obtain ⟨row', stored', book⟩ := sound.ordered call id _ stage
          rw [stored] at stored'
          cases stored'
          have live := sound.live id row stored paid
          rw [live] at book
          simp at book
        exact (Retouched.of_call_ended call).trans
          (.saved (s := { s with calls := _ }) unpaid fun _ => ⟨by simp, rfl, rfl, rfl⟩)
      · have waiting : Retouched s _ := .of_stage call (.failing id) (by intro _ _; simp)
        refine after_bind (answered_atomic _) waiting fun _ s₁ success => ?_
        exact (waiting.trans (answered_retouched success)).trans (.of_call_ended call)
    | failing =>
      refine (Retouched.of_call_ended call).trans (.rewritten (s := { s with calls := _ }) ?_)
      intro k row stored here
      have creating : row.status = .creating := by
        simp only [Bool.and_eq_true, decide_eq_true_eq] at here
        exact here.2
      exact ⟨rfl, rfl, rfl, by simp [creating]⟩

theorem reconcile_retouched {loaded : QrTopup} {answer : Except TopupFailure Fields} :
    Retouched s (after (reconcile topup loaded answer) s) := by
  unfold reconcile
  split
  · exact .refl s
  · cases answer with
    | error => exact .refl s
    | ok =>
      refine .rewritten fun k row stored here => ?_
      have unpaid : row.status ≠ .paid := by
        simp only [Bool.and_eq_true, decide_eq_true_eq] at here
        exact here.2
      exact ⟨rfl, rfl, rfl, by simp [unpaid]⟩

end QrTopups

/-! ### Confirmed payments and other wallet operations -/

theorem onWallet_returns {m : Action Wallet Throwable Unit} {u : Unit} :
    Returns (onWallet m) s u s' ↔ ∃ w, Returns m s.wallet u w ∧ s' = { s with wallet := w } := by
  unfold Returns onWallet
  rcases run : m s.wallet with ⟨out, w⟩
  cases out with
  | ok =>
    constructor
    · intro same
      cases same
      exact ⟨w, rfl, rfl⟩
    · rintro ⟨w', same, rfl⟩
      cases same
      rfl
  | error =>
    constructor
    · intro same
      cases same
    · rintro ⟨w', same, -⟩
      cases same

variable {w w' : Wallet}

theorem opened_entries {subject book : String} {accountId : Option String} {key : Nat}
    {account : PrepaidAccount} (isOpen : PrepaidWallet.Opened subject book accountId w w' key account) :
    w'.entries = w.entries := by
  obtain ⟨rfl, -⟩ | ⟨-, -, -, -, rfl⟩ := isOpen.rows <;> rfl

theorem credit_entries {subject book reference : String} {amount : Int} {accountId : Option String} {u : Unit}
    (success : Returns (PrepaidWallet.credit subject book reference amount accountId) w u w')
    (fresh : ∀ k e, w.entries.get? k = some e → ¬ Credits reference e) :
    ∃ key, w'.entries = w.entries.create ⟨key, reference, .topup, amount⟩ := by
  obtain ⟨-, key, account, opened, isOpen, replayed | credited⟩ := PrepaidWallet.credit_returns success
  · obtain ⟨-, k, e, stored, isEntry, -⟩ := replayed
    rw [opened_entries isOpen] at stored
    rw [isEntry_iff] at isEntry
    exact absurd ⟨isEntry.2.1, isEntry.2.2⟩ (fresh k e stored)
  · refine ⟨key, ?_⟩
    rw [credited.rows, ← opened_entries isOpen]

/-- A verified message about an order: its reference, its amount, its currency, its merchant. -/
structure Confirms (env : TopupEnvironment) (raw : String) (id : String) (row : QrTopup) : Prop where
  message : ∃ fields, env.verify raw = .ok fields ∧ QrTopups.PaymentFact fields ∧
    field fields "out_trade_no" = id ∧ intOfDigits (field fields "total_fee") = row.amountMinor ∧
    field fields "fee_type" = row.currency ∧ field fields "mch_id" = row.merchantId.getD ""

/-- An unpaid live order is paid, and the wallet credited, on a message that confirms it. -/
structure PaidBy (env : TopupEnvironment) (raw : String) (s s' : Topups) (id : String) (row : QrTopup) : Prop where
  confirms : Confirms env raw id row
  stored : s.rows.get? id = some row
  unpaid : row.status ≠ .paid
  live : row.book = "live"
  calls : s'.calls = s.calls
  entries : ∃ key, s'.wallet.entries = s.wallet.entries.create ⟨key, id, .topup, row.amountMinor⟩
  rows : ∃ f : QrTopup → QrTopup, s'.rows = s.rows.update id f ∧ ∀ r, (f r).status = .paid ∧
    (f r).book = r.book ∧ (f r).currency = r.currency ∧ (f r).amountMinor = r.amountMinor

theorem Sound.uncredited (sound : Sound s) (stored : s.rows.get? topup = some row) (unpaid : row.status ≠ .paid) :
    ∀ k e, s.wallet.entries.get? k = some e → ¬ Credits topup e := by
  rintro k e entry ⟨here, kind⟩
  obtain ⟨row', stored', paid, -⟩ := sound.owned k e entry kind
  rw [here, stored] at stored'
  cases stored'
  exact unpaid paid

theorem QrTopups.notify_cases (env : TopupEnvironment) (sound : Sound s) (raw : String) :
    after (notify env raw) s = s ∨ ∃ id row, PaidBy env raw s (after (notify env raw) s) id row := by
  unfold notify
  cases verified : env.verify raw with
  | error => exact Or.inl (after_lift_error rfl _ s)
  | ok fields =>
    have told : (Except.ok fields : Except WalletException Fields).mapError TopupFailure.wallet = .ok fields :=
      rfl
    rw [after_lift_ok told, after_throwIf]
    by_cases fact : PaymentFact fields
    · rw [if_neg (not_not.mpr fact)]
      refine after_atomic (P := fun s' => s' = s ∨ ∃ id row, PaidBy env raw s s' id row)
        (atomic_transaction _) (Or.inl rfl) fun _ s' success => ?_
      simp only [returns_transaction, returns_bind, returns_read, returns_orThrow, returns_throwIf] at success
      obtain ⟨found, s, ⟨rfl, rfl⟩, row, s, ⟨looked, rfl⟩, _, s, ⟨matches', rfl⟩, success⟩ := success
      obtain ⟨stored, book⟩ := Option.filter_eq_some_iff.mp looked
      have live := of_decide_eq_true book
      push Not at matches'
      split at success
      · rw [returns_throwIf] at success
        exact Or.inl success.2
      · rename_i unpaid
        simp only [returns_bind, returns_read, returns_throwIf] at success
        obtain ⟨_, s₁, credited, clash, s₂, ⟨-, rfl⟩, _, s₃, ⟨-, rfl⟩, saved⟩ := success
        rw [onWallet_returns] at credited
        obtain ⟨w, credited, rfl⟩ := credited
        rw [saveTopup_returns] at saved
        subst saved
        obtain ⟨key, entered⟩ := credit_entries credited (sound.uncredited stored unpaid)
        refine Or.inr ⟨_, row, ⟨fields, verified, fact, rfl, matches'.1.symm, ?_, matches'.2.symm⟩, stored,
          unpaid, live, rfl, ⟨key, ?_⟩, fun r => { r with
            status := .paid, transactionId := some (field fields "transaction_id")
            confirmationHash := some (env.sha256 raw), paidAt := some env.now, qrContent := none }, rfl, ?_⟩
        · rw [sound.pesos _ row stored]
          exact fact.2.2.2.2.1
        · rw [matches'.1]
          exact entered
        · exact fun r => ⟨rfl, rfl, rfl, rfl⟩
    · rw [if_pos fact]
      exact Or.inl rfl

/-- A wallet operation that credits nothing: the top-up entries are as they were. -/
structure Charged (s s' : Topups) : Prop where
  rows : s'.rows = s.rows
  calls : s'.calls = s.calls
  entries : ∀ k e, e.kind = .topup →
    (s'.wallet.entries.get? k = some e ↔ s.wallet.entries.get? k = some e)

theorem get?_create_other {entries : Table Nat PrepaidEntry} {new e : PrepaidEntry} {k : Nat}
    (other : e ≠ new) : (entries.create new).get? k = some e ↔ entries.get? k = some e := by
  constructor
  · intro stored
    rcases Table.get?_create_cases stored with ⟨-, same⟩ | old
    · exact absurd same other
    · exact old
  · exact Table.get?_create_of_some entries new

theorem charge_entries (call : WalletCall) (spends : ∀ subject book reference amount accountId,
      call ≠ .credit subject book reference amount accountId)
    (success : Returns call.perform w () w') {k : Nat} {e : PrepaidEntry} (kind : e.kind = .topup) :
    w'.entries.get? k = some e ↔ w.entries.get? k = some e := by
  have other : ∀ key reference kind' amount, kind' ≠ .topup → e ≠ ⟨key, reference, kind', amount⟩ := by
    rintro key reference kind' amount different rfl
    exact different kind
  cases call with
  | credit => exact absurd rfl (spends _ _ _ _ _)
  | reserve =>
    obtain ⟨-, key, account, opened, isOpen, replayed | held⟩ := PrepaidWallet.reserve_returns success
    · rw [replayed.1, opened_entries isOpen]
    · rw [held.rows, ← opened_entries isOpen]
      exact get?_create_other (other _ _ _ _ (by decide))
  | settle _ _ _ spent =>
    obtain ⟨key, account, opened, holdKey, hold, isOpen, -, -, -, -, -, replayed | settled⟩ :=
      PrepaidWallet.settle_returns success
    · rw [replayed.1, opened_entries isOpen]
    · rw [settled.rows, ← opened_entries isOpen]
      constructor
      · intro stored
        rcases settlementEntries_cases stored with spent | released | old
        · exact absurd spent (other _ _ _ _ (by decide))
        · exact absurd released (other _ _ _ _ (by decide))
        · exact old
      · exact settlementEntries_of_some
  | setLimit =>
    obtain ⟨key, account, opened, isOpen, frame⟩ := PrepaidWallet.setLimit_returns success
    rw [frame, ← opened_entries isOpen]

theorem charged (call : WalletCall) (spends : ∀ subject book reference amount accountId,
      call ≠ .credit subject book reference amount accountId) (s : Topups) :
    Charged s (after (onWallet call.perform) s) := by
  have rows : after (onWallet call.perform) s = { s with wallet := after call.perform s.wallet } := by
    simp only [after, onWallet]
    rcases call.perform s.wallet with ⟨out, w⟩
    cases out <;> rfl
  rw [rows]
  refine ⟨rfl, rfl, fun k e kind => ?_⟩
  rcases after_perform call s.wallet with success | same
  · exact charge_entries call spends success kind
  · rw [show ({ s with wallet := after call.perform s.wallet } : Topups).wallet = s.wallet from same]

/-! ### Every step -/

theorem PaidBy.sound {raw : String} (sound : Sound s) (paid : PaidBy env raw s s' topup row) : Sound s' := by
  obtain ⟨key, entries⟩ := paid.entries
  obtain ⟨f, rows, keeps⟩ := paid.rows
  have fresh := sound.uncredited paid.stored paid.unpaid
  have own : s'.rows.get? topup = some (f row) := by
    rw [rows, Table.get?_update_self, paid.stored, Option.map_some]
  have others : ∀ id, id ≠ topup → s'.rows.get? id = s.rows.get? id := by
    intro id different
    rw [rows, Table.get?_update_of_ne _ _ different]
  have entry : ∀ {k e}, s.wallet.entries.get? k = some e → s'.wallet.entries.get? k = some e := by
    intro k e stored
    rw [entries]
    exact Table.get?_create_of_some _ _ stored
  refine ⟨?_, ?_, ?_, ?_, ?_⟩
  · intro id row' stored isPaid
    by_cases here : id = topup
    · subst here
      rw [own] at stored
      cases stored
      rw [(keeps row).2.1, paid.live]
    · rw [others id here] at stored
      exact sound.live id row' stored isPaid
  · intro id row' stored
    by_cases here : id = topup
    · subst here
      rw [own] at stored
      cases stored
      rw [(keeps row).2.2.1]
      exact sound.pesos id row paid.stored
    · rw [others id here] at stored
      exact sound.pesos id row' stored
  · intro id row' stored isPaid
    by_cases here : id = topup
    · subst here
      refine ⟨s.wallet.entries.nextId, ⟨key, id, .topup, row.amountMinor⟩, ?_, ⟨rfl, rfl⟩, ?_⟩
      · rw [entries, Table.get?_create_self]
      · intro k e stored' credits
        rw [entries] at stored'
        rcases Table.get?_create_cases stored' with ⟨first, -⟩ | old
        · exact first
        · exact absurd credits (fresh k e old)
    · rw [others id here] at stored
      obtain ⟨k, e, stored', credits, only⟩ := sound.held id row' stored isPaid
      refine ⟨k, e, entry stored', credits, ?_⟩
      intro k' e' stored₁ credits'
      rw [entries] at stored₁
      rcases Table.get?_create_cases stored₁ with ⟨-, rfl⟩ | old
      · exact absurd credits'.1.symm here
      · exact only k' e' old credits'
  · intro k e stored kind
    rw [entries] at stored
    rcases Table.get?_create_cases stored with ⟨-, rfl⟩ | old
    · exact ⟨f row, own, (keeps row).1, (keeps row).2.2.2⟩
    · obtain ⟨row', stored', isPaid, amount⟩ := sound.owned k e old kind
      refine ⟨row', ?_, isPaid, amount⟩
      rw [others _ fun here => fresh k e old ⟨here, kind⟩]
      exact stored'
  · intro call id book waiting
    rw [paid.calls] at waiting
    obtain ⟨row', stored, here⟩ := sound.ordered call id book waiting
    by_cases same : id = topup
    · subst same
      rw [paid.stored] at stored
      cases stored
      exact ⟨f row, own, (keeps row).2.1.trans here⟩
    · exact ⟨row', by rw [others id same, stored], here⟩

theorem Charged.sound (sound : Sound s) (charged : Charged s s') : Sound s' where
  live := by
    rw [charged.rows]
    exact sound.live
  pesos := by
    rw [charged.rows]
    exact sound.pesos
  held := by
    intro id row stored paid
    rw [charged.rows] at stored
    obtain ⟨k, e, entry, credits, only⟩ := sound.held id row stored paid
    refine ⟨k, e, (charged.entries k e credits.2).mpr entry, credits, ?_⟩
    intro k' e' entry' credits'
    exact only k' e' ((charged.entries k' e' credits'.2).mp entry') credits'
  owned := by
    intro k e entry kind
    rw [charged.rows]
    exact sound.owned k e ((charged.entries k e kind).mp entry) kind
  ordered := by
    rw [charged.rows, charged.calls]
    exact sound.ordered

namespace TopupStep

theorem next_cases (step : TopupEnvironment × TopupStep) (sound : Sound s) :
    Retouched s (next step s) ∨ Charged s (next step s) ∨
      ∃ raw id row, step.2 = .notify raw ∧ PaidBy step.1 raw s (next step s) id row := by
  obtain ⟨env, step⟩ := step
  cases step with
  | create => exact Or.inl QrTopups.create_retouched
  | proceed call newId answer => exact Or.inl (QrTopups.proceed_retouched sound call newId answer)
  | reconcile => exact Or.inl QrTopups.reconcile_retouched
  | charge call spends => exact Or.inr (Or.inl (charged call spends s))
  | notify raw =>
    rcases QrTopups.notify_cases env sound raw with same | ⟨id, row, paid⟩
    · refine Or.inl ?_
      show Retouched s (after (QrTopups.notify env raw) s)
      rw [same]
      exact .refl s
    · exact Or.inr (Or.inr ⟨raw, id, row, rfl, paid⟩)

theorem next_sound (step : TopupEnvironment × TopupStep) (s : Topups) (sound : Sound s) :
    Sound (next step s) := by
  rcases next_cases step sound with retouched | charged | ⟨raw, id, row, -, paid⟩
  · exact retouched.sound sound
  · exact charged.sound sound
  · exact paid.sound sound

/-- What is paid stays paid. -/
def PaidStays (step : TopupEnvironment × TopupStep) (s : Topups) : Prop :=
  ∀ id row, s.rows.get? id = some row → row.status = .paid →
    ∃ row', (next step s).rows.get? id = some row' ∧ row'.status = .paid

/-- A new credit is of a message that was verified in this step and confirms its top-up. -/
def CreditsConfirmed (step : TopupEnvironment × TopupStep) (s : Topups) : Prop :=
  ∀ k e, (next step s).wallet.entries.get? k = some e → e.kind = .topup →
    s.wallet.entries.get? k = some e ∨ ∃ raw row, step.2 = .notify raw ∧
      s.rows.get? e.referenceId = some row ∧ Confirms step.1 raw e.referenceId row

theorem paidStays (step : TopupEnvironment × TopupStep) (sound : Sound s) : PaidStays step s := by
  intro id row stored isPaid
  rcases next_cases step sound with retouched | charged | ⟨raw, id', row', -, paid⟩
  · obtain ⟨row', stored', same⟩ := retouched.kept id row stored
    exact ⟨row', stored', same.paid.mpr isPaid⟩
  · exact ⟨row, by rw [charged.rows, stored], isPaid⟩
  · obtain ⟨f, rows, keeps⟩ := paid.rows
    rw [rows, Table.get?_update, stored]
    split
    · exact ⟨f row, rfl, (keeps row).1⟩
    · exact ⟨row, rfl, isPaid⟩

theorem creditsConfirmed (step : TopupEnvironment × TopupStep) (sound : Sound s) : CreditsConfirmed step s := by
  intro k e entry kind
  rcases next_cases step sound with retouched | charged | ⟨raw, id, row, notified, paid⟩
  · rw [retouched.wallet] at entry
    exact Or.inl entry
  · exact Or.inl ((charged.entries k e kind).mp entry)
  · obtain ⟨key, entries⟩ := paid.entries
    rw [entries] at entry
    rcases Table.get?_create_cases entry with ⟨-, rfl⟩ | old
    · exact Or.inr ⟨raw, row, notified, paid.stored, paid.confirms⟩
    · exact Or.inl old

theorem opening_sound (limits : Table Nat SpendingLimit) (ledger : Ledger) :
    Sound (Topups.opening limits ledger) where
  live := fun id row stored => by cases stored
  pesos := fun id row stored => by cases stored
  held := fun id row stored => by cases stored
  owned := fun k e stored => by cases stored
  ordered := fun call id book stored => by cases stored

/-- However the statements of the calls interleave, a top-up is paid exactly when the wallet holds
one entry for it, of its amount; what is paid stays paid, and only a verified message with the
top-up's reference, amount and currency credits it. -/
theorem topups_credited_once (limits : Table Nat SpendingLimit) (ledger : Ledger)
    (steps : List (TopupEnvironment × TopupStep)) :
    Runs.Throughout next CreditedOnce steps (Topups.opening limits ledger) ∧
      Runs.Met next (fun step s => PaidStays step s ∧ CreditsConfirmed step s) steps
        (Topups.opening limits ledger) := by
  have opening := opening_sound limits ledger
  constructor
  · exact Runs.throughout_of_kept next_sound (fun _ sound => sound.creditedOnce) steps _ opening
  · exact Runs.met_of_kept next_sound
      (fun step _ sound => ⟨paidStays step sound, creditsConfirmed step sound⟩) steps _ opening

end TopupStep
end VtsaCsms.Payments
