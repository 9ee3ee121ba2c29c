import VtsaCsms.Foundation.Action
import VtsaCsms.Foundation.Php
import VtsaCsms.Foundation.Table

/-!
# Double-entry ledger

`Billing/Application/DoubleEntryLedger.php` over the ledger tables of one tenant. The
outbox row and the posting actor and time are not read back by any modelled code.
-/
namespace VtsaCsms.Billing
open Foundation Foundation.Action

structure LedgerAccount where
  code : String
  currency : String
  name : String
  type : String
  ownerType : Option String
  ownerId : Option String
  isActive : Bool
  deriving DecidableEq, Repr

structure LedgerTransaction where
  referenceType : String
  referenceId : String
  eventType : String
  currency : String
  idempotencyKey : String
  description : Option String
  deriving DecidableEq, Repr

structure LedgerEntry where
  transactionId : Nat
  accountId : Nat
  debitMinor : Int
  creditMinor : Int
  deriving DecidableEq, Repr

structure Ledger where
  accounts : Table Nat LedgerAccount
  transactions : Table Nat LedgerTransaction
  entries : Table Nat LedgerEntry

def Ledger.opening : Ledger := ⟨Table.empty, Table.empty, Table.empty⟩

structure LedgerPosting where
  account : Nat × LedgerAccount
  debitMinor : Int := 0
  creditMinor : Int := 0

/-- `ledger_entry_one_side_chk`. -/
def LedgerPosting.OneSided (p : LedgerPosting) : Prop :=
  (0 < p.debitMinor ∧ p.creditMinor = 0) ∨ (0 < p.creditMinor ∧ p.debitMinor = 0)
  deriving Decidable

namespace DoubleEntryLedger

def ledger_entry_one_side_chk : Throwable := ⟨.query, "ledger_entry_one_side_chk"⟩

/-- `firstOrCreate` on code and currency. -/
def account (code name type currency : String) (ownerType ownerId : Option String := none) :
    Action Ledger Throwable (Nat × LedgerAccount) := do
  let found ← read fun l =>
    l.accounts.first? fun _ a => a.code = code && a.currency = strToUpper currency
  match found with
  | some existing => pure existing
  | none =>
    let row : LedgerAccount :=
      { code, currency := strToUpper currency, name, type, ownerType, ownerId, isActive := true }
    let key ← read fun l => l.accounts.nextId
    write fun l => { l with accounts := l.accounts.create row }
    pure (key, row)

/-- One pass of the posting loop: exactly one positive side, the transaction's currency,
and the running totals, which leave the integers when they overflow. -/
def tally (currency : String) : List LedgerPosting → Number × Number → Except Throwable (Number × Number)
  | [], totals => .ok totals
  | posting :: rest, (debits, credits) =>
    if (0 < posting.debitMinor ↔ 0 < posting.creditMinor) ∨
        posting.account.2.currency ≠ strToUpper currency then
      .error (.invalidArgument
        "Each posting must have one positive side and use the transaction currency.")
    else
      tally currency rest (debits.addInt posting.debitMinor, credits.addInt posting.creditMinor)

def createEntries (transactionId : Nat) : List LedgerPosting → Table Nat LedgerEntry → Table Nat LedgerEntry
  | [], entries => entries
  | posting :: rest, entries =>
    createEntries transactionId rest
      (entries.create ⟨transactionId, posting.account.1, posting.debitMinor, posting.creditMinor⟩)

def post (referenceType referenceId eventType currency idempotencyKey : String)
    (postings : List LedgerPosting) (description : Option String := none) :
    Action Ledger Throwable (Nat × LedgerTransaction) := do
  let existing ← read fun l =>
    l.transactions.first? fun _ t => t.idempotencyKey = idempotencyKey
  match existing with
  | some earlier => pure earlier
  | none =>
    throwIf (postings.length < 2)
      (.invalidArgument "A ledger transaction requires at least two entries.")
    let totals ← lift (tally currency postings (.int 0, .int 0))
    throwIf (totals.1 ≠ totals.2)
      (.invalidArgument "Double-entry transaction is not balanced.")
    transaction do
      let row : LedgerTransaction :=
        { referenceType, referenceId, eventType, currency := strToUpper currency,
          idempotencyKey, description }
      let key ← read fun l => l.transactions.nextId
      -- the database refuses the first entry with a second side, and the transaction with it
      throwIf (∃ posting ∈ postings, ¬ posting.OneSided) ledger_entry_one_side_chk
      write fun l => { l with
        transactions := l.transactions.create row
        entries := createEntries key postings l.entries }
      pure (key, row)

/-! ### What a returning call did -/

/-- Only accounts were added, and none changed. -/
structure AccountOpened (code : String) (l l' : Ledger) (opened : Nat × LedgerAccount) : Prop where
  stored : l'.accounts.get? opened.1 = some opened.2
  code : opened.2.code = code
  transactions : l'.transactions = l.transactions
  entries : l'.entries = l.entries
  kept : ∀ key a, l.accounts.get? key = some a → l'.accounts.get? key = some a

variable {code currency : String} {l l' : Ledger} {opened : Nat × LedgerAccount} {postings : List LedgerPosting}

theorem account_returns {name type : String} {ownerType ownerId : Option String}
    (success : Returns (account code name type currency ownerType ownerId) l opened l') :
    AccountOpened code l l' opened := by
  unfold account at success
  simp only [returns_bind, returns_read] at success
  obtain ⟨found, _, ⟨lookup, rfl⟩, success⟩ := success
  cases found with
  | some =>
    rw [returns_pure] at success
    obtain ⟨rfl, rfl⟩ := success
    have hit := Table.first?_some lookup.symm
    have named : opened.2.code = code ∧ opened.2.currency = strToUpper currency := by
      simpa using hit.2
    exact ⟨hit.1, named.1, rfl, rfl, fun _ _ stored => stored⟩
  | none =>
    simp only [returns_bind, returns_read, returns_write, returns_pure] at success
    obtain ⟨_, _, ⟨rfl, rfl⟩, _, _, rfl, rfl, rfl⟩ := success
    refine ⟨Table.get?_create_self _ _, rfl, rfl, rfl, ?_⟩
    intro key a stored
    exact Table.get?_create_of_some _ _ stored

/-- The transaction a list of postings is entered under. -/
structure Entered (referenceType referenceId eventType currency idempotencyKey : String)
    (postings : List LedgerPosting) (l l' : Ledger) (t : LedgerTransaction) : Prop where
  referenceType : t.referenceType = referenceType
  referenceId : t.referenceId = referenceId
  eventType : t.eventType = eventType
  named : t.idempotencyKey = idempotencyKey
  folded : t.currency = strToUpper currency
  unused : ∀ key earlier, l.transactions.get? key = some earlier → earlier.idempotencyKey ≠ idempotencyKey
  several : 2 ≤ postings.length
  tallied : ∃ total, tally currency postings (.int 0, .int 0) = .ok (total, total)
  oneSided : ∀ posting ∈ postings, posting.OneSided
  rows : l' = { l with
    transactions := l.transactions.create t
    entries := createEntries l.transactions.nextId postings l.entries }

theorem post_returns {referenceType referenceId eventType idempotencyKey : String}
    {description : Option String} {posted : Nat × LedgerTransaction}
    (success : Returns (post referenceType referenceId eventType currency idempotencyKey postings
      description) l posted l') :
    (l' = l ∧ ∃ key t, l.transactions.get? key = some t ∧ t.idempotencyKey = idempotencyKey) ∨
    ∃ t, Entered referenceType referenceId eventType currency idempotencyKey postings l l' t := by
  unfold post at success
  simp only [returns_bind, returns_read] at success
  obtain ⟨found, _, ⟨lookup, rfl⟩, success⟩ := success
  cases found with
  | some =>
    rw [returns_pure] at success
    obtain ⟨rfl, rfl⟩ := success
    have hit := Table.first?_some lookup.symm
    exact Or.inl ⟨rfl, posted.1, posted.2, hit.1, by simpa using hit.2⟩
  | none =>
    simp only [returns_bind, returns_throwIf, returns_lift, returns_transaction, returns_read,
      returns_write, returns_pure] at success
    obtain ⟨_, _, ⟨several, rfl⟩, totals, _, ⟨tallied, rfl⟩, _, _, ⟨balanced, rfl⟩, _, _, ⟨rfl, rfl⟩, _, _,
      ⟨oneSided, rfl⟩, _, _, rfl, rfl, rfl⟩ := success
    refine Or.inr ⟨_, rfl, rfl, rfl, rfl, rfl, ?_, by omega, ⟨totals.1, ?_⟩, ?_, rfl⟩
    · intro key earlier stored same
      have missed := Table.first?_none lookup.symm key earlier stored
      simp [same] at missed
    · have same : totals.1 = totals.2 := by simpa using balanced
      rw [tallied]
      exact congrArg Except.ok (Prod.ext rfl same.symm)
    · intro posting member
      by_contra second
      exact oneSided ⟨posting, member, second⟩

theorem post_enters (referenceType referenceId eventType : String) {idempotencyKey : String}
    (description : Option String) {total : Number}
    (unused : ∀ key t, l.transactions.get? key = some t → t.idempotencyKey ≠ idempotencyKey)
    (several : 2 ≤ postings.length) (tallied : tally currency postings (.int 0, .int 0) = .ok (total, total))
    (oneSided : ∀ posting ∈ postings, posting.OneSided) :
    ∃ posted l', Returns (post referenceType referenceId eventType currency idempotencyKey postings
      description) l posted l' := by
  have absent : (l.transactions.first? fun _ t => t.idempotencyKey = idempotencyKey) = none := by
    cases found : l.transactions.first? fun _ t => t.idempotencyKey = idempotencyKey with
    | none => rfl
    | some =>
      obtain ⟨stored, same⟩ := Table.first?_some found
      exact absurd (by simpa using same) (unused _ _ stored)
  have sided : ¬ ∃ posting ∈ postings, ¬ posting.OneSided := by
    rintro ⟨posting, member, second⟩
    exact second (oneSided posting member)
  let row : LedgerTransaction :=
    { referenceType, referenceId, eventType, currency := strToUpper currency, idempotencyKey, description }
  refine ⟨(l.transactions.nextId, row), { l with
    transactions := l.transactions.create row
    entries := createEntries l.transactions.nextId postings l.entries }, ?_⟩
  unfold post
  simp only [returns_bind, returns_read]
  refine ⟨none, l, ⟨absent.symm, rfl⟩, ?_⟩
  simp only [returns_bind, returns_throwIf, returns_lift, returns_transaction, returns_read,
    returns_write, returns_pure]
  exact ⟨(), l, ⟨by omega, rfl⟩, (total, total), l, ⟨tallied, rfl⟩, (), l, ⟨by simp, rfl⟩, _, l, ⟨rfl, rfl⟩,
    (), l, ⟨sided, rfl⟩, (), _, rfl, rfl, rfl⟩

def debitTotal (postings : List LedgerPosting) : Int := (postings.map LedgerPosting.debitMinor).sum

def creditTotal (postings : List LedgerPosting) : Int := (postings.map LedgerPosting.creditMinor).sum

theorem totals_nonneg (oneSided : ∀ p ∈ postings, p.OneSided) :
    0 ≤ debitTotal postings ∧ 0 ≤ creditTotal postings := by
  induction postings with
  | nil => simp [debitTotal, creditTotal]
  | cons posting _ ih =>
    have head := oneSided posting (List.mem_cons_self ..)
    have tail := ih fun p member => oneSided p (List.mem_cons_of_mem _ member)
    unfold LedgerPosting.OneSided at head
    simp only [debitTotal, creditTotal, List.map_cons, List.sum_cons] at tail ⊢
    omega

theorem tally_ok {d c : Int} (currencies : ∀ p ∈ postings, p.account.2.currency = strToUpper currency)
    (oneSided : ∀ p ∈ postings, p.OneSided) (debits : 0 ≤ d) (credits : 0 ≤ c)
    (fits : d + debitTotal postings ≤ phpIntMax ∧ c + creditTotal postings ≤ phpIntMax) :
    tally currency postings (.int d, .int c) =
      .ok (.int (d + debitTotal postings), .int (c + creditTotal postings)) := by
  induction postings generalizing d c with
  | nil => simp [tally, debitTotal, creditTotal]
  | cons posting _ ih =>
    have head := oneSided posting (List.mem_cons_self ..)
    have tail := totals_nonneg fun p member => oneSided p (List.mem_cons_of_mem _ member)
    unfold LedgerPosting.OneSided at head
    simp only [debitTotal, creditTotal, List.map_cons, List.sum_cons] at fits tail ⊢
    have passes : ¬ ((0 < posting.debitMinor ↔ 0 < posting.creditMinor) ∨
        posting.account.2.currency ≠ strToUpper currency) := by
      rintro (both | other)
      · omega
      · exact other (currencies posting (List.mem_cons_self ..))
    have low : phpIntMin ≤ 0 := by decide
    have debit := Number.addInt_of_range (a := d) (b := posting.debitMinor) (by omega)
    have credit := Number.addInt_of_range (a := c) (b := posting.creditMinor) (by omega)
    rw [tally, if_neg passes, debit, credit, ih (fun p member => currencies p (List.mem_cons_of_mem _ member))
      (fun p member => oneSided p (List.mem_cons_of_mem _ member)) (by omega) (by omega)]
    · simp only [debitTotal, creditTotal]
      congr 3 <;> omega
    · simp only [debitTotal, creditTotal]
      omega

theorem account_opens (code name type currency : String) (ownerType ownerId : Option String) (l : Ledger) :
    ∃ opened l', Returns (account code name type currency ownerType ownerId) l opened l' ∧
      AccountOpened code l l' opened ∧ opened.2.currency = strToUpper currency := by
  cases found : l.accounts.first? fun _ a => a.code = code && a.currency = strToUpper currency with
  | some existing =>
    have success : Returns (account code name type currency ownerType ownerId) l existing l := by
      unfold account
      simp only [returns_bind, returns_read]
      exact ⟨_, l, ⟨found.symm, rfl⟩, rfl⟩
    refine ⟨existing, l, success, account_returns success, ?_⟩
    have named := (Table.first?_some found).2
    simp only [Bool.and_eq_true, decide_eq_true_eq] at named
    exact named.2
  | none =>
    let row : LedgerAccount :=
      { code, currency := strToUpper currency, name, type, ownerType, ownerId, isActive := true }
    have success : Returns (account code name type currency ownerType ownerId) l (l.accounts.nextId, row)
        { l with accounts := l.accounts.create row } := by
      unfold account
      simp only [returns_bind, returns_read]
      refine ⟨_, l, ⟨found.symm, rfl⟩, ?_⟩
      simp only [returns_bind, returns_read, returns_write, returns_pure]
      exact ⟨_, l, ⟨rfl, rfl⟩, (), _, rfl, rfl, rfl⟩
    exact ⟨_, _, success, account_returns success, rfl⟩

theorem atomic_account (code name type currency : String) (ownerType ownerId : Option String) :
    Atomic (account code name type currency ownerType ownerId) := by
  unfold account
  refine (atomic_read _).bind (fun _ _ _ success => ((returns_read ..).mp success).2) fun found => ?_
  cases found with
  | some => exact atomic_pure _
  | none =>
    intro l e thrown
    cases thrown

theorem atomic_post (referenceType referenceId eventType currency idempotencyKey : String)
    (postings : List LedgerPosting) (description : Option String) :
    Atomic (post referenceType referenceId eventType currency idempotencyKey postings description) := by
  unfold post
  refine (atomic_read _).bind (fun _ _ _ success => ((returns_read ..).mp success).2) fun found => ?_
  cases found with
  | some => exact atomic_pure _
  | none =>
    refine (atomic_throwIf _ _).bind (fun _ _ _ success => ((returns_throwIf ..).mp success).2) fun _ => ?_
    refine (atomic_lift _).bind (fun _ _ _ success => ((returns_lift ..).mp success).2) fun totals => ?_
    refine (atomic_throwIf _ _).bind (fun _ _ _ success => ((returns_throwIf ..).mp success).2) fun _ => ?_
    exact atomic_transaction _

/-! ### Sums over entered postings -/

theorem sumOver_createEntries (f : LedgerEntry → Int) (transactionId : Nat)
    (postings : List LedgerPosting) (entries : Table Nat LedgerEntry) :
    (createEntries transactionId postings entries).sumOver (fun _ e => f e) =
      entries.sumOver (fun _ e => f e) +
        (postings.map fun p => f ⟨transactionId, p.account.1, p.debitMinor, p.creditMinor⟩).sum := by
  induction postings generalizing entries with
  | nil => simp [createEntries]
  | cons _ _ ih =>
    simp only [createEntries, List.map_cons, List.sum_cons]
    rw [ih, Table.sumOver_create]
    omega

theorem get?_createEntries {transactionId : Nat}
    {entries : Table Nat LedgerEntry} {key : Nat} {e : LedgerEntry}
    (stored : (createEntries transactionId postings entries).get? key = some e) :
    entries.get? key = some e ∨
      ∃ p ∈ postings, e = ⟨transactionId, p.account.1, p.debitMinor, p.creditMinor⟩ := by
  induction postings generalizing entries with
  | nil => exact Or.inl stored
  | cons posting _ ih =>
    rcases ih stored with earlier | ⟨p, member, entered⟩
    · obtain ⟨-, rfl⟩ | old := Table.get?_create_cases earlier
      · exact Or.inr ⟨posting, List.mem_cons_self .., rfl⟩
      · exact Or.inl old
    · exact Or.inr ⟨p, List.mem_cons_of_mem _ member, entered⟩

/-! ### Credits minus debits -/

/-- What is posted to the accounts of a code: credits minus debits. -/
def netCredits (accounts : Table Nat LedgerAccount) (entries : Table Nat LedgerEntry)
    (code : String) : Int :=
  entries.sumOver fun _ e =>
    if (accounts.get? e.accountId).map LedgerAccount.code = some code then
      e.creditMinor - e.debitMinor
    else 0

/-- Every entry is posted to an account that exists. -/
def Posted (l : Ledger) : Prop :=
  ∀ key e, l.entries.get? key = some e → ∃ a, l.accounts.get? e.accountId = some a

theorem netCredits_opened (posted : Posted l) (isOpen : AccountOpened code l l' opened) (queried : String) :
    netCredits l'.accounts l'.entries queried = netCredits l.accounts l.entries queried := by
  unfold netCredits
  rw [isOpen.entries]
  apply Table.sumOver_congr
  intro key e stored
  obtain ⟨a, owner⟩ := posted key e stored
  rw [owner, isOpen.kept _ _ owner]

theorem posted_opened (posted : Posted l) (isOpen : AccountOpened code l l' opened) : Posted l' := by
  intro key e stored
  rw [isOpen.entries] at stored
  obtain ⟨a, owner⟩ := posted key e stored
  exact ⟨a, isOpen.kept _ _ owner⟩

/-- What a list of postings adds to the net of a code. -/
def postedNet (code : String) : List LedgerPosting → Int
  | [] => 0
  | posting :: rest =>
    (if posting.account.2.code = code then posting.creditMinor - posting.debitMinor else 0) +
      postedNet code rest

theorem netCredits_createEntries (accounts : Table Nat LedgerAccount) (transactionId : Nat)
    (postings : List LedgerPosting) (entries : Table Nat LedgerEntry) (code : String)
    (stored : ∀ p ∈ postings, accounts.get? p.account.1 = some p.account.2) :
    netCredits accounts (createEntries transactionId postings entries) code =
      netCredits accounts entries code + postedNet code postings := by
  induction postings generalizing entries with
  | nil => simp [createEntries, postedNet]
  | cons posting _ ih =>
    have account := stored posting (List.mem_cons_self ..)
    have tail := ih
      (entries.create ⟨transactionId, posting.account.1, posting.debitMinor, posting.creditMinor⟩)
      (fun p member => stored p (List.mem_cons_of_mem _ member))
    simp only [createEntries, postedNet]
    rw [tail]
    unfold netCredits
    rw [Table.sumOver_create, account]
    simp only [Option.map_some, Option.some.injEq]
    omega

theorem posted_createEntries {accounts : Table Nat LedgerAccount} (transactionId : Nat)
    (postings : List LedgerPosting) {entries : Table Nat LedgerEntry}
    (stored : ∀ p ∈ postings, accounts.get? p.account.1 = some p.account.2)
    (posted : ∀ key e, entries.get? key = some e → ∃ a, accounts.get? e.accountId = some a) :
    ∀ key e, (createEntries transactionId postings entries).get? key = some e →
      ∃ a, accounts.get? e.accountId = some a := by
  induction postings generalizing entries with
  | nil => exact posted
  | cons posting _ ih =>
    simp only [createEntries]
    apply ih (fun p member => stored p (List.mem_cons_of_mem _ member))
    intro key e found
    obtain ⟨-, rfl⟩ | earlier := Table.get?_create_cases found
    · exact ⟨_, stored posting (List.mem_cons_self ..)⟩
    · exact posted key e earlier

end DoubleEntryLedger

end VtsaCsms.Billing
