import VtsaCsms.Billing.DoubleEntryLedger
import VtsaCsms.Foundation.Runs

/-!
# Trial balance

What `DoubleEntryLedger::post` leaves in the ledger over any run of postings. Its loop adds
up debits and credits as PHP numbers, which turn into doubles beyond 64 bits; a database
check refuses the second side that the loop lets through.
-/
namespace VtsaCsms.Billing
open Foundation Foundation.Action DoubleEntryLedger

/-! ### Calls -/

structure PostingLine where
  accountId : Nat
  debitMinor : Int := 0
  creditMinor : Int := 0

inductive LedgerCall where
  | account (code name type currency : String) (ownerType ownerId : Option String)
  | post (referenceType referenceId eventType currency idempotencyKey : String)
      (lines : List PostingLine) (description : Option String)

namespace LedgerCall

/-- A posting holds a stored account, so a caller without one has nothing to post to. -/
def postings (l : Ledger) : List PostingLine → Option (List LedgerPosting)
  | [] => some []
  | line :: rest =>
    match l.accounts.get? line.accountId, postings l rest with
    | some a, some others =>
      some (⟨(line.accountId, a), line.debitMinor, line.creditMinor⟩ :: others)
    | _, _ => none

def perform : LedgerCall → Action Ledger Throwable Unit
  | account code name type currency ownerType ownerId => do
    let _ ← DoubleEntryLedger.account code name type currency ownerType ownerId
  | post referenceType referenceId eventType currency idempotencyKey lines description => do
    let found ← read fun l => postings l lines
    let loaded ← orThrow found (.modelNotFound "LedgerAccount")
    let _ ← DoubleEntryLedger.post referenceType referenceId eventType currency idempotencyKey loaded
      description

def next (call : LedgerCall) (l : Ledger) : Ledger := after call.perform l

theorem postings_stored {l : Ledger} {lines : List PostingLine} {loaded : List LedgerPosting}
    (found : postings l lines = some loaded) :
    ∀ p ∈ loaded, l.accounts.get? p.account.1 = some p.account.2 := by
  induction lines generalizing loaded with
  | nil =>
    cases found
    simp
  | cons line rest ih =>
    unfold postings at found
    cases account : l.accounts.get? line.accountId with
    | none => simp [account] at found
    | some =>
      cases others : postings l rest with
      | none => simp [others] at found
      | some =>
        simp only [account, others, Option.some.injEq] at found
        subst found
        intro p member
        rcases List.mem_cons.mp member with rfl | later
        · exact account
        · exact ih others p later

end LedgerCall

/-! ### What balances -/

def enteredOf (side : LedgerEntry → Int) (l : Ledger) (transaction : Nat) : Int :=
  l.entries.sumOver fun _ e => if e.transactionId = transaction then side e else 0

def debitsOf (l : Ledger) (transaction : Nat) : Int := enteredOf LedgerEntry.debitMinor l transaction

def creditsOf (l : Ledger) (transaction : Nat) : Int := enteredOf LedgerEntry.creditMinor l transaction

/-- Debits minus credits of an account. -/
def accountBalance (l : Ledger) (account : Nat) : Int :=
  l.entries.sumOver fun _ e => if e.accountId = account then e.debitMinor - e.creditMinor else 0

/-- Debits minus credits over all accounts of a currency. -/
def trialBalance (l : Ledger) (currency : String) : Int :=
  l.accounts.sumOver fun key a => if a.currency = currency then accountBalance l key else 0

def LedgerEntry.OneSided (e : LedgerEntry) : Prop :=
  (0 < e.debitMinor ∧ e.creditMinor = 0) ∨ (0 < e.creditMinor ∧ e.debitMinor = 0)

/-- Every transaction balances, on accounts of its own currency, with entries of one side. -/
structure Balanced (l : Ledger) : Prop where
  totals : ∀ key t, l.transactions.get? key = some t → debitsOf l key = creditsOf l key
  currencies : ∀ key e, l.entries.get? key = some e → ∃ t a,
    l.transactions.get? e.transactionId = some t ∧ l.accounts.get? e.accountId = some a ∧
      a.currency = t.currency
  oneSided : ∀ key e, l.entries.get? key = some e → e.OneSided

variable {l l' : Ledger} {currency : String}

theorem Balanced.trialBalance (balanced : Balanced l) (currency : String) :
    trialBalance l currency = 0 := by
  -- entry by entry, the account's currency is the transaction's
  have byEntry : Billing.trialBalance l currency = l.entries.sumOver fun _ e =>
      (((l.transactions.get? e.transactionId).map fun t =>
        if t.currency = currency then e.debitMinor - e.creditMinor else 0)).getD 0 := by
    have inner : Billing.trialBalance l currency = l.accounts.sumOver fun key a => l.entries.sumOver fun _ e =>
        if key = e.accountId then (if a.currency = currency then e.debitMinor - e.creditMinor else 0) else 0 := by
      refine Table.sumOver_congr _ fun key a _ => ?_
      unfold accountBalance
      by_cases same : a.currency = currency
      · simp only [if_pos same, eq_comm (a := key)]
      · simp only [if_neg same, ite_self, Table.sumOver_zero]
    rw [inner, Table.sumOver_comm]
    refine Table.sumOver_congr _ fun key e stored => ?_
    obtain ⟨t, a, entered, account, same⟩ := balanced.currencies key e stored
    rw [Table.sumOver_single, entered, account]
    simp [same]
  have byTransaction : (l.entries.sumOver fun _ e => (((l.transactions.get? e.transactionId).map fun t =>
        if t.currency = currency then e.debitMinor - e.creditMinor else 0)).getD 0) =
      l.transactions.sumOver fun key t =>
        if t.currency = currency then debitsOf l key - creditsOf l key else 0 := by
    have outer : ∀ e : LedgerEntry, (((l.transactions.get? e.transactionId).map fun t =>
          if t.currency = currency then e.debitMinor - e.creditMinor else 0)).getD 0 =
        l.transactions.sumOver fun key t => if key = e.transactionId then
          (if t.currency = currency then e.debitMinor - e.creditMinor else 0) else 0 :=
      fun e => (Table.sumOver_single _ _ _).symm
    simp only [outer]
    rw [Table.sumOver_comm]
    refine Table.sumOver_congr _ fun key t _ => ?_
    by_cases same : t.currency = currency
    · simp only [if_pos same, debitsOf, creditsOf, enteredOf]
      have split : (l.entries.sumOver fun _ e => if e.transactionId = key then e.debitMinor else 0) =
          (l.entries.sumOver fun _ e => if e.transactionId = key then e.creditMinor else 0) +
            l.entries.sumOver fun _ e => if key = e.transactionId then e.debitMinor - e.creditMinor else 0 := by
        rw [← Table.sumOver_add]
        refine Table.sumOver_congr _ fun _ e _ => ?_
        by_cases own : e.transactionId = key
        · subst own
          simp
        · simp [own, Ne.symm own]
      omega
    · simp [same, Table.sumOver_zero]
  have cancels : (l.transactions.sumOver fun key t =>
      if t.currency = currency then debitsOf l key - creditsOf l key else 0) =
        l.transactions.sumOver fun _ _ => 0 := by
    refine Table.sumOver_congr _ fun key t stored => ?_
    rw [balanced.totals key t stored, sub_self, ite_self]
  rw [byEntry, byTransaction, cancels, Table.sumOver_zero]

/-! ### One call -/

theorem addInt_int {n : Number} {b m : Int} (sum : n.addInt b = .int m) : n = .int (m - b) := by
  cases n with
  | float => simp [Number.addInt] at sum
  | int a =>
    by_cases fits : phpIntMin ≤ a + b ∧ a + b ≤ phpIntMax
    · rw [Number.addInt_of_range fits] at sum
      cases sum
      simp
    · rw [Number.addInt, if_neg fits] at sum
      cases sum

theorem tally_int {postings : List LedgerPosting} {debits credits : Number}
    {d c : Int} (tallied : tally currency postings (debits, credits) = .ok (.int d, .int c)) :
    debits = .int (d - debitTotal postings) ∧ credits = .int (c - creditTotal postings) := by
  induction postings generalizing debits credits with
  | nil =>
    cases tallied
    simp [debitTotal, creditTotal]
  | cons _ _ ih =>
    unfold tally at tallied
    split at tallied
    · contradiction
    · obtain ⟨debit, credit⟩ := ih tallied
      have first := addInt_int debit
      have second := addInt_int credit
      rw [first, second]
      simp only [debitTotal, creditTotal, List.map_cons, List.sum_cons, Number.int.injEq]
      omega

theorem tally_currency {postings : List LedgerPosting} {totals final : Number × Number}
    (tallied : tally currency postings totals = .ok final) :
    ∀ p ∈ postings, p.account.2.currency = strToUpper currency := by
  induction postings generalizing totals with
  | nil => simp
  | cons posting rest ih =>
    unfold tally at tallied
    split at tallied
    · contradiction
    · rename_i passed
      intro p member
      rcases List.mem_cons.mp member with rfl | later
      · by_contra other
        exact passed (Or.inr other)
      · exact ih tallied p later

theorem enteredOf_entered {referenceType referenceId eventType idempotencyKey : String}
    {postings : List LedgerPosting} {t : LedgerTransaction}
    (entered : Entered referenceType referenceId eventType currency idempotencyKey postings l l' t)
    (balanced : Balanced l) (side : LedgerEntry → Int) (key : Nat) :
    enteredOf side l' key = if key = l.transactions.nextId then
      (postings.map fun p => side ⟨key, p.account.1, p.debitMinor, p.creditMinor⟩).sum
    else enteredOf side l key := by
  unfold enteredOf
  rw [entered.rows, sumOver_createEntries (fun e => if e.transactionId = key then side e else 0)]
  by_cases new : key = l.transactions.nextId
  · have none' : (l.entries.sumOver fun _ e => if e.transactionId = key then side e else 0) = 0 := by
      refine (Table.sumOver_congr _ fun k e stored => if_neg ?_).trans (Table.sumOver_zero l.entries)
      rintro rfl
      obtain ⟨earlier, _, found, -⟩ := balanced.currencies k e stored
      rw [new, Table.get?_nextId] at found
      contradiction
    rw [none', if_pos new]
    simp [new]
  · have other : ¬ l.transactions.nextId = key := fun same => new same.symm
    simp [other, new]

theorem balanced_entered {referenceType referenceId eventType idempotencyKey : String}
    {postings : List LedgerPosting} {t : LedgerTransaction}
    (entered : Entered referenceType referenceId eventType currency idempotencyKey postings l l' t)
    (stored : ∀ p ∈ postings, l.accounts.get? p.account.1 = some p.account.2) (balanced : Balanced l) :
    Balanced l' ↔ debitTotal postings = creditTotal postings := by
  have debits := enteredOf_entered entered balanced LedgerEntry.debitMinor
  have credits := enteredOf_entered entered balanced LedgerEntry.creditMinor
  have rows := entered.rows
  have new : l'.transactions.get? l.transactions.nextId = some t := by
    rw [rows]
    exact Table.get?_create_self _ _
  constructor
  · intro after'
    have total := after'.totals _ t new
    unfold debitsOf creditsOf at total
    rw [debits, credits, if_pos rfl, if_pos rfl] at total
    exact total
  · intro equal
    refine ⟨?_, ?_, ?_⟩
    · intro key t' found
      unfold debitsOf creditsOf
      rw [debits, credits]
      by_cases same : key = l.transactions.nextId
      · rw [if_pos same, if_pos same]
        exact equal
      · rw [if_neg same, if_neg same]
        apply balanced.totals key t'
        rw [rows] at found
        exact (Table.get?_create_cases found).resolve_left fun both => same both.1
    · intro key e found
      rw [rows] at found
      rcases get?_createEntries found with old | ⟨p, member, rfl⟩
      · obtain ⟨t', a, before, account, same⟩ := balanced.currencies key e old
        refine ⟨t', a, ?_, ?_, same⟩
        · rw [rows]
          exact Table.get?_create_of_some _ _ before
        · rw [rows]
          exact account
      · obtain ⟨total, tallied⟩ := entered.tallied
        refine ⟨t, p.account.2, new, ?_, ?_⟩
        · rw [rows]
          exact stored p member
        · rw [entered.folded]
          exact tally_currency tallied p member
    · intro key e found
      rw [rows] at found
      rcases get?_createEntries found with old | ⟨p, member, rfl⟩
      · exact balanced.oneSided key e old
      · exact entered.oneSided p member

theorem balanced_opened {code : String} {opened : Nat × LedgerAccount}
    (isOpen : AccountOpened code l l' opened) (balanced : Balanced l) : Balanced l' := by
  obtain ⟨-, -, transactions, entries, kept⟩ := isOpen
  refine ⟨?_, ?_, ?_⟩
  · intro key t stored
    unfold debitsOf creditsOf enteredOf
    rw [entries]
    rw [transactions] at stored
    exact balanced.totals key t stored
  · intro key e stored
    rw [entries] at stored
    obtain ⟨t, a, entered, account, same⟩ := balanced.currencies key e stored
    refine ⟨t, a, ?_, kept _ _ account, same⟩
    rw [transactions]
    exact entered
  · intro key e stored
    rw [entries] at stored
    exact balanced.oneSided key e stored

namespace LedgerCall

/-- An unused key and postings whose totals, beyond 64 bits, are equal as doubles only. -/
def Rounds (l : Ledger) : LedgerCall → Prop
  | account .. => False
  | post _ _ _ currency idempotencyKey lines _ => ∃ loaded total,
      postings l lines = some loaded ∧
      (∀ key t, l.transactions.get? key = some t → t.idempotencyKey ≠ idempotencyKey) ∧
      2 ≤ loaded.length ∧ (∀ p ∈ loaded, p.OneSided) ∧
      tally currency loaded (.int 0, .int 0) = .ok (.float total, .float total) ∧
      debitTotal loaded ≠ creditTotal loaded

theorem balanced_next (call : LedgerCall) (l : Ledger) (balanced : Balanced l) :
    Balanced (next call l) ↔ ¬ call.Rounds l := by
  cases call with
  | account =>
    refine iff_of_true ?_ id
    refine after_bind (P := Balanced) (atomic_account _ _ _ _ _ _) balanced fun opened l' success => ?_
    exact balanced_opened (account_returns success) balanced
  | post referenceType referenceId eventType currency idempotencyKey lines description =>
    constructor
    · rintro after' ⟨loaded, total, found, unused, several, oneSided, tallied, differ⟩
      have stored := postings_stored found
      obtain ⟨posted, l', success⟩ :=
        post_enters referenceType referenceId eventType description unused several tallied oneSided
      have run : next (post referenceType referenceId eventType currency idempotencyKey lines description) l = l' := by
        unfold next perform
        rw [after_read, found]
        exact after_bind_of_returns success
      rw [run] at after'
      rcases post_returns success with ⟨-, key, t, used, same⟩ | ⟨t, entered⟩
      · exact unused key t used same
      · exact differ ((balanced_entered entered stored balanced).mp after')
    · intro exact'
      unfold next perform
      rw [after_read]
      cases found : postings l lines with
      | none => exact balanced
      | some loaded =>
        have stored := postings_stored found
        rw [after_bind_of_returns ((returns_orThrow (some loaded) _ l l loaded).mpr ⟨rfl, rfl⟩)]
        refine after_bind (P := Balanced) (atomic_post _ _ _ _ _ _ _) balanced fun posted l' success => ?_
        rcases post_returns success with ⟨rfl, -⟩ | ⟨t, entered⟩
        · exact balanced
        · refine (balanced_entered entered stored balanced).mpr ?_
          obtain ⟨total, tallied⟩ := entered.tallied
          by_contra differ
          cases total with
          | int =>
            obtain ⟨debit, credit⟩ := tally_int tallied
            simp only [Number.int.injEq] at debit credit
            omega
          | float n =>
            refine exact' ⟨loaded, n, found, entered.unused, entered.several, entered.oneSided,
              tallied, differ⟩

def TrialBalanced (l : Ledger) : Prop := Balanced l ∧ ∀ currency, trialBalance l currency = 0

/-- A run keeps the trial balance in every state exactly when no posting rounds. -/
theorem trial_balance_iff (calls : List LedgerCall) :
    Runs.Throughout next TrialBalanced calls Ledger.opening ↔
      Runs.Met next (fun call l => ¬ call.Rounds l) calls Ledger.opening := by
  have start : Balanced Ledger.opening :=
    ⟨fun _ _ stored => (by cases stored), fun _ _ stored => (by cases stored),
      fun _ _ stored => (by cases stored)⟩
  have whole : ∀ {l : Ledger}, Balanced l ↔ TrialBalanced l :=
    fun {l} => ⟨fun balanced => ⟨balanced, balanced.trialBalance⟩, And.left⟩
  -- nothing but the balance itself has to be kept
  refine Runs.throughout_iff_met (Q := fun _ => True) (fun _ _ _ => trivial) ?_ calls Ledger.opening trivial
    (whole.mp start)
  intro call l _ balanced
  rw [← whole]
  exact balanced_next call l (whole.mpr balanced)

/-- Every row is still there, and a transaction has the entries it had. -/
structure Appended (l l' : Ledger) : Prop where
  accounts : ∀ key a, l.accounts.get? key = some a → l'.accounts.get? key = some a
  transactions : ∀ key t, l.transactions.get? key = some t → l'.transactions.get? key = some t
  entries : ∀ key e, l.entries.get? key = some e → l'.entries.get? key = some e
  closed : ∀ key e t, l'.entries.get? key = some e → l.transactions.get? e.transactionId = some t →
    l.entries.get? key = some e

/-- An idempotency key names one transaction. -/
def NamedOnce (l : Ledger) : Prop :=
  ∀ key key' t t', l.transactions.get? key = some t → l.transactions.get? key' = some t' →
    t.idempotencyKey = t'.idempotencyKey → key = key'

theorem createEntries_of_some {transactionId key : Nat} {loaded : List LedgerPosting} {entries : Table Nat LedgerEntry}
    {e : LedgerEntry} (stored : entries.get? key = some e) :
    (createEntries transactionId loaded entries).get? key = some e := by
  induction loaded generalizing entries with
  | nil => exact stored
  | cons _ _ ih => exact ih (Table.get?_create_of_some _ _ stored)

theorem appended_next (call : LedgerCall) (l : Ledger) (once : NamedOnce l) :
    NamedOnce (next call l) ∧ Appended l (next call l) := by
  have same : NamedOnce l ∧ Appended l l :=
    ⟨once, fun _ _ => id, fun _ _ => id, fun _ _ => id, fun _ _ _ stored _ => stored⟩
  cases call with
  | account =>
    refine after_bind (P := fun l' => NamedOnce l' ∧ Appended l l') (atomic_account _ _ _ _ _ _) same ?_
    intro opened l' success
    change NamedOnce l' ∧ Appended l l'
    have isOpen := account_returns success
    refine ⟨by rw [NamedOnce, isOpen.transactions]; exact once, isOpen.kept, ?_, ?_, ?_⟩
    · rw [isOpen.transactions]
      exact same.2.transactions
    · rw [isOpen.entries]
      exact same.2.entries
    · rw [isOpen.entries]
      exact same.2.closed
  | post referenceType referenceId eventType currency idempotencyKey lines description =>
    unfold next perform
    rw [after_read]
    cases found : postings l lines with
    | none => exact same
    | some loaded =>
      rw [after_bind_of_returns ((returns_orThrow (some loaded) _ l l loaded).mpr ⟨rfl, rfl⟩)]
      refine after_bind (P := fun l' => NamedOnce l' ∧ Appended l l') (atomic_post _ _ _ _ _ _ _) same ?_
      intro posted l' success
      change NamedOnce l' ∧ Appended l l'
      rcases post_returns success with ⟨rfl, -⟩ | ⟨t, entered⟩
      · exact same
      rw [entered.rows]
      refine ⟨?_, same.2.accounts, fun _ _ => Table.get?_create_of_some _ _, fun _ _ => createEntries_of_some, ?_⟩
      · intro key key' q q' stored stored' alike
        obtain ⟨rfl, rfl⟩ | old := Table.get?_create_cases stored
        · obtain ⟨rfl, rfl⟩ | old' := Table.get?_create_cases stored'
          · rfl
          · exact absurd (alike.symm.trans entered.named) (entered.unused key' q' old')
        · obtain ⟨rfl, rfl⟩ | old' := Table.get?_create_cases stored'
          · exact absurd (alike.trans entered.named) (entered.unused key q old)
          · exact once key key' q q' old old' alike
      · intro key e earlier stored ofEarlier
        obtain old | ⟨p, -, rfl⟩ := get?_createEntries stored
        · exact old
        · exact absurd (Table.lt_nextId ofEarlier) (lt_irrefl _)

/-- In every run accounts, transactions and entries stay as they were written, no transaction gets entries later, and
no key names two transactions. -/
theorem ledger_appends (before later : List LedgerCall) :
    NamedOnce (Runs.reached next (before ++ later) Ledger.opening) ∧
      Appended (Runs.reached next before Ledger.opening) (Runs.reached next (before ++ later) Ledger.opening) := by
  have run := Runs.reached_related (R := Appended)
    (fun _ => ⟨fun _ _ => id, fun _ _ => id, fun _ _ => id, fun _ _ _ stored _ => stored⟩)
    (fun first second => ⟨fun key a stored => second.accounts key a (first.accounts key a stored),
      fun key t stored => second.transactions key t (first.transactions key t stored),
      fun key e stored => second.entries key e (first.entries key e stored),
      fun key e t stored ofEarlier => first.closed key e t
        (second.closed key e t stored (first.transactions _ t ofEarlier)) ofEarlier⟩) appended_next
  have start : NamedOnce Ledger.opening := fun _ _ _ _ stored => (by cases stored)
  rw [Runs.reached_append]
  exact run later _ (run before _ start).1

/-- Debits of 2^64 - 2 against credits of 2^64 - 3: the same double. -/
def unequalTotals : List LedgerCall :=
  [account "1050-PROVIDER-CLEARING" "Payment provider clearing" "asset" "PHP" none none,
    account "1100-AR" "Accounts receivable" "asset" "PHP" none none,
    post "payment_allocation" "1" "payment_allocated" "PHP" "payment-allocation-1"
      [{ accountId := 0, debitMinor := phpIntMax }, { accountId := 0, debitMinor := phpIntMax },
        { accountId := 1, creditMinor := phpIntMax }, { accountId := 1, creditMinor := phpIntMax - 1 }] none]

theorem trial_balance_fails : ¬ ∀ calls : List LedgerCall,
    Runs.Throughout next TrialBalanced calls Ledger.opening := by
  intro always
  have final := (always unequalTotals).last.1.totals 0
  have stored : (((Runs.reached next unequalTotals Ledger.opening).transactions.get? 0).any fun _ =>
      debitsOf (Runs.reached next unequalTotals Ledger.opening) 0 ≠
        creditsOf (Runs.reached next unequalTotals Ledger.opening) 0) = true := by decide +kernel
  obtain ⟨t, found, differ⟩ := (Option.any_eq_true _ _).mp stored
  exact (of_decide_eq_true differ) (final t found)

end LedgerCall
end VtsaCsms.Billing
