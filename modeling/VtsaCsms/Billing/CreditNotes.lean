import VtsaCsms.Billing.Invoices
import VtsaCsms.Foundation.Runs

/-!
# Credit notes

`CreditNoteService.php`: a note is checked against the total of its invoice alone, so the notes of an
invoice stay within the total exactly as long as each of them is within what the earlier ones left.
-/
namespace VtsaCsms.Billing
open Foundation Foundation.Action DoubleEntryLedger

structure CreditNote where
  invoiceId : Nat
  currency : String
  amountMinor : Int
  reasonCode : String
  reasonNotes : Option String
  deriving DecidableEq

structure CreditBooks where
  invoices : Table Nat Invoice
  notes : Table Nat CreditNote
  ledger : Ledger

abbrev Credit (α : Type) := Action CreditBooks Throwable α

namespace CreditNoteService

def postNote (note : Nat) (currency : String) (amountMinor : Int) : Action Ledger Throwable Unit := do
  let returns ← account "4900-SALES-RETURNS" "Sales returns and allowances" "expense" currency
  let receivable ← account "1100-AR" "Accounts receivable" "asset" currency
  let _ ← post "credit_note" (keyText note) "credit_note_issued" currency ("credit-note-" ++ keyText note)
    [{ account := returns, debitMinor := amountMinor }, { account := receivable, creditMinor := amountMinor }]

def issue (invoice : Nat × Invoice) (amountMinor : Int) (reasonCode : String) (notes : Option String) :
    Credit (Nat × CreditNote) := do
  throwIf (amountMinor ≤ 0 ∨ invoice.2.totalMinor < amountMinor) (.invalidArgument "Invalid credit-note amount.")
  transaction do
    let key ← read fun b => b.notes.nextId
    let note : CreditNote :=
      { invoiceId := invoice.1, currency := invoice.2.currency, amountMinor, reasonCode, reasonNotes := notes }
    write fun b => { b with notes := b.notes.create note }
    focus CreditBooks.ledger (fun b l => { b with ledger := l }) (postNote key invoice.2.currency amountMinor)
    pure (key, note)

end CreditNoteService

/-- A call of the service for a stored invoice. -/
structure CreditCall where
  invoice : Nat
  amountMinor : Int
  reasonCode : String
  notes : Option String

namespace CreditCall
open CreditNoteService

def perform (call : CreditCall) : Credit Unit := do
  let stored ← read fun b => b.invoices.get? call.invoice
  let invoice ← orThrow stored (.modelNotFound "Invoice")
  let _ ← issue (call.invoice, invoice) call.amountMinor call.reasonCode call.notes

def next (call : CreditCall) (b : CreditBooks) : CreditBooks := after call.perform b

end CreditCall

/-- What has been credited on an invoice. -/
def credited (b : CreditBooks) (invoice : Nat) : Int :=
  b.notes.sumOver fun _ note => if note.invoiceId = invoice then note.amountMinor else 0

/-- No invoice is credited more than its total. -/
def CreditsWithin (b : CreditBooks) : Prop :=
  ∀ key i, b.invoices.get? key = some i → credited b key ≤ i.totalMinor

def TotalsFit (b : CreditBooks) : Prop := ∀ key i, b.invoices.get? key = some i → i.totalMinor ≤ phpIntMax

/-- A note within the total, but not within what the earlier notes left of it. -/
def CreditCall.OverCredits (call : CreditCall) (b : CreditBooks) : Prop :=
  ∃ i, b.invoices.get? call.invoice = some i ∧ 0 < call.amountMinor ∧ call.amountMinor ≤ i.totalMinor ∧
    i.totalMinor < credited b call.invoice + call.amountMinor

/-! ### Two accounts -/

/-- An amount posted from one account to another. -/
def transfer (debited credited : String × String × String)
    (referenceType referenceId eventType currency idempotencyKey : String) (amountMinor : Int) :
    Action Ledger Throwable Unit := do
  let debit ← account debited.1 debited.2.1 debited.2.2 currency
  let credit ← account credited.1 credited.2.1 credited.2.2 currency
  let _ ← post referenceType referenceId eventType currency idempotencyKey
    [{ account := debit, debitMinor := amountMinor }, { account := credit, creditMinor := amountMinor }]

/-- What a posting is about. -/
def LedgerTransaction.IsOf (t : LedgerTransaction) (referenceType referenceId eventType : String) : Prop :=
  t.referenceType = referenceType ∧ t.referenceId = referenceId ∧ t.eventType = eventType

section Transfer
variable {idempotencyKey : String} {amountMinor : Int} {l : Ledger}

theorem transfer_returns (debited credited : String × String × String)
    (referenceType referenceId eventType currency : String)
    (positive : 0 < amountMinor) (fits : amountMinor ≤ phpIntMax)
    (unused : ∀ key t, l.transactions.get? key = some t → t.idempotencyKey ≠ idempotencyKey) :
    ∃ l' t, Returns (transfer debited credited referenceType referenceId eventType currency idempotencyKey
        amountMinor) l () l' ∧
      l'.transactions = l.transactions.create t ∧ t.IsOf referenceType referenceId eventType ∧
      t.idempotencyKey = idempotencyKey := by
  obtain ⟨debit, l₁, first, firstOpened, firstCurrency⟩ :=
    account_opens debited.1 debited.2.1 debited.2.2 currency none none l
  obtain ⟨credit, l₂, second, secondOpened, secondCurrency⟩ :=
    account_opens credited.1 credited.2.1 credited.2.2 currency none none l₁
  let postings : List LedgerPosting :=
    [{ account := debit, debitMinor := amountMinor }, { account := credit, creditMinor := amountMinor }]
  have same : l₂.transactions = l.transactions := secondOpened.transactions.trans firstOpened.transactions
  have oneSided : ∀ p ∈ postings, p.OneSided := by
    simp [postings, LedgerPosting.OneSided, positive]
  have currencies : ∀ p ∈ postings, p.account.2.currency = strToUpper currency := by
    simp [postings, firstCurrency, secondCurrency]
  have low : phpIntMin ≤ 0 := by decide
  have tallied := tally_ok (d := 0) (c := 0) currencies oneSided (le_refl _) (le_refl _)
    ⟨by simpa [postings, debitTotal] using fits, by simpa [postings, creditTotal] using fits⟩
  have total : tally currency postings (.int 0, .int 0) = .ok (.int amountMinor, .int amountMinor) := by
    rw [tallied]
    simp [postings, debitTotal, creditTotal]
  have unused₂ : ∀ key t, l₂.transactions.get? key = some t → t.idempotencyKey ≠ idempotencyKey := by
    rw [same]
    exact unused
  obtain ⟨posted, l', entered⟩ := post_enters referenceType referenceId eventType none unused₂ (by simp [postings])
    total oneSided
  rcases post_returns entered with ⟨-, key, t, stored, named⟩ | ⟨t, entry⟩
  · exact absurd named (unused₂ key t stored)
  · refine ⟨l', t, ?_, ?_, ⟨entry.referenceType, entry.referenceId, entry.eventType⟩, entry.named⟩
    · exact .bind first (.bind second (.bind entered rfl))
    · rw [entry.rows, ← same]

end Transfer

/-! ### What a call leaves -/

theorem transfer_accepts (debited credited : String × String × String)
    (referenceType referenceId eventType currency idempotencyKey : String) {amountMinor : Int} (l : Ledger)
    (positive : 0 < amountMinor) (fits : amountMinor ≤ phpIntMax) :
    ∃ l', Returns (transfer debited credited referenceType referenceId eventType currency idempotencyKey
      amountMinor) l () l' := by
  by_cases unused : ∀ key t, l.transactions.get? key = some t → t.idempotencyKey ≠ idempotencyKey
  · obtain ⟨l', -, returned, -⟩ := transfer_returns debited credited referenceType referenceId eventType currency
      positive fits unused
    exact ⟨l', returned⟩
  · push Not at unused
    obtain ⟨key, t, stored, same⟩ := unused
    obtain ⟨debit, l₁, first, opened, -⟩ := account_opens debited.1 debited.2.1 debited.2.2 currency none none l
    obtain ⟨credit, l₂, second, opened', -⟩ := account_opens credited.1 credited.2.1 credited.2.2 currency none none l₁
    have kept : l₂.transactions = l.transactions := opened'.transactions.trans opened.transactions
    refine ⟨l₂, .bind first (.bind second ?_)⟩
    unfold post
    cases found : l₂.transactions.first? fun _ t => t.idempotencyKey = idempotencyKey with
    | none =>
      rw [kept] at found
      simpa [same] using Table.first?_none found key t stored
    | some earlier => exact .bind (.bind ((returns_read ..).mpr ⟨found.symm, rfl⟩) rfl) rfl

variable {b : CreditBooks} {call : CreditCall} {i : Invoice}

def CreditCall.note (call : CreditCall) (i : Invoice) : CreditNote :=
  ⟨call.invoice, i.currency, call.amountMinor, call.reasonCode, call.notes⟩

theorem next_issued (stored : b.invoices.get? call.invoice = some i) (positive : 0 < call.amountMinor)
    (within : call.amountMinor ≤ i.totalMinor) (fits : i.totalMinor ≤ phpIntMax) :
    (call.next b).invoices = b.invoices ∧ (call.next b).notes = b.notes.create (call.note i) := by
  obtain ⟨l, posted⟩ := transfer_accepts ("4900-SALES-RETURNS", "Sales returns and allowances", "expense")
    ("1100-AR", "Accounts receivable", "asset") "credit_note" (keyText b.notes.nextId) "credit_note_issued" i.currency
    ("credit-note-" ++ keyText b.notes.nextId) b.ledger positive (within.trans fits)
  have returned : Returns call.perform b () { b with notes := b.notes.create (call.note i), ledger := l } := by
    unfold CreditCall.perform CreditNoteService.issue
    refine .bind ((returns_read ..).mpr ⟨rfl, rfl⟩) (.bind ((returns_orThrow ..).mpr ⟨stored, rfl⟩) ?_)
    refine .bind (a := (b.notes.nextId, call.note i))
      (.bind (.throwIf (by dsimp only; omega)) ((returns_transaction ..).mpr ?_)) rfl
    refine .bind ((returns_read ..).mpr ⟨rfl, rfl⟩) (.bind (a := ()) ((returns_write ..).mpr rfl)
      (.bind (a := ()) ?_ rfl))
    have noted : Returns (focus CreditBooks.ledger (fun b l => { b with ledger := l })
        (CreditNoteService.postNote b.notes.nextId i.currency call.amountMinor))
        { b with notes := b.notes.create (call.note i) } ()
        { b with notes := b.notes.create (call.note i), ledger := l } := .focus posted
    exact noted
  unfold CreditCall.next
  rw [returned.after_eq]
  exact ⟨rfl, rfl⟩

theorem next_refused (refused : ∀ i, b.invoices.get? call.invoice = some i →
    call.amountMinor ≤ 0 ∨ i.totalMinor < call.amountMinor) : call.next b = b := by
  cases stored : b.invoices.get? call.invoice with
  | none =>
    unfold CreditCall.next CreditCall.perform
    rw [after_read, stored]
    rfl
  | some i =>
    have thrown : ∃ e, Throws call.perform b e b := by
      unfold CreditCall.perform CreditNoteService.issue
      exact ⟨_, .after_returns ((returns_read ..).mpr ⟨rfl, rfl⟩) (.after_returns
        ((returns_orThrow ..).mpr ⟨stored, rfl⟩) (Throws.throwIf (refused i stored)).bind.bind)⟩
    obtain ⟨e, thrown⟩ := thrown
    unfold CreditCall.next
    rw [after, thrown]

/-- The note is within the total of its invoice. -/
def CreditCall.Accepted (call : CreditCall) (b : CreditBooks) (i : Invoice) : Prop :=
  b.invoices.get? call.invoice = some i ∧ 0 < call.amountMinor ∧ call.amountMinor ≤ i.totalMinor

theorem next_cases (call : CreditCall) (fits : TotalsFit b) : (∃ i, call.Accepted b i ∧ (call.next b).invoices = b.invoices ∧
      (call.next b).notes = b.notes.create (call.note i)) ∨
    (∀ i, ¬ call.Accepted b i) ∧ call.next b = b := by
  by_cases accepted : ∃ i, call.Accepted b i
  · obtain ⟨i, stored, positive, covered⟩ := accepted
    exact Or.inl ⟨i, ⟨stored, positive, covered⟩, next_issued stored positive covered (fits _ i stored)⟩
  · rw [not_exists] at accepted
    refine Or.inr ⟨accepted, next_refused fun i stored => ?_⟩
    by_contra passes
    rw [not_or, not_le, not_lt] at passes
    exact accepted i ⟨stored, passes⟩

/-! ### The sum of the notes -/

/-- One call keeps the notes within the totals, unless it credits what earlier notes have used up. -/
theorem creditsWithin_next (fits : TotalsFit b) (within : CreditsWithin b) :
    CreditsWithin (call.next b) ↔ ¬ call.OverCredits b := by
  rcases next_cases call fits with ⟨i, accepted, invoices, notes⟩ | ⟨refused, same⟩
  · obtain ⟨stored, positive, covered⟩ := accepted
    have sum (key : Nat) : credited (call.next b) key =
        credited b key + if call.invoice = key then call.amountMinor else 0 := by
      unfold credited
      rw [notes, Table.sumOver_create]
      rfl
    constructor
    · rintro after' ⟨i', stored', -, -, exceeds⟩
      have bound := after' call.invoice i' (by rw [invoices, stored'])
      rw [sum, if_pos rfl] at bound
      omega
    · intro fresh key i' stored'
      rw [invoices] at stored'
      have before := within key i' stored'
      rw [sum]
      split
      · rename_i same
        subst same
        cases stored.symm.trans stored'
        by_contra exceeds
        exact fresh ⟨i, stored, positive, covered, not_le.mp exceeds⟩
      · omega
  · rw [same]
    exact iff_of_true within fun ⟨i, stored, positive, covered, _⟩ => refused i ⟨stored, positive, covered⟩

theorem totalsFit_next (fits : TotalsFit b) : TotalsFit (call.next b) := by
  rcases next_cases call fits with ⟨_, -, invoices, -⟩ | ⟨-, same⟩
  · unfold TotalsFit
    rwa [invoices]
  · rwa [same]

/-- A run of calls keeps every invoice within its total in every state exactly if no call credits what earlier
notes have used up. -/
theorem creditsWithin_iff (calls : List CreditCall) (fits : TotalsFit b) (within : CreditsWithin b) :
    Runs.Throughout CreditCall.next CreditsWithin calls b ↔
      Runs.Met CreditCall.next (fun call b => ¬ call.OverCredits b) calls b :=
  Runs.throughout_iff_met (fun _ _ fits => totalsFit_next fits) (fun _ _ fits within => creditsWithin_next fits within)
    calls b fits within

def invoicedHundred : CreditBooks :=
  ⟨Table.empty.create ⟨"B", "issued", "PHP", 100, 0⟩, Table.empty, Ledger.opening⟩

theorem invoicedHundred_uncredited : TotalsFit invoicedHundred ∧ CreditsWithin invoicedHundred := by
  have only : ∀ key i, invoicedHundred.invoices.get? key = some i → i = ⟨"B", "issued", "PHP", 100, 0⟩ := by
    intro key i stored
    unfold invoicedHundred at stored
    rw [Table.get?_create] at stored
    split at stored
    · exact (Option.some.inj stored).symm
    · cases stored
  refine ⟨fun key i stored => ?_, fun key i stored => ?_⟩
  · rw [only key i stored]
    decide
  · rw [only key i stored]
    exact Int.zero_le_ofNat 100

def creditedTwice : List CreditCall := [⟨0, 100, "service_adjustment", none⟩, ⟨0, 100, "goodwill", none⟩]

theorem creditsWithin_hundred : Runs.Throughout CreditCall.next CreditsWithin [⟨0, 40, "service_adjustment", none⟩]
    invoicedHundred :=
  (creditsWithin_iff _ invoicedHundred_uncredited.1 invoicedHundred_uncredited.2).mpr
    ⟨by rintro ⟨i, stored, -, -, exceeds⟩; cases stored; exact absurd exceeds (by decide), trivial⟩

theorem credited_twice_exceeds : ¬ ∀ (calls : List CreditCall) (b : CreditBooks), TotalsFit b → CreditsWithin b →
    Runs.Throughout CreditCall.next CreditsWithin calls b := by
  intro always
  have last := (always creditedTwice invoicedHundred invoicedHundred_uncredited.1 invoicedHundred_uncredited.2).last 0
    ⟨"B", "issued", "PHP", 100, 0⟩ (by decide +kernel)
  exact absurd last (by decide +kernel)

end VtsaCsms.Billing
