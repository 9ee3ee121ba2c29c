import VtsaCsms.Billing.CreditNotes
import VtsaCsms.Payments.PaymentIntents

/-!
# Invoices and what is paid on them

`InvoiceService.php` and `PaymentAllocationService.php`. Both look at rows before their transaction locks any, so a call
carries what it saw: whether the record had an invoice, and what was paid on the invoice in hand.
-/
namespace VtsaCsms.Billing
open Foundation Foundation.Action
open Payments (PaymentIntentState)

/-- What invoicing reads of a charge detail record. -/
structure FinalizedChargeDetailRecord where
  id : Nat
  currency : String
  totalMinor : Nat
  platformFeeMinor : Option Int

/-- What an allocation reads of a payment intent. -/
structure PaymentFact where
  id : Nat
  currency : String
  state : PaymentIntentState

structure InvoiceLine where
  invoiceId : Nat
  ratedChargeId : Option Nat
  totalMinor : Int
  deriving DecidableEq, Repr

structure PaymentAllocation where
  paymentIntentId : Nat
  invoiceId : Nat
  currency : String
  amountMinor : Int
  deriving DecidableEq, Repr

structure Receipt where
  invoiceId : Nat
  paymentIntentId : Nat
  currency : String
  amountMinor : Int
  deriving DecidableEq, Repr

structure InvoiceBooks where
  ratedCharges : Table Nat RatedCharge := Table.empty
  invoices : Table Nat Invoice := Table.empty
  lines : Table Nat InvoiceLine := Table.empty
  allocations : Table Nat PaymentAllocation := Table.empty
  receipts : Table Nat Receipt := Table.empty
  ledger : Ledger := Ledger.opening

def onLedger (m : Action Ledger Throwable Unit) : Action InvoiceBooks Throwable Unit :=
  focus InvoiceBooks.ledger (fun s ledger => { s with ledger }) m

namespace InvoiceService

/-- The charge detail record that a line is about. -/
def recordOf (s : InvoiceBooks) (line : InvoiceLine) : Option Nat :=
  (line.ratedChargeId.bind s.ratedCharges.get?).map RatedCharge.chargeDetailRecordId

/-- The look-up before the transaction. -/
def existing (cdrId : Nat) (s : InvoiceBooks) : Bool :=
  s.lines.exists? fun _ line => recordOf s line = some cdrId

/-- `firstOrCreate` on the record. -/
def rate (cdr : FinalizedChargeDetailRecord) : Action InvoiceBooks Throwable Nat := do
  let found ← read fun s => s.ratedCharges.first? fun _ c => c.chargeDetailRecordId = cdr.id
  match found with
  | some rated => pure rated.1
  | none => do
    let key ← read fun s => s.ratedCharges.nextId
    write fun s => { s with
      ratedCharges := s.ratedCharges.create ⟨cdr.id, cdr.currency, cdr.totalMinor, cdr.platformFeeMinor⟩ }
    pure key

def issueForChargeDetailRecord (cdr : FinalizedChargeDetailRecord) (billingProfileId : String) (found : Bool) :
    Action InvoiceBooks Throwable Unit :=
  doIf (found = false) (transaction do
    let rated ← rate cdr
    let key ← read fun s => s.invoices.nextId
    write fun s => { s with
      invoices := s.invoices.create ⟨billingProfileId, "issued", cdr.currency, cdr.totalMinor, 0⟩
      lines := s.lines.create ⟨key, some rated, cdr.totalMinor⟩ }
    onLedger (transfer ("1100-AR", "Accounts receivable", "asset")
      ("4000-CHARGING-GROSS", "Gross charging revenue", "revenue") "invoice" (keyText key) "invoice_issued" cdr.currency
      ("invoice-issued-" ++ keyText key) cdr.totalMinor))

end InvoiceService

namespace PaymentAllocationService

/-- The invoice as it is in hand: what was paid on it, and its status, are those of an earlier moment. -/
def inHand (paid : Nat) (status : String) (stored : Invoice) : Invoice :=
  { stored with amountPaidMinor := paid, status }

def Allocatable (intent : PaymentFact) (invoice : Invoice) (amountMinor : Int) : Prop :=
  intent.state ∈ [.captured, .partiallyCaptured, .partiallyRefunded] ∧ intent.currency = invoice.currency ∧
    0 < amountMinor ∧ amountMinor ≤ invoice.totalMinor - invoice.amountPaidMinor
  deriving Decidable

/-- `forceFill(...)->save()`: a status that the invoice in hand has already is not written. -/
def paidOn (invoice : Invoice) (amountMinor : Int) (row : Invoice) : Invoice :=
  let paid := invoice.amountPaidMinor + amountMinor
  let status := if paid = invoice.totalMinor then "paid" else "partially_paid"
  { row with amountPaidMinor := paid, status := if status = invoice.status then row.status else status }

def allocated (intentId invoiceId : Nat) (s : InvoiceBooks) : Bool :=
  s.allocations.exists? fun _ a => a.paymentIntentId = intentId ∧ a.invoiceId = invoiceId

def allocate (intent : PaymentFact) (invoiceId paid : Nat) (status : String) (amountMinor : Int) :
    Action InvoiceBooks Throwable Unit := do
  let stored ← read fun s => s.invoices.get? invoiceId
  let row ← orThrow stored (.modelNotFound "Invoice")
  let invoice := inHand paid status row
  throwIf (¬ Allocatable intent invoice amountMinor)
    (.invalidArgument "Payment cannot be allocated to this invoice.")
  let existing ← read (allocated intent.id invoiceId)
  doIf (existing = false) (transaction do
    let key ← read fun s => s.allocations.nextId
    write fun s => { s with
      allocations := s.allocations.create ⟨intent.id, invoiceId, invoice.currency, amountMinor⟩
      invoices := s.invoices.update invoiceId (paidOn invoice amountMinor)
      receipts := s.receipts.create ⟨invoiceId, intent.id, invoice.currency, amountMinor⟩ }
    onLedger (transfer ("1050-PROVIDER-CLEARING", "Payment provider clearing", "asset")
      ("1100-AR", "Accounts receivable", "asset") "payment_allocation" (keyText key) "payment_allocated"
      invoice.currency ("payment-allocation-" ++ keyText key) amountMinor))

end PaymentAllocationService
open InvoiceService PaymentAllocationService

inductive InvoicingCall where
  | issue (cdr : FinalizedChargeDetailRecord) (billingProfileId : String) (found : Bool)
  | allocate (intent : PaymentFact) (invoiceId paid : Nat) (status : String) (amountMinor : Int)

namespace InvoicingCall

def perform : InvoicingCall → Action InvoiceBooks Throwable Unit
  | issue cdr billingProfileId found => issueForChargeDetailRecord cdr billingProfileId found
  | allocate intent invoiceId paid status amountMinor =>
    PaymentAllocationService.allocate intent invoiceId paid status amountMinor

def next (call : InvoicingCall) (s : InvoiceBooks) : InvoiceBooks := after call.perform s

/-- An allocation that goes through was worked out from another paid amount than the stored one. -/
def PaysStale : InvoicingCall → InvoiceBooks → Prop
  | issue .., _ => False
  | allocate intent invoiceId paid status amountMinor, s =>
    ∃ i, s.invoices.get? invoiceId = some i ∧ i.amountPaidMinor ≠ paid ∧ allocated intent.id invoiceId s = false ∧
      ∃ s', Returns (allocate intent invoiceId paid status amountMinor).perform s () s'

/-- An invoice goes out for a record that has one by now. -/
def InvoicesAgain : InvoicingCall → InvoiceBooks → Prop
  | issue cdr billingProfileId found, s => found = false ∧ existing cdr.id s = true ∧
    ∃ s', Returns (issue cdr billingProfileId found).perform s () s'
  | allocate .., _ => False

end InvoicingCall

/-- What was allocated to an invoice. -/
def allocatedTo (invoiceId : Nat) (s : InvoiceBooks) : Int :=
  s.allocations.sumOver fun _ a => if a.invoiceId = invoiceId then a.amountMinor else 0

/-- What is paid on an invoice is what was allocated to it, and no more than its total. -/
def PaidAddsUp (s : InvoiceBooks) : Prop :=
  ∀ invoiceId i, s.invoices.get? invoiceId = some i →
    i.amountPaidMinor = allocatedTo invoiceId s ∧ i.amountPaidMinor ≤ i.totalMinor

def timesInvoiced (cdrId : Nat) (s : InvoiceBooks) : Int :=
  s.lines.sumOver fun _ line => if recordOf s line = some cdrId then 1 else 0

def InvoicedOnce (s : InvoiceBooks) : Prop := ∀ cdrId, timesInvoiced cdrId s ≤ 1

/-- Foreign keys. -/
structure Referring (s : InvoiceBooks) : Prop where
  charges : ∀ key line rated, s.lines.get? key = some line → line.ratedChargeId = some rated →
    ∃ c, s.ratedCharges.get? rated = some c
  invoices : ∀ key a, s.allocations.get? key = some a → ∃ i, s.invoices.get? a.invoiceId = some i

section Steps
variable {s s' : InvoiceBooks}

theorem rate_returns {cdr : FinalizedChargeDetailRecord} {rated : Nat} (success : Returns (rate cdr) s rated s') :
    ∃ charges, s' = { s with ratedCharges := charges } ∧
      (∃ c, charges.get? rated = some c ∧ c.chargeDetailRecordId = cdr.id) ∧
      ∀ key c, s.ratedCharges.get? key = some c → charges.get? key = some c := by
  unfold rate at success
  simp only [returns_bind, returns_read] at success
  obtain ⟨found, _, ⟨lookup, rfl⟩, success⟩ := success
  cases found with
  | some hit =>
    obtain ⟨rfl, rfl⟩ := (returns_pure ..).mp success
    obtain ⟨stored, same⟩ := Table.first?_some lookup.symm
    exact ⟨_, rfl, ⟨hit.2, stored, of_decide_eq_true same⟩, fun _ _ stored => stored⟩
  | none =>
    simp only [returns_bind, returns_read, returns_write, returns_pure] at success
    obtain ⟨_, _, ⟨rfl, rfl⟩, _, _, rfl, rfl, rfl⟩ := success
    exact ⟨_, rfl, ⟨_, Table.get?_create_self _ _, rfl⟩, fun _ _ stored => Table.get?_create_of_some _ _ stored⟩

/-- An invoice that goes out, on one line that is about the record. -/
structure Issued (cdr : FinalizedChargeDetailRecord) (s s' : InvoiceBooks) : Prop where
  invoices : ∃ profile, s'.invoices = s.invoices.create ⟨profile, "issued", cdr.currency, cdr.totalMinor, 0⟩
  lines : ∃ rated, s'.lines = s.lines.create ⟨s.invoices.nextId, some rated, cdr.totalMinor⟩ ∧
    ∃ c, s'.ratedCharges.get? rated = some c ∧ c.chargeDetailRecordId = cdr.id
  charges : ∀ key c, s.ratedCharges.get? key = some c → s'.ratedCharges.get? key = some c
  allocations : s'.allocations = s.allocations

theorem issue_returns {cdr : FinalizedChargeDetailRecord} {billingProfileId : String} {found : Bool}
    (success : Returns (issueForChargeDetailRecord cdr billingProfileId found) s () s') :
    s' = s ∧ found = true ∨ found = false ∧ Issued cdr s s' := by
  unfold issueForChargeDetailRecord onLedger at success
  simp only [returns_doIf, returns_transaction, returns_bind, returns_read, returns_write, returns_focus] at success
  obtain ⟨missed, rated, _, rates, _, _, ⟨rfl, rfl⟩, _, _, rfl, _, -, rfl⟩ | ⟨seen, rfl⟩ := success
  · obtain ⟨charges, rfl, own, kept⟩ := rate_returns rates
    exact Or.inr ⟨missed, ⟨billingProfileId, rfl⟩, ⟨rated, rfl, own⟩, kept, rfl⟩
  · exact Or.inl ⟨rfl, by simpa using seen⟩

structure Paid (intent : PaymentFact) (invoiceId paid : Nat) (status : String) (amountMinor : Int) (i : Invoice)
    (s s' : InvoiceBooks) : Prop where
  stored : s.invoices.get? invoiceId = some i
  positive : 0 < amountMinor
  within : amountMinor ≤ i.totalMinor - paid
  new : allocated intent.id invoiceId s = false
  invoices : s'.invoices = s.invoices.update invoiceId (paidOn (inHand paid status i) amountMinor)
  allocations : s'.allocations = s.allocations.create ⟨intent.id, invoiceId, i.currency, amountMinor⟩
  others : s'.lines = s.lines ∧ s'.ratedCharges = s.ratedCharges

theorem allocate_returns {intent : PaymentFact} {invoiceId paid : Nat} {status : String} {amountMinor : Int}
    (success : Returns (PaymentAllocationService.allocate intent invoiceId paid status amountMinor) s () s') :
    ∃ i, s' = s ∧ allocated intent.id invoiceId s = true ∨ Paid intent invoiceId paid status amountMinor i s s' := by
  unfold PaymentAllocationService.allocate onLedger at success
  simp only [returns_bind, returns_read, returns_orThrow, returns_throwIf, returns_doIf, returns_transaction,
    returns_write, returns_focus, not_not] at success
  obtain ⟨_, _, ⟨rfl, rfl⟩, i, _, ⟨stored, rfl⟩, _, _, ⟨⟨-, -, positive, within⟩, rfl⟩, _, _, ⟨rfl, rfl⟩, rest⟩ :=
    success
  obtain ⟨new, _, _, ⟨rfl, rfl⟩, _, _, rfl, _, -, rfl⟩ | ⟨known, rfl⟩ := rest
  · exact ⟨i, Or.inr ⟨stored, positive, within, new, rfl, rfl, rfl, rfl⟩⟩
  · exact ⟨i, Or.inl ⟨rfl, by simpa using known⟩⟩

theorem atomic_perform (call : InvoicingCall) : Atomic call.perform := by
  cases call with
  | issue cdr billingProfileId found =>
    change Atomic (issueForChargeDetailRecord cdr billingProfileId found)
    unfold issueForChargeDetailRecord doIf
    split
    exacts [atomic_transaction _, atomic_pure ()]
  | allocate intent invoiceId paid status amountMinor =>
    refine (atomic_read _).bind (fun _ _ _ found => ((returns_read ..).mp found).2) fun stored => ?_
    refine (atomic_orThrow _ _).bind (fun _ _ _ found => ((returns_orThrow ..).mp found).2) fun row => ?_
    refine (atomic_throwIf _ _).bind (fun _ _ _ passed => ((returns_throwIf ..).mp passed).2) fun _ => ?_
    refine (atomic_read _).bind (fun _ _ _ found => ((returns_read ..).mp found).2) fun existing => ?_
    unfold doIf
    split
    exacts [atomic_transaction _, atomic_pure ()]

/-! ### What is paid -/

theorem referring_next (call : InvoicingCall) (s : InvoiceBooks) (sound : Referring s) : Referring (call.next s) := by
  obtain ⟨same, -⟩ | success := after_cases (atomic_perform call) s
  · rwa [InvoicingCall.next, same]
  cases call with
  | issue cdr billingProfileId found =>
    obtain ⟨same, -⟩ | ⟨-, out⟩ := issue_returns success
    · rwa [InvoicingCall.next, same]
    obtain ⟨profile, invoices⟩ := out.invoices
    obtain ⟨rated, lines, c, own, -⟩ := out.lines
    constructor
    · intro key line rated' stored about
      rw [InvoicingCall.next, lines] at stored
      obtain ⟨-, rfl⟩ | stored := Table.get?_create_cases stored
      · obtain rfl := Option.some.inj about
        exact ⟨c, own⟩
      · obtain ⟨c', stored'⟩ := sound.charges key line rated' stored about
        exact ⟨c', out.charges _ _ stored'⟩
    · intro key a stored
      rw [InvoicingCall.next, out.allocations] at stored
      obtain ⟨i, stored'⟩ := sound.invoices key a stored
      exact ⟨i, by rw [InvoicingCall.next, invoices]; exact Table.get?_create_of_some _ _ stored'⟩
  | allocate intent invoiceId paid status amountMinor =>
    obtain ⟨i, ⟨same, -⟩ | out⟩ := allocate_returns success
    · rwa [InvoicingCall.next, same]
    constructor
    · rw [InvoicingCall.next, out.others.1, out.others.2]
      exact sound.charges
    · intro key a stored
      rw [InvoicingCall.next, out.invoices]
      have kept : ∃ i, s.invoices.get? a.invoiceId = some i := by
        rw [InvoicingCall.next, out.allocations] at stored
        obtain ⟨-, rfl⟩ | stored := Table.get?_create_cases stored
        · exact ⟨i, out.stored⟩
        · exact sound.invoices key a stored
      obtain ⟨i', stored'⟩ := kept
      exact ⟨_, (Table.get?_update_of_some _ _ stored').choose_spec⟩

theorem paidAddsUp_next (call : InvoicingCall) (s : InvoiceBooks) (sound : Referring s) (adds : PaidAddsUp s) :
    PaidAddsUp (call.next s) ↔ ¬ call.PaysStale s := by
  obtain ⟨same, refused⟩ | success := after_cases (atomic_perform call) s
  · rw [InvoicingCall.next, same]
    refine iff_of_true adds ?_
    cases call with
    | issue => exact id
    | allocate =>
      rintro ⟨_, -, -, -, s', success⟩
      exact refused s' success
  cases call with
  | issue cdr billingProfileId found =>
    refine iff_of_true ?_ id
    obtain ⟨same, -⟩ | ⟨-, out⟩ := issue_returns success
    · rwa [InvoicingCall.next, same]
    obtain ⟨profile, invoices⟩ := out.invoices
    intro invoiceId i stored
    unfold allocatedTo
    rw [InvoicingCall.next, invoices] at stored
    rw [InvoicingCall.next, out.allocations]
    obtain ⟨rfl, rfl⟩ | stored := Table.get?_create_cases stored
    · refine ⟨?_, Int.natCast_nonneg _⟩
      rw [Table.sumOver_congr (g := fun _ _ => 0), Table.sumOver_zero]
      intro key a allocation
      refine if_neg fun new => ?_
      obtain ⟨_, older⟩ := sound.invoices key a allocation
      exact absurd (Table.lt_nextId older) (by omega)
    · exact adds invoiceId i stored
  | allocate intent invoiceId paid status amountMinor =>
    obtain ⟨i, ⟨same, known⟩ | out⟩ := allocate_returns success
    · rw [InvoicingCall.next, same]
      refine iff_of_true adds ?_
      rintro ⟨_, -, -, new, -⟩
      exact absurd (new.symm.trans known) (by decide)
    have sum (key : Nat) : allocatedTo key ((InvoicingCall.allocate intent invoiceId paid status amountMinor).next s) =
        allocatedTo key s + if invoiceId = key then amountMinor else 0 := by
      unfold allocatedTo
      rw [InvoicingCall.next, out.allocations, Table.sumOver_create]
    obtain ⟨before, -⟩ := adds invoiceId i out.stored
    constructor
    · rintro after' ⟨i', stored', stale, -, -⟩
      cases out.stored.symm.trans stored'
      have own := after' invoiceId (paidOn (inHand paid status i) amountMinor i)
        (by rw [InvoicingCall.next, out.invoices, Table.get?_update_self, out.stored]; rfl)
      rw [sum, if_pos rfl] at own
      dsimp only [paidOn, inHand] at own
      omega
    · intro fresh key i' stored'
      rw [InvoicingCall.next, out.invoices] at stored'
      rw [sum]
      obtain ⟨rfl, row, stored, rfl⟩ | ⟨other, stored⟩ := Table.get?_update_cases stored'
      · cases out.stored.symm.trans stored
        have current : i.amountPaidMinor = paid := by
          by_contra stale
          exact fresh ⟨i, stored, stale, out.new, _, success⟩
        have within := out.within
        rw [if_pos rfl]
        dsimp only [paidOn, inHand]
        omega
      · rw [if_neg (Ne.symm other), add_zero]
        exact adds key i' stored

/-- What is paid on each invoice is what payments were allocated to it, in every state of a run, exactly if no
allocation goes by an older paid amount than the stored one. -/
theorem paid_adds_up_iff (calls : List InvoicingCall) :
    Runs.Throughout InvoicingCall.next PaidAddsUp calls {} ↔
      Runs.Met InvoicingCall.next (fun call s => ¬ call.PaysStale s) calls {} :=
  Runs.throughout_iff_met referring_next paidAddsUp_next calls {} ⟨nofun, nofun⟩ nofun

/-! ### What is invoiced -/

theorem existing_iff (cdrId : Nat) (s : InvoiceBooks) : existing cdrId s = true ↔ 0 < timesInvoiced cdrId s := by
  unfold existing timesInvoiced
  rw [Table.exists?_iff]
  constructor
  · rintro ⟨key, line, stored, about⟩
    have own := (Table.sumOver_single s.lines key fun _ => 1).symm
    rw [stored] at own
    refine lt_of_lt_of_le Int.one_pos (own.trans_le (Table.sumOver_mono _ fun key' line' stored' => ?_))
    split
    · rename_i same
      subst same
      cases stored.symm.trans stored'
      rw [if_pos (of_decide_eq_true about)]
    · split <;> decide
  · intro positive
    by_contra none
    rw [Table.sumOver_congr (g := fun _ _ => 0), Table.sumOver_zero] at positive
    · exact absurd positive (lt_irrefl 0)
    · intro key line stored
      exact if_neg fun about => none ⟨key, line, stored, decide_eq_true about⟩

theorem timesInvoiced_issued {cdr : FinalizedChargeDetailRecord} (sound : Referring s) (out : Issued cdr s s')
    (cdrId : Nat) : timesInvoiced cdrId s' = timesInvoiced cdrId s + if cdr.id = cdrId then 1 else 0 := by
  obtain ⟨rated, lines, c, own, about⟩ := out.lines
  unfold timesInvoiced
  rw [lines, Table.sumOver_create]
  congr 1
  · refine Table.sumOver_congr _ fun key line stored => ?_
    have same : recordOf s' line = recordOf s line := by
      unfold recordOf
      cases charged : line.ratedChargeId with
      | none => rfl
      | some key' =>
        obtain ⟨c', stored'⟩ := sound.charges key line key' stored charged
        rw [Option.bind_some, Option.bind_some, stored', out.charges _ _ stored']
    rw [same]
  · unfold recordOf
    simp only [Option.bind_some, own, Option.map_some, about, Option.some.injEq]

theorem invoicedOnce_next (call : InvoicingCall) (s : InvoiceBooks) (sound : Referring s) (once : InvoicedOnce s) :
    InvoicedOnce (call.next s) ↔ ¬ call.InvoicesAgain s := by
  obtain ⟨same, refused⟩ | success := after_cases (atomic_perform call) s
  · rw [InvoicingCall.next, same]
    refine iff_of_true once ?_
    cases call with
    | issue =>
      rintro ⟨-, -, s', success⟩
      exact refused s' success
    | allocate => exact id
  cases call with
  | issue cdr billingProfileId found =>
    obtain ⟨same, saw⟩ | ⟨missed, out⟩ := issue_returns success
    · rw [InvoicingCall.next, same]
      refine iff_of_true once ?_
      rintro ⟨missed, -⟩
      exact absurd (missed.symm.trans saw) (by decide)
    have sum := timesInvoiced_issued sound out
    constructor
    · rintro after' ⟨-, again, -⟩
      have own := after' cdr.id
      have before := (existing_iff cdr.id s).mp again
      rw [InvoicingCall.next, sum, if_pos rfl] at own
      omega
    · intro first cdrId
      rw [InvoicingCall.next, sum]
      split
      · rename_i same
        subst same
        have none : ¬ 0 < timesInvoiced cdr.id s := fun again =>
          first ⟨missed, (existing_iff cdr.id s).mpr again, _, success⟩
        omega
      · rw [add_zero]
        exact once cdrId
  | allocate intent invoiceId paid status amountMinor =>
    refine iff_of_true ?_ id
    obtain ⟨i, ⟨same, -⟩ | out⟩ := allocate_returns success
    · rwa [InvoicingCall.next, same]
    · unfold InvoicedOnce timesInvoiced recordOf
      rw [InvoicingCall.next, out.others.1, out.others.2]
      exact once

/-- No record is invoiced twice in any state of a run exactly if no invoice goes out on a look-up that another invoice
has overtaken. -/
theorem invoiced_once_iff (calls : List InvoicingCall) :
    Runs.Throughout InvoicingCall.next InvoicedOnce calls {} ↔
      Runs.Met InvoicingCall.next (fun call s => ¬ call.InvoicesAgain s) calls {} :=
  Runs.throughout_iff_met referring_next invoicedOnce_next calls {} ⟨nofun, nofun⟩ fun _ => Int.zero_le_ofNat 1

end Steps
end VtsaCsms.Billing
