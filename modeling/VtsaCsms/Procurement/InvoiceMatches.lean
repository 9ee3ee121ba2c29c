import VtsaCsms.Foundation.Runs
import VtsaCsms.Inventory.ReceiptBooks
import VtsaCsms.Inventory.StockMoves
import VtsaCsms.Procurement.VendorInvoices

/-!
# Invoices against what was accepted

A match compares one invoice with the accepted quantities and looks at no other invoice of the
order.
-/
namespace VtsaCsms.Procurement
open Foundation Foundation.Action Inventory VendorInvoiceWorkflow

/-- The invoice went through a match. -/
def VendorInvoiceStatus.isMatched : VendorInvoiceStatus → Bool
  | matched | approved | exported => true
  | submitted | matching | discrepancy | rejected => false

def isMatched (invoiceId : Nat) (s : Invoicing) : Bool :=
  (s.invoices.get? invoiceId).any fun invoice => invoice.status.isMatched

def matchedQuantity (poLineId : Nat) (s : Invoicing) : Int :=
  s.lines.sumOver fun _ line =>
    if decide (line.purchaseOrderLineId = poLineId) && isMatched line.vendorInvoiceId s then line.quantityBase else 0

def ownQuantity (invoiceId poLineId : Nat) (s : Invoicing) : Int :=
  ((linesOf invoiceId s).map fun row => if row.2.purchaseOrderLineId = poLineId then row.2.quantityBase else 0).sum

/-- No line is invoiced for more than receipts accepted. -/
def Covered (s : Invoicing) : Prop :=
  ∀ poLineId, matchedQuantity poLineId s ≤ acceptedByReceipts poLineId s.receiving

/-! ### Calls -/

inductive InvoiceCall where
  | stock (call : StockCall)
  | receive (actorId : Option Nat) (data : ReceiptData)
  | inspect (actorId : Option Nat) (receiptId : Nat) (decisions : Nat → Option InspectionDecision)
  | post (actorId : Option Nat) (receiptId : Nat)
  | issue (orderId : Nat)
  | create (orderId : Nat) (data : InvoiceData)
  | match' (actorId : Option Nat) (invoiceId : Nat) (amountToleranceMinor : Int)
  | approve (invoiceId : Nat)
  | export' (accepted : Except Throwable Unit) (invoiceId : Nat)

namespace InvoiceCall

def perform : InvoiceCall → Action Invoicing Throwable Unit
  | stock call => onReceiving (GoodsReceiptWorkflow.onStock call.perform)
  | receive actorId data => onReceiving (GoodsReceiptWorkflow.receive actorId data)
  | inspect actorId receiptId decisions => onReceiving (GoodsReceiptWorkflow.inspect actorId receiptId decisions)
  | post actorId receiptId => onReceiving (GoodsReceiptWorkflow.post actorId receiptId)
  | issue orderId => onOrders (Orders.issuePurchaseOrder orderId)
  | create orderId data => VendorInvoiceWorkflow.create orderId data
  | match' actorId invoiceId amountToleranceMinor => VendorInvoiceWorkflow.match' actorId invoiceId amountToleranceMinor
  | approve invoiceId => VendorInvoiceWorkflow.approve invoiceId
  | export' accepted invoiceId => VendorInvoiceWorkflow.export' accepted invoiceId

def next (call : InvoiceCall) (s : Invoicing) : Invoicing := after call.perform s

end InvoiceCall

def Orders.opening (orders : Orders) : Orders :=
  { orders with
    lines := orders.lines.updateWhere (fun _ _ => true) fun line => { line with
      receivedQuantityBase := 0, acceptedQuantityBase := 0, returnedQuantityBase := 0 } }

def Invoicing.opening (stock : Stock) (orders : Orders) (activeWarehouses activeItems activeBins : List Nat) :
    Invoicing :=
  { receiving :=
      { stock := Stock.opening stock.unitIds stock.bins stock.items stock.lots stock.serials
        orders := orders.opening, activeWarehouses, activeItems, activeBins
        receipts := Table.empty, lines := Table.empty }
    invoices := Table.empty, lines := Table.empty, matches' := Table.empty, discrepancies := Table.empty }

/-! ### One match -/

/-- An invoice that agrees with its order and with what was accepted, as far as it goes itself. -/
structure Agrees (invoice : VendorInvoice) (order : PurchaseOrder) (lines : List (Nat × PurchaseOrderLine))
    (rows : List (Nat × VendorInvoiceLine)) (amountToleranceMinor : Int) : Prop where
  each : ∀ row ∈ rows, ∃ poLine, poLineOf lines row.2 = some poLine ∧
    row.2.quantityBase ≤ poLine.acceptedQuantityBase ∧ row.2.unitPriceMinor = poLine.unitPriceMinor
  amount : (invoice.subtotalMinor - expectedSubtotal lines rows).natAbs ≤ amountToleranceMinor
  currency : invoice.currency = order.currency

theorem lineIssues_eq_nil_iff {lines : List (Nat × PurchaseOrderLine)} {row : Nat × VendorInvoiceLine} :
    lineIssues lines row = [] ↔ ∃ poLine, poLineOf lines row.2 = some poLine ∧
      row.2.quantityBase ≤ poLine.acceptedQuantityBase ∧ row.2.unitPriceMinor = poLine.unitPriceMinor := by
  unfold lineIssues
  cases found : poLineOf lines row.2 with
  | none => simp
  | some =>
    simp only [List.append_eq_nil_iff, ite_eq_right_iff, List.cons_ne_nil, imp_false, not_lt, not_not,
      Option.some.injEq, exists_eq_left']

variable {invoice : VendorInvoice} {s s' : Invoicing} {invoiceId orderId : Nat}

theorem issuesOf_eq_nil_iff {order : PurchaseOrder} {lines : List (Nat × PurchaseOrderLine)}
    {rows : List (Nat × VendorInvoiceLine)} {amountToleranceMinor : Int} :
    issuesOf invoice order lines rows amountToleranceMinor = [] ↔
      Agrees invoice order lines rows amountToleranceMinor := by
  unfold issuesOf
  simp only [List.append_eq_nil_iff, List.flatMap_eq_nil_iff, lineIssues_eq_nil_iff, ite_eq_right_iff,
    List.cons_ne_nil, imp_false, not_lt, not_not]
  constructor
  · rintro ⟨⟨each, amount⟩, currency⟩
    exact ⟨each, amount, currency⟩
  · rintro ⟨each, amount, currency⟩
    exact ⟨⟨each, amount⟩, currency⟩

theorem returns_load (invoiceId : Nat) (s s' : Invoicing) (invoice : VendorInvoice) :
    Returns (load invoiceId) s invoice s' ↔ s.invoices.get? invoiceId = some invoice ∧ s' = s :=
  returns_find ..

theorem returns_onReceiving {α : Type} {m : Action Receiving Throwable α} {a : α} :
    Returns (onReceiving m) s a s' ↔
      ∃ receiving, Returns m s.receiving a receiving ∧ s' = { s with receiving } := by
  unfold onReceiving
  rw [returns_focus]

theorem returns_loadOrder (orderId : Nat) (s s' : Invoicing) (order : PurchaseOrder) :
    Returns (onOrders (Orders.load orderId)) s order s' ↔
      s.receiving.orders.orders.get? orderId = some order ∧ s' = s := by
  unfold onOrders
  simp only [returns_onReceiving, Inventory.returns_onOrders, Inventory.returns_loadOrder]
  constructor
  · rintro ⟨_, ⟨_, ⟨stored, rfl⟩, rfl⟩, rfl⟩
    exact ⟨stored, rfl⟩
  · rintro ⟨stored, rfl⟩
    exact ⟨_, ⟨_, ⟨stored, rfl⟩, rfl⟩, rfl⟩

theorem openDiscrepancies_returns {matchId : Nat} {issues : List Issue}
    (success : Returns (forEach issues (openDiscrepancy matchId)) s () s') :
    s' = { s with discrepancies := s'.discrepancies } :=
  forEach_keeps (P := fun s' => s' = { s with discrepancies := s'.discrepancies })
    (fun issue s₁ s₂ before turn => by
      unfold openDiscrepancy at turn
      rw [returns_write] at turn
      rw [turn, before]) rfl success

/-- The stored rows that a match of the invoice reads. -/
structure Matchable (invoiceId : Nat) (invoice : VendorInvoice) (order : PurchaseOrder) (s : Invoicing) : Prop where
  stored : s.invoices.get? invoiceId = some invoice
  awaits : invoice.status.awaitsMatch = true
  ordered : s.receiving.orders.orders.get? invoice.purchaseOrderId = some order

theorem match_returns {actorId : Option Nat} {amountToleranceMinor : Int}
    (success : Returns (VendorInvoiceWorkflow.match' actorId invoiceId amountToleranceMinor) s () s') :
    ∃ invoice order clean, Matchable invoiceId invoice order s ∧
      (clean = true ↔ Agrees invoice order (Orders.linesOf invoice.purchaseOrderId s.receiving.orders)
        (linesOf invoiceId s) amountToleranceMinor) ∧
      s'.receiving = s.receiving ∧ s'.lines = s.lines ∧
      s'.invoices = s.invoices.update invoiceId (concluded clean) := by
  unfold VendorInvoiceWorkflow.match' supersede actor setInvoice at success
  simp only [returns_bind, returns_throwIf, returns_transaction, returns_load, returns_read, returns_loadOrder,
    returns_write, returns_orThrow, Bool.not_eq_false] at success
  obtain ⟨_, _, ⟨-, rfl⟩, invoice, _, ⟨stored, rfl⟩, rows, _, ⟨rfl, rfl⟩, _, _, ⟨awaits, rfl⟩, order, _, ⟨held, rfl⟩,
    lines, s, ⟨rfl, rfl⟩, _, _, rfl, matchedBy, _, ⟨-, rfl⟩, _, _, ⟨-, rfl⟩, matchId, _, ⟨-, rfl⟩, _, _, rfl, _, s₁,
    loop, rfl⟩ := success
  refine ⟨invoice, order, (issuesOf invoice order (Orders.linesOf invoice.purchaseOrderId s.receiving.orders)
    (linesOf invoiceId s) amountToleranceMinor).isEmpty, ⟨stored, awaits, held⟩, ?_, ?_⟩
  · rw [List.isEmpty_iff]
    exact issuesOf_eq_nil_iff
  · rw [openDiscrepancies_returns loop]
    exact ⟨rfl, rfl, rfl⟩

theorem matchedQuantity_congr {poLineId : Nat} (lines : s'.lines = s.lines)
    (same : ∀ lineId line, s.lines.get? lineId = some line →
      isMatched line.vendorInvoiceId s' = isMatched line.vendorInvoiceId s) :
    matchedQuantity poLineId s' = matchedQuantity poLineId s := by
  unfold matchedQuantity
  rw [lines]
  apply Table.sumOver_congr
  intro lineId line stored
  simp only [same lineId line stored]

theorem isMatched_update {otherId : Nat}
    {change : VendorInvoice → VendorInvoice} (stored : s.invoices.get? invoiceId = some invoice)
    (invoices : s'.invoices = s.invoices.update invoiceId change)
    (same : (change invoice).status.isMatched = invoice.status.isMatched) :
    isMatched otherId s' = isMatched otherId s := by
  unfold isMatched
  rw [invoices, Table.get?_update]
  split
  · rename_i here
    rw [here, stored]
    simp [same]
  · rfl

theorem matchedQuantity_match {clean : Bool}
    (stored : s.invoices.get? invoiceId = some invoice) (awaits : invoice.status.awaitsMatch = true)
    (lines : s'.lines = s.lines) (invoices : s'.invoices = s.invoices.update invoiceId (concluded clean))
    (poLineId : Nat) :
    matchedQuantity poLineId s' = matchedQuantity poLineId s + if clean then ownQuantity invoiceId poLineId s else 0 := by
  have before : invoice.status.isMatched = false := by
    cases status : invoice.status <;> simp_all [VendorInvoiceStatus.awaitsMatch, VendorInvoiceStatus.isMatched]
  cases clean with
  | false =>
    rw [matchedQuantity_congr lines fun lineId line _ => isMatched_update stored invoices (by rw [before]; rfl)]
    simp
  | true =>
    have own : ownQuantity invoiceId poLineId s = s.lines.sumOver fun _ line =>
        if decide (line.vendorInvoiceId = invoiceId) then
          (if line.purchaseOrderLineId = poLineId then line.quantityBase else 0) else 0 := by
      rw [← Table.sum_rowsWhere]
      rfl
    rw [if_pos rfl, own]
    unfold matchedQuantity
    rw [← Table.sumOver_add, lines]
    apply Table.sumOver_congr
    intro lineId line _
    unfold isMatched
    rw [invoices, Table.get?_update]
    by_cases here : line.vendorInvoiceId = invoiceId
    · rw [here, stored]
      by_cases listed : line.purchaseOrderLineId = poLineId
      · have after' : (concluded true invoice).status.isMatched = true := rfl
        simp [listed, before, after']
      · simp [listed]
    · simp [here]

/-! ### The other calls -/

/-- What a call other than a match leaves. -/
structure Unmatched (s s' : Invoicing) : Prop where
  booked : Booked s.receiving s'.receiving
  matched : ∀ poLineId, matchedQuantity poLineId s' = matchedQuantity poLineId s

theorem Unmatched.refl (s : Invoicing) : Unmatched s s := ⟨.of_same rfl rfl rfl, fun _ => rfl⟩

theorem Unmatched.received {receiving : Receiving} (booked : Booked s.receiving receiving) :
    Unmatched s { s with receiving } := ⟨booked, fun _ => rfl⟩

theorem Unmatched.covered (unmatched : Unmatched s s') (books : ReceiptBooks s.receiving)
    (covered : Covered s) : Covered s' := by
  intro poLineId
  rw [unmatched.matched]
  exact (covered poLineId).trans (unmatched.booked.grows books poLineId)

theorem checkLine_silent {line : InvoiceLineData}
    (success : Returns (checkLine orderId line) s () s') : s' = s := by
  unfold checkLine onOrders at success
  simp only [returns_bind, returns_onReceiving, Inventory.returns_onOrders, Inventory.returns_loadLine,
    returns_throwIf] at success
  obtain ⟨poLine, _, ⟨_, ⟨_, ⟨-, rfl⟩, rfl⟩, rfl⟩, -, rfl⟩ := success
  rfl

theorem create_unmatched {data : InvoiceData}
    (success : Returns (VendorInvoiceWorkflow.create orderId data) s () s') : Unmatched s s' := by
  unfold VendorInvoiceWorkflow.create at success
  simp only [returns_transaction, returns_bind, returns_loadOrder, returns_throwIf, returns_read, returns_write] at success
  obtain ⟨order, _, ⟨-, rfl⟩, _, s, ⟨-, rfl⟩, _, s₁, checks, _, _, ⟨-, rfl⟩, _, _, ⟨-, rfl⟩, _, _, ⟨-, rfl⟩, invoiceId,
    s₁, ⟨rfl, rfl⟩, _, _, rfl, loop⟩ := success
  have same : s₁ = s := forEach_keeps (P := fun s₁ => s₁ = s)
    (fun line s₁ s₂ before turn => (checkLine_silent turn).trans before) rfl checks
  subst same
  -- the lines of the new invoice count only once it is matched
  have lines := forEach_keeps (P := fun s₂ => s₂.receiving = s₁.receiving ∧
      isMatched s₁.invoices.nextId s₂ = false ∧ ∀ poLineId, matchedQuantity poLineId s₂ = matchedQuantity poLineId s₁)
    (fun line s₂ s₃ before turn => by
      unfold createLine at turn
      rw [returns_write] at turn
      obtain ⟨receiving, unmatched, sums⟩ := before
      subst turn
      refine ⟨receiving, unmatched, ?_⟩
      intro poLineId
      rw [← sums poLineId]
      have new : isMatched s₁.invoices.nextId { s₂ with
          lines := s₂.lines.create { line with vendorInvoiceId := s₁.invoices.nextId, totalMinor := line.total } } =
          false := unmatched
      unfold matchedQuantity
      rw [Table.sumOver_create]
      simp only [new, Bool.and_false, Bool.false_eq_true, if_false, add_zero]
      rfl) ⟨rfl, ?_, ?_⟩ loop
  · obtain ⟨receiving, -, sums⟩ := lines
    exact ⟨.of_same (by rw [receiving]) (by rw [receiving]) (by rw [receiving]), sums⟩
  · unfold isMatched
    rw [Table.get?_create_self]
    rfl
  · intro poLineId
    refine matchedQuantity_congr rfl ?_
    intro lineId line _
    unfold isMatched
    rw [Table.get?_create]
    split
    · rename_i new
      rw [new, Table.get?_nextId]
      rfl
    · rfl

theorem retitled_unmatched
    (change : VendorInvoice → VendorInvoice) (stored : s.invoices.get? invoiceId = some invoice)
    (same : (change invoice).status.isMatched = invoice.status.isMatched) :
    Unmatched s { s with invoices := s.invoices.update invoiceId change } := by
  refine ⟨.of_same rfl rfl rfl, ?_⟩
  intro poLineId
  refine matchedQuantity_congr rfl ?_
  intro lineId line _
  exact isMatched_update stored rfl same

theorem approve_unmatched
    (success : Returns (VendorInvoiceWorkflow.approve invoiceId) s () s') : Unmatched s s' := by
  unfold VendorInvoiceWorkflow.approve setInvoice at success
  simp only [returns_bind, returns_load, returns_throwIf, returns_write, not_not] at success
  obtain ⟨invoice, _, ⟨stored, rfl⟩, _, s, ⟨matched, rfl⟩, rfl⟩ := success
  exact retitled_unmatched _ stored (by rw [matched]; rfl)

theorem export_unmatched {accepted : Except Throwable Unit}
    (success : Returns (VendorInvoiceWorkflow.export' accepted invoiceId) s () s') : Unmatched s s' := by
  unfold VendorInvoiceWorkflow.export' setInvoice at success
  simp only [returns_bind, returns_load, returns_throwIf, returns_lift, returns_write, not_not] at success
  obtain ⟨invoice, _, ⟨stored, rfl⟩, _, s, ⟨approved, rfl⟩, _, s, ⟨-, rfl⟩, rfl⟩ := success
  exact retitled_unmatched _ stored (by rw [approved]; rfl)

theorem issue_booked {s : Receiving} {orders : Orders}
    (success : Returns (Orders.issuePurchaseOrder orderId) s.orders () orders) : Booked s { s with orders } := by
  unfold Orders.issuePurchaseOrder at success
  simp only [returns_transaction, returns_bind, Inventory.returns_loadOrder, returns_throwIf, returns_write] at success
  obtain ⟨order, _, ⟨-, rfl⟩, _, _, ⟨-, rfl⟩, rfl⟩ := success
  exact ⟨fun books => ⟨books.accepted, books.nonneg⟩, fun _ _ => le_refl _⟩

/-! ### Runs -/

namespace InvoiceCall

/-- A match of an invoice that agrees by itself, although a line is then invoiced beyond what was
accepted. -/
def Overmatches : InvoiceCall → Invoicing → Prop
  | match' actorId invoiceId amountToleranceMinor, s =>
      (∃ s', Returns (VendorInvoiceWorkflow.match' actorId invoiceId amountToleranceMinor) s () s') ∧
      ∃ invoice order, Matchable invoiceId invoice order s ∧
        Agrees invoice order (Orders.linesOf invoice.purchaseOrderId s.receiving.orders) (linesOf invoiceId s)
          amountToleranceMinor ∧
        ∃ poLineId, acceptedByReceipts poLineId s.receiving <
          matchedQuantity poLineId s + ownQuantity invoiceId poLineId s
  | stock _, _ | receive _ _, _ | inspect _ _ _, _ | post _ _, _ | issue _, _ | create _ _, _ | approve _, _
  | export' _ _, _ => False

theorem covered_match {actorId : Option Nat} {invoiceId : Nat} {amountToleranceMinor : Int} {s s' : Invoicing}
    (covered : Covered s)
    (success : Returns (VendorInvoiceWorkflow.match' actorId invoiceId amountToleranceMinor) s () s') :
    Covered s' ↔ ¬ Overmatches (match' actorId invoiceId amountToleranceMinor) s := by
  obtain ⟨invoice, order, clean, matchable, agrees, receiving, lines, invoices⟩ := match_returns success
  have sums := matchedQuantity_match matchable.stored matchable.awaits lines invoices
  constructor
  · rintro covered' ⟨-, invoice', order', matchable', agrees', poLineId, beyond⟩
    have sameInvoice := matchable.stored.symm.trans matchable'.stored
    cases sameInvoice
    have sameOrder := matchable.ordered.symm.trans matchable'.ordered
    cases sameOrder
    have bound := covered' poLineId
    rw [sums, receiving, if_pos (agrees.mpr agrees')] at bound
    omega
  · intro within poLineId
    rw [sums, receiving]
    cases clean with
    | false =>
      have bound := covered poLineId
      simpa using bound
    | true =>
      by_contra beyond
      rw [not_le] at beyond
      exact within ⟨⟨s', success⟩, invoice, order, matchable, agrees.mp rfl, poLineId, beyond⟩

theorem atomic_match (actorId : Option Nat) (invoiceId : Nat) (amountToleranceMinor : Int) :
    Atomic (VendorInvoiceWorkflow.match' actorId invoiceId amountToleranceMinor) := by
  unfold VendorInvoiceWorkflow.match'
  apply (atomic_throwIf _ _).bind (fun _ _ _ passed => ((returns_throwIf ..).mp passed).2)
  exact fun _ => atomic_transaction _

theorem atomic_approve (invoiceId : Nat) : Atomic (VendorInvoiceWorkflow.approve invoiceId) := by
  unfold VendorInvoiceWorkflow.approve
  apply (atomic_find _ _).bind (fun _ _ _ found => ((returns_find ..).mp found).2)
  intro invoice
  apply (atomic_throwIf _ _).bind (fun _ _ _ passed => ((returns_throwIf ..).mp passed).2)
  exact fun _ => atomic_write _

theorem atomic_export (accepted : Except Throwable Unit) (invoiceId : Nat) :
    Atomic (VendorInvoiceWorkflow.export' accepted invoiceId) := by
  unfold VendorInvoiceWorkflow.export'
  apply (atomic_find _ _).bind (fun _ _ _ found => ((returns_find ..).mp found).2)
  intro invoice
  apply (atomic_throwIf _ _).bind (fun _ _ _ passed => ((returns_throwIf ..).mp passed).2)
  intro _
  apply (atomic_lift _).bind (fun _ _ _ answered => ((returns_lift ..).mp answered).2)
  exact fun _ => atomic_write _

theorem received {m : Action Receiving Throwable Unit} (atomic : Atomic m)
    (booked : ∀ s s', Returns m s () s' → Booked s s') (s : Invoicing) : Unmatched s (after (onReceiving m) s) := by
  have left : after (onReceiving m) s = { s with receiving := after m s.receiving } := rfl
  rw [left]
  obtain ⟨same, -⟩ | success := after_cases atomic s.receiving
  · rw [same]
    exact .refl s
  · exact .received (booked _ _ success)

theorem unmatched_next (call : InvoiceCall) (s : Invoicing) :
    (∃ actorId invoiceId amountToleranceMinor, call = match' actorId invoiceId amountToleranceMinor) ∨
      Unmatched s (next call s) := by
  cases call with
  | stock => exact Or.inr (.received (.of_same rfl rfl rfl))
  | receive => exact Or.inr (received (atomic_transaction _) (fun _ _ => receive_booked) s)
  | inspect =>
    exact Or.inr (received (atomic_transaction _) (fun _ _ => inspect_booked) s)
  | post => exact Or.inr (received (atomic_transaction _) (fun _ _ => post_booked) s)
  | issue orderId =>
    have left : next (issue orderId) s = { s with receiving := { s.receiving with
        orders := after (Orders.issuePurchaseOrder orderId) s.receiving.orders } } := rfl
    rw [left]
    have atomic : Atomic (Orders.issuePurchaseOrder orderId) := atomic_transaction _
    obtain ⟨same, -⟩ | success := after_cases atomic s.receiving.orders
    · rw [same]
      exact Or.inr (.refl s)
    · exact Or.inr (.received (issue_booked success))
  | create =>
    exact Or.inr (after_transaction (.refl s) fun _ _ success => create_unmatched ((returns_transaction ..).mpr success))
  | match' actorId invoiceId amountToleranceMinor => exact Or.inl ⟨_, _, _, rfl⟩
  | approve invoiceId =>
    exact Or.inr (after_atomic (atomic_approve invoiceId) (.refl s) fun _ _ success => approve_unmatched success)
  | export' accepted invoiceId =>
    exact Or.inr (after_atomic (atomic_export accepted invoiceId) (.refl s) fun _ _ success => export_unmatched success)

theorem books_next (call : InvoiceCall) (s : Invoicing) (books : ReceiptBooks s.receiving) :
    ReceiptBooks (next call s).receiving := by
  obtain ⟨actorId, invoiceId, amountToleranceMinor, rfl⟩ | unmatched := unmatched_next call s
  · apply after_atomic (P := fun s' => ReceiptBooks s'.receiving) (atomic_match actorId invoiceId amountToleranceMinor) books
    intro _ s' success
    obtain ⟨-, -, -, -, -, receiving, -⟩ := match_returns success
    rw [receiving]
    exact books
  · exact unmatched.booked.books books

theorem covered_next {call : InvoiceCall} {s : Invoicing} (books : ReceiptBooks s.receiving) (covered : Covered s) :
    Covered (next call s) ↔ ¬ call.Overmatches s := by
  obtain ⟨actorId, invoiceId, amountToleranceMinor, rfl⟩ | unmatched := unmatched_next call s
  · obtain ⟨same, refused⟩ | success := after_cases (atomic_match actorId invoiceId amountToleranceMinor) s
    · have left : next (match' actorId invoiceId amountToleranceMinor) s = s := same
      rw [left]
      refine iff_of_true covered ?_
      rintro ⟨⟨s', success⟩, -⟩
      exact refused s' success
    · exact covered_match covered success
  · cases call with
    | match' actorId invoiceId amountToleranceMinor =>
      obtain ⟨same, refused⟩ | success := after_cases (atomic_match actorId invoiceId amountToleranceMinor) s
      · refine iff_of_true (unmatched.covered books covered) ?_
        rintro ⟨⟨s', success⟩, -⟩
        exact refused s' success
      · exact covered_match covered success
    | _ => exact iff_of_true (unmatched.covered books covered) not_false

theorem books_opening (stock : Stock) (orders : Orders) (activeWarehouses activeItems activeBins : List Nat) :
    ReceiptBooks (Invoicing.opening stock orders activeWarehouses activeItems activeBins).receiving := by
  constructor
  · intro poLineId line stored
    have found : (orders.lines.updateWhere (fun _ _ => true) fun line => { line with
        receivedQuantityBase := 0, acceptedQuantityBase := 0, returnedQuantityBase := 0 }).get? poLineId = some line :=
      stored
    rw [Table.get?_updateWhere] at found
    obtain ⟨old, -, rfl⟩ := Option.map_eq_some_iff.mp found
    rfl
  · intro lineId line stored
    cases stored

theorem covered_opening (stock : Stock) (orders : Orders) (activeWarehouses activeItems activeBins : List Nat) :
    Covered (Invoicing.opening stock orders activeWarehouses activeItems activeBins) := fun _ => le_refl 0

/-- In every run no line is invoiced beyond what receipts accepted exactly when no match takes an
invoice that goes beyond it together with the invoices matched before. -/
theorem covered_iff (stock : Stock) (orders : Orders) (activeWarehouses activeItems activeBins : List Nat)
    (calls : List InvoiceCall) :
    Runs.Throughout next Covered calls (Invoicing.opening stock orders activeWarehouses activeItems activeBins) ↔
      Runs.Met next (fun call s => ¬ call.Overmatches s) calls
        (Invoicing.opening stock orders activeWarehouses activeItems activeBins) :=
  Runs.throughout_iff_met (Q := fun s => ReceiptBooks s.receiving) books_next
    (fun _ _ books covered => covered_next books covered) calls _ (books_opening ..)
    (covered_opening stock orders activeWarehouses activeItems activeBins)

theorem accepted_next (call : InvoiceCall) (s : Invoicing) (books : ReceiptBooks s.receiving) (poLineId : Nat) :
    acceptedByReceipts poLineId s.receiving ≤ acceptedByReceipts poLineId (next call s).receiving := by
  obtain ⟨actorId, invoiceId, amountToleranceMinor, rfl⟩ | unmatched := unmatched_next call s
  · obtain ⟨same, -⟩ | success := after_cases (atomic_match actorId invoiceId amountToleranceMinor) s
    · exact le_of_eq (congrArg (fun s => acceptedByReceipts poLineId s.receiving) same.symm)
    · obtain ⟨-, -, -, -, -, receiving, -⟩ := match_returns success
      exact le_of_eq (congrArg (acceptedByReceipts poLineId) receiving.symm)
  · exact unmatched.booked.grows books poLineId

/-- In every run, invoices and all, an order line counts what posted receipts accepted, and never less than before. -/
theorem accepted_counted (stock : Stock) (orders : Orders) (activeWarehouses activeItems activeBins : List Nat)
    (before later : List InvoiceCall) :
    ReceiptBooks (Runs.reached next (before ++ later)
        (Invoicing.opening stock orders activeWarehouses activeItems activeBins)).receiving ∧
      ∀ poLineId, acceptedByReceipts poLineId
          (Runs.reached next before (Invoicing.opening stock orders activeWarehouses activeItems activeBins)).receiving ≤
        acceptedByReceipts poLineId (Runs.reached next (before ++ later)
          (Invoicing.opening stock orders activeWarehouses activeItems activeBins)).receiving := by
  have run (calls : List InvoiceCall) (s : Invoicing) (books : ReceiptBooks s.receiving) :=
    Runs.reached_related (R := fun s s' : Invoicing => ∀ poLineId,
        acceptedByReceipts poLineId s.receiving ≤ acceptedByReceipts poLineId s'.receiving)
      (fun _ _ => le_rfl) (fun first second poLineId => (first poLineId).trans (second poLineId))
      (fun call s books => ⟨books_next call s books, accepted_next call s books⟩) calls s books
  rw [Runs.reached_append]
  exact run later _ (run before _ (books_opening ..)).1

/-! Two invoices of five units each, of five units that were accepted. -/

def orderedStock : Stock :=
  Stock.opening [1] ⟨[(1, ⟨1, .available⟩)], nodup_one⟩ ⟨[(1, ⟨.none, .standard, some 100, 1, "PHP"⟩)], nodup_one⟩
    Table.empty Table.empty

def tenOrdered : Orders :=
  { orders := ⟨[(0,
      { purchaseRequestId := 0, supplierId := 7, selectedQuotationId := some 0, poNumber := "PO-1", status := .issued
        currency := "PHP", subtotalMinor := 1000, taxMinor := 0, shippingMinor := 0, totalMinor := 1000
        deliveryWarehouseId := some 1, terms := none, createdBy := 1 })], by decide⟩
    lines := ⟨[(0,
      { purchaseOrderId := 0, purchaseRequestLineId := some 0, itemId := some 1, uomId := some 1
        description := "Contactor", orderedQuantityBase := 10, unitPriceMinor := 100, lineTotalMinor := 1000 })],
      by decide⟩ }

def fiveInvoiced (invoiceReference : String) : InvoiceData :=
  { invoiceReference, currency := "PHP", invoiceDate := "2026-07-01", lines := [⟨0, 5, 100⟩] }

def invoicedTwice : List InvoiceCall :=
  [receive (some 1) { purchaseOrderId := 0, supplierId := 7, warehouseId := 1, receiptNumber := "GR-1"
                      lines := [{ purchaseOrderLineId := 0, itemId := 1, uomId := 1, destinationBinId := 1
                                  receivedQuantityBase := 5 }] },
    inspect (some 1) 0 fun _ => some { acceptedQuantityBase := 5, rejectedQuantityBase := 0 },
    post (some 1) 0, create 0 (fiveInvoiced "INV-1"), create 0 (fiveInvoiced "INV-2"), match' (some 1) 0 0,
    match' (some 1) 1 0]

theorem covered_fails : ¬ ∀ (stock : Stock) (orders : Orders) (activeWarehouses activeItems activeBins : List Nat)
    (calls : List InvoiceCall),
    Runs.Throughout next Covered calls (Invoicing.opening stock orders activeWarehouses activeItems activeBins) := by
  intro always
  have last := (always orderedStock tenOrdered [1] [1] [1] invoicedTwice).last 0
  have invoiced : matchedQuantity 0 (Runs.reached next invoicedTwice
      (Invoicing.opening orderedStock tenOrdered [1] [1] [1])) = 10 := by decide +kernel
  have accepted : acceptedByReceipts 0 (Runs.reached next invoicedTwice
      (Invoicing.opening orderedStock tenOrdered [1] [1] [1])).receiving = 5 := by decide +kernel
  omega

end InvoiceCall
end VtsaCsms.Procurement
