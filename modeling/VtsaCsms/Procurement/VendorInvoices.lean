import VtsaCsms.Inventory.GoodsReceipts

/-!
# Vendor invoices

`VendorInvoiceWorkflow.php` over the receiving tables: an invoice is compared with its order and
with what the receipts accepted.
-/
namespace VtsaCsms.Procurement
open Foundation Foundation.Action Inventory

inductive VendorInvoiceStatus where
  | submitted | matching | matched | discrepancy | approved | rejected | exported
  deriving DecidableEq, Repr

def VendorInvoiceStatus.awaitsMatch : VendorInvoiceStatus → Bool
  | submitted | discrepancy => true
  | matching | matched | approved | rejected | exported => false

inductive ExportState where
  | notReady | ready | blocked | exported
  deriving DecidableEq, Repr

structure VendorInvoice where
  supplierId : Nat
  purchaseOrderId : Nat
  invoiceReference : String
  status : VendorInvoiceStatus
  currency : String
  subtotalMinor : Int
  taxMinor : Int
  totalMinor : Int
  invoiceDate : String
  dueDate : Option String
  accountingExportState : ExportState
  deriving DecidableEq, Repr

structure InvoiceLineData where
  purchaseOrderLineId : Nat
  quantityBase : Int
  unitPriceMinor : Int
  deriving DecidableEq, Repr

def InvoiceLineData.total (line : InvoiceLineData) : Int := line.quantityBase * line.unitPriceMinor

structure VendorInvoiceLine extends InvoiceLineData where
  vendorInvoiceId : Nat
  totalMinor : Int
  deriving DecidableEq, Repr

structure InvoiceData where
  invoiceReference : String
  currency : String
  taxMinor : Int := 0
  invoiceDate : String
  dueDate : Option String := none
  lines : List InvoiceLineData
  deriving DecidableEq, Repr

inductive Issue where
  | lineNotOnPo (lineId : Nat)
  | quantityExceedsAccepted (lineId : Nat) (invoicedQuantityBase acceptedQuantityBase : Int)
  | unitPriceMismatch (lineId : Nat) (invoiceUnitMinor poUnitMinor : Int)
  | amountVariance (expectedSubtotalMinor invoiceSubtotalMinor varianceMinor toleranceMinor : Int)
  | currencyMismatch
  deriving DecidableEq, Repr

structure ThreeWayMatch where
  vendorInvoiceId : Nat
  purchaseOrderId : Nat
  matched : Bool
  poTotalMinor : Int
  invoiceTotalMinor : Int
  amountVarianceMinor : Int
  orderedQuantityBase : Int
  acceptedQuantityBase : Int
  invoicedQuantityBase : Int
  purchaseOrderRevision : Nat
  amountToleranceMinor : Int
  issues : List Issue
  matchedBy : Nat
  deriving DecidableEq, Repr

inductive DiscrepancyStatus where
  | open' | superseded
  deriving DecidableEq, Repr

structure ProcurementDiscrepancy where
  threeWayMatchId : Nat
  evidence : Issue
  status : DiscrepancyStatus
  deriving DecidableEq, Repr

structure Invoicing where
  receiving : Receiving
  invoices : Table Nat VendorInvoice
  lines : Table Nat VendorInvoiceLine
  matches' : Table Nat ThreeWayMatch
  discrepancies : Table Nat ProcurementDiscrepancy

namespace VendorInvoiceWorkflow

def onReceiving {α : Type} (m : Action Receiving Throwable α) : Action Invoicing Throwable α :=
  focus Invoicing.receiving (fun s receiving => { s with receiving }) m

def onOrders {α : Type} (m : Action Orders Throwable α) : Action Invoicing Throwable α :=
  onReceiving (GoodsReceiptWorkflow.onOrders m)

def actor (actorId : Option Nat) : Action Invoicing Throwable Nat :=
  orThrow actorId (.domain "Procurement changes require an accountable actor.")

def load (invoiceId : Nat) : Action Invoicing Throwable VendorInvoice := do
  let found ← read fun s => s.invoices.get? invoiceId
  orThrow found (.modelNotFound "VendorInvoice")

def linesOf (invoiceId : Nat) (s : Invoicing) : List (Nat × VendorInvoiceLine) :=
  s.lines.rowsWhere fun _ line => line.vendorInvoiceId = invoiceId

def setInvoice (invoiceId : Nat) (change : VendorInvoice → VendorInvoice) : Action Invoicing Throwable Unit :=
  write fun s => { s with invoices := s.invoices.update invoiceId change }

/-! ### Submission -/

def checkLine (orderId : Nat) (line : InvoiceLineData) : Action Invoicing Throwable Unit := do
  let poLine ← onOrders (Orders.loadLine orderId line.purchaseOrderLineId)
  throwIf (line.quantityBase ≤ 0 ∨ poLine.orderedQuantityBase < line.quantityBase ∨ line.unitPriceMinor < 0)
    (.domain "Vendor-invoice quantities and prices must be valid non-negative integers.")

def createLine (invoiceId : Nat) (line : InvoiceLineData) : Action Invoicing Throwable Unit :=
  write fun s => { s with
    lines := s.lines.create { line with vendorInvoiceId := invoiceId, totalMinor := line.total } }

/-- A sum beyond 64 bits is a double, which no bigint column takes. -/
def create (orderId : Nat) (data : InvoiceData) : Action Invoicing Throwable Unit :=
  transaction do
    let order ← onOrders (Orders.load orderId)
    throwIf (data.lines = [] ∨ strToUpper data.currency ≠ order.currency)
      (.domain "The vendor invoice requires lines in the purchase-order currency.")
    forEach data.lines (checkLine orderId)
    let subtotal := (data.lines.map InvoiceLineData.total).sum
    throwIf (phpIntMax < subtotal ∨ phpIntMax < subtotal + data.taxMinor) .bigintOutOfRange
    let taken ← read fun s => s.invoices.exists? fun _ invoice =>
      decide (invoice.supplierId = order.supplierId ∧ invoice.invoiceReference = data.invoiceReference)
    throwIf (taken = true) (.uniqueConstraint "proc_vendor_invoice_reference_uq")
    let invoiceId ← read fun s => s.invoices.nextId
    write fun s => { s with
      invoices := s.invoices.create
        { supplierId := order.supplierId, purchaseOrderId := orderId, invoiceReference := data.invoiceReference
          status := .submitted, currency := order.currency, subtotalMinor := subtotal, taxMinor := data.taxMinor
          totalMinor := subtotal + data.taxMinor, invoiceDate := data.invoiceDate, dueDate := data.dueDate
          accountingExportState := .notReady } }
    forEach data.lines (createLine invoiceId)

/-! ### Three-way match -/

/-- The line of the order an invoice line is for. -/
def poLineOf (lines : List (Nat × PurchaseOrderLine)) (line : VendorInvoiceLine) : Option PurchaseOrderLine :=
  lines.lookup line.purchaseOrderLineId

/-- What comparing one line finds. -/
def lineIssues (lines : List (Nat × PurchaseOrderLine)) (row : Nat × VendorInvoiceLine) : List Issue :=
  match poLineOf lines row.2 with
  | none => [.lineNotOnPo row.1]
  | some poLine =>
    (if poLine.acceptedQuantityBase < row.2.quantityBase then
      [.quantityExceedsAccepted row.1 row.2.quantityBase poLine.acceptedQuantityBase] else []) ++
    (if row.2.unitPriceMinor ≠ poLine.unitPriceMinor then
      [.unitPriceMismatch row.1 row.2.unitPriceMinor poLine.unitPriceMinor] else [])

/-- A sum over the lines that are on the order. -/
def onPo (lines : List (Nat × PurchaseOrderLine)) (f : VendorInvoiceLine → PurchaseOrderLine → Int)
    (rows : List (Nat × VendorInvoiceLine)) : Int :=
  (rows.map fun row => ((poLineOf lines row.2).map (f row.2)).getD 0).sum

def expectedSubtotal (lines : List (Nat × PurchaseOrderLine)) (rows : List (Nat × VendorInvoiceLine)) : Int :=
  onPo lines (fun line poLine => line.quantityBase * poLine.unitPriceMinor) rows

def invoicedQuantity (lines : List (Nat × PurchaseOrderLine)) (rows : List (Nat × VendorInvoiceLine)) : Int :=
  onPo lines (fun line _ => line.quantityBase) rows

def acceptedQuantity (lines : List (Nat × PurchaseOrderLine)) (rows : List (Nat × VendorInvoiceLine)) : Int :=
  onPo lines (fun line poLine => min poLine.acceptedQuantityBase line.quantityBase) rows

def orderedQuantity (lines : List (Nat × PurchaseOrderLine)) : Int :=
  (lines.map fun row => row.2.orderedQuantityBase).sum

def issuesOf (invoice : VendorInvoice) (order : PurchaseOrder) (lines : List (Nat × PurchaseOrderLine))
    (rows : List (Nat × VendorInvoiceLine)) (amountToleranceMinor : Int) : List Issue :=
  let variance := invoice.subtotalMinor - expectedSubtotal lines rows
  rows.flatMap (lineIssues lines) ++
    (if amountToleranceMinor < variance.natAbs then
      [.amountVariance (expectedSubtotal lines rows) invoice.subtotalMinor variance amountToleranceMinor] else []) ++
    (if invoice.currency ≠ order.currency then [.currencyMismatch] else [])

def openDiscrepancy (matchId : Nat) (issue : Issue) : Action Invoicing Throwable Unit :=
  write fun s => { s with
    discrepancies := s.discrepancies.create { threeWayMatchId := matchId, evidence := issue, status := .open' } }

/-- Earlier matches of the invoice no longer have open discrepancies. -/
def supersede (invoiceId : Nat) : Action Invoicing Throwable Unit :=
  write fun s => { s with
    discrepancies := s.discrepancies.updateWhere
      (fun _ d => decide (d.status = .open' ∧ (s.matches'.get? d.threeWayMatchId).any (·.vendorInvoiceId = invoiceId)))
      fun d => { d with status := .superseded } }

def concluded (clean : Bool) (invoice : VendorInvoice) : VendorInvoice :=
  { invoice with
    status := if clean then .matched else .discrepancy
    accountingExportState := if clean then .ready else .blocked }

def match' (actorId : Option Nat) (invoiceId : Nat) (amountToleranceMinor : Int) : Action Invoicing Throwable Unit := do
  throwIf (amountToleranceMinor < 0) (.domain "Match tolerance cannot be negative.")
  transaction do
    let locked ← load invoiceId
    let rows ← read (linesOf invoiceId)
    throwIf (locked.status.awaitsMatch = false) (.domain "This vendor invoice cannot be matched again.")
    let order ← onOrders (Orders.load locked.purchaseOrderId)
    let lines ← read fun s => Orders.linesOf locked.purchaseOrderId s.receiving.orders
    let issues := issuesOf locked order lines rows amountToleranceMinor
    supersede invoiceId
    let matchedBy ← actor actorId
    throwIf (phpIntMax < expectedSubtotal lines rows ∨ phpIntMax < invoicedQuantity lines rows ∨
      phpIntMax < orderedQuantity lines) .bigintOutOfRange
    let matchId ← read fun s => s.matches'.nextId
    write fun s => { s with
      matches' := s.matches'.create
        { vendorInvoiceId := invoiceId, purchaseOrderId := locked.purchaseOrderId, matched := issues.isEmpty
          poTotalMinor := expectedSubtotal lines rows, invoiceTotalMinor := locked.subtotalMinor
          amountVarianceMinor := locked.subtotalMinor - expectedSubtotal lines rows
          orderedQuantityBase := orderedQuantity lines, acceptedQuantityBase := acceptedQuantity lines rows
          invoicedQuantityBase := invoicedQuantity lines rows, purchaseOrderRevision := order.revision
          amountToleranceMinor, issues, matchedBy } }
    forEach issues (openDiscrepancy matchId)
    setInvoice invoiceId (concluded issues.isEmpty)

/-! ### Approval and export -/

def approve (invoiceId : Nat) : Action Invoicing Throwable Unit := do
  let invoice ← load invoiceId
  throwIf (invoice.status ≠ .matched) (.domain "Only a successfully matched vendor invoice can be approved.")
  setInvoice invoiceId fun i => { i with status := .approved, accountingExportState := .ready }

/-- `accepted` is the answer of the accounting system: an export that fails throws. -/
def export' (accepted : Except Throwable Unit) (invoiceId : Nat) : Action Invoicing Throwable Unit := do
  let invoice ← load invoiceId
  throwIf (invoice.status ≠ .approved) (.domain "Only approved vendor invoices can be exported.")
  let _ ← lift accepted
  setInvoice invoiceId fun i => { i with status := .exported, accountingExportState := .exported }

end VendorInvoiceWorkflow
end VtsaCsms.Procurement
