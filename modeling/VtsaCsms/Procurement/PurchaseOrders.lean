import VtsaCsms.Foundation.Action
import VtsaCsms.Foundation.Php
import VtsaCsms.Foundation.Table

/-!
# Purchase orders

The purchase orders of one tenant, and what `EloquentPurchaseOrderReceiptContract.php` reads and
registers of them.
-/
namespace VtsaCsms.Procurement
open Foundation Foundation.Action

inductive PurchaseOrderStatus where
  | draft | submitted | approved | issued | partiallyReceived | received | closed | canceled
  deriving DecidableEq, Repr

structure PurchaseOrder where
  purchaseRequestId : Nat
  supplierId : Nat
  selectedQuotationId : Option Nat
  poNumber : String
  status : PurchaseOrderStatus
  revision : Nat := 1
  currency : String
  subtotalMinor : Int
  taxMinor : Int
  shippingMinor : Int
  totalMinor : Int
  deliveryWarehouseId : Option Nat
  terms : Option String
  createdBy : Nat
  approvedBy : Option Nat := none
  deriving DecidableEq, Repr

structure PurchaseOrderLine where
  purchaseOrderId : Nat
  purchaseRequestLineId : Option Nat
  itemId : Option Nat
  uomId : Option Nat
  description : String
  orderedQuantityBase : Int
  receivedQuantityBase : Int := 0
  acceptedQuantityBase : Int := 0
  returnedQuantityBase : Int := 0
  unitPriceMinor : Int
  lineTotalMinor : Int
  deriving DecidableEq, Repr

structure Orders where
  orders : Table Nat PurchaseOrder
  lines : Table Nat PurchaseOrderLine

namespace Orders

def load (orderId : Nat) : Action Orders Throwable PurchaseOrder := do
  let found ← read fun s => s.orders.get? orderId
  orThrow found (.modelNotFound "PurchaseOrder")

def loadLine (orderId lineId : Nat) : Action Orders Throwable PurchaseOrderLine := do
  let found ← read fun s => (s.lines.get? lineId).filter (·.purchaseOrderId = orderId)
  orThrow found (.modelNotFound "PurchaseOrderLine")

def linesOf (orderId : Nat) (s : Orders) : List (Nat × PurchaseOrderLine) :=
  s.lines.rowsWhere fun _ line => line.purchaseOrderId = orderId

def issuePurchaseOrder (orderId : Nat) : Action Orders Throwable Unit :=
  transaction do
    let locked ← load orderId
    throwIf (locked.status ≠ .approved) (.domain "Only approved purchase orders can be issued.")
    write fun s => { s with orders := s.orders.update orderId fun o => { o with status := .issued } }

end Orders
open Orders

def PurchaseOrderStatus.receivesStock : PurchaseOrderStatus → Bool
  | issued | partiallyReceived => true
  | draft | submitted | approved | received | closed | canceled => false

structure ReceivableLine where
  supplierId : Nat
  itemId : Nat
  uomId : Nat
  remainingQuantityBase : Int
  unitCostMinor : Int
  currency : String
  deriving DecidableEq, Repr

/-- What a receipt says of one line. -/
structure ReceiptCount where
  purchaseOrderLineId : Nat
  receivedQuantityBase : Int
  acceptedQuantityBase : Int
  deriving DecidableEq, Repr

namespace PurchaseOrderReceiptContract

def receivableLine (orderId lineId : Nat) : Action Orders Throwable ReceivableLine := do
  let order ← load orderId
  throwIf (order.status.receivesStock = false) (.domain "Only issued purchase orders can receive stock.")
  let line ← loadLine orderId lineId
  let remaining := line.orderedQuantityBase - line.acceptedQuantityBase
  throwIf (remaining ≤ 0) (.domain "The purchase-order line is already fully received.")
  let itemId ← orThrow line.itemId (.domain "Inventory receipts require a catalog item and unit of measure.")
  let uomId ← orThrow line.uomId (.domain "Inventory receipts require a catalog item and unit of measure.")
  pure
    { supplierId := order.supplierId, itemId, uomId, remainingQuantityBase := remaining
      unitCostMinor := line.unitPriceMinor, currency := order.currency }

def counted (count : ReceiptCount) (line : PurchaseOrderLine) : PurchaseOrderLine :=
  { line with
    receivedQuantityBase := line.receivedQuantityBase + count.receivedQuantityBase
    acceptedQuantityBase := line.acceptedQuantityBase + count.acceptedQuantityBase }

def registerLine (orderId : Nat) (count : ReceiptCount) : Action Orders Throwable Unit := do
  let line ← loadLine orderId count.purchaseOrderLineId
  throwIf (phpIntMax < (counted count line).receivedQuantityBase ∨ phpIntMax < (counted count line).acceptedQuantityBase)
    .bigintOutOfRange
  write fun s => { s with lines := s.lines.update count.purchaseOrderLineId (counted count) }

/-- Whether no line of the order is open. -/
def complete (orderId : Nat) (s : Orders) : Bool :=
  !s.lines.exists? fun _ line =>
    decide (line.purchaseOrderId = orderId ∧ line.acceptedQuantityBase < line.orderedQuantityBase)

def registerReceipt (orderId : Nat) (lines : List ReceiptCount) : Action Orders Throwable Unit :=
  transaction do
    let order ← load orderId
    throwIf (order.status.receivesStock = false) (.domain "The purchase order can no longer receive stock.")
    forEach lines (registerLine orderId)
    let done ← read (complete orderId)
    write fun s => { s with
      orders := s.orders.update orderId fun o =>
        { o with status := if done then .received else .partiallyReceived } }

end PurchaseOrderReceiptContract
end VtsaCsms.Procurement
