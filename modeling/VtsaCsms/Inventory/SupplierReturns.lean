import VtsaCsms.Inventory.GoodsReceipts

/-!
# Supplier returns

`SupplierReturnWorkflow.php` and `EloquentSupplierReturnContract.php`: what a posted receipt
rejected goes back to the supplier, out of the rejection bins.
-/
namespace VtsaCsms.Inventory
open Foundation Foundation.Action Procurement

inductive InventoryReturnStatus where
  | draft | posted
  deriving DecidableEq, Repr

structure InventoryReturn where
  returnNumber : String
  returnType : String
  warehouseId : Nat
  status : InventoryReturnStatus
  sourceType : String
  sourceId : Nat
  reason : String
  createdBy : Nat
  deriving DecidableEq, Repr

structure InventoryReturnLine where
  inventoryReturnId : Nat
  itemId : Nat
  uomId : Nat
  binId : Nat
  lotId : Option Nat
  serialId : Option Nat
  quantityBase : Int
  unitCostMinor : Int
  currency : String
  deriving DecidableEq, Repr

inductive SupplierReturnStatus where
  | authorized | shipped
  deriving DecidableEq, Repr

structure SupplierReturn where
  purchaseOrderId : Nat
  supplierId : Nat
  inventoryReturnId : Nat
  returnNumber : String
  status : SupplierReturnStatus := .authorized
  reason : String
  deriving DecidableEq, Repr

structure Returning where
  receiving : Receiving
  returns : Table Nat InventoryReturn
  returnLines : Table Nat InventoryReturnLine
  supplierReturns : Table Nat SupplierReturn

namespace SupplierReturnContract

def register (purchaseOrderId supplierId inventoryReturnId : Nat) (returnNumber reason : String) :
    Action Returning Throwable Unit := do
  let found ← read fun s => s.receiving.orders.orders.get? purchaseOrderId
  let order ← orThrow found (.modelNotFound "PurchaseOrder")
  throwIf (order.supplierId ≠ supplierId) (.domain "The supplier return does not match the purchase order.")
  let known ← read fun s => s.supplierReturns.exists? fun _ r => decide (r.inventoryReturnId = inventoryReturnId)
  doIf (known = false) do
    let taken ← read fun s => s.supplierReturns.exists? fun _ r => decide (r.returnNumber = returnNumber)
    throwIf (taken = true) (.uniqueConstraint "proc_supplier_return_number_uq")
    write fun s => { s with
      supplierReturns := s.supplierReturns.create
        { purchaseOrderId, supplierId, inventoryReturnId, returnNumber, status := .shipped, reason } }

end SupplierReturnContract

namespace SupplierReturnWorkflow

def onReceiving {α : Type} (m : Action Receiving Throwable α) : Action Returning Throwable α :=
  focus Returning.receiving (fun s receiving => { s with receiving }) m

/-- The lines of a receipt that something was rejected of. -/
def rejectedLines (receiptId : Nat) (s : Receiving) : List (Nat × GoodsReceiptLine) :=
  (GoodsReceiptWorkflow.linesOf receiptId s).filter fun row => decide (0 < row.2.rejectedQuantityBase)

def linesOf (returnId : Nat) (s : Returning) : List (Nat × InventoryReturnLine) :=
  s.returnLines.rowsWhere fun _ line => line.inventoryReturnId = returnId

def returnLine (returnId binId : Nat) (line : GoodsReceiptLine) : InventoryReturnLine :=
  { inventoryReturnId := returnId, itemId := line.itemId, uomId := line.uomId, binId, lotId := line.lotId
    serialId := line.serialId, quantityBase := line.rejectedQuantityBase, unitCostMinor := line.unitCostMinor
    currency := line.currency }

def createLine (returnId : Nat) (row : Nat × GoodsReceiptLine) : Action Returning Throwable Unit := do
  let binId ← orThrow row.2.rejectionBinId (.domain "Rejected stock has no controlled-custody bin.")
  write fun s => { s with returnLines := s.returnLines.create (returnLine returnId binId row.2) }

def returnKey (returnId lineId : Nat) : String :=
  "supplier-return:" ++ keyText returnId ++ ":" ++ keyText lineId

def movementData (returnId : Nat) (row : Nat × InventoryReturnLine) : MovementData :=
  { itemId := row.2.itemId, uomId := row.2.uomId, fromBinId := some row.2.binId, lotId := row.2.lotId
    serialId := row.2.serialId, movementType := .supplierReturn, quantityBase := row.2.quantityBase
    currency := row.2.currency, unitCostMinor := row.2.unitCostMinor, referenceType := "inventory_return"
    referenceId := returnId, reasonCode := some "supplier_rejection_return"
    idempotencyKey := returnKey returnId row.1 }

def postLine (actorId : Option Nat) (returnId : Nat) (row : Nat × InventoryReturnLine) :
    Action Returning Throwable Unit :=
  onReceiving (GoodsReceiptWorkflow.onStock do
    let _ ← StockLedger.post actorId (movementData returnId row))

def returnRejected (actorId : Option Nat) (receiptId : Nat) (returnNumber reason : String) :
    Action Returning Throwable Unit :=
  transaction do
    let locked ← onReceiving (GoodsReceiptWorkflow.load receiptId)
    throwIf (locked.status ≠ .postedWithRejections)
      (.domain "This goods receipt has no posted rejection awaiting return.")
    let rejected ← read fun s => rejectedLines receiptId s.receiving
    let createdBy ← onReceiving (GoodsReceiptWorkflow.actor actorId)
    let taken ← read fun s => s.returns.exists? fun _ r => decide (r.returnNumber = returnNumber)
    throwIf (taken = true) (.uniqueConstraint "inv_return_number_uq")
    let returnId ← read fun s => s.returns.nextId
    write fun s => { s with
      returns := s.returns.create
        { returnNumber, returnType := "supplier", warehouseId := locked.warehouseId, status := .draft
          sourceType := "goods_receipt", sourceId := receiptId, reason, createdBy } }
    forEach rejected (createLine returnId)
    let lines ← read (linesOf returnId)
    forEach lines (postLine actorId returnId)
    write fun s => { s with returns := s.returns.update returnId fun r => { r with status := .posted } }
    SupplierReturnContract.register locked.purchaseOrderId locked.supplierId returnId returnNumber reason

end SupplierReturnWorkflow
end VtsaCsms.Inventory
