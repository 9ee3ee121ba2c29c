import VtsaCsms.Inventory.StockLedger
import VtsaCsms.Procurement.PurchaseOrders

/-!
# Goods receipts

`GoodsReceiptWorkflow.php`: a delivery is received against open purchase-order lines, inspected,
and posted to the stock ledger and the order.
-/
namespace VtsaCsms.Inventory
open Foundation Foundation.Action Procurement

inductive ReceiptStatus where
  | pendingInspection | inspected | posted | postedWithRejections
  deriving DecidableEq, Repr

/-- The stock of the receipt is in the books. -/
def ReceiptStatus.isPosted : ReceiptStatus → Bool
  | posted | postedWithRejections => true
  | pendingInspection | inspected => false

/-- Custody that rejected goods may go to. -/
def CustodyType.holdsRejected : CustodyType → Bool
  | .quarantine | .damaged | .returns => true
  | .available | .inTransit => false

inductive InspectionStatus where
  | pending | accepted | rejected | partiallyAccepted
  deriving DecidableEq, Repr

structure GoodsReceipt where
  purchaseOrderId : Nat
  supplierId : Nat
  warehouseId : Nat
  receiptNumber : String
  status : ReceiptStatus
  supplierDeliveryReference : Option String
  receivedBy : Nat
  inspectedBy : Option Nat := none
  postedBy : Option Nat := none
  deriving DecidableEq, Repr

structure ReceiptLineData where
  purchaseOrderLineId : Nat
  itemId : Nat
  uomId : Nat
  destinationBinId : Nat
  rejectionBinId : Option Nat := none
  lotId : Option Nat := none
  serialId : Option Nat := none
  receivedQuantityBase : Int
  deriving DecidableEq, Repr

structure GoodsReceiptLine extends ReceiptLineData where
  goodsReceiptId : Nat
  acceptedQuantityBase : Int := 0
  rejectedQuantityBase : Int := 0
  unitCostMinor : Int
  currency : String
  inspectionStatus : InspectionStatus := .pending
  inspectionNotes : Option String := none
  deriving DecidableEq, Repr

structure ReceiptData where
  purchaseOrderId : Nat
  supplierId : Nat
  warehouseId : Nat
  receiptNumber : String
  supplierDeliveryReference : Option String := none
  lines : List ReceiptLineData
  deriving DecidableEq, Repr

structure InspectionDecision where
  acceptedQuantityBase : Int
  rejectedQuantityBase : Int
  inspectionNotes : Option String := none
  deriving DecidableEq, Repr

structure Receiving where
  stock : Stock
  orders : Orders
  activeWarehouses : List Nat
  activeItems : List Nat
  activeBins : List Nat
  receipts : Table Nat GoodsReceipt
  lines : Table Nat GoodsReceiptLine

namespace GoodsReceiptWorkflow

def onStock {α : Type} (m : Action Stock Throwable α) : Action Receiving Throwable α :=
  focus Receiving.stock (fun s stock => { s with stock }) m

def onOrders {α : Type} (m : Action Orders Throwable α) : Action Receiving Throwable α :=
  focus Receiving.orders (fun s orders => { s with orders }) m

def actor (actorId : Option Nat) : Action Receiving Throwable Nat :=
  orThrow actorId (.domain "Inventory changes require an accountable actor.")

def load (receiptId : Nat) : Action Receiving Throwable GoodsReceipt := do
  let found ← read fun s => s.receipts.get? receiptId
  orThrow found (.modelNotFound "GoodsReceipt")

def linesOf (receiptId : Nat) (s : Receiving) : List (Nat × GoodsReceiptLine) :=
  s.lines.rowsWhere fun _ line => line.goodsReceiptId = receiptId

def setReceipt (receiptId : Nat) (change : GoodsReceipt → GoodsReceipt) : Action Receiving Throwable Unit :=
  write fun s => { s with receipts := s.receipts.update receiptId change }

/-! ### Receiving -/

def assertBinInWarehouse (binId warehouseId : Nat) : Action Receiving Throwable InventoryBin := do
  let found ← read fun s =>
    (s.stock.bins.get? binId).filter fun bin => decide (bin.warehouseId = warehouseId ∧ binId ∈ s.activeBins)
  orThrow found (.modelNotFound "InventoryBin")

def checkRejectionBin (warehouseId : Nat) (rejectionBinId : Option Nat) : Action Receiving Throwable Unit :=
  match rejectionBinId with
  | none => pure ()
  | some binId => do
    let rejection ← assertBinInWarehouse binId warehouseId
    throwIf (rejection.custodyType.holdsRejected = false)
      (.domain "Rejected goods must be directed to controlled custody.")

/-- A delivered line that the order line expects. -/
def Expected (supplierId : Nat) (line : ReceiptLineData) (expected : ReceivableLine) : Prop :=
  expected.supplierId = supplierId ∧ expected.itemId = line.itemId ∧ expected.uomId = line.uomId ∧
    0 < line.receivedQuantityBase ∧ line.receivedQuantityBase ≤ expected.remainingQuantityBase
  deriving Decidable

def checkLine (data : ReceiptData) (line : ReceiptLineData) : Action Receiving Throwable Unit := do
  let expected ← onOrders (PurchaseOrderReceiptContract.receivableLine data.purchaseOrderId line.purchaseOrderLineId)
  throwIf (¬ Expected data.supplierId line expected)
    (.domain "The received line does not match the open purchase-order quantity.")
  let item ← read fun s => (s.stock.items.get? line.itemId).filter fun _ => decide (line.itemId ∈ s.activeItems)
  let _ ← orThrow item (.modelNotFound "InventoryItem")
  let _ ← assertBinInWarehouse line.destinationBinId data.warehouseId
  checkRejectionBin data.warehouseId line.rejectionBinId

def createLine (purchaseOrderId receiptId : Nat) (line : ReceiptLineData) : Action Receiving Throwable Unit := do
  let expected ← onOrders (PurchaseOrderReceiptContract.receivableLine purchaseOrderId line.purchaseOrderLineId)
  write fun s => { s with
    lines := s.lines.create
      { line with
        goodsReceiptId := receiptId, unitCostMinor := expected.unitCostMinor, currency := expected.currency } }

def receive (actorId : Option Nat) (data : ReceiptData) : Action Receiving Throwable Unit :=
  transaction do
    let active ← read Receiving.activeWarehouses
    throwIf (data.warehouseId ∉ active) (.modelNotFound "Warehouse")
    throwIf (data.lines = []) (.domain "A goods receipt requires at least one line.")
    forEach data.lines (checkLine data)
    let receivedBy ← actor actorId
    let taken ← read fun s => s.receipts.exists? fun _ receipt => receipt.receiptNumber = data.receiptNumber
    throwIf (taken = true) (.uniqueConstraint "inv_goods_receipt_number_uq")
    let receiptId ← read fun s => s.receipts.nextId
    write fun s => { s with
      receipts := s.receipts.create
        { purchaseOrderId := data.purchaseOrderId, supplierId := data.supplierId, warehouseId := data.warehouseId
          receiptNumber := data.receiptNumber, status := .pendingInspection
          supplierDeliveryReference := data.supplierDeliveryReference, receivedBy } }
    forEach data.lines (createLine data.purchaseOrderId receiptId)

/-! ### Inspection -/

def Accounts (line : GoodsReceiptLine) (decision : InspectionDecision) : Prop :=
  0 ≤ decision.acceptedQuantityBase ∧ 0 ≤ decision.rejectedQuantityBase ∧
    line.receivedQuantityBase = decision.acceptedQuantityBase + decision.rejectedQuantityBase
  deriving Decidable

def inspected (decision : InspectionDecision) (line : GoodsReceiptLine) : GoodsReceiptLine :=
  { line with
    acceptedQuantityBase := decision.acceptedQuantityBase
    rejectedQuantityBase := decision.rejectedQuantityBase
    inspectionStatus :=
      if decision.rejectedQuantityBase = 0 then .accepted
      else if decision.acceptedQuantityBase = 0 then .rejected
      else .partiallyAccepted
    inspectionNotes := decision.inspectionNotes }

def inspectLine (decisions : Nat → Option InspectionDecision) (row : Nat × GoodsReceiptLine) :
    Action Receiving Throwable Unit := do
  let decision ← orThrow ((decisions row.1).filter fun decision => Accounts row.2 decision)
    (.domain "Inspection decisions must account for every received unit.")
  throwIf (0 < decision.rejectedQuantityBase ∧ row.2.rejectionBinId = none)
    (.domain "Rejected goods require a quarantine, damaged, or returns bin.")
  write fun s => { s with lines := s.lines.update row.1 (inspected decision) }

def inspect (actorId : Option Nat) (receiptId : Nat) (decisions : Nat → Option InspectionDecision) :
    Action Receiving Throwable Unit :=
  transaction do
    let locked ← load receiptId
    throwIf (locked.status ≠ .pendingInspection) (.domain "Only pending receipts can be inspected.")
    let lines ← read (linesOf receiptId)
    forEach lines (inspectLine decisions)
    let inspectedBy ← actor actorId
    setReceipt receiptId fun r => { r with status := .inspected, inspectedBy := some inspectedBy }

/-! ### Posting -/

def movementData (receiptId : Nat) (row : Nat × GoodsReceiptLine) (toBinId : Option Nat) (quantity : Int)
    (disposition : String) : MovementData :=
  { itemId := row.2.itemId, uomId := row.2.uomId, toBinId, lotId := row.2.lotId, serialId := row.2.serialId
    movementType := .receipt, quantityBase := quantity, currency := row.2.currency
    unitCostMinor := row.2.unitCostMinor, referenceType := "goods_receipt", referenceId := receiptId
    reasonCode := some ("inspection_" ++ disposition)
    idempotencyKey := "goods-receipt:" ++ keyText receiptId ++ ":" ++ keyText row.1 ++ ":" ++ disposition }

def postPart (actorId : Option Nat) (data : MovementData) : Action Receiving Throwable Unit :=
  doIf (0 < data.quantityBase) (onStock do
    let _ ← StockLedger.post actorId data)

def postLine (actorId : Option Nat) (receiptId : Nat) (row : Nat × GoodsReceiptLine) :
    Action Receiving Throwable Unit := do
  postPart actorId
    (movementData receiptId row (some row.2.destinationBinId) row.2.acceptedQuantityBase "accepted")
  postPart actorId (movementData receiptId row row.2.rejectionBinId row.2.rejectedQuantityBase "rejected")

def receiptCount (row : Nat × GoodsReceiptLine) : ReceiptCount :=
  { purchaseOrderLineId := row.2.purchaseOrderLineId, receivedQuantityBase := row.2.receivedQuantityBase
    acceptedQuantityBase := row.2.acceptedQuantityBase }

def post (actorId : Option Nat) (receiptId : Nat) : Action Receiving Throwable Unit :=
  transaction do
    let locked ← load receiptId
    let lines ← read (linesOf receiptId)
    throwIf (locked.status ≠ .inspected) (.domain "Only inspected receipts can post stock.")
    forEach lines (postLine actorId receiptId)
    onOrders (PurchaseOrderReceiptContract.registerReceipt locked.purchaseOrderId (lines.map receiptCount))
    let postedBy ← actor actorId
    let hasRejections := lines.any fun row => decide (0 < row.2.rejectedQuantityBase)
    setReceipt receiptId fun r => { r with
      status := if hasRejections then .postedWithRejections else .posted
      postedBy := some postedBy }

end GoodsReceiptWorkflow
end VtsaCsms.Inventory
