import VtsaCsms.Foundation.Action
import VtsaCsms.Foundation.Php
import VtsaCsms.Foundation.Table

/-!
# Stock ledger and reservations

`StockLedger.php`, `StockAvailabilityQuery.php`, `StockReservationService.php`,
`WorkOrderPartsService.php` and `MovingAverageValuation.php` of `Inventory/Application`, over
the inventory tables of one tenant. The outbox, the audit trail and all times are not read
back by any modelled code.
-/
namespace VtsaCsms.Inventory
open Foundation Foundation.Action

inductive MovementType where
  | receipt | issue | transferDispatch | transferReceive | customerReturn | supplierReturn
  | workOrderIssue | workOrderReturn | adjustmentIncrease | adjustmentDecrease | reversal
  deriving DecidableEq, Repr

inductive TrackingType where
  | none | lot | serial
  deriving DecidableEq, Repr

inductive ValuationMethod where
  | movingAverage | standard
  deriving DecidableEq, Repr

/-- `inv_location_custody_chk`. -/
inductive CustodyType where
  | available | quarantine | inTransit | returns | damaged
  deriving DecidableEq, Repr

inductive ReservationStatus where
  | requested | partiallyReserved | reserved | partiallyConsumed | consumed | released | expired
  | rejected | canceled
  deriving DecidableEq, Repr

def ReservationStatus.holdsStock : ReservationStatus → Bool
  | partiallyReserved | reserved | partiallyConsumed => true
  | requested | consumed | released | expired | rejected | canceled => false

/-- A bin with the custody of its stock location. -/
structure InventoryBin where
  warehouseId : Nat
  custodyType : CustodyType
  deriving DecidableEq, Repr

structure InventoryItem where
  trackingType : TrackingType
  valuationMethod : ValuationMethod
  standardCostMinor : Option Int
  baseUomId : Nat
  currency : String
  deriving DecidableEq, Repr

structure StockLot where
  itemId : Nat
  deriving DecidableEq, Repr

structure StockSerial where
  itemId : Nat
  currentBinId : Option Nat
  status : String
  deriving DecidableEq, Repr

structure StockMovement where
  itemId : Nat
  uomId : Nat
  fromBinId : Option Nat
  toBinId : Option Nat
  lotId : Option Nat
  serialId : Option Nat
  movementType : MovementType
  quantityBase : Int
  currency : String
  unitCostMinor : Int
  totalCostMinor : Int
  referenceType : String
  referenceId : Nat
  reasonCode : Option String
  idempotencyKey : String
  reversesMovementId : Option Nat
  postedBy : Nat
  deriving DecidableEq, Repr

structure StockReservation where
  itemId : Nat
  warehouseId : Nat
  binId : Option Nat
  lotId : Option Nat
  serialId : Option Nat
  status : ReservationStatus
  requestedQuantityBase : Int
  reservedQuantityBase : Int
  consumedQuantityBase : Int := 0
  purposeType : String
  purposeId : Nat
  idempotencyKey : String
  deriving DecidableEq, Repr

structure Stock where
  unitIds : List Nat
  bins : Table Nat InventoryBin
  items : Table Nat InventoryItem
  lots : Table Nat StockLot
  serials : Table Nat StockSerial
  movements : Table Nat StockMovement
  reservations : Table Nat StockReservation

/-! ### Availability -/

structure StockAvailability where
  onHandBase : Int
  reservedBase : Int
  eligibleOnHandBase : Option Int := none

def StockAvailability.availableBase (a : StockAvailability) : Int :=
  a.eligibleOnHandBase.getD a.onHandBase - a.reservedBase

namespace StockAvailabilityQuery

/-- `(int)` of a sum's text: beyond 64 bits it saturates. -/
def intOfSum (n : Int) : Int := min phpIntMax n

/-- What movements of an item carry to, or from, some bins. -/
def moved (bin : StockMovement → Option Nat) (bins : Nat → Bool) (itemId : Nat) (s : Stock) : Int :=
  s.movements.sumOver fun _ m => if m.itemId = itemId ∧ (bin m).any bins then m.quantityBase else 0

/-- Bins of available custody. -/
def eligible (warehouseId binId : Option Nat) (s : Stock) (key : Nat) : Bool :=
  (s.bins.get? key).any fun bin =>
    bin.custodyType = .available && warehouseId.all (· = bin.warehouseId) && binId.all (· = key)

/-- A reservation that counts against an item's stock in a warehouse or a bin. -/
def Counts (itemId : Nat) (warehouseId binId : Option Nat) (r : StockReservation) : Prop :=
  r.itemId = itemId ∧ warehouseId.all (· = r.warehouseId) ∧ binId.all (some · = r.binId) ∧
    r.status.holdsStock
  deriving Decidable

def reserved (itemId : Nat) (warehouseId binId : Option Nat) (s : Stock) : Int :=
  s.reservations.sumOver fun _ r =>
    if Counts itemId warehouseId binId r then
      r.reservedQuantityBase - r.consumedQuantityBase
    else 0

/-- `null` stands for every bin. -/
def binIds (warehouseId binId : Option Nat) : Action Stock Throwable (Option (Nat → Bool)) :=
  match binId with
  | some bin => do
    let found ← read fun s => s.bins.get? bin
    let _ ← orThrow found (.modelNotFound "InventoryBin")
    pure (some fun key => key = bin)
  | none =>
    match warehouseId with
    | none => pure none
    | some warehouse => do
      let bins ← read Stock.bins
      pure (some fun key => (bins.get? key).any fun bin => bin.warehouseId = warehouse)

def forItem (itemId : Nat) (warehouseId binId : Option Nat := none) :
    Action Stock Throwable StockAvailability := do
  let bins ← binIds warehouseId binId
  read fun s =>
    let selected := bins.getD fun _ => true
    { onHandBase := intOfSum (moved StockMovement.toBinId selected itemId s) -
        intOfSum (moved StockMovement.fromBinId selected itemId s)
      reservedBase := intOfSum (reserved itemId warehouseId binId s)
      eligibleOnHandBase := some (
        intOfSum (moved StockMovement.toBinId (eligible warehouseId binId s) itemId s) -
          intOfSum (moved StockMovement.fromBinId (eligible warehouseId binId s) itemId s)) }

end StockAvailabilityQuery
open StockAvailabilityQuery

/-! ### Movements -/

structure MovementData where
  itemId : Nat
  uomId : Nat
  fromBinId : Option Nat := none
  toBinId : Option Nat := none
  lotId : Option Nat := none
  serialId : Option Nat := none
  movementType : MovementType
  quantityBase : Int
  currency : String
  unitCostMinor : Int
  referenceType : String
  referenceId : Nat
  reasonCode : Option String := none
  idempotencyKey : String
  reservationId : Option Nat := none
  postedBy : Option Nat := none
  reversesMovementId : Option Nat := none

namespace StockLedger

def lockBin (binId : Option Nat) : Action Stock Throwable (Option (Nat × InventoryBin)) :=
  match binId with
  | none => pure none
  | some key => do
    let found ← read fun s => s.bins.get? key
    let bin ← orThrow found (.modelNotFound "InventoryBin")
    pure (some (key, bin))

def validateTracking (item : InventoryItem) (data : MovementData) (source : Option (Nat × InventoryBin)) :
    Action Stock Throwable Unit :=
  match item.trackingType with
  | .serial => do
    throwIf (data.serialId = none ∨ data.quantityBase ≠ 1)
      (.domain "Serialized items require exactly one serial per movement.")
    let found ← read fun s =>
      (data.serialId.bind s.serials.get?).filter fun serial => serial.itemId = data.itemId
    let serial ← orThrow found (.modelNotFound "StockSerial")
    throwIf (source.any fun bin => serial.currentBinId ≠ some bin.1)
      (.domain "The serial is not held in the source bin.")
  | .lot => do
    throwIf (data.lotId = none) (.domain "Lot-tracked items require a lot for every movement.")
    let found ← read fun s => (data.lotId.bind s.lots.get?).filter fun lot => lot.itemId = data.itemId
    let _ ← orThrow found (.modelNotFound "StockLot")
  | .none =>
    throwIf (data.lotId ≠ none ∨ data.serialId ≠ none)
      (.domain "Untracked items cannot carry lot or serial identifiers.")

/-- A reservation of the item in the bin's warehouse that names the bin or none. -/
def Authorizes (r : StockReservation) (itemId : Nat) (source : Nat × InventoryBin) : Prop :=
  r.itemId = itemId ∧ r.warehouseId = source.2.warehouseId ∧
    (r.binId = none ∨ r.binId = some source.1) ∧ r.status.holdsStock
  deriving Decidable

def reservationAllowance (reservationId : Option Nat) (itemId : Nat) (source : Nat × InventoryBin) :
    Action Stock Throwable Int :=
  match reservationId with
  | none => pure 0
  | some key => do
    let found ← read fun s => s.reservations.get? key
    let reservation ← orThrow found (.modelNotFound "StockReservation")
    throwIf (¬ Authorizes reservation itemId source)
      (.domain "The reservation does not authorize stock from this bin.")
    pure (reservation.reservedQuantityBase - reservation.consumedQuantityBase)

/-- What a movement may take from its source bin. -/
def sourceAvailable (data : MovementData) (source : Nat × InventoryBin) : Action Stock Throwable Int := do
  let stock ← forItem data.itemId (some source.2.warehouseId) (some source.1)
  if source.2.custodyType = .available then do
    let allowance ← reservationAllowance data.reservationId data.itemId source
    pure (stock.availableBase + allowance)
  else pure stock.onHandBase

def validateStock (data : MovementData) (source : Option (Nat × InventoryBin)) :
    Action Stock Throwable Unit :=
  match source with
  | none => pure ()
  | some bin => do
    let available ← sourceAvailable data bin
    throwIf (available < data.quantityBase) (.domain "Insufficient available stock for this movement.")

def movement (data : MovementData) (postedBy : Nat) : StockMovement :=
  { itemId := data.itemId, uomId := data.uomId, fromBinId := data.fromBinId, toBinId := data.toBinId
    lotId := data.lotId, serialId := data.serialId, movementType := data.movementType
    quantityBase := data.quantityBase, currency := strToUpper data.currency
    unitCostMinor := data.unitCostMinor, totalCostMinor := data.quantityBase * data.unitCostMinor
    referenceType := data.referenceType, referenceId := data.referenceId, reasonCode := data.reasonCode
    idempotencyKey := data.idempotencyKey, reversesMovementId := data.reversesMovementId, postedBy }

/-- The serial of a movement follows it. -/
def moveSerial (data : MovementData) (serials : Table Nat StockSerial) : Table Nat StockSerial :=
  match data.serialId with
  | none => serials
  | some key => serials.update key fun serial =>
      { serial with
        currentBinId := data.toBinId
        status := if data.toBinId = none then "issued" else "available" }

def post (actorId : Option Nat) (data : MovementData) : Action Stock Throwable (Nat × StockMovement) :=
  transaction do
    let existing ← read fun s => s.movements.first? fun _ m => m.idempotencyKey = data.idempotencyKey
    match existing with
    | some earlier => pure earlier
    | none =>
      throwIf (data.quantityBase ≤ 0 ∨ data.unitCostMinor < 0)
        (.domain "Stock movement quantity must be positive and unit cost cannot be negative.")
      let source ← lockBin data.fromBinId
      let _ ← lockBin data.toBinId
      throwIf (data.fromBinId = none ∧ data.toBinId = none)
        (.domain "A stock movement requires a source or destination bin.")
      throwIf (data.fromBinId ≠ none ∧ data.fromBinId = data.toBinId)
        (.domain "A stock movement cannot use the same source and destination bin.")
      let found ← read fun s => s.items.get? data.itemId
      let item ← orThrow found (.modelNotFound "InventoryItem")
      validateTracking item data source
      validateStock data source
      let postedBy ← orThrow (data.postedBy.orElse fun _ => actorId)
        (.domain "A stock movement requires an accountable actor.")
      let units ← read Stock.unitIds
      throwIf (data.uomId ∉ units) ⟨.query, "inv_movement_uom_fk"⟩
      throwIf (phpIntMax < data.quantityBase * data.unitCostMinor) .bigintOutOfRange
      let key ← read fun s => s.movements.nextId
      write fun s => { s with
        movements := s.movements.create (movement data postedBy)
        serials := moveSerial data s.serials }
      pure (key, movement data postedBy)

def reversalData (key : Nat) (movement : StockMovement) (reasonCode idempotencyKey : String) : MovementData :=
  { itemId := movement.itemId, uomId := movement.uomId, fromBinId := movement.toBinId
    toBinId := movement.fromBinId, lotId := movement.lotId, serialId := movement.serialId
    movementType := .reversal, quantityBase := movement.quantityBase, currency := movement.currency
    unitCostMinor := movement.unitCostMinor, referenceType := "stock_movement_reversal", referenceId := key
    reasonCode := some reasonCode, idempotencyKey, reversesMovementId := some key }

def reverse (actorId : Option Nat) (key : Nat) (movement : StockMovement) (reasonCode idempotencyKey : String) :
    Action Stock Throwable (Nat × StockMovement) := do
  throwIf (movement.reversesMovementId ≠ none)
    (.domain "A reversal movement cannot itself be reversed automatically.")
  post actorId (reversalData key movement reasonCode idempotencyKey)

end StockLedger

/-! ### Reservations -/

structure ReservationData where
  itemId : Nat
  warehouseId : Nat
  binId : Option Nat := none
  lotId : Option Nat := none
  serialId : Option Nat := none
  requestedQuantityBase : Int
  purposeType : String
  purposeId : Nat
  idempotencyKey : String
  allowPartial : Bool := true

namespace StockReservationService

def validateBin (data : ReservationData) : Action Stock Throwable Unit :=
  match data.binId with
  | none => pure ()
  | some key => do
    let found ← read fun s => (s.bins.get? key).filter fun bin => bin.warehouseId = data.warehouseId
    let bin ← orThrow found (.modelNotFound "InventoryBin")
    throwIf (bin.custodyType ≠ .available) (.domain "Only available custody can be reserved.")

/-- The quantity granted of what is available. -/
def granted (available requested : Int) (allowPartial : Bool) : Int :=
  let reserved := min (max 0 available) requested
  if ¬ allowPartial ∧ reserved < requested then 0 else reserved

def reservationStatus (reserved requested : Int) : ReservationStatus :=
  if reserved = 0 then .rejected else if reserved < requested then .partiallyReserved else .reserved

def reservation (data : ReservationData) (reserved : Int) : StockReservation :=
  { itemId := data.itemId, warehouseId := data.warehouseId, binId := data.binId, lotId := data.lotId
    serialId := data.serialId, status := reservationStatus reserved data.requestedQuantityBase
    requestedQuantityBase := data.requestedQuantityBase, reservedQuantityBase := reserved
    purposeType := data.purposeType, purposeId := data.purposeId, idempotencyKey := data.idempotencyKey }

def reserve (data : ReservationData) : Action Stock Throwable (Nat × StockReservation) :=
  transaction do
    let existing ← read fun s => s.reservations.first? fun _ r => r.idempotencyKey = data.idempotencyKey
    match existing with
    | some earlier => pure earlier
    | none =>
      throwIf (data.requestedQuantityBase ≤ 0) (.domain "Reservation quantity must be positive.")
      let found ← read fun s => s.items.get? data.itemId
      let _ ← orThrow found (.modelNotFound "InventoryItem")
      validateBin data
      let stock ← forItem data.itemId (some data.warehouseId) data.binId
      let row := reservation data
        (granted stock.availableBase data.requestedQuantityBase data.allowPartial)
      let key ← read fun s => s.reservations.nextId
      write fun s => { s with reservations := s.reservations.create row }
      pure (key, row)

def consume (key : Nat) (quantityBase : Int) : Action Stock Throwable Unit :=
  transaction do
    let found ← read fun s => s.reservations.get? key
    let locked ← orThrow found (.modelNotFound "StockReservation")
    throwIf (quantityBase ≤ 0 ∨ ¬ locked.status.holdsStock)
      (.domain "Only an active reservation can be consumed.")
    let consumed := locked.consumedQuantityBase + quantityBase
    throwIf (locked.reservedQuantityBase < consumed)
      (.domain "Reservation consumption exceeds the reserved quantity.")
    write fun s => { s with
      reservations := s.reservations.update key fun r => { r with
        consumedQuantityBase := consumed
        status := if consumed = locked.reservedQuantityBase then .consumed else .partiallyConsumed } }

def release (key : Nat) : Action Stock Throwable Unit :=
  transaction do
    let found ← read fun s => s.reservations.get? key
    let locked ← orThrow found (.modelNotFound "StockReservation")
    throwIf (¬ locked.status.holdsStock) (.domain "Only an active reservation can be released.")
    write fun s => { s with
      reservations := s.reservations.update key fun r => { r with status := .released } }

end StockReservationService

/-! ### Issues -/

namespace MovingAverageValuation

def totalCost (side : StockMovement → Option Nat) (itemId : Nat) (s : Stock) : Int :=
  s.movements.sumOver fun _ m => if m.itemId = itemId ∧ side m = none then m.totalCostMinor else 0

def unitCostMinor (itemId : Nat) (item : InventoryItem) : Action Stock Throwable Int :=
  match item.valuationMethod with
  | .standard => pure (item.standardCostMinor.getD 0)
  | .movingAverage => do
    let stock ← forItem itemId
    if stock.onHandBase ≤ 0 then pure (item.standardCostMinor.getD 0)
    else do
      let receivedValue ← read (totalCost StockMovement.fromBinId itemId)
      let issuedValue ← read (totalCost StockMovement.toBinId itemId)
      pure (max 0 ((max 0 (intOfSum receivedValue - intOfSum issuedValue)).tdiv stock.onHandBase))

end MovingAverageValuation

namespace WorkOrderPartsService

def issueData (key : Nat) (reservation : StockReservation) (inventoryItem : InventoryItem) (sourceBinId : Nat)
    (quantityBase unitCostMinor : Int) (idempotencyKey : String) : MovementData :=
  { itemId := reservation.itemId, uomId := inventoryItem.baseUomId, fromBinId := some sourceBinId
    lotId := reservation.lotId, serialId := reservation.serialId, movementType := .workOrderIssue
    quantityBase, currency := inventoryItem.currency, unitCostMinor
    referenceType := "maintenance_work_order", referenceId := reservation.purposeId
    reasonCode := some "work_order_issue", idempotencyKey, reservationId := some key }

def issue (actorId : Option Nat) (key : Nat) (reservation : StockReservation) (sourceBinId : Nat)
    (quantityBase : Int) (idempotencyKey : String) : Action Stock Throwable Unit :=
  transaction do
    throwIf (reservation.purposeType ≠ "maintenance_work_order")
      (.domain "Only work-order reservations can use the parts issue workflow.")
    let found ← read fun s => s.items.get? reservation.itemId
    let inventoryItem ← orThrow found (.modelNotFound "InventoryItem")
    let unitCostMinor ← MovingAverageValuation.unitCostMinor reservation.itemId inventoryItem
    let _ ← StockLedger.post actorId
      (issueData key reservation inventoryItem sourceBinId quantityBase unitCostMinor idempotencyKey)
    StockReservationService.consume key quantityBase

end WorkOrderPartsService

end VtsaCsms.Inventory
