import VtsaCsms.Inventory.ReceiptBooks
import VtsaCsms.Inventory.StockMoves
import VtsaCsms.Inventory.SupplierReturns

/-!
# What a supplier return books

A return that goes through posts back what its receipt rejected, line by line.
-/
namespace VtsaCsms.Inventory
open Foundation Foundation.Action Procurement

/-! ### The ledger gives one movement after the other -/

namespace StockLedger

def Unused (key : String) (s : Stock) : Prop :=
  ∀ movementId m, s.movements.get? movementId = some m → m.idempotencyKey ≠ key

variable {actorId : Nat} {data : MovementData} {s : Stock} {key : String} {datas : List MovementData}

theorem post_records {s' : Stock} {posted : Nat × StockMovement}
    (own : data.postedBy = none) (unused : Unused data.idempotencyKey s)
    (success : Returns (post (some actorId) data) s posted s') :
    Admits (some actorId) data s ∧ s' = recorded actorId data s := by
  obtain ⟨-, key, m, stored, same⟩ | ⟨admits, postedBy, actor, rfl⟩ := post_writes success
  · exact absurd same (unused key m stored)
  · rw [own] at actor
    cases actor
    exact ⟨admits, rfl⟩

theorem post_recorded (own : data.postedBy = none) (admits : Admits (some actorId) data s) :
    ∃ posted, Returns (post (some actorId) data) s posted (recorded actorId data s) := by
  obtain ⟨posted, s', returned, -⟩ := post_admitted admits
  obtain ⟨-, rfl⟩ := post_records own admits.unused returned
  exact ⟨posted, returned⟩

/-- The ledger admits the movements, each after the ones before it. -/
def Gives (actorId : Nat) : List MovementData → Stock → Prop
  | [], _ => True
  | data :: rest, s => Admits (some actorId) data s ∧ Gives actorId rest (recorded actorId data s)

def recordedAll (actorId : Nat) : List MovementData → Stock → Stock
  | [], s => s
  | data :: rest, s => recordedAll actorId rest (recorded actorId data s)

/-- What was moved under a key. -/
def movedBy (key : String) (s : Stock) : Int :=
  s.movements.sumOver fun _ m => if m.idempotencyKey = key then m.quantityBase else 0

theorem movedBy_recorded (actorId : Nat) (data : MovementData) (s : Stock) (key : String) :
    movedBy key (recorded actorId data s) =
      movedBy key s + if data.idempotencyKey = key then data.quantityBase else 0 := by
  unfold movedBy recorded
  rw [Table.sumOver_create]
  rfl

theorem movedBy_unused (unused : Unused key s) : movedBy key s = 0 := by
  refine (Table.sumOver_congr _ ?_).trans (Table.sumOver_zero s.movements)
  intro movementId m stored
  exact if_neg (unused movementId m stored)

theorem movedBy_recordedAll_of_absent (absent : ∀ data ∈ datas, data.idempotencyKey ≠ key) (s : Stock) :
    movedBy key (recordedAll actorId datas s) = movedBy key s := by
  induction datas generalizing s with
  | nil => rfl
  | cons data _ ih =>
    rw [recordedAll, ih (fun d mem => absent d (List.mem_cons_of_mem _ mem)), movedBy_recorded,
      if_neg (absent data List.mem_cons_self), add_zero]

theorem unused_recorded (unused : Unused key s)
    (other : data.idempotencyKey ≠ key) : Unused key (recorded actorId data s) := by
  intro movementId m stored
  obtain ⟨-, rfl⟩ | earlier := Table.get?_create_cases stored
  · exact other
  · exact unused movementId m earlier

theorem movedBy_recordedAll (distinct : (datas.map MovementData.idempotencyKey).Nodup)
    (unused : ∀ data ∈ datas, Unused data.idempotencyKey s) :
    ∀ data ∈ datas, movedBy data.idempotencyKey (recordedAll actorId datas s) = data.quantityBase := by
  induction datas generalizing s with
  | nil => simp
  | cons data rest ih =>
    rw [List.map_cons, List.nodup_cons] at distinct
    have apart : ∀ d ∈ rest, d.idempotencyKey ≠ data.idempotencyKey := by
      intro d mem same
      exact distinct.1 (List.mem_map.mpr ⟨d, mem, same⟩)
    have unused' : ∀ d ∈ rest, Unused d.idempotencyKey (recorded actorId data s) := fun d mem =>
      unused_recorded (unused d (List.mem_cons_of_mem _ mem)) (Ne.symm (apart d mem))
    intro d mem
    rw [recordedAll]
    obtain rfl | mem := List.mem_cons.mp mem
    · rw [movedBy_recordedAll_of_absent apart, movedBy_recorded, if_pos rfl,
        movedBy_unused (unused d List.mem_cons_self), zero_add]
    · exact ih distinct.2 unused' d mem

theorem recordedAll_movements {movementId : Nat}
    {m : StockMovement} (stored : (recordedAll actorId datas s).movements.get? movementId = some m) :
    s.movements.get? movementId = some m ∨ ∃ data ∈ datas, m.idempotencyKey = data.idempotencyKey := by
  induction datas generalizing s with
  | nil => exact Or.inl stored
  | cons data _ ih =>
    obtain earlier | ⟨d, mem, same⟩ := ih stored
    · obtain ⟨-, rfl⟩ | before := Table.get?_create_cases earlier
      · exact Or.inr ⟨data, List.mem_cons_self, rfl⟩
      · exact Or.inl before
    · exact Or.inr ⟨d, List.mem_cons_of_mem _ mem, same⟩

end StockLedger
open SupplierReturnWorkflow StockLedger

/-! ### Lines of a return -/

def newLines (returnId : Nat) : List (Nat × GoodsReceiptLine) → Nat → List (Nat × InventoryReturnLine)
  | [], _ => []
  | row :: rest, lineId =>
    (lineId, returnLine returnId (row.2.rejectionBinId.getD 0) row.2) :: newLines returnId rest (lineId + 1)

def withLines (lines : List (Nat × InventoryReturnLine)) (t : Table Nat InventoryReturnLine) :
    Table Nat InventoryReturnLine :=
  lines.foldl (fun t row => t.create row.2) t

theorem returns_createLine (returnId : Nat) (row : Nat × GoodsReceiptLine) (s s' : Returning) (u : Unit) :
    Returns (createLine returnId row) s u s' ↔ row.2.rejectionBinId ≠ none ∧
      s' = { s with returnLines :=
        s.returnLines.create (returnLine returnId (row.2.rejectionBinId.getD 0) row.2) } := by
  unfold createLine
  simp only [returns_bind, returns_orThrow, returns_write]
  constructor
  · rintro ⟨binId, _, ⟨bin, rfl⟩, rfl⟩
    rw [bin]
    exact ⟨by simp, rfl⟩
  · rintro ⟨named, rfl⟩
    obtain ⟨binId, bin⟩ := Option.ne_none_iff_exists'.mp named
    exact ⟨binId, s, ⟨bin, rfl⟩, by rw [bin]; rfl⟩

theorem withLines_cons (returnId : Nat) (row : Nat × GoodsReceiptLine) (rest : List (Nat × GoodsReceiptLine))
    (t : Table Nat InventoryReturnLine) :
    withLines (newLines returnId (row :: rest) t.nextId) t =
      withLines (newLines returnId rest (t.create (returnLine returnId (row.2.rejectionBinId.getD 0) row.2)).nextId)
        (t.create (returnLine returnId (row.2.rejectionBinId.getD 0) row.2)) := by
  rw [Table.nextId_create]
  rfl

theorem returns_createLines (returnId : Nat) (rows : List (Nat × GoodsReceiptLine)) (s s' : Returning) (u : Unit) :
    Returns (forEach rows (createLine returnId)) s u s' ↔ (∀ row ∈ rows, row.2.rejectionBinId ≠ none) ∧
      s' = { s with returnLines := withLines (newLines returnId rows s.returnLines.nextId) s.returnLines } := by
  induction rows generalizing s with
  | nil => simp [forEach, returns_pure, newLines, withLines]
  | cons _ _ ih =>
    simp only [forEach, returns_bind, returns_createLine, List.forall_mem_cons, ih, withLines_cons]
    constructor
    · rintro ⟨_, _, ⟨named, rfl⟩, others, rfl⟩
      exact ⟨⟨named, others⟩, rfl⟩
    · rintro ⟨⟨named, others⟩, rfl⟩
      exact ⟨(), _, ⟨named, rfl⟩, others, rfl⟩

theorem returnLinesOf_create (otherId : Nat) (s : Returning) (line : InventoryReturnLine) :
    SupplierReturnWorkflow.linesOf otherId { s with returnLines := s.returnLines.create line } =
      SupplierReturnWorkflow.linesOf otherId s ++
        if line.inventoryReturnId = otherId then [(s.returnLines.nextId, line)] else [] := by
  unfold SupplierReturnWorkflow.linesOf Table.rowsWhere Table.create Table.insert
  dsimp only
  rw [List.filter_append]
  split <;> simp_all

theorem linesOf_withLines (returnId otherId : Nat) (rows : List (Nat × GoodsReceiptLine)) (s : Returning) :
    SupplierReturnWorkflow.linesOf otherId
        { s with returnLines := withLines (newLines returnId rows s.returnLines.nextId) s.returnLines } =
      SupplierReturnWorkflow.linesOf otherId s ++
        if returnId = otherId then newLines returnId rows s.returnLines.nextId else [] := by
  induction rows generalizing s with
  | nil => simp [newLines, withLines]
  | cons row _ ih =>
    rw [withLines_cons]
    have later := ih { s with returnLines := s.returnLines.create (returnLine returnId (row.2.rejectionBinId.getD 0) row.2) }
    dsimp only at later
    rw [later, returnLinesOf_create, Table.nextId_create]
    by_cases same : returnId = otherId
    · simp [same, newLines, returnLine]
    · simp [same, returnLine]

variable {returnId : Nat} {s s' : Returning}

theorem get?_withLines {rows : List (Nat × GoodsReceiptLine)} {t : Table Nat InventoryReturnLine}
    {lineId : Nat} {line : InventoryReturnLine}
    (stored : (withLines (newLines returnId rows t.nextId) t).get? lineId = some line) :
    t.get? lineId = some line ∨ line.inventoryReturnId = returnId := by
  induction rows generalizing t with
  | nil => exact Or.inl stored
  | cons _ _ ih =>
    rw [withLines_cons] at stored
    obtain earlier | own := ih stored
    · obtain ⟨-, rfl⟩ | before := Table.get?_create_cases earlier
      · exact Or.inr rfl
      · exact Or.inl before
    · exact Or.inr own

theorem newLines_ids {rows : List (Nat × GoodsReceiptLine)} {first : Nat} :
    (∀ line ∈ newLines returnId rows first, first ≤ line.1) ∧ ((newLines returnId rows first).map Prod.fst).Nodup := by
  induction rows generalizing first with
  | nil => simp [newLines]
  | cons _ rest ih =>
    obtain ⟨later, distinct⟩ : (∀ line ∈ newLines returnId rest (first + 1), first + 1 ≤ line.1) ∧
        ((newLines returnId rest (first + 1)).map Prod.fst).Nodup := ih
    refine ⟨?_, ?_⟩
    · intro line mem
      obtain rfl | mem := List.mem_cons.mp mem
      · exact le_refl _
      · exact Nat.le_of_succ_le (later line mem)
    · rw [newLines, List.map_cons, List.nodup_cons]
      refine ⟨?_, distinct⟩
      intro mem
      obtain ⟨line, mem', same⟩ := List.mem_map.mp mem
      have above := later line mem'
      omega

/-! ### Keys -/

theorem returnKey_injective {lineId returnId' lineId' : Nat}
    (same : returnKey returnId lineId = returnKey returnId' lineId') : returnId = returnId' ∧ lineId = lineId' := by
  have lists := congrArg String.toList same
  unfold returnKey at lists
  simp only [String.toList_append, List.append_assoc, List.append_cancel_left_eq] at lists
  have colon : ":".toList = [':'] := rfl
  rw [colon] at lists
  simp only [List.cons_append, List.nil_append] at lists
  have starts : (keyText returnId).toList ++ ':' :: (keyText lineId).toList <+:
      (keyText returnId').toList ++ ':' :: (keyText lineId').toList := by
    rw [lists]
  obtain ⟨sameReturn, -⟩ := separated_prefix (fun _ => keyText_ne_colon) (fun _ => keyText_ne_colon) starts
  rw [sameReturn] at lists
  have sameLine := (List.cons.inj (List.append_cancel_left lists)).2
  exact ⟨keyText_injective (String.toList_injective sameReturn), keyText_injective (String.toList_injective sameLine)⟩

theorem returnKey_reserved (returnId lineId : Nat) : "supplier-return:".toList <+: (returnKey returnId lineId).toList := by
  unfold returnKey
  rw [String.toList_append, String.toList_append, String.toList_append, List.append_assoc, List.append_assoc]
  exact List.prefix_append _ _

theorem movementData_keys {lines : List (Nat × InventoryReturnLine)} (distinct : (lines.map Prod.fst).Nodup) :
    ((lines.map (movementData returnId)).map MovementData.idempotencyKey).Nodup := by
  rw [List.map_map]
  have keys : List.map (MovementData.idempotencyKey ∘ movementData returnId) lines =
      (lines.map Prod.fst).map (returnKey returnId) := by
    rw [List.map_map]
    rfl
  rw [keys]
  exact distinct.map fun _ _ same => (returnKey_injective same).2

/-! ### Postings -/

def withStock (stock : Stock) (s : Returning) : Returning :=
  { s with receiving := { s.receiving with stock } }

theorem postLines_give {actorId : Nat} {lines : List (Nat × InventoryReturnLine)}
    (distinct : (lines.map Prod.fst).Nodup)
    (unused : ∀ line ∈ lines, Unused (returnKey returnId line.1) s.receiving.stock) (u : Unit) :
    Returns (forEach lines (postLine (some actorId) returnId)) s u s' ↔
      Gives actorId (lines.map (movementData returnId)) s.receiving.stock ∧
        s' = withStock (recordedAll actorId (lines.map (movementData returnId)) s.receiving.stock) s := by
  induction lines generalizing s with
  | nil => simp [forEach, returns_pure, Gives, recordedAll, withStock]
  | cons line rest ih =>
    rw [List.map_cons, List.nodup_cons] at distinct
    have own : Unused (movementData returnId line).idempotencyKey s.receiving.stock := unused line List.mem_cons_self
    have turn : ∀ s₁ u, Returns (postLine (some actorId) returnId line) s u s₁ ↔
        Admits (some actorId) (movementData returnId line) s.receiving.stock ∧
          s₁ = withStock (recorded actorId (movementData returnId line) s.receiving.stock) s := by
      intro s₁ u
      unfold postLine onReceiving GoodsReceiptWorkflow.onStock
      simp only [returns_focus, returns_bind, returns_pure]
      constructor
      · rintro ⟨_, ⟨_, ⟨_, _, posted, -, rfl⟩, rfl⟩, rfl⟩
        obtain ⟨admits, rfl⟩ := post_records rfl own posted
        exact ⟨admits, rfl⟩
      · rintro ⟨admits, rfl⟩
        obtain ⟨posted, returned⟩ := post_recorded rfl admits
        exact ⟨_, ⟨_, ⟨posted, _, returned, trivial, rfl⟩, rfl⟩, rfl⟩
    have unused' : ∀ other ∈ rest, Unused (returnKey returnId other.1)
        (withStock (recorded actorId (movementData returnId line) s.receiving.stock) s).receiving.stock := by
      intro other mem
      refine unused_recorded (unused other (List.mem_cons_of_mem _ mem)) fun same => ?_
      exact distinct.1 (List.mem_map.mpr ⟨other, mem, (returnKey_injective same).2.symm⟩)
    simp only [forEach, returns_bind, turn, List.map_cons]
    constructor
    · rintro ⟨_, _, ⟨admits, rfl⟩, later⟩
      obtain ⟨gives, rfl⟩ := (ih distinct.2 unused').mp later
      exact ⟨⟨admits, gives⟩, rfl⟩
    · rintro ⟨⟨admits, gives⟩, rfl⟩
      exact ⟨(), _, ⟨admits, rfl⟩, (ih distinct.2 unused').mpr ⟨gives, rfl⟩⟩

/-! ### A return -/

def returnMovements (receiptId : Nat) (s : Returning) : List MovementData :=
  (newLines s.returns.nextId (rejectedLines receiptId s.receiving) s.returnLines.nextId).map
    (movementData s.returns.nextId)

/-- The checks of a return: the receipt has posted rejections, the number is new, the rejected lines
have bins, the ledger gives what they rejected, and the order is of the receipt's supplier. -/
structure Accepted (createdBy receiptId : Nat) (receipt : GoodsReceipt) (returnNumber : String) (s : Returning) :
    Prop where
  stored : s.receiving.receipts.get? receiptId = some receipt
  status : receipt.status = .postedWithRejections
  number : ∀ returnId r, s.returns.get? returnId = some r → r.returnNumber ≠ returnNumber
  bins : ∀ row ∈ rejectedLines receiptId s.receiving, row.2.rejectionBinId ≠ none
  gives : Gives createdBy (returnMovements receiptId s) s.receiving.stock
  supplier : ∃ order, s.receiving.orders.orders.get? receipt.purchaseOrderId = some order ∧
    order.supplierId = receipt.supplierId

def returned (createdBy receiptId : Nat) (receipt : GoodsReceipt) (returnNumber reason : String) (s : Returning) :
    Returning :=
  { receiving := { s.receiving with stock := recordedAll createdBy (returnMovements receiptId s) s.receiving.stock }
    returns := s.returns.create
      { returnNumber, returnType := "supplier", warehouseId := receipt.warehouseId, status := .posted
        sourceType := "goods_receipt", sourceId := receiptId, reason, createdBy }
    returnLines := withLines (newLines s.returns.nextId (rejectedLines receiptId s.receiving) s.returnLines.nextId)
      s.returnLines
    supplierReturns := s.supplierReturns.create
      { purchaseOrderId := receipt.purchaseOrderId, supplierId := receipt.supplierId
        inventoryReturnId := s.returns.nextId, returnNumber, status := .shipped, reason } }

/-- Every document of a return belongs to one, and reserved keys are of its lines. -/
structure Filed (s : Returning) : Prop where
  lines : ∀ lineId line, s.returnLines.get? lineId = some line →
    ∃ r, s.returns.get? line.inventoryReturnId = some r
  shipped : ∀ shipmentId row, s.supplierReturns.get? shipmentId = some row →
    ∃ r, s.returns.get? row.inventoryReturnId = some r ∧ r.returnNumber = row.returnNumber
  keys : ∀ movementId m, s.receiving.stock.movements.get? movementId = some m →
    "supplier-return:".toList <+: m.idempotencyKey.toList →
      ∃ returnId r lineId, s.returns.get? returnId = some r ∧ m.idempotencyKey = returnKey returnId lineId

theorem Filed.unused (filed : Filed s) (lineId : Nat) :
    Unused (returnKey s.returns.nextId lineId) s.receiving.stock := by
  intro movementId m stored same
  obtain ⟨returnId, r, lineId', held, key⟩ := filed.keys movementId m stored (by rw [same]; exact returnKey_reserved _ _)
  rw [same] at key
  obtain ⟨new, -⟩ := returnKey_injective key
  rw [← new, Table.get?_nextId] at held
  cases held

theorem Filed.linesOf_new (filed : Filed s) : linesOf s.returns.nextId s = [] := by
  apply List.eq_nil_iff_forall_not_mem.mpr
  intro row mem
  obtain ⟨held, own⟩ := (Table.mem_rowsWhere ..).mp mem
  obtain ⟨r, stored⟩ := filed.lines row.1 row.2 held
  rw [of_decide_eq_true own, Table.get?_nextId] at stored
  cases stored

theorem returns_loaded (receiptId : Nat) (s s' : Returning) (receipt : GoodsReceipt) :
    Returns (onReceiving (GoodsReceiptWorkflow.load receiptId)) s receipt s' ↔
      s.receiving.receipts.get? receiptId = some receipt ∧ s' = s := by
  unfold onReceiving
  rw [returns_focus]
  simp only [returns_loadReceipt]
  constructor
  · rintro ⟨_, ⟨stored, rfl⟩, rfl⟩
    exact ⟨stored, rfl⟩
  · rintro ⟨stored, rfl⟩
    exact ⟨_, ⟨stored, rfl⟩, rfl⟩

theorem returns_returnActor (actorId : Option Nat) (s s' : Returning) (createdBy : Nat) :
    Returns (onReceiving (GoodsReceiptWorkflow.actor actorId)) s createdBy s' ↔ actorId = some createdBy ∧ s' = s := by
  unfold onReceiving GoodsReceiptWorkflow.actor
  rw [returns_focus]
  simp only [returns_orThrow]
  constructor
  · rintro ⟨_, ⟨named, rfl⟩, rfl⟩
    exact ⟨named, rfl⟩
  · rintro ⟨named, rfl⟩
    exact ⟨_, ⟨named, rfl⟩, rfl⟩

theorem register_returns {purchaseOrderId supplierId : Nat} {returnNumber reason : String}
    (unshipped : ∀ shipmentId row, s.supplierReturns.get? shipmentId = some row →
      row.inventoryReturnId ≠ returnId ∧ row.returnNumber ≠ returnNumber) (u : Unit) :
    Returns (SupplierReturnContract.register purchaseOrderId supplierId returnId returnNumber reason) s u s' ↔
      (∃ order, s.receiving.orders.orders.get? purchaseOrderId = some order ∧ order.supplierId = supplierId) ∧
        s' = { s with
          supplierReturns := s.supplierReturns.create
            { purchaseOrderId, supplierId, inventoryReturnId := returnId, returnNumber, status := .shipped, reason } } := by
  have unknown : (s.supplierReturns.exists? fun _ r => decide (r.inventoryReturnId = returnId)) = false := by
    rw [Bool.eq_false_iff, Ne, Table.exists?_iff]
    rintro ⟨shipmentId, row, stored, same⟩
    exact (unshipped shipmentId row stored).1 (of_decide_eq_true same)
  have free : (s.supplierReturns.exists? fun _ r => decide (r.returnNumber = returnNumber)) = false := by
    rw [Bool.eq_false_iff, Ne, Table.exists?_iff]
    rintro ⟨shipmentId, row, stored, same⟩
    exact (unshipped shipmentId row stored).2 (of_decide_eq_true same)
  unfold SupplierReturnContract.register
  simp only [returns_bind, returns_read, returns_orThrow, returns_throwIf, not_not]
  constructor
  · rintro ⟨_, _, ⟨rfl, rfl⟩, order, _, ⟨stored, rfl⟩, _, _, ⟨same, rfl⟩, _, _, ⟨rfl, rfl⟩, rest⟩
    rw [unknown, returns_doIf] at rest
    obtain ⟨-, rest⟩ | ⟨absurd', -⟩ := rest
    · simp only [returns_bind, returns_read, returns_throwIf, returns_write] at rest
      obtain ⟨_, _, ⟨rfl, rfl⟩, _, _, ⟨-, rfl⟩, rfl⟩ := rest
      exact ⟨⟨order, stored, same⟩, rfl⟩
    · exact absurd rfl absurd'
  · rintro ⟨⟨order, stored, same⟩, rfl⟩
    refine ⟨_, s, ⟨rfl, rfl⟩, order, s, ⟨stored, rfl⟩, (), s, ⟨same, rfl⟩, _, s, ⟨rfl, rfl⟩, ?_⟩
    rw [unknown]
    refine .doIf rfl ?_
    simp only [returns_bind, returns_read, returns_throwIf, returns_write]
    exact ⟨_, s, ⟨rfl, rfl⟩, (), s, ⟨by rw [free]; exact Bool.false_ne_true, rfl⟩, rfl⟩

theorem returnRejected_returns {actorId : Option Nat} {receiptId : Nat} {returnNumber reason : String}
    (filed : Filed s) :
    Returns (returnRejected actorId receiptId returnNumber reason) s () s' ↔ ∃ createdBy receipt,
      actorId = some createdBy ∧ Accepted createdBy receiptId receipt returnNumber s ∧
        s' = returned createdBy receiptId receipt returnNumber reason s := by
  unfold returnRejected
  simp only [returns_transaction, returns_bind, returns_loaded, returns_throwIf, returns_read, returns_returnActor,
    returns_write, returns_createLines, not_not]
  -- the return is created and gets its lines
  let created := fun (createdBy : Nat) (receipt : GoodsReceipt) => { s with
    returns := s.returns.create
      { returnNumber, returnType := "supplier", warehouseId := receipt.warehouseId, status := .draft
        sourceType := "goods_receipt", sourceId := receiptId, reason, createdBy }
    returnLines := withLines (newLines s.returns.nextId (rejectedLines receiptId s.receiving) s.returnLines.nextId)
      s.returnLines }
  have lines : ∀ createdBy receipt, linesOf s.returns.nextId (created createdBy receipt) =
      newLines s.returns.nextId (rejectedLines receiptId s.receiving) s.returnLines.nextId := by
    intro createdBy receipt
    have filled := linesOf_withLines s.returns.nextId s.returns.nextId (rejectedLines receiptId s.receiving) s
    rw [filed.linesOf_new, if_pos rfl, List.nil_append] at filled
    exact filled
  have posts : ∀ (createdBy : Nat) (receipt : GoodsReceipt) (u : Unit) (s₁ : Returning),
      Returns (forEach (linesOf s.returns.nextId (created createdBy receipt))
        (postLine (some createdBy) s.returns.nextId)) (created createdBy receipt) u s₁ ↔
      Gives createdBy (returnMovements receiptId s) s.receiving.stock ∧
        s₁ = withStock (recordedAll createdBy (returnMovements receiptId s) s.receiving.stock)
          (created createdBy receipt) := by
    intro createdBy receipt u s₁
    rw [lines]
    exact postLines_give (s := created createdBy receipt) newLines_ids.2 (fun line _ => filed.unused line.1) u
  have ships : ∀ shipmentId row, s.supplierReturns.get? shipmentId = some row →
      (∀ returnId r, s.returns.get? returnId = some r → r.returnNumber ≠ returnNumber) →
      row.inventoryReturnId ≠ s.returns.nextId ∧ row.returnNumber ≠ returnNumber := by
    intro shipmentId row stored number
    obtain ⟨r, held, same⟩ := filed.shipped shipmentId row stored
    exact ⟨(Table.lt_nextId held).ne, same ▸ number _ r held⟩
  constructor
  · rintro ⟨receipt, _, ⟨stored, rfl⟩, _, _, ⟨status, rfl⟩, rejected, _, ⟨rfl, rfl⟩, createdBy, _, ⟨rfl, rfl⟩, _, _,
      ⟨rfl, rfl⟩, _, _, ⟨free, rfl⟩, _, s, ⟨rfl, rfl⟩, _, _, rfl, _, _, ⟨bins, rfl⟩, _, _, ⟨rfl, rfl⟩, _, _, posted, _, _,
      rfl, shipped⟩
    have number : ∀ returnId r, s.returns.get? returnId = some r → r.returnNumber ≠ returnNumber := by
      intro returnId r held same
      exact free ((Table.exists?_iff ..).mpr ⟨returnId, r, held, decide_eq_true same⟩)
    obtain ⟨gives, rfl⟩ := (posts createdBy receipt _ _).mp posted
    obtain ⟨supplier, rfl⟩ := (register_returns (by exact fun shipmentId row held => ships shipmentId row held number)
      _).mp shipped
    refine ⟨createdBy, receipt, rfl, ⟨stored, status, number, bins, gives, supplier⟩, ?_⟩
    unfold returned withStock
    simp only [created, Table.update_create]
  · rintro ⟨createdBy, receipt, rfl, accepted, rfl⟩
    have free : ¬ (s.returns.exists? fun _ r => decide (r.returnNumber = returnNumber)) = true := by
      rw [Table.exists?_iff]
      rintro ⟨returnId, r, held, same⟩
      exact accepted.number returnId r held (of_decide_eq_true same)
    refine ⟨receipt, s, ⟨accepted.stored, rfl⟩, (), s, ⟨accepted.status, rfl⟩, _, s, ⟨rfl, rfl⟩,
      createdBy, s, ⟨rfl, rfl⟩, _, s, ⟨rfl, rfl⟩, (), s, ⟨free, rfl⟩, _, s, ⟨rfl, rfl⟩, (), _, rfl,
      (), created createdBy receipt, ⟨accepted.bins, rfl⟩, _, _, ⟨rfl, rfl⟩, (), _,
      (posts createdBy receipt _ _).mpr ⟨accepted.gives, rfl⟩, (), _, rfl, ?_⟩
    refine (register_returns ?_ _).mpr ⟨accepted.supplier, ?_⟩
    · intro shipmentId row held
      exact ships shipmentId row held accepted.number
    · unfold returned withStock
      simp only [created, Table.update_create]

end VtsaCsms.Inventory
