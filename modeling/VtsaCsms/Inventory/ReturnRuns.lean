import Mathlib.Algebra.BigOperators.Ring.List
import Mathlib.Tactic.Linarith
import VtsaCsms.Foundation.Runs
import VtsaCsms.Inventory.ReturnBooks

/-!
# Runs of supplier returns

Whatever the stock does in between, what a receipt rejected goes back once, unless the receipt is
handed in again while the bins can give the same once more.
-/
namespace VtsaCsms.Inventory
open Foundation Foundation.Action Procurement SupplierReturnWorkflow StockLedger

inductive ReturnCall where
  | stock (call : StockCall) (apart : call.Avoids "supplier-return:")
  | returnRejected (actorId : Option Nat) (receiptId : Nat) (returnNumber reason : String)

namespace ReturnCall

def perform : ReturnCall → Action Returning Throwable Unit
  | stock call _ => onReceiving (GoodsReceiptWorkflow.onStock call.perform)
  | returnRejected actorId receiptId returnNumber reason =>
    SupplierReturnWorkflow.returnRejected actorId receiptId returnNumber reason

def next (call : ReturnCall) (s : Returning) : Returning := after call.perform s

end ReturnCall

/-! ### What went back -/

def ofReceipt (receiptId : Nat) (r : InventoryReturn) : Bool :=
  decide (r.sourceType = "goods_receipt" ∧ r.sourceId = receiptId)

/-- What a return posted for a line of its receipt: the return's lines stand in the order of the
rejected lines. -/
def postedBackBy (receiptId lineId returnId : Nat) (s : Returning) : Int :=
  (((rejectedLines receiptId s.receiving).zip (linesOf returnId s)).map fun pair =>
    if pair.1.1 = lineId then movedBy (returnKey returnId pair.2.1) s.receiving.stock else 0).sum

def postedBack (receiptId lineId : Nat) (s : Returning) : Int :=
  s.returns.sumOver fun returnId r => if ofReceipt receiptId r then postedBackBy receiptId lineId returnId s else 0

/-- No line of a receipt sent back more than was rejected of it. -/
def ReturnedAtMostOnce (s : Returning) : Prop :=
  ∀ lineId line, s.receiving.lines.get? lineId = some line →
    postedBack line.goodsReceiptId lineId s ≤ line.rejectedQuantityBase

structure NothingReturned (s : Returning) : Prop where
  returns : s.returns = Table.empty
  returnLines : s.returnLines = Table.empty
  supplierReturns : s.supplierReturns = Table.empty
  keys : ∀ movementId m, s.receiving.stock.movements.get? movementId = some m →
    ¬ "supplier-return:".toList <+: m.idempotencyKey.toList
  rejected : ∀ lineId line, s.receiving.lines.get? lineId = some line → 0 ≤ line.rejectedQuantityBase

/-- A receipt with rejections that was returned already is returned once more. -/
def ReturnsAgain : ReturnCall → Returning → Prop
  | .stock _ _, _ => False
  | .returnRejected actorId receiptId returnNumber _, s =>
    (∃ returnId r, s.returns.get? returnId = some r ∧ ofReceipt receiptId r = true) ∧
      rejectedLines receiptId s.receiving ≠ [] ∧
        ∃ createdBy receipt, actorId = some createdBy ∧ Accepted createdBy receiptId receipt returnNumber s

/-! ### Every return posts what was rejected -/

/-- The lines of a return, in the order of the rejected lines, moved what was rejected. -/
def Sent (receiptId returnId : Nat) (s : Returning) : Prop :=
  List.Forall₂ (fun row line => movedBy (returnKey returnId line.1) s.receiving.stock = row.2.rejectedQuantityBase)
    (rejectedLines receiptId s.receiving) (linesOf returnId s)

structure ReturnBooks (s : Returning) : Prop where
  filed : Filed s
  rejected : ∀ lineId line, s.receiving.lines.get? lineId = some line → 0 ≤ line.rejectedQuantityBase
  sent : ∀ returnId r, s.returns.get? returnId = some r → Sent r.sourceId returnId s

theorem zip_moved {rows : List (Nat × GoodsReceiptLine)} {lines : List (Nat × InventoryReturnLine)}
    {moved : Nat × InventoryReturnLine → Int} (lineId : Nat)
    (sent : List.Forall₂ (fun row line => moved line = row.2.rejectedQuantityBase) rows lines) :
    ((rows.zip lines).map fun pair => if pair.1.1 = lineId then moved pair.2 else 0).sum =
      (rows.map fun row => if row.1 = lineId then row.2.rejectedQuantityBase else 0).sum := by
  induction sent with
  | nil => rfl
  | cons same _ ih =>
    rw [List.zip_cons_cons, List.map_cons, List.map_cons, List.sum_cons, List.sum_cons, ih, same]

variable {s : Returning} {lineId receiptId createdBy : Nat} {line : GoodsReceiptLine} {returnNumber reason : String}
  {receipt : GoodsReceipt}

theorem rejected_of_line {s : Receiving}
    (stored : s.lines.get? lineId = some line) (nonneg : 0 ≤ line.rejectedQuantityBase) :
    ((rejectedLines line.goodsReceiptId s).map fun row =>
      if row.1 = lineId then row.2.rejectedQuantityBase else 0).sum = line.rejectedQuantityBase := by
  have rows : rejectedLines line.goodsReceiptId s = s.lines.rowsWhere fun _ other =>
      decide (0 < other.rejectedQuantityBase) && decide (other.goodsReceiptId = line.goodsReceiptId) := by
    unfold rejectedLines GoodsReceiptWorkflow.linesOf Table.rowsWhere
    rw [List.filter_filter]
  rw [rows, Table.sum_rowsWhere s.lines _ fun key other => if key = lineId then other.rejectedQuantityBase else 0]
  have single := Table.sumOver_single s.lines lineId fun other =>
    if 0 < other.rejectedQuantityBase ∧ other.goodsReceiptId = line.goodsReceiptId then other.rejectedQuantityBase else 0
  rw [stored] at single
  refine (Table.sumOver_congr _ ?_).trans (single.trans ?_)
  · intro key other _
    by_cases here : key = lineId
    · simp [here]
    · simp [here]
  · simp only [Option.map_some, Option.getD_some, and_true]
    split <;> omega

theorem Sent.postedBackBy {returnId : Nat}
    (stored : s.receiving.lines.get? lineId = some line) (nonneg : 0 ≤ line.rejectedQuantityBase)
    (sent : Sent line.goodsReceiptId returnId s) :
    postedBackBy line.goodsReceiptId lineId returnId s = line.rejectedQuantityBase :=
  (zip_moved lineId sent).trans (rejected_of_line stored nonneg)

/-- How often a receipt was returned. -/
def timesReturned (receiptId : Nat) (s : Returning) : Int :=
  s.returns.sumOver fun _ r => if ofReceipt receiptId r then 1 else 0

theorem ReturnBooks.postedBack (books : ReturnBooks s) (stored : s.receiving.lines.get? lineId = some line) :
    postedBack line.goodsReceiptId lineId s = timesReturned line.goodsReceiptId s * line.rejectedQuantityBase := by
  have nonneg := books.rejected lineId line stored
  have each : ∀ returnId r, s.returns.get? returnId = some r →
      (if ofReceipt line.goodsReceiptId r then postedBackBy line.goodsReceiptId lineId returnId s else 0) =
        (if ofReceipt line.goodsReceiptId r then 1 else 0) * line.rejectedQuantityBase := by
    intro returnId r held
    split
    · next own =>
      have sent := books.sent returnId r held
      rw [(of_decide_eq_true own).2] at sent
      rw [sent.postedBackBy stored nonneg, one_mul]
    · rw [zero_mul]
  unfold Inventory.postedBack timesReturned
  rw [Table.sumOver_congr _ each]
  unfold Table.sumOver
  rw [← List.sum_map_mul_right]

theorem ReturnBooks.atMostOnce_iff (books : ReturnBooks s) :
    ReturnedAtMostOnce s ↔ ∀ receiptId, rejectedLines receiptId s.receiving ≠ [] → timesReturned receiptId s ≤ 1 := by
  constructor
  · intro once receiptId some'
    obtain ⟨row, mem⟩ := List.exists_mem_of_ne_nil _ some'
    obtain ⟨listed, positive⟩ := List.mem_filter.mp mem
    obtain ⟨stored, own⟩ := mem_linesOf.mp listed
    have bound := once row.1 row.2 stored
    rw [books.postedBack stored, own] at bound
    have positive' := of_decide_eq_true positive
    by_contra more
    nlinarith
  · intro once lineId line stored
    have nonneg := books.rejected lineId line stored
    rw [books.postedBack stored]
    by_cases none' : rejectedLines line.goodsReceiptId s.receiving = []
    · have nothing : ¬ 0 < line.rejectedQuantityBase := by
        intro positive
        have mem : (lineId, line) ∈ rejectedLines line.goodsReceiptId s.receiving :=
          List.mem_filter.mpr ⟨mem_linesOf.mpr ⟨stored, rfl⟩, decide_eq_true positive⟩
        rw [none'] at mem
        cases mem
      have zero : line.rejectedQuantityBase = 0 := by omega
      rw [zero, mul_zero]
    · have bound := once _ none'
      nlinarith

/-! ### Steps -/

/-- The call goes through only where it is accepted, and leaves what it books. -/
theorem next_returnRejected {actorId : Option Nat} (filed : Filed s) :
    ((∃ createdBy receipt, actorId = some createdBy ∧ Accepted createdBy receiptId receipt returnNumber s ∧
        ReturnCall.next (.returnRejected actorId receiptId returnNumber reason) s =
          returned createdBy receiptId receipt returnNumber reason s)) ∨
      ((¬ ∃ createdBy receipt, actorId = some createdBy ∧ Accepted createdBy receiptId receipt returnNumber s) ∧
        ReturnCall.next (.returnRejected actorId receiptId returnNumber reason) s = s) := by
  have atomic : Atomic (SupplierReturnWorkflow.returnRejected actorId receiptId returnNumber reason) :=
    atomic_transaction _
  obtain ⟨unchanged, refused⟩ | success := after_cases atomic s
  · refine Or.inr ⟨?_, unchanged⟩
    rintro ⟨createdBy, receipt, named, accepted⟩
    exact refused _ ((returnRejected_returns filed).mpr ⟨createdBy, receipt, named, accepted, rfl⟩)
  · obtain ⟨createdBy, receipt, named, accepted, left⟩ := (returnRejected_returns filed).mp success
    exact Or.inl ⟨createdBy, receipt, named, accepted, left⟩

theorem forall₂_newLines {moved : Nat × InventoryReturnLine → Int} {returnId : Nat}
    {rows : List (Nat × GoodsReceiptLine)} {first : Nat}
    (all : ∀ line ∈ newLines returnId rows first, moved line = line.2.quantityBase) :
    List.Forall₂ (fun row line => moved line = row.2.rejectedQuantityBase) rows (newLines returnId rows first) := by
  induction rows generalizing first with
  | nil => exact .nil
  | cons _ _ ih =>
    exact .cons (all _ List.mem_cons_self) (ih fun line mem => all line (List.mem_cons_of_mem _ mem))

theorem linesOf_returned (returnId : Nat) :
    linesOf returnId (returned createdBy receiptId receipt returnNumber reason s) = linesOf returnId s ++
      if s.returns.nextId = returnId then
        newLines s.returns.nextId (rejectedLines receiptId s.receiving) s.returnLines.nextId else [] :=
  linesOf_withLines s.returns.nextId returnId (rejectedLines receiptId s.receiving) s

theorem returned_filed
    (filed : Filed s) : Filed (returned createdBy receiptId receipt returnNumber reason s) := by
  constructor
  · intro lineId line stored
    obtain earlier | own := get?_withLines stored
    · obtain ⟨r, held⟩ := filed.lines lineId line earlier
      exact ⟨r, Table.get?_create_of_some _ _ held⟩
    · rw [own]
      exact ⟨_, Table.get?_create_self _ _⟩
  · intro shipmentId row stored
    obtain ⟨-, rfl⟩ | earlier := Table.get?_create_cases stored
    · exact ⟨_, Table.get?_create_self _ _, rfl⟩
    · obtain ⟨r, held, same⟩ := filed.shipped shipmentId row earlier
      exact ⟨r, Table.get?_create_of_some _ _ held, same⟩
  · intro movementId m stored reserved
    obtain earlier | ⟨data, mem, key⟩ := recordedAll_movements stored
    · obtain ⟨returnId, r, lineId, held, key⟩ := filed.keys movementId m earlier reserved
      exact ⟨returnId, r, lineId, Table.get?_create_of_some _ _ held, key⟩
    · obtain ⟨line, -, rfl⟩ := List.mem_map.mp mem
      exact ⟨_, _, line.1, Table.get?_create_self _ _, key⟩

theorem returned_books (books : ReturnBooks s) :
    ReturnBooks (returned createdBy receiptId receipt returnNumber reason s) := by
  refine ⟨returned_filed books.filed, books.rejected, ?_⟩
  have keys : ((returnMovements receiptId s).map MovementData.idempotencyKey).Nodup :=
    movementData_keys newLines_ids.2
  have unused : ∀ data ∈ returnMovements receiptId s, Unused data.idempotencyKey s.receiving.stock := by
    intro data mem
    obtain ⟨line, -, rfl⟩ := List.mem_map.mp mem
    exact books.filed.unused line.1
  intro returnId r stored
  unfold Sent
  obtain ⟨rfl, rfl⟩ | earlier := Table.get?_create_cases stored
  · rw [linesOf_returned, if_pos rfl, books.filed.linesOf_new, List.nil_append]
    refine forall₂_newLines fun line mem => ?_
    exact movedBy_recordedAll keys unused (movementData s.returns.nextId line) (List.mem_map.mpr ⟨line, mem, rfl⟩)
  · have different : s.returns.nextId ≠ returnId := (Table.lt_nextId earlier).ne'
    rw [linesOf_returned, if_neg different, List.append_nil]
    refine (books.sent returnId r earlier).imp ?_
    intro row line sent
    refine Eq.trans ?_ sent
    have absent : ∀ data ∈ returnMovements receiptId s, data.idempotencyKey ≠ returnKey returnId line.1 := by
      intro data mem same
      obtain ⟨other, -, rfl⟩ := List.mem_map.mp mem
      exact different (returnKey_injective same).1
    exact movedBy_recordedAll_of_absent absent s.receiving.stock

theorem stock_books {call : StockCall} (apart : call.Avoids "supplier-return:") (books : ReturnBooks s) :
    ReturnBooks (ReturnCall.next (.stock call apart) s) := by
  have left : ReturnCall.next (.stock call apart) s = withStock (call.next s.receiving.stock) s := rfl
  rw [left]
  have movements := StockCall.next_movements call apart s.receiving.stock
  refine ⟨⟨books.filed.lines, books.filed.shipped, ?_⟩, books.rejected, ?_⟩
  · intro movementId m stored reserved
    obtain same | ⟨data, s₁, recorded, same, other⟩ := movements
    · rw [show (withStock (call.next s.receiving.stock) s).receiving.stock.movements = _ from same] at stored
      exact books.filed.keys movementId m stored reserved
    · rw [show (withStock (call.next s.receiving.stock) s).receiving.stock.movements = _ from same] at stored
      obtain ⟨postedBy, rows⟩ := recorded.movements
      rw [rows] at stored
      obtain ⟨-, rfl⟩ | earlier := Table.get?_create_cases stored
      · exact absurd reserved other
      · exact books.filed.keys movementId m earlier reserved
  · intro returnId r stored
    refine (books.sent returnId r stored).imp ?_
    intro row line sent
    refine Eq.trans ?_ sent
    show movedBy (returnKey returnId line.1) (call.next s.receiving.stock) = _
    unfold movedBy
    obtain same | ⟨data, s₁, recorded, same, other⟩ := movements
    · rw [same]
    · obtain ⟨postedBy, rows⟩ := recorded.movements
      rw [same, rows, Table.sumOver_create, if_neg, add_zero]
      intro key
      have key' : data.idempotencyKey = returnKey returnId line.1 := key
      rw [key'] at other
      exact other (returnKey_reserved _ _)

/-! ### Runs -/

theorem timesReturned_returned (otherId : Nat) :
    timesReturned otherId (returned createdBy receiptId receipt returnNumber reason s) =
      timesReturned otherId s + if receiptId = otherId then 1 else 0 := by
  unfold timesReturned returned
  rw [Table.sumOver_create]
  unfold ofReceipt
  simp

theorem timesReturned_pos :
    0 < timesReturned receiptId s ↔ ∃ returnId r, s.returns.get? returnId = some r ∧ ofReceipt receiptId r = true := by
  constructor
  · intro positive
    by_contra none'
    have nothing : timesReturned receiptId s = 0 := by
      refine (Table.sumOver_congr _ ?_).trans (Table.sumOver_zero s.returns)
      intro returnId r held
      exact if_neg fun own => none' ⟨returnId, r, held, own⟩
    omega
  · rintro ⟨returnId, r, held, own⟩
    have single := Table.sumOver_single s.returns returnId fun r => if ofReceipt receiptId r then 1 else 0
    rw [held, Option.map_some, Option.getD_some, if_pos own] at single
    have below : (s.returns.sumOver fun key r => if key = returnId then (if ofReceipt receiptId r then 1 else 0) else 0) ≤
        timesReturned receiptId s := by
      refine Table.sumOver_mono _ fun key r' _ => ?_
      split <;> split <;> omega
    omega

theorem next_once (call : ReturnCall) (s : Returning) (books : ReturnBooks s) (once : ReturnedAtMostOnce s) :
    ReturnBooks (call.next s) ∧ (ReturnedAtMostOnce (call.next s) ↔ ¬ ReturnsAgain call s) := by
  cases call with
  | stock _ apart =>
    have books' := stock_books apart books
    refine ⟨books', iff_of_true ?_ id⟩
    rw [books'.atMostOnce_iff]
    exact books.atMostOnce_iff.mp once
  | returnRejected _ receiptId returnNumber reason =>
    obtain ⟨createdBy, receipt, named, accepted, left⟩ | ⟨refused, left⟩ := next_returnRejected books.filed
    · have books' : ReturnBooks (returned createdBy receiptId receipt returnNumber reason s) := returned_books books
      rw [left]
      refine ⟨books', ?_⟩
      rw [books'.atMostOnce_iff]
      have before := books.atMostOnce_iff.mp once
      constructor
      · rintro now ⟨returned', rejected, -⟩
        have twice := now receiptId rejected
        rw [timesReturned_returned, if_pos rfl] at twice
        have first := timesReturned_pos.mpr returned'
        omega
      · intro first otherId rejected
        rw [timesReturned_returned]
        by_cases here : receiptId = otherId
        · subst here
          have none' : ¬ 0 < timesReturned receiptId s := fun positive =>
            first ⟨timesReturned_pos.mp positive, rejected, createdBy, receipt, named, accepted⟩
          rw [if_pos rfl]
          omega
        · rw [if_neg here, add_zero]
          exact before otherId rejected
    · rw [left]
      refine ⟨books, iff_of_true once ?_⟩
      rintro ⟨-, -, goes⟩
      exact refused goes

theorem NothingReturned.books (nothing : NothingReturned s) : ReturnBooks s := by
  refine ⟨⟨?_, ?_, ?_⟩, nothing.rejected, ?_⟩
  · intro lineId line stored
    rw [nothing.returnLines] at stored
    cases stored
  · intro shipmentId row stored
    rw [nothing.supplierReturns] at stored
    cases stored
  · intro movementId m stored reserved
    exact absurd reserved (nothing.keys movementId m stored)
  · intro returnId r stored
    rw [nothing.returns] at stored
    cases stored

theorem NothingReturned.atMostOnce (nothing : NothingReturned s) : ReturnedAtMostOnce s := by
  rw [nothing.books.atMostOnce_iff]
  intro receiptId _
  unfold timesReturned
  rw [nothing.returns]
  exact Int.zero_le_ofNat 1

/-- Rejected goods go back at most once in exactly the runs that return no receipt again. -/
theorem atMostOnce_iff_not_again (calls : List ReturnCall) (s : Returning) (nothing : NothingReturned s) :
    Runs.Throughout ReturnCall.next ReturnedAtMostOnce calls s ↔
      Runs.Met ReturnCall.next (fun call s => ¬ ReturnsAgain call s) calls s :=
  Runs.throughout_iff_met_of (fun call s books once => next_once call s books once) calls s nothing.books
    nothing.atMostOnce

/-! ### One receipt, two return numbers -/

def rejectedReceipt (receiptNumber : String) : GoodsReceipt :=
  { purchaseOrderId := 0, supplierId := 7, warehouseId := 1, receiptNumber, status := .postedWithRejections
    supplierDeliveryReference := none, receivedBy := 1, inspectedBy := some 1, postedBy := some 1 }

def fiveRejected (goodsReceiptId : Nat) : GoodsReceiptLine :=
  { purchaseOrderLineId := 0, itemId := 1, uomId := 1, destinationBinId := 1, rejectionBinId := some 2
    receivedQuantityBase := 5, goodsReceiptId, rejectedQuantityBase := 5, unitCostMinor := 100, currency := "PHP"
    inspectionStatus := .rejected }

def twoRejections : Returning :=
  { receiving :=
      { stock := Stock.opening [1] ⟨[(1, ⟨1, .available⟩), (2, ⟨1, .quarantine⟩)], nodup_two⟩
          ⟨[(1, ⟨.none, .standard, some 100, 1, "PHP"⟩)], nodup_one⟩ Table.empty Table.empty
        orders :=
          { orders := ⟨[(0,
              { purchaseRequestId := 0, supplierId := 7, selectedQuotationId := some 0, poNumber := "PO-1"
                status := .partiallyReceived, currency := "PHP", subtotalMinor := 1000, taxMinor := 0, shippingMinor := 0
                totalMinor := 1000, deliveryWarehouseId := some 1, terms := none, createdBy := 1 })], by decide⟩
            lines := Table.empty }
        activeWarehouses := [1], activeItems := [1], activeBins := [1, 2]
        receipts := ⟨[(0, rejectedReceipt "GR-1"), (1, rejectedReceipt "GR-2")], by decide⟩
        lines := ⟨[(0, fiveRejected 0), (1, fiveRejected 1)], by decide⟩ }
    returns := Table.empty, returnLines := Table.empty, supplierReturns := Table.empty }

theorem twoRejections_nothingReturned : NothingReturned twoRejections := by
  refine ⟨rfl, rfl, rfl, ?_, ?_⟩
  · intro movementId m stored
    cases stored
  · intro lineId line stored
    have listed := (Table.mem_entries _ _ _).mpr stored
    simp only [twoRejections, List.mem_cons, Prod.mk.injEq, List.not_mem_nil, or_false] at listed
    obtain ⟨-, rfl⟩ | ⟨-, rfl⟩ := listed <;> decide

def rejectedInto (lineId : Nat) : ReturnCall :=
  .stock (.post (some 1) (GoodsReceiptWorkflow.movementData lineId (lineId, fiveRejected lineId) (some 2) 5 "rejected"))
    (by
      rintro ⟨rest, same⟩
      have first := congrArg List.head? same
      simp [GoodsReceiptWorkflow.movementData] at first)

theorem atMostOnce_once : Runs.Throughout ReturnCall.next ReturnedAtMostOnce
    [rejectedInto 0, .returnRejected (some 1) 0 "SR-1" "Damaged"] twoRejections := by
  refine (atMostOnce_iff_not_again _ _ twoRejections_nothingReturned).mpr ⟨id, ?_, trivial⟩
  rintro ⟨⟨returnId, r, held, -⟩, -⟩
  cases held

def returnedTwice : List ReturnCall :=
  [rejectedInto 0, rejectedInto 1, .returnRejected (some 1) 0 "SR-1" "Damaged",
    .returnRejected (some 1) 0 "SR-2" "Damaged"]

theorem returnedTwice_fails : ¬ ∀ (calls : List ReturnCall) (s : Returning), NothingReturned s →
    Runs.Throughout ReturnCall.next ReturnedAtMostOnce calls s := by
  intro always
  have last := (always returnedTwice twoRejections twoRejections_nothingReturned).last
  have back : postedBack 0 0 (Runs.reached ReturnCall.next returnedTwice twoRejections) = 10 := by decide +kernel
  have line : (Runs.reached ReturnCall.next returnedTwice twoRejections).receiving.lines.get? 0 =
      some (fiveRejected 0) := by decide +kernel
  have bound := last 0 _ line
  rw [show (fiveRejected 0).goodsReceiptId = 0 from rfl, back] at bound
  exact absurd bound (by decide)

end VtsaCsms.Inventory
