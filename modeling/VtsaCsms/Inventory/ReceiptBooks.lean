import VtsaCsms.Inventory.GoodsReceipts

/-!
# What receipts accepted

An order line counts exactly the quantities that posted goods receipts accepted for it.
-/
namespace VtsaCsms.Inventory
open Foundation Foundation.Action Procurement GoodsReceiptWorkflow

/-- The receipt of a line is posted. -/
def postedReceipt (receiptId : Nat) (s : Receiving) : Bool :=
  (s.receipts.get? receiptId).any fun receipt => receipt.status.isPosted

def acceptedByReceipts (poLineId : Nat) (s : Receiving) : Int :=
  s.lines.sumOver fun _ line =>
    if decide (line.purchaseOrderLineId = poLineId) && postedReceipt line.goodsReceiptId s then
      line.acceptedQuantityBase else 0

structure ReceiptBooks (s : Receiving) : Prop where
  accepted : ∀ poLineId line, s.orders.lines.get? poLineId = some line →
    line.acceptedQuantityBase = acceptedByReceipts poLineId s
  nonneg : ∀ lineId line, s.lines.get? lineId = some line → 0 ≤ line.acceptedQuantityBase

theorem returns_loadReceipt (receiptId : Nat) (s s' : Receiving) (receipt : GoodsReceipt) :
    Returns (load receiptId) s receipt s' ↔ s.receipts.get? receiptId = some receipt ∧ s' = s :=
  returns_find ..

variable {receiptId orderId poLineId : Nat} {s s' : Receiving} {row : Nat × GoodsReceiptLine} {actorId : Option Nat}
  {decisions : Nat → Option InspectionDecision}

theorem mem_linesOf :
    row ∈ linesOf receiptId s ↔ s.lines.get? row.1 = some row.2 ∧ row.2.goodsReceiptId = receiptId := by
  unfold linesOf
  rw [Table.mem_rowsWhere, decide_eq_true_iff]

theorem returns_onOrders {α : Type} {m : Action Orders Throwable α} {a : α} :
    Returns (onOrders m) s a s' ↔ ∃ orders, Returns m s.orders a orders ∧ s' = { s with orders } := by
  unfold onOrders
  rw [returns_focus]

/-! ### The order's side -/

theorem returns_loadOrder (orderId : Nat) (s s' : Orders) (order : PurchaseOrder) :
    Returns (Orders.load orderId) s order s' ↔ s.orders.get? orderId = some order ∧ s' = s :=
  returns_find ..

theorem returns_loadLine (orderId lineId : Nat) (s s' : Orders) (line : PurchaseOrderLine) :
    Returns (Orders.loadLine orderId lineId) s line s' ↔
      (s.lines.get? lineId = some line ∧ line.purchaseOrderId = orderId) ∧ s' = s := by
  unfold Orders.loadLine
  rw [returns_find, Option.filter_eq_some_iff, decide_eq_true_iff]

theorem receivableLine_silent {lineId : Nat} {s s' : Orders} {expected : ReceivableLine}
    (success : Returns (PurchaseOrderReceiptContract.receivableLine orderId lineId) s expected s') : s' = s := by
  unfold PurchaseOrderReceiptContract.receivableLine at success
  simp only [returns_bind, returns_loadOrder, returns_throwIf, returns_loadLine, returns_orThrow, returns_pure] at success
  obtain ⟨order, _, ⟨-, rfl⟩, _, _, ⟨-, rfl⟩, line, _, ⟨-, rfl⟩, _, _, ⟨-, rfl⟩, itemId, _, ⟨-, rfl⟩, uomId, _,
    ⟨-, rfl⟩, -, rfl⟩ := success
  rfl

/-- What the counts of a receipt accept for a line. -/
def acceptedIn (poLineId : Nat) (counts : List ReceiptCount) : Int :=
  (counts.map fun count => if count.purchaseOrderLineId = poLineId then count.acceptedQuantityBase else 0).sum

theorem registerLines_returns {counts : List ReceiptCount} {s s' : Orders}
    (success : Returns (forEach counts (PurchaseOrderReceiptContract.registerLine orderId)) s () s')
    {line' : PurchaseOrderLine} (stored : s'.lines.get? poLineId = some line') :
    ∃ line, s.lines.get? poLineId = some line ∧
      line'.acceptedQuantityBase = line.acceptedQuantityBase + acceptedIn poLineId counts := by
  induction counts generalizing s with
  | nil =>
    rw [forEach, returns_pure] at success
    rw [success.2] at stored
    exact ⟨line', stored, by simp [acceptedIn]⟩
  | cons count rest ih =>
    rw [forEach, returns_bind] at success
    obtain ⟨_, s₁, turn, later⟩ := success
    unfold PurchaseOrderReceiptContract.registerLine at turn
    simp only [returns_bind, returns_loadLine, returns_throwIf, returns_write] at turn
    obtain ⟨row, _, ⟨⟨held, -⟩, rfl⟩, _, s, ⟨-, rfl⟩, rfl⟩ := turn
    obtain ⟨line₁, stored₁, sum⟩ := ih later
    have split : acceptedIn poLineId (count :: rest) =
        (if count.purchaseOrderLineId = poLineId then count.acceptedQuantityBase else 0) + acceptedIn poLineId rest := by
      unfold acceptedIn
      rw [List.map_cons, List.sum_cons]
    obtain ⟨rfl, line, held', rfl⟩ | ⟨different, held'⟩ := Table.get?_update_cases stored₁
    · refine ⟨line, held', ?_⟩
      rw [sum, split, if_pos rfl]
      unfold PurchaseOrderReceiptContract.counted
      simp only
      omega
    · refine ⟨line₁, held', ?_⟩
      rw [sum, split, if_neg (Ne.symm different), zero_add]

/-! ### What a call leaves -/

theorem acceptedByReceipts_congr (lines : s'.lines = s.lines)
    (same : ∀ lineId line, s.lines.get? lineId = some line →
      postedReceipt line.goodsReceiptId s' = postedReceipt line.goodsReceiptId s) :
    acceptedByReceipts poLineId s' = acceptedByReceipts poLineId s := by
  unfold acceptedByReceipts
  rw [lines]
  apply Table.sumOver_congr
  intro lineId line stored
  simp only [same lineId line stored]

/-- What a call leaves of the books: what is accepted stays accepted. -/
structure Booked (s s' : Receiving) : Prop where
  books : ReceiptBooks s → ReceiptBooks s'
  grows : ReceiptBooks s → ∀ poLineId, acceptedByReceipts poLineId s ≤ acceptedByReceipts poLineId s'

theorem Booked.of_same (receipts : s'.receipts = s.receipts) (lines : s'.lines = s.lines)
    (orders : s'.orders = s.orders) : Booked s s' := by
  have same : ∀ poLineId, acceptedByReceipts poLineId s' = acceptedByReceipts poLineId s := by
    intro poLineId
    apply acceptedByReceipts_congr lines
    intro _ line _
    unfold postedReceipt
    rw [receipts]
  constructor
  · intro books
    constructor
    · intro poLineId line stored
      rw [orders] at stored
      rw [same]
      exact books.accepted poLineId line stored
    · rw [lines]
      exact books.nonneg
  · intro _ poLineId
    rw [same]

theorem Booked.trans {s₁ : Receiving} (first : Booked s s₁) (second : Booked s₁ s') : Booked s s' :=
  ⟨fun books => second.books (first.books books),
    fun books poLineId => (first.grows books poLineId).trans (second.grows (first.books books) poLineId)⟩

theorem checkLine_silent {data : ReceiptData} {line : ReceiptLineData}
    (success : Returns (checkLine data line) s () s') : s' = s := by
  unfold checkLine assertBinInWarehouse checkRejectionBin at success
  simp only [returns_bind, returns_onOrders, returns_throwIf, returns_read, returns_orThrow] at success
  obtain ⟨expected, _, ⟨orders, silent, rfl⟩, _, _, ⟨-, rfl⟩, _, _, ⟨-, rfl⟩, _, _, ⟨-, rfl⟩, _, s₁,
    ⟨_, _, ⟨-, rfl⟩, -, rfl⟩, rest⟩ := success
  rw [receivableLine_silent silent] at rest
  cases bin : line.rejectionBinId with
  | none =>
    simp only [bin, returns_pure] at rest
    exact rest.2
  | some =>
    simp only [bin, assertBinInWarehouse, returns_bind, returns_read, returns_orThrow, returns_throwIf] at rest
    obtain ⟨_, _, ⟨_, _, ⟨-, rfl⟩, -, rfl⟩, -, rfl⟩ := rest
    rfl

theorem createLine_booked {purchaseOrderId : Nat} {line : ReceiptLineData}
    (unposted : postedReceipt receiptId s = false)
    (success : Returns (createLine purchaseOrderId receiptId line) s () s') :
    Booked s s' ∧ postedReceipt receiptId s' = false := by
  unfold createLine at success
  simp only [returns_bind, returns_onOrders, returns_write] at success
  obtain ⟨expected, _, ⟨orders, silent, rfl⟩, rfl⟩ := success
  rw [receivableLine_silent silent]
  have same : ∀ poLineId, acceptedByReceipts poLineId { s with
      lines := s.lines.create { line with
        goodsReceiptId := receiptId, unitCostMinor := expected.unitCostMinor, currency := expected.currency } } =
      acceptedByReceipts poLineId s := by
    intro poLineId
    unfold acceptedByReceipts
    rw [Table.sumOver_create]
    have nothing : postedReceipt receiptId { s with
        lines := s.lines.create { line with
          goodsReceiptId := receiptId, unitCostMinor := expected.unitCostMinor, currency := expected.currency } } =
        false := unposted
    simp only [nothing, Bool.and_false, Bool.false_eq_true, if_false, add_zero]
    rfl
  refine ⟨⟨?_, ?_⟩, unposted⟩
  · intro books
    constructor
    · intro poLineId poLine stored
      rw [same]
      exact books.accepted poLineId poLine stored
    · intro lineId row stored
      obtain ⟨-, rfl⟩ | earlier := Table.get?_create_cases stored
      · exact le_refl 0
      · exact books.nonneg lineId row earlier
  · intro _ poLineId
    rw [same]

theorem opened_booked {receipt : GoodsReceipt} (unposted : receipt.status.isPosted = false) :
    Booked s { s with receipts := s.receipts.create receipt } := by
  have same : ∀ poLineId, acceptedByReceipts poLineId { s with receipts := s.receipts.create receipt } =
      acceptedByReceipts poLineId s := by
    intro poLineId
    refine acceptedByReceipts_congr rfl ?_
    intro lineId line _
    unfold postedReceipt
    rw [Table.get?_create]
    split
    · rename_i new
      rw [new, Table.get?_nextId]
      exact unposted
    · rfl
  constructor
  · intro books
    refine ⟨?_, books.nonneg⟩
    intro poLineId line stored
    rw [same]
    exact books.accepted poLineId line stored
  · intro _ poLineId
    rw [same]

theorem receive_booked {data : ReceiptData}
    (success : Returns (receive actorId data) s () s') : Booked s s' := by
  unfold receive actor at success
  simp only [returns_transaction, returns_bind, returns_read, returns_throwIf, returns_orThrow, returns_write] at success
  obtain ⟨_, _, ⟨-, rfl⟩, _, _, ⟨-, rfl⟩, _, s, ⟨-, rfl⟩, _, s₁, checks, receivedBy, _, ⟨-, rfl⟩, _, _, ⟨-, rfl⟩, _, _,
    ⟨-, rfl⟩, receiptId, s₁, ⟨rfl, rfl⟩, _, _, rfl, loop⟩ := success
  have same : s₁ = s := forEach_keeps (P := fun s₁ => s₁ = s)
    (fun line s₁ s₂ before turn => (checkLine_silent turn).trans before) rfl checks
  subst same
  have lines := forEach_keeps (P := fun s₂ => Booked s₁ s₂ ∧ postedReceipt s₁.receipts.nextId s₂ = false)
    (fun line s₂ s₃ before turn => by
      obtain ⟨next, unposted⟩ := createLine_booked before.2 turn
      exact ⟨before.1.trans next, unposted⟩)
    ⟨opened_booked rfl, by simp [postedReceipt, ReceiptStatus.isPosted]⟩ loop
  exact lines.1

/-! ### Inspection -/

theorem inspectLine_booked (success : Returns (inspectLine decisions row) s () s')
    (unposted : ∀ line, s.lines.get? row.1 = some line → postedReceipt line.goodsReceiptId s = false) :
    Booked s s' ∧ s'.receipts = s.receipts ∧ s'.orders = s.orders ∧
      ∀ lineId line', s'.lines.get? lineId = some line' →
        ∃ line, s.lines.get? lineId = some line ∧ line.goodsReceiptId = line'.goodsReceiptId := by
  unfold inspectLine at success
  simp only [returns_bind, returns_orThrow, returns_throwIf, returns_write] at success
  obtain ⟨decision, _, ⟨chosen, rfl⟩, _, s, ⟨-, rfl⟩, rfl⟩ := success
  obtain ⟨-, accounts⟩ := Option.filter_eq_some_iff.mp chosen
  obtain ⟨nonneg, -, -⟩ := of_decide_eq_true accounts
  have same : ∀ poLineId, acceptedByReceipts poLineId
      { s with lines := s.lines.update row.1 (inspected decision) } = acceptedByReceipts poLineId s := by
    intro poLineId
    unfold acceptedByReceipts Table.update
    rw [Table.sumOver_updateWhere]
    apply Table.sumOver_congr
    intro lineId line stored
    split
    · rename_i here
      obtain rfl := of_decide_eq_true here
      have open' := unposted line stored
      unfold inspected postedReceipt at *
      simp [open']
    · rfl
  refine ⟨⟨?_, ?_⟩, rfl, rfl, ?_⟩
  · intro books
    constructor
    · intro poLineId line stored
      rw [same]
      exact books.accepted poLineId line stored
    · intro lineId line stored
      obtain ⟨-, old, -, rfl⟩ | ⟨-, earlier⟩ := Table.get?_update_cases stored
      · exact nonneg
      · exact books.nonneg lineId line earlier
  · intro _ poLineId
    rw [same]
  · intro lineId line' stored
    obtain ⟨rfl, old, held, rfl⟩ | ⟨-, held⟩ := Table.get?_update_cases stored
    · exact ⟨old, held, rfl⟩
    · exact ⟨line', held, rfl⟩

theorem inspectLines_booked
    (rows : List (Nat × GoodsReceiptLine)) (unposted : postedReceipt receiptId s = false)
    (own : ∀ row ∈ rows, ∀ line, s.lines.get? row.1 = some line → line.goodsReceiptId = receiptId)
    (success : Returns (forEach rows (inspectLine decisions)) s () s') :
    Booked s s' ∧ s'.receipts = s.receipts := by
  induction rows generalizing s with
  | nil =>
    rw [forEach, returns_pure] at success
    rw [success.2]
    exact ⟨.of_same rfl rfl rfl, rfl⟩
  | cons row rest ih =>
    rw [forEach, returns_bind] at success
    obtain ⟨_, s₁, turn, later⟩ := success
    obtain ⟨booked, receipts, -, origin⟩ := inspectLine_booked turn fun line stored => by
      rw [own row (by simp) line stored]
      exact unposted
    have unposted₁ : postedReceipt receiptId s₁ = false := by
      unfold postedReceipt at unposted ⊢
      rw [receipts]
      exact unposted
    have own₁ : ∀ other ∈ rest, ∀ line, s₁.lines.get? other.1 = some line → line.goodsReceiptId = receiptId := by
      intro other member line stored
      obtain ⟨old, held, same⟩ := origin other.1 line stored
      rw [← same]
      exact own other (by simp [member]) old held
    obtain ⟨booked', receipts'⟩ := ih unposted₁ own₁ later
    exact ⟨booked.trans booked', receipts'.trans receipts⟩

theorem Booked.retitled {receipt : GoodsReceipt}
    (change : GoodsReceipt → GoodsReceipt) (stored : s.receipts.get? receiptId = some receipt)
    (receipts : s'.receipts = s.receipts.update receiptId change)
    (unposted : receipt.status.isPosted = false) (still : (change receipt).status.isPosted = false)
    (lines : s'.lines = s.lines) (orders : s'.orders = s.orders) : Booked s s' := by
  have same : ∀ poLineId, acceptedByReceipts poLineId s' = acceptedByReceipts poLineId s := by
    intro poLineId
    apply acceptedByReceipts_congr lines
    intro lineId line _
    unfold postedReceipt
    rw [receipts, Table.get?_update]
    split
    · rename_i here
      rw [here, stored]
      simp [unposted, still]
    · rfl
  constructor
  · intro books
    constructor
    · intro poLineId line stored'
      rw [orders] at stored'
      rw [same]
      exact books.accepted poLineId line stored'
    · rw [lines]
      exact books.nonneg
  · intro _ poLineId
    rw [same]

theorem inspect_booked (success : Returns (inspect actorId receiptId decisions) s () s') : Booked s s' := by
  unfold inspect actor setReceipt at success
  simp only [returns_transaction, returns_bind, returns_loadReceipt, returns_throwIf, returns_read, returns_orThrow,
    returns_write, not_not] at success
  obtain ⟨locked, _, ⟨stored, rfl⟩, _, _, ⟨pending, rfl⟩, rows, s, ⟨rfl, rfl⟩, _, s₁, loop, inspectedBy, s₁, ⟨-, rfl⟩,
    rfl⟩ := success
  have unposted : postedReceipt receiptId s = false := by
    unfold postedReceipt
    rw [stored]
    simp [pending, ReceiptStatus.isPosted]
  have own : ∀ row ∈ linesOf receiptId s, ∀ line, s.lines.get? row.1 = some line → line.goodsReceiptId = receiptId := by
    intro row member line held
    unfold linesOf at member
    rw [Table.mem_rowsWhere] at member
    rw [member.1] at held
    cases held
    exact of_decide_eq_true member.2
  obtain ⟨booked, receipts⟩ := inspectLines_booked _ unposted own loop
  rw [← receipts] at stored
  exact booked.trans (.retitled (fun r => { r with status := .inspected, inspectedBy := some inspectedBy }) stored rfl
    (by rw [pending]; rfl) rfl rfl rfl)

/-! ### Posting -/

theorem postLine_stock
    (success : Returns (postLine actorId receiptId row) s () s') : s' = { s with stock := s'.stock } := by
  have part : ∀ data s₁ s₂, Returns (postPart actorId data) s₁ () s₂ → s₂ = { s₁ with stock := s₂.stock } := by
    intro data s₁ s₂ turn
    unfold postPart at turn
    obtain ⟨-, posted⟩ | ⟨-, rfl⟩ := (returns_doIf ..).mp turn
    · unfold onStock at posted
      rw [returns_focus] at posted
      obtain ⟨stock, -, rfl⟩ := posted
      rfl
    · rfl
  unfold postLine at success
  rw [returns_bind] at success
  obtain ⟨_, s₁, accepted, rejected⟩ := success
  rw [part _ _ _ rejected, part _ _ _ accepted]

theorem registerReceipt_returns {counts : List ReceiptCount} {s s' : Orders}
    (success : Returns (PurchaseOrderReceiptContract.registerReceipt orderId counts) s () s')
    {line' : PurchaseOrderLine} (stored : s'.lines.get? poLineId = some line') :
    ∃ line, s.lines.get? poLineId = some line ∧
      line'.acceptedQuantityBase = line.acceptedQuantityBase + acceptedIn poLineId counts := by
  unfold PurchaseOrderReceiptContract.registerReceipt at success
  simp only [returns_transaction, returns_bind, returns_loadOrder, returns_throwIf, returns_read, returns_write] at success
  obtain ⟨order, _, ⟨-, rfl⟩, _, _, ⟨-, rfl⟩, _, s₁, loop, done, _, ⟨-, rfl⟩, rfl⟩ := success
  exact registerLines_returns loop stored

theorem post_booked (success : Returns (post actorId receiptId) s () s') : Booked s s' := by
  unfold post actor setReceipt at success
  simp only [returns_transaction, returns_bind, returns_loadReceipt, returns_throwIf, returns_read, returns_orThrow,
    returns_onOrders, returns_write, not_not] at success
  obtain ⟨locked, _, ⟨stored, rfl⟩, rows, _, ⟨rfl, rfl⟩, _, s, ⟨ready, rfl⟩, _, s₁, loop, _, _,
    ⟨orders, registered, rfl⟩, postedBy, _, ⟨-, rfl⟩, rfl⟩ := success
  have stock : s₁ = { s with stock := s₁.stock } := forEach_keeps (P := fun s₁ => s₁ = { s with stock := s₁.stock })
    (fun row s₁ s₂ before turn => by
      have after' := postLine_stock turn
      rw [after', before]) rfl loop
  rw [stock] at registered ⊢
  -- the lines of this receipt were not posted before
  have sums : ∀ poLineId, acceptedByReceipts poLineId { s with
      stock := s₁.stock
      orders
      receipts := s.receipts.update receiptId fun r => { r with
        status := if (linesOf receiptId s).any fun row => decide (0 < row.2.rejectedQuantityBase) then
          .postedWithRejections else .posted
        postedBy := some postedBy } } =
      acceptedByReceipts poLineId s + acceptedIn poLineId ((linesOf receiptId s).map receiptCount) := by
    intro poLineId
    have own : acceptedIn poLineId ((linesOf receiptId s).map receiptCount) =
        s.lines.sumOver fun _ line => if decide (line.goodsReceiptId = receiptId) then
          (if line.purchaseOrderLineId = poLineId then line.acceptedQuantityBase else 0) else 0 := by
      rw [← Table.sum_rowsWhere]
      unfold acceptedIn linesOf
      rw [List.map_map]
      rfl
    rw [own]
    unfold acceptedByReceipts
    rw [← Table.sumOver_add]
    apply Table.sumOver_congr
    intro lineId line held
    unfold postedReceipt
    simp only [Table.get?_update]
    by_cases here : line.goodsReceiptId = receiptId
    · rw [here, stored]
      by_cases listed : line.purchaseOrderLineId = poLineId
      · have before : ReceiptStatus.isPosted locked.status = false := by
          rw [ready]
          rfl
        have after' : ReceiptStatus.isPosted (if (linesOf receiptId s).any fun row =>
            decide (0 < row.2.rejectedQuantityBase) then .postedWithRejections else .posted) = true := by
          split <;> rfl
        simp [listed, before, after']
      · simp [listed]
    · simp [here]
  have positive : ReceiptBooks s → ∀ poLineId, 0 ≤ acceptedIn poLineId ((linesOf receiptId s).map receiptCount) := by
    intro books poLineId
    unfold acceptedIn
    rw [List.map_map]
    apply List.sum_nonneg
    intro quantity member
    obtain ⟨row, listed, rfl⟩ := List.mem_map.mp member
    unfold linesOf at listed
    rw [Table.mem_rowsWhere] at listed
    simp only [Function.comp_apply]
    split
    · exact books.nonneg row.1 row.2 listed.1
    · exact le_refl 0
  constructor
  · intro books
    refine ⟨?_, books.nonneg⟩
    intro poLineId line held
    obtain ⟨old, held', sum⟩ := registerReceipt_returns registered held
    rw [sums, sum, books.accepted poLineId old held']
  · intro books poLineId
    rw [sums]
    have := positive books poLineId
    omega

end VtsaCsms.Inventory
