import Mathlib.Tactic.Ring
import VtsaCsms.Inventory.Custody

/-!
# Moving-average cost

`MovingAverageValuation::unitCostMinor` divides what an item's receipts cost less what its
issues took by what is on hand, and rounds down. An issue takes its units at that rounded
cost, so the remainder of the division stays with the units that are left.
-/
namespace VtsaCsms.Inventory.MovingAverageValuation
open Foundation Foundation.Action StockAvailabilityQuery StockLedger StockReservationService WorkOrderPartsService

/-! ### Shares at a rounded average -/

section
variable {value quantity taken price high : Int}

/-- The average of what stays is the average before and the remainder over the units that stay. -/
theorem average_after_share (left : taken < quantity) :
    (value - taken * (value / quantity)) / (quantity - taken) =
      value / quantity + value % quantity / (quantity - taken) := by
  have whole := Int.emod_add_mul_ediv value quantity
  have split : value - taken * (value / quantity) =
      value % quantity + (quantity - taken) * (value / quantity) := by
    calc value - taken * (value / quantity)
        = value % quantity + quantity * (value / quantity) - taken * (value / quantity) := by rw [whole]
      _ = value % quantity + (quantity - taken) * (value / quantity) := by ring
  rw [split, Int.add_mul_ediv_left _ _ (by omega)]
  exact Int.add_comm _ _

theorem average_le_iff (positive : 0 < quantity) : value / quantity ≤ high ↔ value < (high + 1) * quantity := by
  rw [← Int.lt_add_one_iff, Int.ediv_lt_iff_lt_mul positive]

theorem share_keeps_floor {low : Int} (positive : 0 < quantity) (within : taken ≤ quantity)
    (floor : low * quantity ≤ value) :
    low * (quantity - taken) ≤ value - taken * (value / quantity) := by
  have least : low ≤ value / quantity := (Int.le_ediv_iff_mul_le positive).mpr floor
  have whole := Int.emod_add_mul_ediv value quantity
  have rest := Int.emod_nonneg value (ne_of_gt positive)
  have kept : low * (quantity - taken) ≤ value / quantity * (quantity - taken) :=
    Int.mul_le_mul_of_nonneg_right least (by omega)
  calc low * (quantity - taken)
      ≤ value / quantity * (quantity - taken) := kept
    _ ≤ value % quantity + quantity * (value / quantity) - taken * (value / quantity) := by
        have same : value % quantity + quantity * (value / quantity) - taken * (value / quantity) =
          value % quantity + value / quantity * (quantity - taken) := by ring
        omega
    _ = value - taken * (value / quantity) := by rw [whole]

theorem mix_keeps_floor {low added : Int} (nonneg : 0 ≤ added) (least : low ≤ price)
    (floor : low * quantity ≤ value) : low * (quantity + added) ≤ value + added * price := by
  have bought : added * low ≤ added * price := Int.mul_le_mul_of_nonneg_left least nonneg
  have spread : low * (quantity + added) = low * quantity + added * low := by ring
  omega

theorem mix_keeps_ceiling {added : Int} (nonneg : 0 ≤ added) (most : price ≤ high)
    (ceiling : value < (high + 1) * quantity) : value + added * price < (high + 1) * (quantity + added) := by
  have bought : added * price ≤ added * (high + 1) := Int.mul_le_mul_of_nonneg_left (by omega) nonneg
  have spread : (high + 1) * (quantity + added) = (high + 1) * quantity + added * (high + 1) := by ring
  omega

end

/-! ### Prices paid -/

def quantity (itemId : Nat) (s : Stock) : Int := heldIn (fun _ => true) itemId s

/-- What its receipts cost less what its issues took. -/
def value (itemId : Nat) (s : Stock) : Int :=
  totalCost StockMovement.fromBinId itemId s - totalCost StockMovement.toBinId itemId s

/-- What is on hand after some movements, and the unit costs of the receipts since nothing was. -/
structure Paid where
  quantity : Int
  prices : List Int

def Paid.record (itemId : Nat) (paid : Paid) (m : StockMovement) : Paid :=
  if m.itemId = itemId then
    let left := paid.quantity + (if m.toBinId = none then 0 else m.quantityBase) -
      (if m.fromBinId = none then 0 else m.quantityBase)
    { quantity := left
      prices :=
        if left ≤ 0 then []
        else if m.fromBinId = none then paid.prices ++ [m.unitCostMinor]
        else paid.prices }
  else paid

def paid (itemId : Nat) (s : Stock) : Paid :=
  s.movements.entries.foldl (fun paid row => paid.record itemId row.2) ⟨0, []⟩

/-- While the item is on hand its unit cost is at least one and at most another of the prices paid
since it was last out of stock. -/
def WithinPrices (itemId : Nat) (s : Stock) : Prop :=
  0 < quantity itemId s → ∃ item cost, s.items.get? itemId = some item ∧
    Returns (unitCostMinor itemId item) s cost s ∧
    (∃ low ∈ (paid itemId s).prices, low ≤ cost) ∧ ∃ high ∈ (paid itemId s).prices, cost ≤ high

section
variable {itemId : Nat} {s s' : Stock} {data : MovementData} {postedBy : Nat}

/-- A recorded movement in the sums of its item. -/
structure Entered (itemId : Nat) (data : MovementData) (s s' : Stock) : Prop where
  incoming : moved StockMovement.toBinId (fun _ => true) itemId s' =
    moved StockMovement.toBinId (fun _ => true) itemId s + if data.toBinId = none then 0 else data.quantityBase
  outgoing : moved StockMovement.fromBinId (fun _ => true) itemId s' =
    moved StockMovement.fromBinId (fun _ => true) itemId s + if data.fromBinId = none then 0 else data.quantityBase
  received : totalCost StockMovement.fromBinId itemId s' =
    totalCost StockMovement.fromBinId itemId s +
      if data.fromBinId = none then data.quantityBase * data.unitCostMinor else 0
  issued : totalCost StockMovement.toBinId itemId s' =
    totalCost StockMovement.toBinId itemId s +
      if data.toBinId = none then data.quantityBase * data.unitCostMinor else 0
  paid : paid itemId s' = (paid itemId s).record itemId (movement data 0)

theorem record_movement (p : Paid) :
    p.record itemId (movement data postedBy) = p.record itemId (movement data 0) := rfl

theorem entered (rows : s'.movements = s.movements.create (movement data postedBy)) (own : data.itemId = itemId) :
    Entered itemId data s s' := by
  have sums : ∀ f : StockMovement → Int, (s'.movements.sumOver fun _ => f) =
      (s.movements.sumOver fun _ => f) + f (movement data postedBy) := by
    intro f
    rw [rows, Table.sumOver_create]
  refine ⟨?_, ?_, ?_, ?_, ?_⟩
  · unfold moved
    rw [sums]
    congr 1
    cases target : data.toBinId <;> simp [movement, own, target]
  · unfold moved
    rw [sums]
    congr 1
    cases source : data.fromBinId <;> simp [movement, own, source]
  · unfold totalCost
    rw [sums]
    congr 1
    cases source : data.fromBinId <;> simp [movement, own, source]
  · unfold totalCost
    rw [sums]
    congr 1
    cases target : data.toBinId <;> simp [movement, own, target]
  · unfold MovingAverageValuation.paid
    rw [rows]
    simp only [Table.create, Table.insert, List.foldl_append, List.foldl_cons, List.foldl_nil]
    exact record_movement _

/-- A movement of another item enters none of the sums. -/
structure Unmoved (itemId : Nat) (s s' : Stock) : Prop where
  incoming : moved StockMovement.toBinId (fun _ => true) itemId s' =
    moved StockMovement.toBinId (fun _ => true) itemId s
  outgoing : moved StockMovement.fromBinId (fun _ => true) itemId s' =
    moved StockMovement.fromBinId (fun _ => true) itemId s
  received : totalCost StockMovement.fromBinId itemId s' = totalCost StockMovement.fromBinId itemId s
  issued : totalCost StockMovement.toBinId itemId s' = totalCost StockMovement.toBinId itemId s
  paid : paid itemId s' = paid itemId s

theorem unmoved_same (same : s'.movements = s.movements) : Unmoved itemId s s' := by
  refine ⟨?_, ?_, ?_, ?_, ?_⟩ <;>
    simp only [moved, totalCost, MovingAverageValuation.paid, same]

theorem unmoved_other (rows : s'.movements = s.movements.create (movement data postedBy))
    (other : data.itemId ≠ itemId) : Unmoved itemId s s' := by
  refine ⟨?_, ?_, ?_, ?_, ?_⟩
  · simp [moved, rows, Table.sumOver_create, movement, other]
  · simp [moved, rows, Table.sumOver_create, movement, other]
  · simp [totalCost, rows, Table.sumOver_create, movement, other]
  · simp [totalCost, rows, Table.sumOver_create, movement, other]
  · simp [MovingAverageValuation.paid, rows, Table.create, Table.insert, Paid.record, movement, other]

end

/-! ### What is valued -/

theorem returns_unitCostMinor {itemId : Nat} {item : InventoryItem} {s : Stock}
    (method : item.valuationMethod = .movingAverage)
    (incoming : moved StockMovement.toBinId (fun _ => true) itemId s ≤ phpIntMax)
    (received : totalCost StockMovement.fromBinId itemId s ≤ phpIntMax)
    (positive : 0 < quantity itemId s) (nonneg : 0 ≤ value itemId s) :
    Returns (unitCostMinor itemId item) s (value itemId s / quantity itemId s) s := by
  have outgoing : moved StockMovement.fromBinId (fun _ => true) itemId s ≤ phpIntMax := by
    unfold quantity heldIn at positive
    omega
  have issued : totalCost StockMovement.toBinId itemId s ≤ phpIntMax := by
    unfold value at nonneg
    omega
  have held : intOfSum (moved StockMovement.toBinId (fun _ => true) itemId s) -
      intOfSum (moved StockMovement.fromBinId (fun _ => true) itemId s) = quantity itemId s := by
    unfold intOfSum
    rw [min_eq_right incoming, min_eq_right outgoing]
    rfl
  have worth : intOfSum (totalCost StockMovement.fromBinId itemId s) -
      intOfSum (totalCost StockMovement.toBinId itemId s) = value itemId s := by
    unfold intOfSum
    rw [min_eq_right received, min_eq_right issued]
    rfl
  have share : max 0 ((max 0 (value itemId s)).tdiv (quantity itemId s)) = value itemId s / quantity itemId s := by
    rw [max_eq_right nonneg, Int.tdiv_eq_ediv_of_nonneg nonneg]
    exact max_eq_right (Int.ediv_nonneg nonneg (le_of_lt positive))
  have queried : ∃ stock, Returns (forItem itemId) s stock s ∧ stock.onHandBase = quantity itemId s := by
    unfold forItem binIds
    simp only [returns_bind, returns_pure, returns_read]
    exact ⟨_, ⟨none, s, ⟨rfl, rfl⟩, rfl, rfl⟩, held⟩
  obtain ⟨stock, queried, onHand⟩ := queried
  unfold unitCostMinor
  simp only [method, returns_bind]
  refine ⟨stock, s, queried, ?_⟩
  rw [onHand, if_neg (not_le.mpr positive)]
  simp only [returns_bind, returns_read, returns_pure]
  exact ⟨_, s, ⟨rfl, rfl⟩, _, s, ⟨rfl, rfl⟩, by rw [worth, share], rfl⟩

/-- What every run of receipts and issues within range keeps. -/
structure Valued (itemId : Nat) (s : Stock) : Prop where
  item : ∃ item, s.items.get? itemId = some item ∧ item.valuationMethod = .movingAverage
  incoming : moved StockMovement.toBinId (fun _ => true) itemId s ≤ phpIntMax
  received : totalCost StockMovement.fromBinId itemId s ≤ phpIntMax
  held : 0 ≤ quantity itemId s
  nonneg : 0 ≤ value itemId s
  counted : (paid itemId s).quantity = quantity itemId s
  emptied : quantity itemId s = 0 → (paid itemId s).prices = []
  floor : 0 < quantity itemId s → ∃ low ∈ (paid itemId s).prices, low * quantity itemId s ≤ value itemId s

theorem Valued.within_iff {itemId : Nat} {s : Stock} (valued : Valued itemId s) :
    WithinPrices itemId s ↔ (0 < quantity itemId s →
      ∃ high ∈ (paid itemId s).prices, value itemId s < (high + 1) * quantity itemId s) := by
  obtain ⟨item, stored, method⟩ := valued.item
  have cost := returns_unitCostMinor method valued.incoming valued.received
  constructor
  · intro within positive
    obtain ⟨item', cost', stored', returned, -, high, listed, above⟩ := within positive
    rw [stored] at stored'
    cases stored'
    obtain ⟨rfl, -⟩ := returned.unique (cost positive valued.nonneg)
    exact ⟨high, listed, (average_le_iff positive).mp above⟩
  · intro below positive
    obtain ⟨low, listed, floor⟩ := valued.floor positive
    obtain ⟨high, listed', above⟩ := below positive
    exact ⟨item, _, stored, cost positive valued.nonneg, ⟨low, listed, (Int.le_ediv_iff_mul_le positive).mpr floor⟩,
      high, listed', (average_le_iff positive).mpr above⟩

/-! ### Receipts and issues -/

/-- A call that takes the item out of stock only through an issue, which the service values. -/
structure Trade (itemId : Nat) where
  call : StockCall
  kept : ∀ actorId data, call = .post actorId data → data.itemId = itemId → data.toBinId ≠ none

namespace Trade
variable {itemId : Nat}

def next (trade : Trade itemId) (s : Stock) : Stock := trade.call.next s

/-- The trade records a movement of the data. -/
def Records (trade : Trade itemId) (s : Stock) (data : MovementData) : Prop :=
  (CustodyCall.stock trade.call).Posts s data

theorem priced (trade : Trade itemId) {data : MovementData} {s : Stock} (records : trade.Records s data)
    (own : data.itemId = itemId) : data.toBinId ≠ none ∨ (data.fromBinId ≠ none ∧ data.toBinId = none ∧
      ∃ item, s.items.get? itemId = some item ∧ Returns (unitCostMinor itemId item) s data.unitCostMinor s) := by
  obtain ⟨call, kept⟩ := trade
  cases call with
  | post actorId data' =>
    obtain ⟨rfl, -⟩ := records
    exact Or.inl (kept actorId data rfl own)
  | issue actorId key sourceBinId quantityBase idempotencyKey =>
    obtain ⟨r, loaded, -⟩ := records
    obtain ⟨item, cost, stored, valued, rfl⟩ := loaded.data
    obtain rfl : r.itemId = itemId := own
    exact Or.inr ⟨Option.some_ne_none _, rfl, item, stored, valued⟩
  | reserve | consume | release => exact records.elim

/-- The sums stay within 64 bits, and nothing is taken that is not on hand. -/
structure WithinRange (itemId : Nat) (data : MovementData) (s : Stock) : Prop where
  incoming : data.toBinId ≠ none →
    moved StockMovement.toBinId (fun _ => true) itemId s + data.quantityBase ≤ phpIntMax
  received : data.fromBinId = none →
    totalCost StockMovement.fromBinId itemId s + data.quantityBase * data.unitCostMinor ≤ phpIntMax
  covered : data.toBinId = none → data.quantityBase ≤ quantity itemId s

/-- What rounding left is too little to lift the cost of a unit above the prices: an issue leaves
more units than its remainder reaches, and a receipt into an empty stock brings more units than
the emptied stock was still valued at. -/
structure Spread (itemId : Nat) (data : MovementData) (s : Stock) : Prop where
  remainder : data.toBinId = none → data.quantityBase < quantity itemId s →
    ∃ high ∈ (paid itemId s).prices, value itemId s % quantity itemId s <
      (high + 1 - value itemId s / quantity itemId s) * (quantity itemId s - data.quantityBase)
  residue : data.fromBinId = none → quantity itemId s = 0 → value itemId s < data.quantityBase

/-- Every movement of the item that the trade records meets the condition. -/
def Recording (condition : MovementData → Stock → Prop) (trade : Trade itemId) (s : Stock) : Prop :=
  ∀ data, trade.Records s data → data.itemId = itemId → condition data s

variable {s s' : Stock} {data : MovementData}

theorem valued_unmoved (valued : Valued itemId s) (unmoved : Unmoved itemId s s') (items : s'.items = s.items) :
    Valued itemId s' ∧ (WithinPrices itemId s' ↔ WithinPrices itemId s) := by
  have quantity' : quantity itemId s' = quantity itemId s := by
    unfold quantity heldIn
    rw [unmoved.incoming, unmoved.outgoing]
  have value' : value itemId s' = value itemId s := by
    unfold value
    rw [unmoved.received, unmoved.issued]
  have valued' : Valued itemId s' := by
    refine ⟨?_, ?_, ?_, ?_, ?_, ?_, ?_, ?_⟩
    · rw [items]
      exact valued.item
    · rw [unmoved.incoming]
      exact valued.incoming
    · rw [unmoved.received]
      exact valued.received
    · rw [quantity']
      exact valued.held
    · rw [value']
      exact valued.nonneg
    · rw [unmoved.paid, quantity']
      exact valued.counted
    · rw [unmoved.paid, quantity']
      exact valued.emptied
    · rw [unmoved.paid, quantity', value']
      exact valued.floor
  refine ⟨valued', ?_⟩
  rw [valued'.within_iff, valued.within_iff, unmoved.paid, quantity', value']

/-- A receipt keeps the cost within the prices where the emptied stock was valued at less than it brings. -/
theorem valued_receipt (valued : Valued itemId s) (entered : Entered itemId data s s') (items : s'.items = s.items)
    (own : data.itemId = itemId) (positive : 0 < data.quantityBase) (cost : 0 ≤ data.unitCostMinor)
    (source : data.fromBinId = none) (target : data.toBinId ≠ none) (range : WithinRange itemId data s)
    (within : WithinPrices itemId s) :
    Valued itemId s' ∧ (WithinPrices itemId s' ↔ Spread itemId data s) := by
  have held := valued.held
  have quantity' : quantity itemId s' = quantity itemId s + data.quantityBase := by
    unfold quantity heldIn
    rw [entered.incoming, entered.outgoing, if_neg target, if_pos source]
    omega
  have value' : value itemId s' = value itemId s + data.quantityBase * data.unitCostMinor := by
    unfold value
    rw [entered.received, entered.issued, if_pos source, if_neg target]
    omega
  have more : 0 ≤ data.quantityBase * data.unitCostMinor := Int.mul_nonneg (le_of_lt positive) cost
  have paid' : paid itemId s' = ⟨quantity itemId s', (paid itemId s).prices ++ [data.unitCostMinor]⟩ := by
    rw [entered.paid, quantity']
    unfold Paid.record movement
    simp only [own, if_true, source, target, if_false, valued.counted]
    rw [if_neg (by omega)]
    simp
  have valued' : Valued itemId s' := by
    refine ⟨?_, ?_, ?_, by omega, ?_, by rw [paid'], fun none' => absurd none' (by omega), ?_⟩
    · rw [items]
      exact valued.item
    · rw [entered.incoming, if_neg target]
      exact range.incoming target
    · rw [entered.received, if_pos source]
      exact range.received source
    · rw [value']
      exact Int.add_nonneg valued.nonneg more
    · intro _
      rw [paid', value', quantity']
      have floor : ∃ low, (low ∈ (paid itemId s).prices ∨ low = data.unitCostMinor) ∧ low ≤ data.unitCostMinor ∧
          low * quantity itemId s ≤ value itemId s := by
        by_cases stocked : 0 < quantity itemId s
        · obtain ⟨low, listed, floor⟩ := valued.floor stocked
          rcases le_total low data.unitCostMinor with least | cheaper
          · exact ⟨low, Or.inl listed, least, floor⟩
          · exact ⟨_, Or.inr rfl, le_refl _, le_trans (Int.mul_le_mul_of_nonneg_right cheaper held) floor⟩
        · have none' : quantity itemId s = 0 := by omega
          refine ⟨_, Or.inr rfl, le_refl _, ?_⟩
          rw [none', Int.mul_zero]
          exact valued.nonneg
      obtain ⟨low, listed, least, floor⟩ := floor
      exact ⟨low, by simpa using listed, mix_keeps_floor (le_of_lt positive) least floor⟩
  refine ⟨valued', ?_⟩
  rw [valued'.within_iff, paid', value', quantity']
  by_cases stocked : 0 < quantity itemId s
  · obtain ⟨high, listed, ceiling⟩ := valued.within_iff.mp within stocked
    refine iff_of_true (fun _ => ?_) ⟨fun out => absurd out target, fun _ none' => absurd none' (by omega)⟩
    rcases le_total data.unitCostMinor high with most | dearer
    · exact ⟨high, by simp [listed], mix_keeps_ceiling (le_of_lt positive) most ceiling⟩
    · have lifted : (high + 1) * quantity itemId s ≤ (data.unitCostMinor + 1) * quantity itemId s :=
        Int.mul_le_mul_of_nonneg_right (by omega) held
      exact ⟨_, by simp, mix_keeps_ceiling (le_of_lt positive) (le_refl _) (lt_of_lt_of_le ceiling lifted)⟩
  · -- the price of the receipt is the only one
    have none' : quantity itemId s = 0 := by omega
    have priced : value itemId s + data.quantityBase * data.unitCostMinor <
        (data.unitCostMinor + 1) * (quantity itemId s + data.quantityBase) ↔ value itemId s < data.quantityBase := by
      have spread : (data.unitCostMinor + 1) * (0 + data.quantityBase) =
          data.quantityBase * data.unitCostMinor + data.quantityBase := by ring
      rw [none', spread]
      omega
    rw [valued.emptied none']
    constructor
    · intro below
      obtain ⟨high, listed, ceiling⟩ := below (by omega)
      obtain rfl : high = data.unitCostMinor := by simpa using listed
      exact ⟨fun out => absurd out target, fun _ _ => priced.mp ceiling⟩
    · exact fun spread _ => ⟨_, by simp, priced.mpr (spread.residue source none')⟩

theorem valued_transfer (valued : Valued itemId s) (entered : Entered itemId data s s') (items : s'.items = s.items)
    (own : data.itemId = itemId) (source : data.fromBinId ≠ none) (target : data.toBinId ≠ none)
    (range : WithinRange itemId data s) (within : WithinPrices itemId s) :
    Valued itemId s' ∧ (WithinPrices itemId s' ↔ Spread itemId data s) := by
  have quantity' : quantity itemId s' = quantity itemId s := by
    unfold quantity heldIn
    rw [entered.incoming, entered.outgoing, if_neg target, if_neg source]
    omega
  have value' : value itemId s' = value itemId s := by
    unfold value
    rw [entered.received, entered.issued, if_neg source, if_neg target]
    omega
  have paid' : paid itemId s' = paid itemId s := by
    have prices : (if quantity itemId s ≤ 0 then [] else (paid itemId s).prices) = (paid itemId s).prices := by
      split
      · rename_i empty'
        exact (valued.emptied (le_antisymm empty' valued.held)).symm
      · rfl
    rw [entered.paid]
    unfold Paid.record movement
    simp only [own, if_true, source, target, if_false, valued.counted, Int.add_sub_cancel, prices]
    rw [← valued.counted]
  have valued' : Valued itemId s' := by
    refine ⟨?_, ?_, ?_, ?_, ?_, ?_, ?_, ?_⟩
    · rw [items]
      exact valued.item
    · rw [entered.incoming, if_neg target]
      exact range.incoming target
    · rw [entered.received, if_neg source, Int.add_zero]
      exact valued.received
    · rw [quantity']
      exact valued.held
    · rw [value']
      exact valued.nonneg
    · rw [paid', quantity']
      exact valued.counted
    · rw [paid', quantity']
      exact valued.emptied
    · rw [paid', quantity', value']
      exact valued.floor
  refine ⟨valued', ?_⟩
  rw [valued'.within_iff, paid', quantity', value', ← valued.within_iff]
  exact iff_of_true within ⟨fun out => absurd out target, fun out => absurd out source⟩

/-- An issue keeps the cost within the prices where its remainder is spread over enough units. -/
theorem valued_issue (valued : Valued itemId s) (entered : Entered itemId data s s') (items : s'.items = s.items)
    (own : data.itemId = itemId) (positive : 0 < data.quantityBase) (source : data.fromBinId ≠ none)
    (target : data.toBinId = none) (range : WithinRange itemId data s)
    (cost : data.unitCostMinor = value itemId s / quantity itemId s) :
    Valued itemId s' ∧ (WithinPrices itemId s' ↔ Spread itemId data s) := by
  have covered := range.covered target
  have stocked : 0 < quantity itemId s := by omega
  have quantity' : quantity itemId s' = quantity itemId s - data.quantityBase := by
    unfold quantity heldIn
    rw [entered.incoming, entered.outgoing, if_pos target, if_neg source]
    omega
  have value' : value itemId s' =
      value itemId s - data.quantityBase * (value itemId s / quantity itemId s) := by
    rw [← cost]
    unfold value
    rw [entered.received, entered.issued, if_neg source, if_pos target]
    omega
  have paid' : paid itemId s' = ⟨quantity itemId s',
      if quantity itemId s' ≤ 0 then [] else (paid itemId s).prices⟩ := by
    rw [entered.paid, quantity']
    unfold Paid.record movement
    simp only [own, if_true, source, target, if_false, valued.counted, Int.add_zero]
  have floor : ∀ low, low * quantity itemId s ≤ value itemId s → low * quantity itemId s' ≤ value itemId s' := by
    intro low floor
    rw [quantity', value']
    exact share_keeps_floor stocked covered floor
  have valued' : Valued itemId s' := by
    refine ⟨?_, ?_, ?_, by omega, ?_, by rw [paid'], ?_, ?_⟩
    · rw [items]
      exact valued.item
    · rw [entered.incoming, if_pos target, Int.add_zero]
      exact valued.incoming
    · rw [entered.received, if_neg source, Int.add_zero]
      exact valued.received
    · have nothing := floor 0 (by rw [Int.zero_mul]; exact valued.nonneg)
      rwa [Int.zero_mul] at nothing
    · intro none'
      rw [paid', if_pos (le_of_eq none')]
    · intro left
      obtain ⟨low, listed, least⟩ := valued.floor stocked
      rw [paid', if_neg (not_le.mpr left)]
      exact ⟨low, listed, floor low least⟩
  refine ⟨valued', ?_⟩
  rw [valued'.within_iff, paid']
  have lifted : data.quantityBase < quantity itemId s → ∀ high, value itemId s' < (high + 1) * quantity itemId s' ↔
      value itemId s % quantity itemId s <
        (high + 1 - value itemId s / quantity itemId s) * (quantity itemId s - data.quantityBase) := by
    intro left high
    have average : (value itemId s - data.quantityBase * (value itemId s / quantity itemId s)) /
        (quantity itemId s - data.quantityBase) = value itemId s / quantity itemId s +
          value itemId s % quantity itemId s / (quantity itemId s - data.quantityBase) := average_after_share left
    have over' : 0 < quantity itemId s - data.quantityBase := by omega
    rw [value', quantity', ← average_le_iff over', average, ← Int.ediv_lt_iff_lt_mul over']
    omega
  constructor
  · intro below
    refine ⟨fun _ left => ?_, fun out => absurd out source⟩
    obtain ⟨high, listed, ceiling⟩ := below (by omega)
    rw [if_neg (by omega)] at listed
    exact ⟨high, listed, (lifted left high).mp ceiling⟩
  · intro spread left
    have less : data.quantityBase < quantity itemId s := by omega
    obtain ⟨high, listed, ceiling⟩ := spread.remainder target less
    rw [if_neg (not_le.mpr left)]
    exact ⟨high, listed, (lifted less high).mpr ceiling⟩

theorem valued_next (trade : Trade itemId) (s : Stock) (valued : Valued itemId s) (within : WithinPrices itemId s)
    (range : trade.Recording (WithinRange itemId) s) : Valued itemId (trade.next s) ∧
      (WithinPrices itemId (trade.next s) ↔ trade.Recording (Spread itemId) s) := by
  by_cases recording : ∃ data, trade.Records s data
  · obtain ⟨data, records⟩ := recording
    obtain ⟨actorId, s₁, admits, recorded, same⟩ := CustodyCall.next_posts records
    have items : (trade.next s).items = s.items := same.items.trans recorded.items
    obtain ⟨postedBy, rows⟩ := recorded.movements
    have rows' : (trade.next s).movements = s.movements.create (movement data postedBy) := same.movements.trans rows
    by_cases own : data.itemId = itemId
    · have entered := entered rows' own
      have step : Valued itemId (trade.next s) ∧ (WithinPrices itemId (trade.next s) ↔ Spread itemId data s) := by
        obtain target | ⟨source, target, item, stored, returned⟩ := trade.priced records own
        · by_cases source : data.fromBinId = none
          · exact valued_receipt valued entered items own admits.positive admits.cost source target
              (range data records own) within
          · exact valued_transfer valued entered items own source target (range data records own) within
        · have covered := (range data records own).covered target
          have positive := admits.positive
          obtain ⟨item', stored', method⟩ := valued.item
          rw [stored] at stored'
          cases stored'
          have cost := returns_unitCostMinor method valued.incoming valued.received (by omega) valued.nonneg
          obtain ⟨priced, -⟩ := returned.unique cost
          exact valued_issue valued entered items own positive source target (range data records own) priced
      refine ⟨step.1, step.2.trans ⟨fun spread data' records' _ => ?_, fun spread => spread data records own⟩⟩
      rw [← CustodyCall.Posts.unique records records']
      exact spread
    · obtain ⟨valued', kept⟩ := valued_unmoved valued (unmoved_other rows' own) items
      refine ⟨valued', kept.trans (iff_of_true within fun data' records' own' => absurd own' ?_)⟩
      rw [← CustodyCall.Posts.unique records records']
      exact own
  · have unposted := not_exists.mp recording
    have same := CustodyCall.next_unposted unposted
    obtain ⟨valued', kept⟩ := valued_unmoved valued (unmoved_same same.movements) same.items
    exact ⟨valued', kept.trans (iff_of_true within fun data records => absurd records (unposted data))⟩

/-- In a run of receipts and issues of an item within range, the moving-average cost stays within
the prices paid exactly when every issue leaves more units than its remainder reaches, and every
receipt into an empty stock brings more units than the value left behind. -/
theorem cost_within_prices_iff (trades : List (Trade itemId)) (unitIds : List Nat)
    (bins : Table Nat InventoryBin) (items : Table Nat InventoryItem) (lots : Table Nat StockLot)
    (serials : Table Nat StockSerial)
    (averaged : ∃ item, items.get? itemId = some item ∧ item.valuationMethod = .movingAverage)
    (range : Runs.Met next (Recording (WithinRange itemId)) trades
      (Stock.opening unitIds bins items lots serials)) :
    Runs.Throughout next (WithinPrices itemId) trades (Stock.opening unitIds bins items lots serials) ↔
      Runs.Met next (Recording (Spread itemId)) trades (Stock.opening unitIds bins items lots serials) := by
  have top : 0 ≤ phpIntMax := by decide
  have start : Valued itemId (Stock.opening unitIds bins items lots serials) :=
    ⟨averaged, top, top, le_refl _, le_refl _, rfl, fun _ => rfl, fun positive => absurd positive (lt_irrefl 0)⟩
  exact Runs.throughout_iff_met_while (fun trade s => valued_next trade s) trades _ start
    (fun positive => absurd positive (lt_irrefl 0)) range

/-! Two units at 10 and two at 12: one is issued at 11. One unit at 10 and nine at 11: the average
is 10, and nine units issued at 10 leave one at 19. -/

def averagedBin : Stock :=
  Stock.opening [1] ⟨[(1, ⟨1, .available⟩)], nodup_one⟩
    ⟨[(1, ⟨.none, .movingAverage, none, 1, "PHP"⟩)], nodup_one⟩ Table.empty Table.empty

def receiptData (quantityBase unitCostMinor : Int) (idempotencyKey : String) : MovementData :=
  { itemId := 1, uomId := 1, toBinId := some 1, movementType := .receipt, quantityBase, currency := "PHP"
    unitCostMinor, referenceType := "goods_receipt", referenceId := 1, idempotencyKey }

def receipt (quantityBase unitCostMinor : Int) (idempotencyKey : String) : Trade 1 where
  call := .post (some 1) (receiptData quantityBase unitCostMinor idempotencyKey)
  kept := by
    intro _ _ same _
    cases same
    exact Option.some_ne_none 1

def reservation (quantityBase : Int) : Trade 1 where
  call := .reserve
    { itemId := 1, warehouseId := 1, requestedQuantityBase := quantityBase
      purposeType := "maintenance_work_order", purposeId := 1, idempotencyKey := "reserve-1" }
  kept := fun _ _ same => nomatch same

def partsIssue (quantityBase : Int) : Trade 1 where
  call := .issue (some 1) 0 1 quantityBase "issue-1"
  kept := fun _ _ same => nomatch same

def evenIssue : List (Trade 1) :=
  [receipt 2 10 "receipt-1", receipt 2 12 "receipt-2", reservation 1, partsIssue 1]

def roundedIssue : List (Trade 1) :=
  [receipt 1 10 "receipt-1", receipt 9 11 "receipt-2", reservation 9, partsIssue 9]

theorem recording_receipt {condition : MovementData → Stock → Prop} {quantityBase unitCostMinor : Int}
    {idempotencyKey : String} (holds : condition (receiptData quantityBase unitCostMinor idempotencyKey) s) :
    (receipt quantityBase unitCostMinor idempotencyKey).Recording condition s := by
  intro data records _
  rw [records.1]
  exact holds

theorem partsIssue_recorded {quantityBase : Int} (records : (partsIssue quantityBase).Records s data) :
    data.quantityBase = quantityBase ∧ data.fromBinId ≠ none ∧ data.toBinId = none := by
  obtain ⟨r, loaded, -⟩ := records
  obtain ⟨item, cost, -, -, rfl⟩ := loaded.data
  exact ⟨rfl, Option.some_ne_none 1, rfl⟩

theorem evenIssue_within_prices : Runs.Throughout next (WithinPrices 1) evenIssue averagedBin := by
  have range : Runs.Met next (Recording (WithinRange 1)) evenIssue averagedBin := by
    refine ⟨recording_receipt ⟨?_, ?_, ?_⟩, recording_receipt ⟨?_, ?_, ?_⟩, fun _ => False.elim,
      fun data records _ => ?_, trivial⟩
    · exact fun _ => by decide +kernel
    · exact fun _ => by decide +kernel
    · exact fun out => nomatch out
    · exact fun _ => by decide +kernel
    · exact fun _ => by decide +kernel
    · exact fun out => nomatch out
    · obtain ⟨amount, source, target⟩ := partsIssue_recorded records
      refine ⟨fun into => absurd target into, fun none' => absurd none' source, fun _ => ?_⟩
      rw [amount]
      decide +kernel
  have spread : Runs.Met next (Recording (Spread 1)) evenIssue averagedBin := by
    refine ⟨recording_receipt ⟨?_, ?_⟩, recording_receipt ⟨?_, ?_⟩, fun _ => False.elim,
      fun data records _ => ?_, trivial⟩
    · exact fun out => nomatch out
    · exact fun _ _ => by decide +kernel
    · exact fun out => nomatch out
    · exact fun _ => by decide +kernel
    · obtain ⟨amount, source, target⟩ := partsIssue_recorded records
      refine ⟨fun _ _ => ?_, fun none' => absurd none' source⟩
      rw [amount]
      decide +kernel
  exact (cost_within_prices_iff evenIssue averagedBin.unitIds averagedBin.bins averagedBin.items averagedBin.lots
    averagedBin.serials ⟨_, rfl, rfl⟩ range).mpr spread

theorem rounded_issue_exceeds : ¬ ∀ (trades : List (Trade 1)) (unitIds : List Nat)
    (bins : Table Nat InventoryBin) (items : Table Nat InventoryItem) (lots : Table Nat StockLot)
    (serials : Table Nat StockSerial),
    (∃ item, items.get? 1 = some item ∧ item.valuationMethod = .movingAverage) →
    Runs.Throughout next (WithinPrices 1) trades (Stock.opening unitIds bins items lots serials) := by
  intro always
  have final : WithinPrices 1 (Runs.reached next roundedIssue averagedBin) :=
    (always roundedIssue averagedBin.unitIds averagedBin.bins averagedBin.items averagedBin.lots
      averagedBin.serials ⟨_, rfl, rfl⟩).last
  have left : quantity 1 (Runs.reached next roundedIssue averagedBin) = 1 ∧
      value 1 (Runs.reached next roundedIssue averagedBin) = 19 ∧
      (paid 1 (Runs.reached next roundedIssue averagedBin)).prices = [10, 11] ∧
      moved StockMovement.toBinId (fun _ => true) 1 (Runs.reached next roundedIssue averagedBin) ≤ phpIntMax ∧
      totalCost StockMovement.fromBinId 1 (Runs.reached next roundedIssue averagedBin) ≤ phpIntMax ∧
      (Runs.reached next roundedIssue averagedBin).items.get? 1 =
        some ⟨.none, .movingAverage, none, 1, "PHP"⟩ := by
    decide +kernel
  obtain ⟨quantity', value', prices, incoming, received, stored⟩ := left
  have positive : 0 < quantity 1 (Runs.reached next roundedIssue averagedBin) := by omega
  obtain ⟨item, cost, stored', returned, -, high, listed, above⟩ := final positive
  have same : some item = some ⟨.none, .movingAverage, none, 1, "PHP"⟩ := stored'.symm.trans stored
  cases same
  obtain ⟨rfl, -⟩ := returned.unique (returns_unitCostMinor rfl incoming received positive (by omega))
  have listed' : high ∈ ([10, 11] : List Int) := prices ▸ listed
  rw [value', quantity'] at above
  have dear : high = 10 ∨ high = 11 := by simpa using listed'
  omega

end Trade

end VtsaCsms.Inventory.MovingAverageValuation
