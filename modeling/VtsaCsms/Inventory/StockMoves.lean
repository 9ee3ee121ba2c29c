import VtsaCsms.Inventory.StockLedger
import VtsaCsms.Foundation.Runs

/-!
# Stock calls and their effects

Runs of the inventory services from any catalogue of bins, items, lots and serials, and what
each call does to the movements and the reservations.
-/
namespace VtsaCsms.Inventory
open Foundation Foundation.Action StockAvailabilityQuery

/-! ### Calls -/

inductive StockCall where
  | post (actorId : Option Nat) (data : MovementData)
  | reserve (data : ReservationData)
  | consume (reservationId : Nat) (quantityBase : Int)
  | release (reservationId : Nat)
  | issue (actorId : Option Nat) (reservationId sourceBinId : Nat) (quantityBase : Int)
      (idempotencyKey : String)

namespace StockCall

def perform : StockCall → Action Stock Throwable Unit
  | post actorId data => do
    let _ ← StockLedger.post actorId data
  | reserve data => do
    let _ ← StockReservationService.reserve data
  | consume key quantityBase => StockReservationService.consume key quantityBase
  | release key => StockReservationService.release key
  | issue actorId key sourceBinId quantityBase idempotencyKey => do
    let found ← read fun s => s.reservations.get? key
    let reservation ← orThrow found (.modelNotFound "StockReservation")
    WorkOrderPartsService.issue actorId key reservation sourceBinId quantityBase idempotencyKey

def next (call : StockCall) (s : Stock) : Stock := after call.perform s

end StockCall

/-- A catalogue before the first movement and the first reservation. -/
def Stock.opening (unitIds : List Nat) (bins : Table Nat InventoryBin) (items : Table Nat InventoryItem)
    (lots : Table Nat StockLot) (serials : Table Nat StockSerial) : Stock :=
  { unitIds, bins, items, lots, serials, movements := Table.empty, reservations := Table.empty }

/-! ### What is on hand -/

/-- The quantity of an item in some bins, summing its movements. -/
def heldIn (bins : Nat → Bool) (itemId : Nat) (s : Stock) : Int :=
  moved StockMovement.toBinId bins itemId s - moved StockMovement.fromBinId bins itemId s

def onHand (itemId binId : Nat) (s : Stock) : Int := heldIn (fun key => key = binId) itemId s

/-- Quantities of recorded movements are positive, and no reservation is consumed beyond what
it reserves. -/
structure Sound (s : Stock) : Prop where
  movements : ∀ key m, s.movements.get? key = some m → 0 < m.quantityBase
  reservations : ∀ key r, s.reservations.get? key = some r → 0 ≤ r.consumedQuantityBase ∧
    r.consumedQuantityBase ≤ r.reservedQuantityBase ∧ r.reservedQuantityBase ≤ phpIntMax

variable {s : Stock} {key itemId : Nat} {warehouseId : Option Nat} {bin : InventoryBin}

theorem Sound.moved_nonneg (sound : Sound s) (bin : StockMovement → Option Nat)
    (bins : Nat → Bool) (itemId : Nat) : 0 ≤ moved bin bins itemId s := by
  refine Table.sumOver_nonneg _ _ fun key m stored => ?_
  have positive := sound.movements key m stored
  split
  · omega
  · exact le_refl 0

theorem Sound.reserved_nonneg (sound : Sound s) (itemId : Nat) (warehouseId binId : Option Nat) :
    0 ≤ reserved itemId warehouseId binId s := by
  refine Table.sumOver_nonneg _ _ fun key r stored => ?_
  have within := sound.reservations key r stored
  split
  · omega
  · exact le_refl 0

theorem Sound.remainder_le (sound : Sound s) {r : StockReservation}
    (stored : s.reservations.get? key = some r) {binId : Option Nat}
    (counts : StockAvailabilityQuery.Counts itemId warehouseId binId r) :
    r.reservedQuantityBase - r.consumedQuantityBase ≤ reserved itemId warehouseId binId s := by
  have single := Table.sumOver_single s.reservations key fun r =>
    if StockAvailabilityQuery.Counts itemId warehouseId binId r then
      r.reservedQuantityBase - r.consumedQuantityBase else 0
  rw [stored, Option.map_some, Option.getD_some, if_pos counts] at single
  rw [← single]
  refine Table.sumOver_mono _ fun key' r' stored' => ?_
  have within := sound.reservations key' r' stored'
  split <;> split <;> omega

/-! ### Queries -/

/-- What a query for a bin counts. -/
def binStock (itemId : Nat) (warehouseId : Option Nat) (key : Nat) (s : Stock) : StockAvailability where
  onHandBase := intOfSum (moved StockMovement.toBinId (fun k => k = key) itemId s) -
    intOfSum (moved StockMovement.fromBinId (fun k => k = key) itemId s)
  reservedBase := intOfSum (reserved itemId warehouseId (some key) s)
  eligibleOnHandBase := some (
    intOfSum (moved StockMovement.toBinId (eligible warehouseId (some key) s) itemId s) -
      intOfSum (moved StockMovement.fromBinId (eligible warehouseId (some key) s) itemId s))

theorem returns_forItem_bin {s' : Stock} (stored : s.bins.get? key = some bin) (a : StockAvailability) :
    Returns (forItem itemId warehouseId (some key)) s a s' ↔ a = binStock itemId warehouseId key s ∧ s' = s := by
  unfold forItem binIds
  simp only [returns_bind, returns_read, returns_orThrow, returns_pure]
  constructor
  · rintro ⟨_, _, ⟨_, _, ⟨rfl, rfl⟩, _, _, ⟨_, rfl⟩, rfl, rfl⟩, rfl, rfl⟩
    exact ⟨rfl, rfl⟩
  · rintro ⟨rfl, rfl⟩
    exact ⟨_, _, ⟨_, _, ⟨rfl, rfl⟩, bin, _, ⟨stored, rfl⟩, rfl, rfl⟩, rfl, rfl⟩

theorem eligible_bin (stored : s.bins.get? key = some bin) (custody : bin.custodyType = .available) :
    eligible (some bin.warehouseId) (some key) s = fun k => decide (k = key) := by
  funext k
  unfold eligible
  by_cases same : k = key
  · subst same
    simp [stored, custody]
  · cases s.bins.get? k <;> simp [same, Ne.symm same]

theorem binStock_available (stored : s.bins.get? key = some bin) (custody : bin.custodyType = .available) :
    (binStock itemId (some bin.warehouseId) key s).availableBase =
      (binStock itemId (some bin.warehouseId) key s).onHandBase -
        intOfSum (reserved itemId (some bin.warehouseId) (some key) s) := by
  unfold StockAvailability.availableBase binStock
  rw [eligible_bin stored custody]
  rfl

theorem Sound.onHand_covers (sound : Sound s) {quantity x : Int} (positive : 0 < quantity) (nonneg : 0 ≤ x)
    (enough : quantity ≤ (binStock itemId warehouseId key s).onHandBase - intOfSum x) :
    quantity ≤ onHand itemId key s - x := by
  have incoming := sound.moved_nonneg StockMovement.toBinId (fun k => decide (k = key)) itemId
  have outgoing := sound.moved_nonneg StockMovement.fromBinId (fun k => decide (k = key)) itemId
  have top : 0 ≤ phpIntMax := by decide
  unfold onHand heldIn
  unfold binStock intOfSum at enough
  simp only at enough
  omega

/-! ### Postings -/

namespace StockLedger

/-- The source bin of a posting, loaded. -/
def sourceBin (data : MovementData) (s : Stock) : Option (Nat × InventoryBin) :=
  data.fromBinId.bind fun key => (s.bins.get? key).map fun bin => (key, bin)

/-- A new posting that passes every check. -/
structure Admits (actorId : Option Nat) (data : MovementData) (s : Stock) : Prop where
  unused : ∀ key m, s.movements.get? key = some m → m.idempotencyKey ≠ data.idempotencyKey
  positive : 0 < data.quantityBase
  cost : 0 ≤ data.unitCostMinor
  source : ∀ key, data.fromBinId = some key → ∃ bin, s.bins.get? key = some bin
  target : ∀ key, data.toBinId = some key → ∃ bin, s.bins.get? key = some bin
  named : ¬ (data.fromBinId = none ∧ data.toBinId = none)
  apart : ¬ (data.fromBinId ≠ none ∧ data.fromBinId = data.toBinId)
  tracked : ∃ item, s.items.get? data.itemId = some item ∧
    Returns (validateTracking item data (sourceBin data s)) s () s
  stocked : Returns (validateStock data (sourceBin data s)) s () s
  actor : ∃ postedBy, (data.postedBy.orElse fun _ => actorId) = some postedBy
  unit' : data.uomId ∈ s.unitIds
  total : data.quantityBase * data.unitCostMinor ≤ phpIntMax

/-- The posting is recorded, and no other row a query reads has changed. -/
structure Recorded (data : MovementData) (s s' : Stock) : Prop where
  movements : ∃ postedBy, s'.movements = s.movements.create (movement data postedBy)
  serials : s'.serials = moveSerial data s.serials
  unitIds : s'.unitIds = s.unitIds
  bins : s'.bins = s.bins
  items : s'.items = s.items
  reservations : s'.reservations = s.reservations

theorem returns_lockBin (binId : Option Nat) (s s' : Stock) (a : Option (Nat × InventoryBin)) :
    Returns (lockBin binId) s a s' ↔
      (a = binId.bind fun key => (s.bins.get? key).map fun bin => (key, bin)) ∧
        (∀ key, binId = some key → ∃ bin, s.bins.get? key = some bin) ∧ s' = s := by
  cases binId with
  | none => simp [lockBin]
  | some key =>
    simp only [lockBin, returns_bind, returns_read, returns_orThrow, returns_pure]
    constructor
    · rintro ⟨_, _, ⟨rfl, rfl⟩, bin, _, ⟨stored, rfl⟩, rfl, rfl⟩
      simp [stored]
    · rintro ⟨rfl, found, rfl⟩
      obtain ⟨bin, stored⟩ := found key rfl
      exact ⟨_, _, ⟨rfl, rfl⟩, bin, _, ⟨stored, rfl⟩, by simp [stored], rfl⟩

variable {data : MovementData} {s s' : Stock} {itemId key : Nat} {actorId : Option Nat} {posted : Nat × StockMovement}

theorem validateTracking_silent {item : InventoryItem} {source : Option (Nat × InventoryBin)}
    (success : Returns (validateTracking item data source) s () s') : s' = s := by
  unfold validateTracking at success
  cases tracking : item.trackingType with
  | none =>
    simp only [tracking, returns_throwIf] at success
    exact success.2
  | lot =>
    simp only [tracking, returns_bind, returns_throwIf, returns_read, returns_orThrow, returns_pure] at success
    obtain ⟨_, _, ⟨-, rfl⟩, _, _, ⟨-, rfl⟩, _, _, ⟨-, rfl⟩, -, rfl⟩ := success
    rfl
  | serial =>
    simp only [tracking, returns_bind, returns_throwIf, returns_read, returns_orThrow] at success
    obtain ⟨_, _, ⟨-, rfl⟩, _, _, ⟨-, rfl⟩, _, _, ⟨-, rfl⟩, -, rfl⟩ := success
    rfl

theorem forItem_silent {warehouseId binId : Option Nat} {a : StockAvailability}
    (success : Returns (forItem itemId warehouseId binId) s a s') : s' = s := by
  unfold forItem binIds at success
  rw [returns_bind] at success
  obtain ⟨bins, s₁, selected, read'⟩ := success
  rw [returns_read] at read'
  rw [read'.2]
  cases binId with
  | some =>
    simp only [returns_bind, returns_read, returns_orThrow, returns_pure] at selected
    obtain ⟨_, _, ⟨-, rfl⟩, _, _, ⟨-, rfl⟩, -, rfl⟩ := selected
    rfl
  | none =>
    cases warehouseId with
    | none =>
      simp only [returns_pure] at selected
      exact selected.2
    | some =>
      simp only [returns_bind, returns_read, returns_pure] at selected
      obtain ⟨_, _, ⟨-, rfl⟩, -, rfl⟩ := selected
      rfl

theorem reservationAllowance_silent {reservationId : Option Nat} {source : Nat × InventoryBin}
    {a : Int} (success : Returns (reservationAllowance reservationId itemId source) s a s') :
    s' = s := by
  cases reservationId with
  | none =>
    simp only [reservationAllowance, returns_pure] at success
    exact success.2
  | some =>
    simp only [reservationAllowance, returns_bind, returns_read, returns_orThrow, returns_throwIf,
      returns_pure] at success
    obtain ⟨_, _, ⟨-, rfl⟩, _, _, ⟨-, rfl⟩, _, _, ⟨-, rfl⟩, -, rfl⟩ := success
    rfl

theorem reservationAllowance_cited {source : Nat × InventoryBin} {a : Int}
    (success : Returns (reservationAllowance (some key) itemId source) s a s') :
    ∃ r, s.reservations.get? key = some r ∧ Authorizes r itemId source ∧
      a = r.reservedQuantityBase - r.consumedQuantityBase := by
  simp only [reservationAllowance, returns_bind, returns_read, returns_orThrow, returns_throwIf, returns_pure,
    not_not] at success
  obtain ⟨_, _, ⟨rfl, rfl⟩, r, _, ⟨found, rfl⟩, _, _, ⟨authorized, rfl⟩, rfl, -⟩ := success
  exact ⟨r, found, authorized, rfl⟩

theorem validateStock_silent {source : Option (Nat × InventoryBin)}
    (success : Returns (validateStock data source) s () s') : s' = s := by
  cases source with
  | none =>
    simp only [validateStock, returns_pure] at success
    exact success.2
  | some =>
    simp only [validateStock, returns_bind, returns_throwIf] at success
    obtain ⟨available, s₁, loaded, -, rfl⟩ := success
    unfold sourceAvailable at loaded
    rw [returns_bind] at loaded
    obtain ⟨stock, s₂, queried, rest⟩ := loaded
    rw [← forItem_silent queried]
    split at rest
    · simp only [returns_bind, returns_pure] at rest
      obtain ⟨allowance, s₃, allowed, -, rfl⟩ := rest
      exact reservationAllowance_silent allowed
    · rw [returns_pure] at rest
      exact rest.2

def recorded (actorId : Nat) (data : MovementData) (s : Stock) : Stock :=
  { s with
    movements := s.movements.create (movement data actorId)
    serials := moveSerial data s.serials }

/-- A posting finds its key in use and changes nothing, or is admitted and writes the movement. -/
theorem post_writes (success : Returns (post actorId data) s posted s') :
    (s' = s ∧ ∃ key m, s.movements.get? key = some m ∧ m.idempotencyKey = data.idempotencyKey) ∨
      (Admits actorId data s ∧ ∃ postedBy, (data.postedBy.orElse fun _ => actorId) = some postedBy ∧
        s' = recorded postedBy data s) := by
  unfold post at success
  simp only [returns_transaction, returns_bind, returns_read] at success
  obtain ⟨found, _, ⟨lookup, rfl⟩, success⟩ := success
  cases found with
  | some =>
    rw [returns_pure] at success
    obtain ⟨stored, used⟩ := Table.first?_some lookup.symm
    exact Or.inl ⟨success.2, _, _, stored, of_decide_eq_true used⟩
  | none =>
    rw [returns_bind] at success
    obtain ⟨_, _, checked, success⟩ := success
    rw [returns_throwIf] at checked
    obtain ⟨checked, rfl⟩ := checked
    rw [returns_bind] at success
    obtain ⟨_, _, source, success⟩ := success
    obtain ⟨rfl, source, rfl⟩ := (returns_lockBin ..).mp source
    rw [returns_bind] at success
    obtain ⟨_, _, target, success⟩ := success
    obtain ⟨-, target, rfl⟩ := (returns_lockBin ..).mp target
    simp only [returns_bind, returns_throwIf] at success
    obtain ⟨_, _, ⟨named, rfl⟩, _, _, ⟨apart, rfl⟩, success⟩ := success
    simp only [returns_read, returns_orThrow] at success
    obtain ⟨_, _, ⟨rfl, rfl⟩, item, _, ⟨stored, rfl⟩, _, s₁, tracked, _, s₂, stocked, success⟩ := success
    have same₁ := validateTracking_silent tracked
    subst same₁
    have same₂ := validateStock_silent stocked
    subst same₂
    obtain ⟨postedBy, _, ⟨actor, rfl⟩, _, _, ⟨rfl, rfl⟩, _, _, ⟨unit', rfl⟩, _, _, ⟨total, rfl⟩, success⟩ := success
    simp only [returns_write, returns_pure] at success
    obtain ⟨_, _, ⟨-, rfl⟩, _, _, rfl, -, rfl⟩ := success
    refine Or.inr ⟨⟨?_, by omega, by omega, source, target, named, apart, ⟨item, stored, tracked⟩, stocked,
      ⟨postedBy, actor⟩, not_not.mp unit', by omega⟩, postedBy, actor, rfl⟩
    intro key m found same
    have missed := Table.first?_none lookup.symm key m found
    simp [same] at missed

theorem post_cases (success : Returns (post actorId data) s posted s') :
    (s' = s ∧ ∃ key m, s.movements.get? key = some m ∧ m.idempotencyKey = data.idempotencyKey) ∨
      (Admits actorId data s ∧ Recorded data s s') := by
  obtain unchanged | ⟨admits, postedBy, -, rfl⟩ := post_writes success
  · exact Or.inl unchanged
  · exact Or.inr ⟨admits, ⟨postedBy, rfl⟩, rfl, rfl, rfl, rfl, rfl⟩

theorem post_returns (success : Returns (post actorId data) s posted s') :
    s' = s ∨ (Admits actorId data s ∧ Recorded data s s') := by
  obtain ⟨same, -⟩ | recorded := post_cases success
  · exact Or.inl same
  · exact Or.inr recorded

theorem post_admitted (admits : Admits actorId data s) :
    ∃ posted s', Returns (post actorId data) s posted s' ∧ Recorded data s s' := by
  obtain ⟨item, stored, tracked⟩ := admits.tracked
  obtain ⟨postedBy, actor⟩ := admits.actor
  have absent : (s.movements.first? fun _ m => m.idempotencyKey = data.idempotencyKey) = none := by
    cases found : s.movements.first? fun _ m => m.idempotencyKey = data.idempotencyKey with
    | none => rfl
    | some =>
      obtain ⟨earlier', same⟩ := Table.first?_some found
      exact absurd (by simpa using same) (admits.unused _ _ earlier')
  have positive := admits.positive
  have cost := admits.cost
  have total := admits.total
  refine ⟨(s.movements.nextId, movement data postedBy), { s with
    movements := s.movements.create (movement data postedBy)
    serials := moveSerial data s.serials }, ?_, ⟨postedBy, rfl⟩, rfl, rfl, rfl, rfl, rfl⟩
  unfold post
  simp only [returns_transaction, returns_bind, returns_read]
  refine ⟨none, s, ⟨absent.symm, rfl⟩, ?_⟩
  simp only [returns_bind, returns_read, returns_throwIf, returns_orThrow, returns_lockBin, returns_write,
    returns_pure]
  exact ⟨(), s, ⟨by omega, rfl⟩, _, s, ⟨rfl, admits.source, rfl⟩, _, s, ⟨rfl, admits.target, rfl⟩, (), s,
    ⟨admits.named, rfl⟩, (), s, ⟨admits.apart, rfl⟩, _, s, ⟨rfl, rfl⟩, item, s, ⟨stored, rfl⟩, (), s, tracked,
    (), s, admits.stocked, postedBy, s, ⟨actor, rfl⟩, _, s, ⟨rfl, rfl⟩, (), s, ⟨not_not.mpr admits.unit', rfl⟩, (),
    s, ⟨by omega, rfl⟩, _, s, ⟨rfl, rfl⟩, (), _, rfl, rfl, rfl⟩

theorem Admits.available (admits : Admits actorId data s) (source : data.fromBinId = some key) :
    ∃ bin, s.bins.get? key = some bin ∧
      if bin.custodyType = .available then
        ∃ allowance, Returns (reservationAllowance data.reservationId data.itemId (key, bin)) s allowance s ∧
          data.quantityBase ≤
            (binStock data.itemId (some bin.warehouseId) key s).availableBase + allowance
      else data.quantityBase ≤ (binStock data.itemId (some bin.warehouseId) key s).onHandBase := by
  obtain ⟨bin, stored⟩ := admits.source key source
  have stocked := admits.stocked
  have loaded : sourceBin data s = some (key, bin) := by
    unfold sourceBin
    rw [source]
    simp [stored]
  rw [loaded] at stocked
  simp only [validateStock, sourceAvailable, returns_bind, returns_throwIf, returns_forItem_bin stored] at stocked
  obtain ⟨available, _, ⟨_, _, ⟨rfl, rfl⟩, counted⟩, enough, -⟩ := stocked
  refine ⟨bin, stored, ?_⟩
  by_cases custody : bin.custodyType = .available
  · rw [if_pos custody] at counted ⊢
    simp only [returns_bind, returns_pure] at counted
    obtain ⟨allowance, _, allowed, rfl, rfl⟩ := counted
    rw [reservationAllowance_silent allowed] at allowed enough
    exact ⟨allowance, allowed, not_lt.mp enough⟩
  · rw [if_neg custody] at counted ⊢
    simp only [returns_pure] at counted
    obtain ⟨rfl, rfl⟩ := counted
    exact not_lt.mp enough

theorem Admits.uncited (sound : Sound s)
    (admits : Admits actorId data s) (source : data.fromBinId = some key) {bin : InventoryBin}
    (stored : s.bins.get? key = some bin) (custody : bin.custodyType = .available)
    (uncited : data.reservationId = none) :
    data.quantityBase ≤ onHand data.itemId key s -
      reserved data.itemId (some bin.warehouseId) (some key) s := by
  obtain ⟨bin', stored', enough⟩ := admits.available source
  rw [stored] at stored'
  cases stored'
  rw [if_pos custody, uncited] at enough
  obtain ⟨allowance, allowed, enough⟩ := enough
  simp only [reservationAllowance, returns_pure] at allowed
  rw [allowed.1, add_zero, binStock_available stored custody] at enough
  exact sound.onHand_covers admits.positive (sound.reserved_nonneg _ _ _) enough

theorem Admits.short (sound : Sound s) (admits : Admits actorId data s) (source : data.fromBinId = some key)
    (short : onHand data.itemId key s < data.quantityBase) :
    ∃ cited r, data.reservationId = some cited ∧ s.reservations.get? cited = some r ∧ r.binId = none := by
  obtain ⟨bin, stored, enough⟩ := admits.available source
  have positive := admits.positive
  split at enough
  · rename_i custody
    have held := sound.reserved_nonneg data.itemId (some bin.warehouseId) (some key)
    cases cited : data.reservationId with
    | none =>
      have within := admits.uncited sound source stored custody cited
      omega
    | some k =>
      obtain ⟨allowance, allowed, enough⟩ := enough
      rw [cited] at allowed
      obtain ⟨r, found, ⟨item, warehouse, named, holds⟩, rfl⟩ := reservationAllowance_cited allowed
      rcases named with none' | named
      · exact ⟨k, r, rfl, found, none'⟩
      · -- the remainder is part of what the bin has reserved
        have counts : StockAvailabilityQuery.Counts data.itemId (some bin.warehouseId) (some key) r :=
          ⟨item, by simp [warehouse], by simp [named], holds⟩
        have part := sound.remainder_le found counts
        have within := sound.reservations k r found
        rw [binStock_available stored custody] at enough
        have counted : data.quantityBase ≤
            (binStock data.itemId (some bin.warehouseId) key s).onHandBase - intOfSum 0 := by
          have top : 0 ≤ phpIntMax := by decide
          unfold intOfSum at enough ⊢
          omega
        have covers := sound.onHand_covers positive (le_refl 0) counted
        omega
  · have counted : data.quantityBase ≤
        (binStock data.itemId (some bin.warehouseId) key s).onHandBase - intOfSum 0 := by
      have top : 0 ≤ phpIntMax := by decide
      unfold intOfSum
      omega
    have covers := sound.onHand_covers positive (le_refl 0) counted
    omega

theorem Recorded.moved (recorded : Recorded data s s') (bins : Nat → Bool) (itemId : Nat) :
    heldIn bins itemId s' = heldIn bins itemId s +
      (if data.itemId = itemId ∧ data.toBinId.any bins then data.quantityBase else 0) -
      (if data.itemId = itemId ∧ data.fromBinId.any bins then data.quantityBase else 0) := by
  obtain ⟨postedBy, rows⟩ := recorded.movements
  unfold heldIn StockAvailabilityQuery.moved
  rw [rows, Table.sumOver_create, Table.sumOver_create]
  have reorder : ∀ a b x y : Int, a + x - (b + y) = a - b + x - y := by
    intro a b x y
    omega
  exact reorder _ _ _ _

theorem Recorded.sound (recorded : Recorded data s s') (sound : Sound s)
    (positive : 0 < data.quantityBase) : Sound s' := by
  obtain ⟨postedBy, rows⟩ := recorded.movements
  refine ⟨?_, ?_⟩
  · intro key m stored
    rw [rows] at stored
    obtain ⟨-, rfl⟩ | earlier := Table.get?_create_cases stored
    · exact positive
    · exact sound.movements key m earlier
  · rw [recorded.reservations]
    exact sound.reservations

end StockLedger

/-! ### Reservations -/

namespace StockReservationService

/-- A new reservation that passes every check. -/
structure Reservable (data : ReservationData) (s : Stock) : Prop where
  unused : ∀ key r, s.reservations.get? key = some r → r.idempotencyKey ≠ data.idempotencyKey
  requested : 0 < data.requestedQuantityBase
  item : ∃ item, s.items.get? data.itemId = some item
  bin : ∀ key, data.binId = some key → ∃ bin, s.bins.get? key = some bin ∧
    bin.warehouseId = data.warehouseId ∧ bin.custodyType = .available

/-- The stock a reservation is granted from, as the query counts it. -/
def reservableStock (data : ReservationData) (s : Stock) : StockAvailability where
  onHandBase := 0
  reservedBase := intOfSum (reserved data.itemId (some data.warehouseId) data.binId s)
  eligibleOnHandBase := some (
    intOfSum (moved StockMovement.toBinId (eligible (some data.warehouseId) data.binId s) data.itemId s) -
      intOfSum (moved StockMovement.fromBinId (eligible (some data.warehouseId) data.binId s) data.itemId s))

def grantedTo (data : ReservationData) (s : Stock) : Int :=
  granted (reservableStock data s).availableBase data.requestedQuantityBase data.allowPartial

def withReservation (data : ReservationData) (s : Stock) : Stock :=
  { s with reservations := s.reservations.create (reservation data (grantedTo data s)) }

theorem returns_validateBin (data : ReservationData) (s s' : Stock) (u : Unit) :
    Returns (validateBin data) s u s' ↔ (∀ key, data.binId = some key → ∃ bin, s.bins.get? key = some bin ∧
      bin.warehouseId = data.warehouseId ∧ bin.custodyType = .available) ∧ s' = s := by
  unfold validateBin
  cases data.binId with
  | none => simp
  | some key =>
    simp only [returns_bind, returns_read, returns_orThrow, returns_throwIf, not_not]
    constructor
    · rintro ⟨_, _, ⟨rfl, rfl⟩, bin, _, ⟨found, rfl⟩, custody, rfl⟩
      obtain ⟨stored, warehouse⟩ := Option.filter_eq_some_iff.mp found
      refine ⟨?_, rfl⟩
      intro key' same
      cases same
      exact ⟨bin, stored, of_decide_eq_true warehouse, custody⟩
    · rintro ⟨named, rfl⟩
      obtain ⟨bin, stored, warehouse, custody⟩ := named key rfl
      exact ⟨_, _, ⟨rfl, rfl⟩, bin, _, ⟨Option.filter_eq_some_iff.mpr ⟨stored, decide_eq_true warehouse⟩, rfl⟩,
        custody, rfl⟩

variable {data : ReservationData} {s s' : Stock} {key : Nat}

theorem forItem_reservable (reservable : Reservable data s) :
    ∃ stock, Returns (forItem data.itemId (some data.warehouseId) data.binId) s stock s ∧
      stock.availableBase = (reservableStock data s).availableBase := by
  unfold forItem binIds reservableStock
  cases named : data.binId with
  | none =>
    simp only [returns_bind, returns_read, returns_pure]
    exact ⟨_, ⟨_, _, ⟨_, _, ⟨rfl, rfl⟩, rfl, rfl⟩, rfl, rfl⟩, rfl⟩
  | some key =>
    obtain ⟨bin, stored, -⟩ := reservable.bin key named
    simp only [returns_bind, returns_read, returns_orThrow, returns_pure]
    exact ⟨_, ⟨_, _, ⟨_, _, ⟨rfl, rfl⟩, bin, _, ⟨stored, rfl⟩, rfl, rfl⟩, rfl, rfl⟩, rfl⟩

theorem reserve_unused (reservable : Reservable data s) :
    (s.reservations.first? fun _ r => r.idempotencyKey = data.idempotencyKey) = none := by
  cases found : s.reservations.first? fun _ r => r.idempotencyKey = data.idempotencyKey with
  | none => rfl
  | some =>
    obtain ⟨earlier', same⟩ := Table.first?_some found
    exact absurd (by simpa using same) (reservable.unused _ _ earlier')

theorem reserve_iff (data : ReservationData) (s s' : Stock) (made : Nat × StockReservation) :
    Returns (reserve data) s made s' ↔
      ((s.reservations.first? fun _ r => r.idempotencyKey = data.idempotencyKey) = some made ∧ s' = s) ∨
        (Reservable data s ∧ made = (s.reservations.nextId, reservation data (grantedTo data s)) ∧
          s' = withReservation data s) := by
  constructor
  · intro success
    unfold reserve at success
    simp only [returns_transaction, returns_bind, returns_read] at success
    obtain ⟨found, _, ⟨lookup, rfl⟩, success⟩ := success
    cases found with
    | some =>
      rw [returns_pure] at success
      obtain ⟨rfl, rfl⟩ := success
      exact Or.inl ⟨lookup.symm, rfl⟩
    | none =>
      simp only [returns_bind, returns_throwIf, returns_read, returns_orThrow, returns_validateBin] at success
      obtain ⟨_, _, ⟨requested, rfl⟩, _, _, ⟨rfl, rfl⟩, item, _, ⟨stored, rfl⟩, _, _, ⟨named, rfl⟩, stock, s₁, queried,
        success⟩ := success
      have same := StockLedger.forItem_silent queried
      subst same
      have reservable : Reservable data s₁ := by
        refine ⟨?_, by omega, ⟨item, stored⟩, named⟩
        intro key r found same
        have missed := Table.first?_none lookup.symm key r found
        simp [same] at missed
      obtain ⟨stock', queried', available⟩ := forItem_reservable reservable
      obtain ⟨rfl, -⟩ := queried.unique queried'
      simp only [returns_write, returns_pure, available] at success
      obtain ⟨_, _, ⟨rfl, rfl⟩, _, _, rfl, rfl, rfl⟩ := success
      exact Or.inr ⟨reservable, rfl, rfl⟩
  · rintro (⟨found, rfl⟩ | ⟨reservable, rfl, rfl⟩)
    · unfold reserve
      simp only [returns_transaction, returns_bind, returns_read]
      refine ⟨some made, s', ⟨found.symm, rfl⟩, ?_⟩
      rw [returns_pure]
      exact ⟨rfl, rfl⟩
    · obtain ⟨item, stored⟩ := reservable.item
      obtain ⟨stock, queried, available⟩ := forItem_reservable reservable
      have requested := reservable.requested
      unfold reserve
      simp only [returns_transaction, returns_bind, returns_read]
      refine ⟨none, s, ⟨(reserve_unused reservable).symm, rfl⟩, ?_⟩
      simp only [returns_bind, returns_throwIf, returns_read, returns_orThrow, returns_validateBin, returns_write,
        returns_pure]
      refine ⟨(), s, ⟨by omega, rfl⟩, _, s, ⟨rfl, rfl⟩, item, s, ⟨stored, rfl⟩, (), s, ⟨reservable.bin, rfl⟩, stock, s,
        queried, _, s, ⟨rfl, rfl⟩, (), _, rfl, ?_, ?_⟩
      · rw [available]
        rfl
      · rw [available]
        rfl

theorem reserve_returns {made : Nat × StockReservation} (success : Returns (reserve data) s made s') :
    s' = s ∨ (Reservable data s ∧ s' = withReservation data s) := by
  obtain ⟨-, same⟩ | ⟨reservable, -, left⟩ := (reserve_iff ..).mp success
  · exact Or.inl same
  · exact Or.inr ⟨reservable, left⟩

theorem reserve_reservable (reservable : Reservable data s) :
    ∃ made, Returns (reserve data) s made (withReservation data s) :=
  ⟨_, (reserve_iff ..).mpr (Or.inr ⟨reservable, rfl, rfl⟩)⟩

/-- A quantity that the reservation still holds. -/
structure Consumable (key : Nat) (quantityBase : Int) (r : StockReservation) (s : Stock) : Prop where
  stored : s.reservations.get? key = some r
  positive : 0 < quantityBase
  holds : r.status.holdsStock = true
  within : r.consumedQuantityBase + quantityBase ≤ r.reservedQuantityBase

def consumed (quantityBase : Int) (r : StockReservation) : StockReservation :=
  { r with
    consumedQuantityBase := r.consumedQuantityBase + quantityBase
    status := if r.consumedQuantityBase + quantityBase = r.reservedQuantityBase then .consumed
      else .partiallyConsumed }

/-- One reservation is changed, and nothing else. -/
structure Rewritten (key : Nat) (r r' : StockReservation) (s s' : Stock) : Prop where
  others : s' = { s with reservations := s'.reservations }
  rows : ∀ k q, s'.reservations.get? k = some q →
    (k = key ∧ q = r') ∨ (k ≠ key ∧ s.reservations.get? k = some q)
  kept : ∀ k q, k ≠ key → s.reservations.get? k = some q → s'.reservations.get? k = some q
  sums : ∀ f : StockReservation → Int, (s'.reservations.sumOver fun _ => f) =
    (s.reservations.sumOver fun _ => f) - f r + f r'

theorem rewritten {r r' : StockReservation} {f : StockReservation → StockReservation}
    (stored : s.reservations.get? key = some r) (changed : f r = r') :
    Rewritten key r r' s { s with reservations := s.reservations.update key f } := by
  subst changed
  refine ⟨rfl, ?_, ?_, ?_⟩
  · intro k q found
    obtain ⟨rfl, r₀, old, rfl⟩ | other := Table.get?_update_cases found
    · rw [stored] at old
      cases old
      exact Or.inl ⟨rfl, rfl⟩
    · exact Or.inr other
  · intro k q other found
    exact (Table.get?_update_of_ne _ _ other).trans found
  · intro g
    exact Table.sumOver_update _ (fun _ => g) key f r stored

theorem consume_returns {quantityBase : Int} (success : Returns (consume key quantityBase) s () s') :
    ∃ r, Consumable key quantityBase r s ∧ Rewritten key r (consumed quantityBase r) s s' := by
  unfold consume at success
  simp only [returns_transaction, returns_bind, returns_read, returns_orThrow, returns_throwIf,
    returns_write] at success
  obtain ⟨_, _, ⟨rfl, rfl⟩, r, _, ⟨stored, rfl⟩, _, _, ⟨active, rfl⟩, _, _, ⟨within, rfl⟩, rfl⟩ := success
  push Not at active within
  exact ⟨r, ⟨stored, active.1, active.2, within⟩, rewritten stored rfl⟩

theorem consume_consumable {quantityBase : Int} {r : StockReservation}
    (consumable : Consumable key quantityBase r s) : ∃ s', Returns (consume key quantityBase) s () s' := by
  obtain ⟨stored, positive, holds, within⟩ := consumable
  unfold consume
  simp only [returns_transaction, returns_bind, returns_read, returns_orThrow, returns_throwIf, returns_write]
  exact ⟨_, _, _, ⟨rfl, rfl⟩, r, _, ⟨stored, rfl⟩, (), _, ⟨by simp [holds, positive], rfl⟩, (), _,
    ⟨by omega, rfl⟩, rfl⟩

theorem release_returns (success : Returns (release key) s () s') :
    ∃ r, s.reservations.get? key = some r ∧ Rewritten key r { r with status := .released } s s' := by
  unfold release at success
  simp only [returns_transaction, returns_bind, returns_read, returns_orThrow, returns_throwIf,
    returns_write] at success
  obtain ⟨_, _, ⟨rfl, rfl⟩, r, _, ⟨stored, rfl⟩, _, _, ⟨-, rfl⟩, rfl⟩ := success
  exact ⟨r, stored, rewritten stored rfl⟩

theorem granted_bounds (sound : Sound s)
    (requested : 0 < data.requestedQuantityBase) : 0 ≤ grantedTo data s ∧ grantedTo data s ≤ phpIntMax := by
  have held := sound.reserved_nonneg data.itemId (some data.warehouseId) data.binId
  have outgoing := sound.moved_nonneg StockMovement.fromBinId
    (eligible (some data.warehouseId) data.binId s) data.itemId
  have top : 0 ≤ phpIntMax := by decide
  unfold grantedTo granted reservableStock StockAvailability.availableBase intOfSum
  simp only [Option.getD_some]
  split <;> omega

theorem Reservable.sound (reservable : Reservable data s)
    (sound : Sound s) : Sound (withReservation data s) := by
  refine ⟨sound.movements, ?_⟩
  intro key r stored
  obtain ⟨-, rfl⟩ | earlier := Table.get?_create_cases stored
  · have bounds := granted_bounds sound reservable.requested
    exact ⟨le_refl 0, bounds.1, bounds.2⟩
  · exact sound.reservations key r earlier

theorem Rewritten.sound {r r' : StockReservation} (rewritten : Rewritten key r r' s s')
    (sound : Sound s) (within : 0 ≤ r'.consumedQuantityBase ∧ r'.consumedQuantityBase ≤ r'.reservedQuantityBase ∧
      r'.reservedQuantityBase ≤ phpIntMax) : Sound s' := by
  refine ⟨?_, ?_⟩
  · rw [rewritten.others]
    exact sound.movements
  · intro k q found
    obtain ⟨-, rfl⟩ | ⟨-, earlier⟩ := rewritten.rows k q found
    · exact within
    · exact sound.reservations k q earlier

end StockReservationService
open StockReservationService

/-! ### Issues -/

namespace WorkOrderPartsService

structure Loaded (key : Nat) (sourceBinId : Nat) (quantityBase : Int) (idempotencyKey : String)
    (r : StockReservation) (data : MovementData) (s : Stock) : Prop where
  stored : s.reservations.get? key = some r
  purpose : r.purposeType = "maintenance_work_order"
  data : ∃ item cost, s.items.get? r.itemId = some item ∧
    Returns (MovingAverageValuation.unitCostMinor r.itemId item) s cost s ∧
    data = issueData key r item sourceBinId quantityBase cost idempotencyKey

theorem unitCostMinor_silent {itemId : Nat} {item : InventoryItem} {s s' : Stock} {cost : Int}
    (success : Returns (MovingAverageValuation.unitCostMinor itemId item) s cost s') : s' = s := by
  unfold MovingAverageValuation.unitCostMinor at success
  cases method : item.valuationMethod with
  | standard =>
    simp only [method, returns_pure] at success
    exact success.2
  | movingAverage =>
    simp only [method, returns_bind] at success
    obtain ⟨stock, s₁, queried, success⟩ := success
    rw [StockLedger.forItem_silent queried] at success
    split at success
    · rw [returns_pure] at success
      exact success.2
    · simp only [returns_bind, returns_read, returns_pure] at success
      obtain ⟨_, _, ⟨-, rfl⟩, _, _, ⟨-, rfl⟩, -, rfl⟩ := success
      rfl

variable {key sourceBinId : Nat} {quantityBase : Int} {idempotencyKey : String}

theorem Loaded.unique {r r' : StockReservation} {data data' : MovementData} {s : Stock}
    (first : Loaded key sourceBinId quantityBase idempotencyKey r data s)
    (second : Loaded key sourceBinId quantityBase idempotencyKey r' data' s) : r = r' ∧ data = data' := by
  have rows := first.stored.symm.trans second.stored
  cases rows
  obtain ⟨item, cost, found, valued, rfl⟩ := first.data
  obtain ⟨item', cost', found', valued', rfl⟩ := second.data
  rw [found] at found'
  cases found'
  obtain ⟨rfl, -⟩ := valued.unique valued'
  exact ⟨rfl, rfl⟩

theorem issue_returns {actorId : Option Nat}
    {r : StockReservation} {s s' : Stock} (stored : s.reservations.get? key = some r)
    (success : Returns (issue actorId key r sourceBinId quantityBase idempotencyKey) s () s') :
    ∃ data s₁, Loaded key sourceBinId quantityBase idempotencyKey r data s ∧
      (s₁ = s ∨ (StockLedger.Admits actorId data s ∧ StockLedger.Recorded data s s₁)) ∧
      Returns (consume key quantityBase) s₁ () s' := by
  unfold issue at success
  simp only [returns_transaction, returns_bind, returns_throwIf, returns_read, returns_orThrow, not_not] at success
  obtain ⟨_, _, ⟨purpose, rfl⟩, _, _, ⟨rfl, rfl⟩, item, _, ⟨found, rfl⟩, cost, s₀, valued, posted, s₁, post,
    consume⟩ := success
  have same := unitCostMinor_silent valued
  subst same
  exact ⟨_, s₁, ⟨stored, purpose, item, cost, found, valued, rfl⟩, StockLedger.post_returns post, consume⟩

theorem issue_admitted {actorId : Option Nat} {r : StockReservation} {data : MovementData} {s : Stock}
    (loaded : Loaded key sourceBinId quantityBase idempotencyKey r data s)
    (admits : StockLedger.Admits actorId data s) (consumable : Consumable key quantityBase r s) :
    ∃ s₁ s', Returns (issue actorId key r sourceBinId quantityBase idempotencyKey) s () s' ∧
      StockLedger.Recorded data s s₁ ∧ Returns (consume key quantityBase) s₁ () s' := by
  obtain ⟨item, cost, found, valued, rfl⟩ := loaded.data
  obtain ⟨posted, s₁, post, recorded⟩ := StockLedger.post_admitted admits
  have consumable₁ : Consumable key quantityBase r s₁ :=
    { consumable with stored := by rw [recorded.reservations]; exact consumable.stored }
  obtain ⟨s', consume'⟩ := consume_consumable consumable₁
  refine ⟨s₁, s', ?_, recorded, consume'⟩
  unfold issue
  simp only [returns_transaction, returns_bind, returns_throwIf, returns_read, returns_orThrow, not_not]
  exact ⟨(), s, ⟨loaded.purpose, rfl⟩, _, s, ⟨rfl, rfl⟩, item, s, ⟨found, rfl⟩, cost, s, valued, posted, s₁, post,
    consume'⟩

end WorkOrderPartsService

/-! ### One call of a run -/

namespace StockCall
open StockLedger WorkOrderPartsService

theorem next_post (actorId : Option Nat) (data : MovementData) (s : Stock) :
    (next (post actorId data) s = s ∧ ¬ Admits actorId data s) ∨
      (Admits actorId data s ∧ Recorded data s (next (post actorId data) s)) := by
  by_cases admits : Admits actorId data s
  · obtain ⟨posted, s', success, recorded⟩ := post_admitted admits
    have run : next (post actorId data) s = s' := after_bind_of_returns success
    rw [run]
    exact Or.inr ⟨admits, recorded⟩
  · refine Or.inl ⟨?_, admits⟩
    refine after_bind (P := fun s' => s' = s) (atomic_transaction _) rfl fun posted s' success => ?_
    rcases post_returns success with same | ⟨admitted, -⟩
    · exact same
    · exact absurd admitted admits

theorem next_reserve (data : ReservationData) (s : Stock) :
    (next (reserve data) s = s ∧ ¬ Reservable data s) ∨
      (Reservable data s ∧ next (reserve data) s = withReservation data s) := by
  by_cases reservable : Reservable data s
  · obtain ⟨made, success⟩ := reserve_reservable reservable
    exact Or.inr ⟨reservable, after_bind_of_returns success⟩
  · refine Or.inl ⟨?_, reservable⟩
    refine after_bind (P := fun s' => s' = s) (atomic_transaction _) rfl fun made s' success => ?_
    rcases reserve_returns success with same | ⟨granted, -⟩
    · exact same
    · exact absurd granted reservable

theorem next_consume (key : Nat) (quantityBase : Int) (s : Stock) :
    next (consume key quantityBase) s = s ∨ ∃ r, Consumable key quantityBase r s ∧
      Rewritten key r (consumed quantityBase r) s (next (consume key quantityBase) s) := by
  refine after_atomic (P := fun s' => s' = s ∨ ∃ r, Consumable key quantityBase r s ∧
    Rewritten key r (consumed quantityBase r) s s') (atomic_transaction _) (Or.inl rfl) fun _ s' success => ?_
  exact Or.inr (consume_returns success)

theorem next_release (key : Nat) (s : Stock) :
    next (release key) s = s ∨ ∃ r, s.reservations.get? key = some r ∧
      Rewritten key r { r with status := .released } s (next (release key) s) := by
  refine after_atomic (P := fun s' => s' = s ∨ ∃ r, s.reservations.get? key = some r ∧
    Rewritten key r { r with status := .released } s s') (atomic_transaction _) (Or.inl rfl) fun _ s' success => ?_
  exact Or.inr (release_returns success)

theorem next_issue (actorId : Option Nat) (key sourceBinId : Nat) (quantityBase : Int) (idempotencyKey : String)
    (s : Stock) :
    next (issue actorId key sourceBinId quantityBase idempotencyKey) s = s ∨
      ∃ r data s₁, Loaded key sourceBinId quantityBase idempotencyKey r data s ∧
        (s₁ = s ∨ (Admits actorId data s ∧ Recorded data s s₁)) ∧
        Consumable key quantityBase r s₁ ∧
        Rewritten key r (consumed quantityBase r) s₁
          (next (issue actorId key sourceBinId quantityBase idempotencyKey) s) := by
  have step : next (issue actorId key sourceBinId quantityBase idempotencyKey) s =
      after (do
        let reservation ← orThrow (s.reservations.get? key) (.modelNotFound "StockReservation")
        WorkOrderPartsService.issue actorId key reservation sourceBinId quantityBase idempotencyKey) s := rfl
  rw [step]
  refine after_bind (P := fun s' => s' = s ∨ ∃ r data s₁,
    Loaded key sourceBinId quantityBase idempotencyKey r data s ∧
      (s₁ = s ∨ (Admits actorId data s ∧ Recorded data s s₁)) ∧ Consumable key quantityBase r s₁ ∧
      Rewritten key r (consumed quantityBase r) s₁ s') (atomic_orThrow _ _) (Or.inl rfl) fun r s' found => ?_
  obtain ⟨stored, rfl⟩ := (returns_orThrow ..).mp found
  refine after_atomic (P := fun s'' => s'' = s' ∨ ∃ r data s₁,
    Loaded key sourceBinId quantityBase idempotencyKey r data s' ∧
      (s₁ = s' ∨ (Admits actorId data s' ∧ Recorded data s' s₁)) ∧ Consumable key quantityBase r s₁ ∧
      Rewritten key r (consumed quantityBase r) s₁ s'') (atomic_transaction _) (Or.inl rfl) fun _ s'' success => ?_
  obtain ⟨data, s₁, loaded, posted, consume'⟩ := issue_returns stored success
  obtain ⟨r', consumable, rewritten⟩ := consume_returns consume'
  have same : r' = r := by
    have row := consumable.stored
    rcases posted with rfl | ⟨-, recorded⟩
    · rw [stored] at row
      exact (Option.some.inj row).symm
    · rw [recorded.reservations, stored] at row
      exact (Option.some.inj row).symm
  subst same
  exact Or.inr ⟨r', data, s₁, loaded, posted, consumable, rewritten⟩

theorem next_issue_admitted {actorId : Option Nat} {key sourceBinId : Nat} {quantityBase : Int}
    {idempotencyKey : String} {r : StockReservation} {data : MovementData} {s : Stock}
    (loaded : Loaded key sourceBinId quantityBase idempotencyKey r data s) (admits : Admits actorId data s)
    (consumable : Consumable key quantityBase r s) :
    ∃ s₁, Recorded data s s₁ ∧ Rewritten key r (consumed quantityBase r) s₁
      (next (issue actorId key sourceBinId quantityBase idempotencyKey) s) := by
  obtain ⟨s₁, s', success, recorded, consume'⟩ := issue_admitted loaded admits consumable
  have run : next (issue actorId key sourceBinId quantityBase idempotencyKey) s = s' := by
    have step : next (issue actorId key sourceBinId quantityBase idempotencyKey) s =
        after (do
          let reservation ← orThrow (s.reservations.get? key) (.modelNotFound "StockReservation")
          WorkOrderPartsService.issue actorId key reservation sourceBinId quantityBase idempotencyKey) s := rfl
    rw [step, after_bind_of_returns ((returns_orThrow ..).mpr ⟨loaded.stored, rfl⟩)]
    unfold after
    rw [success]
  obtain ⟨r', consumable', rewritten⟩ := consume_returns consume'
  have row := consumable'.stored
  rw [recorded.reservations, loaded.stored] at row
  cases row
  rw [run]
  exact ⟨s₁, recorded, rewritten⟩

theorem Consumable.sound_consumed {key : Nat} {quantityBase : Int} {r : StockReservation} {s s' : Stock}
    (sound : Sound s) (consumable : Consumable key quantityBase r s)
    (rewritten : Rewritten key r (consumed quantityBase r) s s') : Sound s' := by
  have within := consumable.within
  have positive := consumable.positive
  have bounds := sound.reservations key r consumable.stored
  refine rewritten.sound sound ⟨?_, within, bounds.2.2⟩
  simp only [consumed]
  omega

theorem sound_next (call : StockCall) (s : Stock) (sound : Sound s) : Sound (next call s) := by
  cases call with
  | post actorId data =>
    rcases next_post actorId data s with ⟨same, -⟩ | ⟨admits, recorded⟩
    · rw [same]
      exact sound
    · exact recorded.sound sound admits.positive
  | reserve data =>
    rcases next_reserve data s with ⟨same, -⟩ | ⟨reservable, made⟩
    · rw [same]
      exact sound
    · rw [made]
      exact reservable.sound sound
  | consume key quantityBase =>
    rcases next_consume key quantityBase s with same | ⟨r, consumable, rewritten⟩
    · rw [same]
      exact sound
    · exact Consumable.sound_consumed sound consumable rewritten
  | release key =>
    rcases next_release key s with same | ⟨r, stored, rewritten⟩
    · rw [same]
      exact sound
    · exact rewritten.sound sound (sound.reservations key r stored)
  | issue actorId key sourceBinId quantityBase idempotencyKey =>
    rcases next_issue actorId key sourceBinId quantityBase idempotencyKey s with
      same | ⟨r, data, s₁, loaded, posted, consumable, rewritten⟩
    · rw [same]
      exact sound
    · have sound₁ : Sound s₁ := by
        rcases posted with rfl | ⟨admits, recorded⟩
        · exact sound
        · exact recorded.sound sound admits.positive
      exact Consumable.sound_consumed sound₁ consumable rewritten

/-- The call posts under no key that starts with the reserved text. -/
def Avoids (reserved : String) : StockCall → Prop
  | post _ data => ¬ reserved.toList <+: data.idempotencyKey.toList
  | issue _ _ _ _ idempotencyKey => ¬ reserved.toList <+: idempotencyKey.toList
  | reserve _ | consume _ _ | release _ => True

theorem next_movements {reserved : String} (call : StockCall) (apart : call.Avoids reserved) (s : Stock) :
    (next call s).movements = s.movements ∨ ∃ data s₁, StockLedger.Recorded data s s₁ ∧
      (next call s).movements = s₁.movements ∧ ¬ reserved.toList <+: data.idempotencyKey.toList := by
  cases call with
  | post actorId data =>
    obtain ⟨same, -⟩ | ⟨-, recorded⟩ := next_post actorId data s
    · exact Or.inl (by rw [same])
    · exact Or.inr ⟨data, _, recorded, rfl, apart⟩
  | reserve data =>
    obtain ⟨same, -⟩ | ⟨-, made⟩ := next_reserve data s
    · exact Or.inl (by rw [same])
    · exact Or.inl (by rw [made]; rfl)
  | consume key quantityBase =>
    obtain same | ⟨r, -, rewritten⟩ := next_consume key quantityBase s
    · exact Or.inl (by rw [same])
    · exact Or.inl (by rw [rewritten.others])
  | release key =>
    obtain same | ⟨r, -, rewritten⟩ := next_release key s
    · exact Or.inl (by rw [same])
    · exact Or.inl (by rw [rewritten.others])
  | issue actorId key sourceBinId quantityBase idempotencyKey =>
    obtain same | ⟨r, data, s₁, loaded, posted, -, rewritten⟩ :=
      next_issue actorId key sourceBinId quantityBase idempotencyKey s
    · exact Or.inl (by rw [same])
    · obtain rfl | ⟨-, recorded⟩ := posted
      · exact Or.inl (by rw [rewritten.others])
      · obtain ⟨item, cost, -, -, rfl⟩ := loaded.data
        exact Or.inr ⟨_, s₁, recorded, by rw [rewritten.others], apart⟩

end StockCall

end VtsaCsms.Inventory
