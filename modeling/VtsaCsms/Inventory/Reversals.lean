import Mathlib.Algebra.BigOperators.Ring.List
import Mathlib.Algebra.Ring.Int.Defs
import VtsaCsms.Inventory.Custody

/-!
# Reversals

`StockLedger::reverse` posts a movement the other way. Its key is checked like that of any
posting, but nothing looks for an earlier reversal: the table has no unique index on
`reverses_movement_id`.
-/
namespace VtsaCsms.Inventory
open Foundation Foundation.Action StockAvailabilityQuery StockLedger

/-! ### What movements carry -/

/-- What a movement adds to, or takes from, the item's stock in a bin. -/
def movedInto (itemId binId : Nat) (m : StockMovement) : Int :=
  (if m.itemId = itemId ∧ m.toBinId = some binId then m.quantityBase else 0) -
    (if m.itemId = itemId ∧ m.fromBinId = some binId then m.quantityBase else 0)

/-- The same for one serial. -/
def serialMovedInto (itemId serialId binId : Nat) (m : StockMovement) : Int :=
  if m.serialId = some serialId then movedInto itemId binId m else 0

def total (carries : StockMovement → Int) (s : Stock) : Int := s.movements.sumOver fun _ m => carries m

/-- The total as it would be without a movement: neither it nor a reversal of it counts. -/
def without (movementId : Nat) (carries : StockMovement → Int) (s : Stock) : Int :=
  s.movements.sumOver fun key m =>
    if key = movementId ∨ m.reversesMovementId = some movementId then 0 else carries m

/-- How often a movement has been reversed. -/
def reversals (movementId : Nat) (s : Stock) : Int :=
  s.movements.sumOver fun _ m => if m.reversesMovementId = some movementId then 1 else 0

def Reversed (movementId : Nat) (s : Stock) : Prop :=
  ∃ key m, s.movements.get? key = some m ∧ m.reversesMovementId = some movementId

/-- Each movement is reversed at most once. -/
def Once (s : Stock) : Prop := ∀ movementId, reversals movementId s ≤ 1

section
variable {itemId binId movementId : Nat} {movement : StockMovement} {s : Stock}

theorem onHand_eq_total : onHand itemId binId s = total (movedInto itemId binId) s := by
  have parts := Table.sumOver_add s.movements
    (fun _ m => movedInto itemId binId m)
    (fun _ m => if m.itemId = itemId ∧ m.fromBinId = some binId then m.quantityBase else 0)
  have whole : (s.movements.sumOver fun _ m => movedInto itemId binId m +
      if m.itemId = itemId ∧ m.fromBinId = some binId then m.quantityBase else 0) =
      s.movements.sumOver fun _ m => if m.itemId = itemId ∧ m.toBinId = some binId then m.quantityBase else 0 := by
    refine Table.sumOver_congr _ fun _ m _ => ?_
    unfold movedInto
    omega
  unfold onHand heldIn moved total
  simp only [any_bin]
  omega

theorem reversals_nonneg : 0 ≤ reversals movementId s :=
  Table.sumOver_nonneg _ _ fun _ m _ => by split <;> omega

theorem reversed_iff : Reversed movementId s ↔ 1 ≤ reversals movementId s := by
  constructor
  · rintro ⟨key, m, stored, names⟩
    have single := Table.sumOver_single s.movements key fun _ => 1
    rw [stored, Option.map_some, Option.getD_some] at single
    rw [← single]
    refine Table.sumOver_mono _ fun key' m' stored' => ?_
    by_cases here : key' = key
    · subst here
      rw [stored] at stored'
      cases stored'
      rw [if_pos rfl, if_pos names]
    · rw [if_neg here]
      split <;> omega
  · intro counted
    by_contra never
    have nothing : reversals movementId s = 0 := by
      rw [← Table.sumOver_zero s.movements]
      refine Table.sumOver_congr _ fun key m stored => if_neg fun names => never ⟨key, m, stored, names⟩
    omega

theorem total_eq_without {carries : StockMovement → Int} (stored : s.movements.get? movementId = some movement)
    (forward : movement.reversesMovementId = none)
    (opposite : ∀ key r, s.movements.get? key = some r → r.reversesMovementId = some movementId →
      carries r = - carries movement) :
    total carries s = without movementId carries s + (1 - reversals movementId s) * carries movement := by
  have single := Table.sumOver_single s.movements movementId carries
  rw [stored, Option.map_some, Option.getD_some] at single
  have scaled : (s.movements.sumOver fun _ m =>
      (if m.reversesMovementId = some movementId then 1 else 0) * carries movement) =
      reversals movementId s * carries movement := by
    unfold reversals Table.sumOver
    exact List.sum_map_mul_right s.movements.entries
      (fun e => if e.2.reversesMovementId = some movementId then 1 else 0) (carries movement)
  have split : (s.movements.sumOver fun key m =>
      (if key = movementId ∨ m.reversesMovementId = some movementId then 0 else carries m) +
        if key = movementId then carries m else 0) =
      s.movements.sumOver fun _ m => carries m +
        (if m.reversesMovementId = some movementId then 1 else 0) * carries movement := by
    refine Table.sumOver_congr _ fun key m stored' => ?_
    by_cases here : key = movementId
    · subst here
      rw [stored] at stored'
      cases stored'
      simp [forward]
    · by_cases names : m.reversesMovementId = some movementId
      · have back := opposite key m stored' names
        simp only [here, names, or_true, if_true, if_false]
        omega
      · simp [here, names]
  rw [Table.sumOver_add, Table.sumOver_add, scaled, single] at split
  have spread : (1 - reversals movementId s) * carries movement =
      carries movement - reversals movementId s * carries movement := by
    rw [Int.sub_mul, Int.one_mul]
  have whole : total carries s + reversals movementId s * carries movement =
      without movementId carries s + carries movement := split.symm
  omega

end

/-! ### What reversals undo -/

/-- One movement is another the other way. -/
structure Mirrors (m r : StockMovement) : Prop where
  item : r.itemId = m.itemId
  serial : r.serialId = m.serialId
  quantity : r.quantityBase = m.quantityBase
  source : r.fromBinId = m.toBinId
  target : r.toBinId = m.fromBinId

theorem Mirrors.movedInto {m r : StockMovement} (mirrors : Mirrors m r) (itemId binId : Nat) :
    movedInto itemId binId r = - movedInto itemId binId m := by
  unfold Inventory.movedInto
  rw [mirrors.item, mirrors.quantity, mirrors.source, mirrors.target]
  omega

theorem Mirrors.serialMovedInto {m r : StockMovement} (mirrors : Mirrors m r) (itemId serialId binId : Nat) :
    serialMovedInto itemId serialId binId r = - serialMovedInto itemId serialId binId m := by
  unfold Inventory.serialMovedInto
  rw [mirrors.serial, mirrors.movedInto]
  split <;> omega

/-- A movement's bins have on hand, and the bins have of its serial, what they would without it. -/
structure Restored (movementId : Nat) (movement : StockMovement) (s : Stock) : Prop where
  quantities : ∀ binId, onHand movement.itemId binId s = without movementId (movedInto movement.itemId binId) s
  custody : ∀ serialId serial, movement.serialId = some serialId → s.serials.get? serialId = some serial →
    Tracked serial.itemId .serial s → ∀ binId, (if serial.currentBinId = some binId then 1 else 0) =
      without movementId (serialMovedInto serial.itemId serialId binId) s

/-- Movements move something, reversals mirror movements that reverse none, and each serial of a
serialized item lies where its movements movedInto it. -/
structure Traced (s : Stock) : Prop where
  moves : ∀ key m, s.movements.get? key = some m → 0 < m.quantityBase ∧ m.fromBinId ≠ m.toBinId
  mirrored : ∀ key r movementId, s.movements.get? key = some r → r.reversesMovementId = some movementId →
    ∃ m, s.movements.get? movementId = some m ∧ m.reversesMovementId = none ∧ Mirrors m r
  placed : ∀ serialId serial, s.serials.get? serialId = some serial → Tracked serial.itemId .serial s →
    ∀ binId, total (serialMovedInto serial.itemId serialId binId) s =
      if serial.currentBinId = some binId then 1 else 0

section
variable {itemId binId movementId : Nat} {movement : StockMovement} {data : MovementData} {s s' : Stock}

theorem movedInto_somewhere (moves : 0 < movement.quantityBase ∧ movement.fromBinId ≠ movement.toBinId) :
    ∃ binId, movedInto movement.itemId binId movement ≠ 0 := by
  obtain ⟨positive, apart⟩ := moves
  unfold movedInto
  cases target : movement.toBinId with
  | some binId =>
    have other : movement.fromBinId ≠ some binId := by rwa [← target]
    refine ⟨binId, ?_⟩
    simp only [other, and_false, if_true, if_false, true_and]
    omega
  | none =>
    obtain ⟨binId, source⟩ := Option.ne_none_iff_exists'.mp (by rwa [target] at apart)
    refine ⟨binId, ?_⟩
    simp only [source, if_true, true_and]
    rw [if_neg (by simp)]
    omega

theorem Traced.restored_iff (traced : Traced s) (stored : s.movements.get? movementId = some movement)
    (forward : movement.reversesMovementId = none) :
    Restored movementId movement s ↔ reversals movementId s = 1 := by
  have mirrors : ∀ key r, s.movements.get? key = some r → r.reversesMovementId = some movementId →
      Mirrors movement r := by
    intro key r stored' names
    obtain ⟨m, found, -, mirrors⟩ := traced.mirrored key r movementId stored' names
    rw [stored] at found
    cases found
    exact mirrors
  constructor
  · intro restored
    obtain ⟨binId, nonzero⟩ := movedInto_somewhere (traced.moves movementId movement stored)
    have back := restored.quantities binId
    rw [onHand_eq_total, total_eq_without stored forward fun key r stored' names =>
      (mirrors key r stored' names).movedInto movement.itemId binId] at back
    have cancels : (1 - reversals movementId s) * movedInto movement.itemId binId movement = 0 := by omega
    rcases Int.mul_eq_zero.mp cancels with once | nothing
    · omega
    · exact absurd nothing nonzero
  · intro once
    have same : ∀ carries : StockMovement → Int, (∀ m r, Mirrors m r → carries r = - carries m) →
        total carries s = without movementId carries s := by
      intro carries opposite
      have whole : total carries s = without movementId carries s + (1 - reversals movementId s) * carries movement :=
        total_eq_without stored forward fun key r stored' names => opposite _ _ (mirrors key r stored' names)
      rw [whole, once]
      omega
    refine ⟨fun binId => ?_, fun serialId serial _ stored' tracked binId => ?_⟩
    · rw [onHand_eq_total]
      exact same _ fun m r mirrors => mirrors.movedInto movement.itemId binId
    · rw [← traced.placed serialId serial stored' tracked binId]
      exact same _ fun m r mirrors => mirrors.serialMovedInto serial.itemId serialId binId

theorem SameLedger.traced (same : SameLedger s s') (traced : Traced s) : Traced s' := by
  refine ⟨?_, ?_, ?_⟩
  · rw [same.movements]
    exact traced.moves
  · rw [same.movements]
    exact traced.mirrored
  · unfold Tracked total
    rw [same.movements, same.serials, same.items]
    exact traced.placed

theorem SameLedger.reversals (same : SameLedger s s') : reversals movementId s' = reversals movementId s := by
  unfold Inventory.reversals
  rw [same.movements]

/-- A posting that parts a serial from its movements: a receipt of a serial that lies in a bin, or
a movement of a lot under the serial of a serialized item. -/
def PartsSerial (data : MovementData) (s : Stock) : Prop :=
  ∃ serialId serial, data.serialId = some serialId ∧ s.serials.get? serialId = some serial ∧
    ((Tracked data.itemId .serial s ∧ data.fromBinId = none ∧ serial.currentBinId ≠ none) ∨
      (Tracked data.itemId .lot s ∧ Tracked serial.itemId .serial s ∧ serial.currentBinId ≠ data.toBinId))

theorem total_recorded (recorded : Recorded data s s') (carries : StockMovement → Int) :
    ∃ postedBy, total carries s' = total carries s + carries (StockLedger.movement data postedBy) := by
  obtain ⟨postedBy, rows⟩ := recorded.movements
  refine ⟨postedBy, ?_⟩
  unfold Inventory.total
  rw [rows, Table.sumOver_create]

theorem reversals_recorded (recorded : Recorded data s s') : reversals movementId s' =
    reversals movementId s + if data.reversesMovementId = some movementId then 1 else 0 := by
  obtain ⟨postedBy, rows⟩ := recorded.movements
  unfold Inventory.reversals
  rw [rows, Table.sumOver_create]
  rfl

theorem placed_carried {actorId : Option Nat} (admits : Admits actorId data s) (recorded : Recorded data s s')
    (traced : Traced s) (kept : ¬ PartsSerial data s) {serialId : Nat} {serial : StockSerial}
    (stored : s.serials.get? serialId = some serial) (named : data.serialId = some serialId)
    (tracked : Tracked serial.itemId .serial s) (binId : Nat) :
    total (serialMovedInto serial.itemId serialId binId) s' = if data.toBinId = some binId then 1 else 0 := by
  obtain ⟨postedBy, sum⟩ := total_recorded recorded (serialMovedInto serial.itemId serialId binId)
  rw [sum, traced.placed serialId serial stored tracked binId]
  have own : serialMovedInto serial.itemId serialId binId (StockLedger.movement data postedBy) =
      movedInto serial.itemId binId (StockLedger.movement data postedBy) := if_pos named
  rw [own]
  obtain ⟨item, found, -⟩ := admits.tracked
  cases tracking : item.trackingType with
  | none =>
    have unnamed := admits.untracked ⟨item, found, tracking⟩
    rw [named] at unnamed
    cases unnamed
  | lot =>
    have lots : Tracked data.itemId .lot s := ⟨item, found, tracking⟩
    have here : serial.currentBinId = data.toBinId := by
      by_contra apart
      exact kept ⟨serialId, serial, named, stored, Or.inr ⟨lots, tracked, apart⟩⟩
    have other : data.itemId ≠ serial.itemId := by
      intro same
      rw [same] at lots
      cases lots.unique tracked
    simp [movedInto, StockLedger.movement, other, here]
  | serial =>
    have serialized : Tracked data.itemId .serial s := ⟨item, found, tracking⟩
    obtain ⟨key, serial', named', one, stored', owner, held⟩ := admits.serial serialized
    rw [named] at named'
    cases named'
    rw [stored] at stored'
    cases stored'
    have source : data.fromBinId = serial.currentBinId := by
      cases from' : data.fromBinId with
      | some binId => rw [held binId from']
      | none =>
        by_contra lies
        exact kept ⟨serialId, serial, named, stored, Or.inl ⟨serialized, from', Ne.symm lies⟩⟩
    simp only [movedInto, StockLedger.movement, owner, one, source, true_and]
    omega

theorem StockLedger.Recorded.traced {actorId : Option Nat} (admits : Admits actorId data s) (recorded : Recorded data s s')
    (traced : Traced s) (kept : ¬ PartsSerial data s)
    (mirrors : ∀ movementId, data.reversesMovementId = some movementId → ∃ m,
      s.movements.get? movementId = some m ∧ m.reversesMovementId = none ∧
        Mirrors m (StockLedger.movement data 0)) : Traced s' := by
  obtain ⟨postedBy, rows⟩ := recorded.movements
  refine ⟨?_, ?_, ?_⟩
  · intro key m stored
    rw [rows] at stored
    obtain ⟨-, rfl⟩ | earlier := Table.get?_create_cases stored
    · refine ⟨admits.positive, fun same => ?_⟩
      by_cases nowhere : data.fromBinId = none
      · exact admits.named ⟨nowhere, same.symm.trans nowhere⟩
      · exact admits.apart ⟨nowhere, same⟩
    · exact traced.moves key m earlier
  · intro key r movementId stored names
    rw [rows] at stored ⊢
    obtain ⟨-, rfl⟩ | earlier := Table.get?_create_cases stored
    · obtain ⟨m, found, forward, same⟩ := mirrors movementId names
      exact ⟨m, Table.get?_create_of_some _ _ found, forward, same.item, same.serial, same.quantity, same.source,
        same.target⟩
    · obtain ⟨m, found, forward, same⟩ := traced.mirrored key r movementId earlier names
      exact ⟨m, Table.get?_create_of_some _ _ found, forward, same⟩
  · intro serialId serial stored tracked binId
    have tracked₀ := (recorded.tracked _ _).mp tracked
    obtain ⟨postedBy', sum⟩ := total_recorded recorded (serialMovedInto serial.itemId serialId binId)
    have unmoved : data.serialId ≠ some serialId →
        total (serialMovedInto serial.itemId serialId binId) s' =
          total (serialMovedInto serial.itemId serialId binId) s := by
      intro other
      have nothing : serialMovedInto serial.itemId serialId binId (StockLedger.movement data postedBy') = 0 :=
        if_neg other
      omega
    rw [recorded.serials] at stored
    unfold moveSerial at stored
    cases named : data.serialId with
    | none =>
      rw [named] at stored
      rw [unmoved (by simp [named])]
      exact traced.placed serialId serial stored tracked₀ binId
    | some key =>
      rw [named] at stored
      obtain ⟨rfl, serial₀, stored₀, rfl⟩ | ⟨other, stored⟩ := Table.get?_update_cases stored
      · exact placed_carried admits recorded traced kept stored₀ named tracked₀ binId
      · rw [unmoved (by simp [named, Ne.symm other])]
        exact traced.placed serialId serial stored tracked₀ binId

end

/-! ### Runs -/

/-- A call that names a reversed movement only through `reverse`. -/
structure LedgerCall where
  call : CustodyCall
  plain : ∀ actorId data, call = .stock (.post actorId data) → data.reversesMovementId = none

namespace LedgerCall
variable {call : LedgerCall} {s : Stock} {movementId : Nat} {movement : StockMovement} {idempotencyKey : String}

def next (call : LedgerCall) (s : Stock) : Stock := call.call.next s

def Reverses (call : LedgerCall) (s : Stock) (movementId : Nat) (movement : StockMovement)
    (idempotencyKey : String) : Prop :=
  ∃ actorId reasonCode, call.call = .reverse actorId movementId reasonCode idempotencyKey ∧
    s.movements.get? movementId = some movement ∧ ∃ made s',
      Returns (StockLedger.reverse actorId movementId movement reasonCode idempotencyKey) s made s'

/-- Every reversal that returns undoes its movement. -/
def Restores (call : LedgerCall) (s : Stock) : Prop :=
  ∀ movementId movement idempotencyKey, call.Reverses s movementId movement idempotencyKey →
    Restored movementId movement (call.next s)

def KeyUsed (idempotencyKey : String) (s : Stock) : Prop :=
  ∃ key m, s.movements.get? key = some m ∧ m.idempotencyKey = idempotencyKey

/-- A reversal is under a key in use exactly if its movement has been reversed. -/
def Careful (call : LedgerCall) (s : Stock) : Prop :=
  ∀ movementId movement idempotencyKey, call.Reverses s movementId movement idempotencyKey →
    (KeyUsed idempotencyKey s ↔ Reversed movementId s)

def PartsNoSerial (call : LedgerCall) (s : Stock) : Prop :=
  ∀ data, call.call.Posts s data → ¬ PartsSerial data s

/-- A reversal that returns is of a movement that reverses none, and its key was in use or it posts. -/
theorem Reverses.cases (reverses : call.Reverses s movementId movement idempotencyKey) :
    s.movements.get? movementId = some movement ∧ movement.reversesMovementId = none ∧
      ((KeyUsed idempotencyKey s ∧ ∀ data, ¬ call.call.Posts s data) ∨
        (¬ KeyUsed idempotencyKey s ∧ ∃ reasonCode,
          call.call.Posts s (reversalData movementId movement reasonCode idempotencyKey))) := by
  obtain ⟨actorId, reasonCode, calls, stored, made, s', success⟩ := reverses
  unfold StockLedger.reverse at success
  simp only [returns_bind, returns_throwIf, not_not] at success
  obtain ⟨_, _, ⟨forward, rfl⟩, success⟩ := success
  refine ⟨stored, forward, ?_⟩
  rw [calls]
  obtain ⟨-, key, m, found, used⟩ | ⟨admits, -⟩ := post_cases success
  · refine Or.inl ⟨⟨key, m, found, used⟩, ?_⟩
    rintro data ⟨movement', stored', -, rfl, admits⟩
    exact admits.unused key m found used
  · refine Or.inr ⟨?_, reasonCode, movement, stored, forward, rfl, admits⟩
    rintro ⟨key, m, found, used⟩
    exact admits.unused key m found used

theorem posts_forward {data : MovementData} (posts : call.call.Posts s data) :
    data.reversesMovementId = none ∨ ∃ movementId movement reasonCode idempotencyKey,
      call.Reverses s movementId movement idempotencyKey ∧ s.movements.get? movementId = some movement ∧
      movement.reversesMovementId = none ∧ data = reversalData movementId movement reasonCode idempotencyKey := by
  obtain ⟨call, plain⟩ := call
  cases call with
  | stock call =>
    refine Or.inl ?_
    cases call with
    | post actorId data' =>
      obtain ⟨rfl, -⟩ := posts
      exact plain actorId data rfl
    | issue =>
      obtain ⟨r, loaded, -⟩ := posts
      obtain ⟨item, cost, -, -, rfl⟩ := loaded.data
      rfl
    | reserve | consume | release => exact posts.elim
  | reverse actorId movementId reasonCode idempotencyKey =>
    obtain ⟨movement, stored, forward, rfl, admits⟩ := posts
    obtain ⟨made, s', success, -⟩ := post_admitted admits
    refine Or.inr ⟨movementId, movement, reasonCode, idempotencyKey, ⟨actorId, reasonCode, rfl, stored, made, s', ?_⟩,
      stored, forward, rfl⟩
    unfold StockLedger.reverse
    simp only [returns_bind, returns_throwIf, not_not]
    exact ⟨(), s, ⟨forward, rfl⟩, success⟩

theorem traced_next (traced : Traced s) (kept : call.PartsNoSerial s) : Traced (call.next s) := by
  by_cases posting : ∃ data, call.call.Posts s data
  · obtain ⟨data, posts⟩ := posting
    obtain ⟨actorId, s₁, admits, recorded, same⟩ := CustodyCall.next_posts posts
    refine same.traced (recorded.traced admits traced (kept data posts) fun movementId names => ?_)
    obtain plain | ⟨movementId', movement, reasonCode, idempotencyKey, -, stored, forward, rfl⟩ :=
      posts_forward posts
    · rw [plain] at names
      cases names
    · cases names
      exact ⟨movement, stored, forward, rfl, rfl, rfl, rfl, rfl⟩
  · exact (CustodyCall.next_unposted (not_exists.mp posting)).traced traced

/-- One call undoes what it reverses, and reverses nothing twice, exactly when it is careful. -/
theorem restores_iff (traced : Traced s) (once : Once s) (kept : call.PartsNoSerial s) :
    (call.Restores s ∧ Once (call.next s)) ↔ call.Careful s := by
  have traced' := traced_next traced kept
  by_cases posting : ∃ data, call.call.Posts s data
  · obtain ⟨data, posts⟩ := posting
    obtain ⟨actorId, s₁, admits, recorded, same⟩ := CustodyCall.next_posts posts
    have counts : ∀ movementId, reversals movementId (call.next s) =
        reversals movementId s + if data.reversesMovementId = some movementId then 1 else 0 :=
      fun movementId => same.reversals.trans (reversals_recorded recorded)
    obtain ⟨postedBy, rows⟩ := recorded.movements
    have stored' : ∀ {movementId movement}, s.movements.get? movementId = some movement →
        (call.next s).movements.get? movementId = some movement := by
      intro movementId movement stored
      have rows' : (call.next s).movements = s.movements.create (StockLedger.movement data postedBy) :=
        same.movements.trans rows
      rw [rows']
      exact Table.get?_create_of_some _ _ stored
    have fresh : ∀ {movementId movement idempotencyKey}, call.Reverses s movementId movement idempotencyKey →
        ¬ KeyUsed idempotencyKey s ∧ data.reversesMovementId = some movementId := by
      intro movementId movement idempotencyKey reverses
      obtain ⟨-, -, ⟨-, unposted⟩ | ⟨unused, reasonCode, posts'⟩⟩ := reverses.cases
      · exact absurd posts (unposted data)
      · exact ⟨unused, by rw [CustodyCall.Posts.unique posts posts']; rfl⟩
    constructor
    · rintro ⟨-, once'⟩ movementId movement idempotencyKey reverses
      obtain ⟨unused, names⟩ := fresh reverses
      refine iff_of_false unused fun reversed => ?_
      have twice := once' movementId
      rw [counts, if_pos names] at twice
      have first := reversed_iff.mp reversed
      omega
    · intro careful
      have never : ∀ movementId, data.reversesMovementId = some movementId → reversals movementId s = 0 := by
        intro movementId names
        obtain plain | ⟨movementId', movement, reasonCode, idempotencyKey, reverses, -, -, rfl⟩ := posts_forward posts
        · rw [plain] at names
          cases names
        · cases names
          have unreversed : ¬ 1 ≤ reversals movementId s := fun counted =>
            (fresh reverses).1 ((careful _ _ _ reverses).mpr (reversed_iff.mpr counted))
          have nonneg : 0 ≤ reversals movementId s := reversals_nonneg
          omega
      refine ⟨fun movementId movement idempotencyKey reverses => ?_, fun movementId => ?_⟩
      · obtain ⟨-, names⟩ := fresh reverses
        obtain ⟨stored, forward, -⟩ := reverses.cases
        refine (traced'.restored_iff (stored' stored) forward).mpr ?_
        rw [counts, if_pos names, never movementId names]
        rfl
      · rw [counts]
        split
        · rename_i names
          rw [never movementId names]
          exact le_refl 1
        · have before := once movementId
          omega
  · -- the key of a reversal that posts nothing is in use
    have unposted := not_exists.mp posting
    have same := CustodyCall.next_unposted unposted
    have counts : ∀ movementId, reversals movementId (call.next s) = reversals movementId s :=
      fun _ => same.reversals
    have once' : Once (call.next s) := by
      intro movementId
      rw [counts]
      exact once movementId
    refine (and_iff_left once').trans ?_
    refine forall_congr' fun movementId => forall_congr' fun movement => forall_congr' fun idempotencyKey =>
      forall_congr' fun reverses => ?_
    obtain ⟨stored, forward, ⟨used, -⟩ | ⟨-, reasonCode, posts⟩⟩ := reverses.cases
    · have stored' : (call.next s).movements.get? movementId = some movement := by
        have rows : (call.next s).movements = s.movements := same.movements
        rw [rows]
        exact stored
      rw [traced'.restored_iff stored' forward, counts, iff_true_left used, reversed_iff]
      have before := once movementId
      omega
    · exact absurd posts (unposted _)

/-- In a run that parts no serial from its movements, every reversal that returns restores what its
movement touched, and no movement is reversed twice, exactly when every reversal is under a key in
use if its movement has been reversed, and under a new one if not. -/
theorem reversals_restore_iff (calls : List LedgerCall) (unitIds : List Nat) (bins : Table Nat InventoryBin)
    (items : Table Nat InventoryItem) (lots : Table Nat StockLot) (serials : Table Nat StockSerial)
    (unplaced : CustodyCall.Unplaced items serials)
    (kept : Runs.Met next PartsNoSerial calls (Stock.opening unitIds bins items lots serials)) :
    (Runs.Met next Restores calls (Stock.opening unitIds bins items lots serials) ∧
      Runs.Throughout next Once calls (Stock.opening unitIds bins items lots serials)) ↔
      Runs.Met next Careful calls (Stock.opening unitIds bins items lots serials) := by
  have traced : Traced (Stock.opening unitIds bins items lots serials) := by
    refine ⟨fun _ _ stored => (by cases stored), fun _ _ _ stored => (by cases stored), ?_⟩
    rintro serialId serial stored ⟨item, owner, tracking⟩ binId
    have nowhere : serial.currentBinId = none := unplaced serialId serial item stored owner tracking
    rw [nowhere]
    rfl
  refine Runs.met_throughout_iff_met_while (fun call s traced once kept => ?_) calls _ traced
    (fun _ => Int.zero_le_ofNat 1) kept
  exact ⟨restores_iff traced once kept, fun _ => traced_next traced kept⟩

/-! Five units received into one bin: the receipt is reversed under one key, which is used again.
And two receipts of five: the first one is reversed under two keys. -/

def plainBin : Stock :=
  Stock.opening [1] ⟨[(1, ⟨1, .available⟩)], nodup_one⟩
    ⟨[(1, ⟨.none, .standard, some 100, 1, "PHP"⟩)], nodup_one⟩ Table.empty Table.empty

def receive (idempotencyKey : String) : LedgerCall where
  call := .stock (.post (some 1)
    { itemId := 1, uomId := 1, toBinId := some 1, movementType := .receipt, quantityBase := 5, currency := "PHP"
      unitCostMinor := 100, referenceType := "goods_receipt", referenceId := 1, idempotencyKey })
  plain := by
    intro _ _ same
    cases same
    rfl

def undo (movementId : Nat) (idempotencyKey : String) : LedgerCall where
  call := .reverse (some 1) movementId "entered_twice" idempotencyKey
  plain := fun _ _ same => nomatch same

def retriedReversal : List LedgerCall := [receive "receipt-1", undo 0 "reversal-1", undo 0 "reversal-1"]

def reversedTwice : List LedgerCall :=
  [receive "receipt-1", receive "receipt-2", undo 0 "reversal-1", undo 0 "reversal-2"]

theorem partsNoSerial_unserialized (none' : s.serials.entries = []) : call.PartsNoSerial s := by
  rintro data - ⟨serialId, serial, -, stored, -⟩
  have member := (Table.mem_entries s.serials serialId serial).mpr stored
  rw [none'] at member
  cases member

theorem careful_undo (agree : (s.movements.exists? fun _ m => m.idempotencyKey = idempotencyKey) =
    s.movements.exists? fun _ m => m.reversesMovementId = some movementId) :
    (undo movementId idempotencyKey).Careful s := by
  rintro _ _ _ ⟨_, _, calls, -⟩
  cases calls
  have used := Table.exists?_iff s.movements fun _ m => m.idempotencyKey = idempotencyKey
  have reversed := Table.exists?_iff s.movements fun _ m => m.reversesMovementId = some movementId
  rw [agree] at used
  simp only [decide_eq_true_eq] at used reversed
  exact used.symm.trans reversed

theorem retriedReversal_restores : Runs.Met next Restores retriedReversal plainBin ∧
    Runs.Throughout next Once retriedReversal plainBin := by
  have kept : Runs.Met next PartsNoSerial retriedReversal plainBin :=
    ⟨partsNoSerial_unserialized (by decide +kernel), partsNoSerial_unserialized (by decide +kernel),
      partsNoSerial_unserialized (by decide +kernel), trivial⟩
  have careful : Runs.Met next Careful retriedReversal plainBin := by
    refine ⟨?_, careful_undo (by decide +kernel), careful_undo (by decide +kernel), trivial⟩
    rintro _ _ _ ⟨_, _, calls, -⟩
    cases calls
  exact (reversals_restore_iff retriedReversal plainBin.unitIds plainBin.bins plainBin.items plainBin.lots
    plainBin.serials (fun _ _ _ stored => nomatch stored) kept).mpr careful

theorem reversed_twice : ¬ ∀ (calls : List LedgerCall) (unitIds : List Nat) (bins : Table Nat InventoryBin)
    (items : Table Nat InventoryItem) (lots : Table Nat StockLot) (serials : Table Nat StockSerial),
    CustodyCall.Unplaced items serials →
    Runs.Met next Restores calls (Stock.opening unitIds bins items lots serials) ∧
      Runs.Throughout next Once calls (Stock.opening unitIds bins items lots serials) := by
  intro always
  obtain ⟨-, once⟩ := always reversedTwice plainBin.unitIds plainBin.bins plainBin.items plainBin.lots
    plainBin.serials fun _ _ _ stored => nomatch stored
  have final : reversals 0 (Runs.reached next reversedTwice plainBin) ≤ 1 := once.last 0
  have twice : reversals 0 (Runs.reached next reversedTwice plainBin) = 2 := by decide +kernel
  omega

end LedgerCall

end VtsaCsms.Inventory
