import VtsaCsms.Inventory.StockMoves

/-!
# Serial and lot custody

`StockLedger::validateTracking` looks for the serial of a posting in its source bin, and for
the lot of a posting in the catalogue. A receipt has no source bin, and no query counts the
stock of one lot.
-/
namespace VtsaCsms.Inventory
open Foundation Foundation.Action StockAvailabilityQuery StockLedger StockReservationService WorkOrderPartsService

/-! ### Calls -/

/-- The stock calls and `StockLedger::reverse`, which is given a stored movement. -/
inductive CustodyCall where
  | stock (call : StockCall)
  | reverse (actorId : Option Nat) (movementId : Nat) (reasonCode idempotencyKey : String)

namespace CustodyCall

def perform : CustodyCall → Action Stock Throwable Unit
  | stock call => call.perform
  | reverse actorId movementId reasonCode idempotencyKey => do
    let found ← read fun s => s.movements.get? movementId
    let movement ← orThrow found (.modelNotFound "StockMovement")
    let _ ← StockLedger.reverse actorId movementId movement reasonCode idempotencyKey

def next (call : CustodyCall) (s : Stock) : Stock := after call.perform s

/-- The call records a posting of the data. -/
def Posts : CustodyCall → Stock → MovementData → Prop
  | stock (.post actorId posted), s, data => data = posted ∧ Admits actorId data s
  | stock (.issue actorId key sourceBinId quantityBase idempotencyKey), s, data => ∃ r,
      Loaded key sourceBinId quantityBase idempotencyKey r data s ∧ Consumable key quantityBase r s ∧
        Admits actorId data s
  | stock (.reserve _), _, _ | stock (.consume _ _), _, _ | stock (.release _), _, _ => False
  | reverse actorId movementId reasonCode idempotencyKey, s, data => ∃ movement,
      s.movements.get? movementId = some movement ∧ movement.reversesMovementId = none ∧
        data = reversalData movementId movement reasonCode idempotencyKey ∧ Admits actorId data s

end CustodyCall

/-! ### What custody is -/

/-- The serials of an item whose current bin is the bin. -/
def serialsIn (itemId binId : Nat) (s : Stock) : Int :=
  s.serials.sumOver fun _ serial => if serial.itemId = itemId ∧ serial.currentBinId = some binId then 1 else 0

/-- What movements of a lot carry to, or from, a bin. -/
def lotMoved (bin : StockMovement → Option Nat) (itemId lotId binId : Nat) (s : Stock) : Int :=
  s.movements.sumOver fun _ m =>
    if m.itemId = itemId ∧ m.lotId = some lotId ∧ bin m = some binId then m.quantityBase else 0

def lotOnHand (itemId lotId binId : Nat) (s : Stock) : Int :=
  lotMoved StockMovement.toBinId itemId lotId binId s - lotMoved StockMovement.fromBinId itemId lotId binId s

def Tracked (itemId : Nat) (tracking : TrackingType) (s : Stock) : Prop :=
  ∃ item, s.items.get? itemId = some item ∧ item.trackingType = tracking

structure Custody (s : Stock) : Prop where
  serials : ∀ itemId binId, Tracked itemId .serial s → onHand itemId binId s = serialsIn itemId binId s
  single : ∀ key serial binId binId', s.serials.get? key = some serial → serial.currentBinId = some binId →
    serial.currentBinId = some binId' → binId = binId'
  lots : ∀ itemId lotId binId, Tracked itemId .lot s → 0 ≤ lotOnHand itemId lotId binId s

/-- A posting that parts the serials or the lots from the movements. -/
inductive Misplaces (data : MovementData) (s : Stock) : Prop
  /-- A receipt of a serial that lies in some bin. -/
  | held (key : Nat) (serial : StockSerial) (tracked : Tracked data.itemId .serial s)
      (receipt : data.fromBinId = none) (named : data.serialId = some key)
      (stored : s.serials.get? key = some serial) (lies : serial.currentBinId ≠ none)
  /-- More of a lot than the source bin holds. -/
  | short (lotId binId : Nat) (tracked : Tracked data.itemId .lot s) (named : data.lotId = some lotId)
      (source : data.fromBinId = some binId) (less : lotOnHand data.itemId lotId binId s < data.quantityBase)
  /-- A lot-tracked item under a serial of a serialized one. -/
  | foreign (key : Nat) (serial : StockSerial) (tracked : Tracked data.itemId .lot s)
      (named : data.serialId = some key) (stored : s.serials.get? key = some serial)
      (owner : Tracked serial.itemId .serial s) (moved : serial.currentBinId ≠ data.toBinId)

/-! ### Postings -/

theorem Tracked.unique {itemId : Nat} {tracking tracking' : TrackingType} {s : Stock}
    (first : Tracked itemId tracking s) (second : Tracked itemId tracking' s) : tracking = tracking' := by
  obtain ⟨item, stored, rfl⟩ := first
  obtain ⟨item', stored', rfl⟩ := second
  rw [stored] at stored'
  cases stored'
  rfl

namespace StockLedger

theorem Recorded.tracked {data : MovementData} {s s' : Stock} (recorded : Recorded data s s') (itemId : Nat)
    (tracking : TrackingType) : Tracked itemId tracking s' ↔ Tracked itemId tracking s := by
  unfold Tracked
  rw [recorded.items]

theorem any_bin (bin : Option Nat) (binId : Nat) : bin.any (fun key => decide (key = binId)) = true ↔ bin = some binId := by
  cases bin <;> simp

theorem Recorded.onHand {data : MovementData} {s s' : Stock} (recorded : Recorded data s s')
    (itemId binId : Nat) : onHand itemId binId s' = onHand itemId binId s +
      (if data.itemId = itemId ∧ data.toBinId = some binId then data.quantityBase else 0) -
      (if data.itemId = itemId ∧ data.fromBinId = some binId then data.quantityBase else 0) := by
  have moved := recorded.moved (fun key => decide (key = binId)) itemId
  simp only [any_bin] at moved
  exact moved

theorem Recorded.lotOnHand {data : MovementData} {s s' : Stock} (recorded : Recorded data s s')
    (itemId lotId binId : Nat) : lotOnHand itemId lotId binId s' = lotOnHand itemId lotId binId s +
      (if data.itemId = itemId ∧ data.lotId = some lotId ∧ data.toBinId = some binId then data.quantityBase
        else 0) -
      (if data.itemId = itemId ∧ data.lotId = some lotId ∧ data.fromBinId = some binId then data.quantityBase
        else 0) := by
  obtain ⟨postedBy, rows⟩ := recorded.movements
  unfold Inventory.lotOnHand lotMoved
  rw [rows, Table.sumOver_create, Table.sumOver_create]
  have reorder : ∀ a b x y : Int, a + x - (b + y) = a - b + x - y := by
    intro a b x y
    omega
  apply reorder

theorem Recorded.serialsIn {data : MovementData} {s s' : Stock} (recorded : Recorded data s s') {key : Nat}
    {serial : StockSerial} (named : data.serialId = some key) (stored : s.serials.get? key = some serial)
    (itemId binId : Nat) : serialsIn itemId binId s' = serialsIn itemId binId s -
      (if serial.itemId = itemId ∧ serial.currentBinId = some binId then 1 else 0) +
      (if serial.itemId = itemId ∧ data.toBinId = some binId then 1 else 0) := by
  unfold Inventory.serialsIn
  rw [recorded.serials]
  unfold moveSerial
  rw [named]
  apply Table.sumOver_update
  exact stored

theorem Recorded.serials_kept {data : MovementData} {s s' : Stock} (recorded : Recorded data s s')
    (unnamed : ∀ key, data.serialId = some key → s.serials.get? key = none) : s'.serials = s.serials := by
  rw [recorded.serials]
  unfold moveSerial
  cases named : data.serialId with
  | none => rfl
  | some key =>
    apply Table.update_absent
    exact unnamed key named

/-! What `validateTracking` found. -/

theorem Admits.serial {actorId : Option Nat} {data : MovementData} {s : Stock} (admits : Admits actorId data s)
    (tracked : Tracked data.itemId .serial s) : ∃ key serial, data.serialId = some key ∧ data.quantityBase = 1 ∧
      s.serials.get? key = some serial ∧ serial.itemId = data.itemId ∧
      ∀ binId, data.fromBinId = some binId → serial.currentBinId = some binId := by
  obtain ⟨item, stored, checked⟩ := admits.tracked
  have tracking := tracked.unique ⟨item, stored, rfl⟩
  unfold validateTracking at checked
  simp only [← tracking, returns_bind, returns_throwIf, returns_read, returns_orThrow] at checked
  obtain ⟨_, s₁, ⟨named, rfl⟩, _, _, ⟨rfl, rfl⟩, serial, _, ⟨found, rfl⟩, held, -⟩ := checked
  simp only [not_or, not_not] at named
  obtain ⟨named, one⟩ := named
  obtain ⟨row, owner⟩ := Option.filter_eq_some_iff.mp found
  obtain ⟨key, named⟩ := Option.ne_none_iff_exists'.mp named
  rw [named, Option.bind_some] at row
  refine ⟨key, serial, named, one, row, of_decide_eq_true owner, ?_⟩
  intro binId source
  obtain ⟨bin, stored'⟩ := admits.source binId source
  unfold sourceBin at held
  simpa [source, stored'] using held

theorem Admits.untracked {actorId : Option Nat} {data : MovementData} {s : Stock} (admits : Admits actorId data s)
    (tracked : Tracked data.itemId .none s) : data.serialId = none := by
  obtain ⟨item, stored, checked⟩ := admits.tracked
  have tracking := tracked.unique ⟨item, stored, rfl⟩
  unfold validateTracking at checked
  simp only [← tracking, returns_throwIf, not_or, not_not] at checked
  exact checked.1.2

end StockLedger

/-! ### What a posting does to custody -/

section Posting
variable {actorId : Option Nat} {data : MovementData} {s s' : Stock}

/-- The movements and the serials tell the same of every serialized item. -/
def SerialsAgree (s : Stock) : Prop :=
  ∀ itemId binId, Tracked itemId .serial s → onHand itemId binId s = serialsIn itemId binId s

theorem serialsAgree_of_serial (admits : Admits actorId data s) (recorded : Recorded data s s')
    (agree : SerialsAgree s) (tracked : Tracked data.itemId .serial s) :
    SerialsAgree s' ↔ ¬ Misplaces data s := by
  obtain ⟨key, serial, named, one, stored, owner, held⟩ := admits.serial tracked
  constructor
  · intro agree' misplaced
    cases misplaced with
    | held _ _ _ receipt named' stored' lies =>
      rw [named] at named'
      cases named'
      rw [stored] at stored'
      cases stored'
      obtain ⟨binId, here⟩ := Option.ne_none_iff_exists'.mp lies
      have before := agree data.itemId binId tracked
      have later := agree' data.itemId binId ((recorded.tracked _ _).mpr tracked)
      rw [recorded.onHand, recorded.serialsIn named stored, owner, receipt, here, one] at later
      simp at later
      omega
    | short _ _ tracked' => cases tracked.unique tracked'
    | foreign _ _ tracked' => cases tracked.unique tracked'
  · intro placed itemId binId tracked'
    have before := agree itemId binId ((recorded.tracked _ _).mp tracked')
    have source : data.fromBinId = serial.currentBinId := by
      cases from' : data.fromBinId with
      | some binId => rw [held binId from']
      | none =>
        by_contra lies
        exact placed (.held key serial tracked from' named stored (Ne.symm lies))
    rw [recorded.onHand, recorded.serialsIn named stored, owner, source, one, before]
    omega

theorem serialsAgree_of_lot (recorded : Recorded data s s') (agree : SerialsAgree s)
    (tracked : Tracked data.itemId .lot s) : SerialsAgree s' ↔
      ∀ key serial, data.serialId = some key → s.serials.get? key = some serial →
        Tracked serial.itemId .serial s → serial.currentBinId = data.toBinId := by
  have other : ∀ itemId, Tracked itemId .serial s → data.itemId ≠ itemId := by
    rintro itemId tracked' rfl
    cases tracked.unique tracked'
  have kept : ∀ itemId binId, Tracked itemId .serial s → onHand itemId binId s' = onHand itemId binId s := by
    intro itemId binId tracked'
    rw [recorded.onHand]
    simp [other itemId tracked']
  constructor
  · intro agree' key serial named stored owner
    by_contra apart
    -- the bin the serial left, or the one it came to, counts it wrongly
    have counted : ∀ binId, (if serial.currentBinId = some binId then (1 : Int) else 0) =
        if data.toBinId = some binId then 1 else 0 := by
      intro binId
      have before := agree serial.itemId binId owner
      have later := agree' serial.itemId binId ((recorded.tracked _ _).mpr owner)
      rw [kept _ _ owner, recorded.serialsIn named stored, before] at later
      simp only [true_and] at later
      omega
    cases here : serial.currentBinId with
    | some binId =>
      have count := counted binId
      rw [here] at count apart
      simp [Ne.symm apart] at count
    | none =>
      cases there : data.toBinId with
      | none =>
        exact apart (by rw [here, there])
      | some binId =>
        have count := counted binId
        simp [here, there] at count
  · intro same itemId binId tracked'
    have tracked₀ := (recorded.tracked _ _).mp tracked'
    rw [kept itemId binId tracked₀, agree itemId binId tracked₀]
    cases named : data.serialId with
    | none =>
      unfold serialsIn
      rw [recorded.serials_kept (by simp [named])]
    | some key =>
      cases stored : s.serials.get? key with
      | none =>
        unfold serialsIn
        rw [recorded.serials_kept (by simp [named, stored])]
      | some serial =>
        rw [recorded.serialsIn named stored]
        by_cases mine : serial.itemId = itemId
        · subst mine
          rw [same key serial named stored tracked₀]
          omega
        · simp [mine]

theorem serialsAgree_of_untracked (admits : Admits actorId data s) (recorded : Recorded data s s')
    (agree : SerialsAgree s) (tracked : Tracked data.itemId .none s) : SerialsAgree s' := by
  have unnamed := admits.untracked tracked
  intro itemId binId tracked'
  have tracked₀ := (recorded.tracked _ _).mp tracked'
  have other : data.itemId ≠ itemId := by
    rintro rfl
    cases tracked.unique tracked₀
  have before := agree itemId binId tracked₀
  unfold serialsIn at before ⊢
  rw [recorded.serials_kept (by simp [unnamed]), recorded.onHand, ← before]
  simp [other]

/-- No bin holds less than nothing of a lot. -/
def LotsCovered (s : Stock) : Prop :=
  ∀ itemId lotId binId, Tracked itemId .lot s → 0 ≤ lotOnHand itemId lotId binId s

theorem lotsCovered_recorded (admits : Admits actorId data s) (recorded : Recorded data s s')
    (covered : LotsCovered s) : LotsCovered s' ↔
      ∀ lotId binId, Tracked data.itemId .lot s → data.lotId = some lotId → data.fromBinId = some binId →
        data.quantityBase ≤ lotOnHand data.itemId lotId binId s := by
  have positive := admits.positive
  have apart := admits.apart
  constructor
  · intro covered' lotId binId tracked named source
    have later := covered' data.itemId lotId binId ((recorded.tracked _ _).mpr tracked)
    have target : data.toBinId ≠ some binId := by
      intro same
      exact apart ⟨by simp [source], by rw [source, same]⟩
    rw [recorded.lotOnHand] at later
    simp [named, source, target] at later
    omega
  · intro enough itemId lotId binId tracked'
    have tracked := (recorded.tracked _ _).mp tracked'
    have before := covered itemId lotId binId tracked
    rw [recorded.lotOnHand]
    by_cases taken : data.itemId = itemId ∧ data.lotId = some lotId ∧ data.fromBinId = some binId
    · obtain ⟨rfl, named, source⟩ := taken
      have within := enough lotId binId tracked named source
      simp only [named, source, true_and, if_true]
      split <;> omega
    · rw [if_neg taken]
      split <;> omega

theorem custody_recorded (admits : Admits actorId data s) (recorded : Recorded data s s') (custody : Custody s) :
    Custody s' ↔ ¬ Misplaces data s := by
  have agree : SerialsAgree s := custody.serials
  have covered : LotsCovered s := custody.lots
  have single : ∀ key serial binId binId', s'.serials.get? key = some serial →
      serial.currentBinId = some binId → serial.currentBinId = some binId' → binId = binId' := by
    intro key serial binId binId' _ here there
    rw [here] at there
    exact Option.some.inj there
  have parts : Custody s' ↔ SerialsAgree s' ∧ LotsCovered s' :=
    ⟨fun c => ⟨c.serials, c.lots⟩, fun c => ⟨c.1, single, c.2⟩⟩
  rw [parts, lotsCovered_recorded admits recorded covered]
  obtain ⟨item, stored, -⟩ := admits.tracked
  cases tracking : item.trackingType with
  | serial =>
    have tracked : Tracked data.itemId .serial s := ⟨item, stored, tracking⟩
    rw [serialsAgree_of_serial admits recorded agree tracked]
    apply and_iff_left
    intro lotId binId tracked'
    cases tracked.unique tracked'
  | lot =>
    have tracked : Tracked data.itemId .lot s := ⟨item, stored, tracking⟩
    rw [serialsAgree_of_lot recorded agree tracked]
    constructor
    · rintro ⟨same, enough⟩ misplaced
      cases misplaced with
      | held _ _ tracked' => cases tracked.unique tracked'
      | short lotId binId _ named source =>
        have within := enough lotId binId tracked named source
        omega
      | foreign key serial _ named stored owner moved => exact moved (same key serial named stored owner)
    · intro placed
      constructor
      · intro key serial named stored owner
        by_contra moved
        exact placed (.foreign key serial tracked named stored owner moved)
      · intro lotId binId _ named source
        by_contra less
        exact placed (.short lotId binId tracked named source (not_le.mp less))
  | none =>
    have tracked : Tracked data.itemId .none s := ⟨item, stored, tracking⟩
    constructor
    · rintro - misplaced
      cases misplaced with
      | held _ _ tracked' => cases tracked.unique tracked'
      | short _ _ tracked' => cases tracked.unique tracked'
      | foreign _ _ tracked' => cases tracked.unique tracked'
    · intro _
      refine ⟨serialsAgree_of_untracked admits recorded agree tracked, ?_⟩
      intro lotId binId tracked'
      cases tracked.unique tracked'

end Posting

/-! ### Runs -/

/-- The movements, the serials and the items are the same. -/
structure SameLedger (s s' : Stock) : Prop where
  movements : s'.movements = s.movements
  serials : s'.serials = s.serials
  items : s'.items = s.items

theorem SameLedger.symm {s s' : Stock} (same : SameLedger s s') : SameLedger s' s :=
  ⟨same.movements.symm, same.serials.symm, same.items.symm⟩

theorem SameLedger.custody {s s' : Stock} (same : SameLedger s s') : Custody s' ↔ Custody s := by
  have parts : ∀ {s₁ s₂ : Stock}, SameLedger s₁ s₂ → Custody s₁ → Custody s₂ := by
    intro s₁ s₂ same custody
    refine ⟨?_, ?_, ?_⟩
    · unfold Tracked onHand heldIn StockAvailabilityQuery.moved serialsIn
      rw [same.movements, same.serials, same.items]
      exact custody.serials
    · rw [same.serials]
      exact custody.single
    · unfold Tracked lotOnHand lotMoved
      rw [same.movements, same.items]
      exact custody.lots
  exact ⟨parts same.symm, parts same⟩

theorem StockReservationService.Rewritten.sameLedger {key : Nat} {r r' : StockReservation} {s s' : Stock}
    (rewritten : Rewritten key r r' s s') : SameLedger s s' := by
  rw [rewritten.others]
  exact ⟨rfl, rfl, rfl⟩

namespace CustodyCall

theorem next_stock (call : StockCall) (s : Stock) : next (stock call) s = call.next s := rfl

theorem next_reverse {movementId : Nat} {movement : StockMovement} {s : Stock} (actorId : Option Nat)
    (reasonCode idempotencyKey : String) (stored : s.movements.get? movementId = some movement)
    (forward : movement.reversesMovementId = none) :
    next (reverse actorId movementId reasonCode idempotencyKey) s =
      StockCall.next (.post actorId (reversalData movementId movement reasonCode idempotencyKey)) s := by
  have loaded : Returns (do
      let found ← read fun s => s.movements.get? movementId
      orThrow found (.modelNotFound "StockMovement") : Action Stock Throwable StockMovement) s movement s := by
    simp [stored]
  have allowed : StockLedger.reverse actorId movementId movement reasonCode idempotencyKey =
      StockLedger.post actorId (reversalData movementId movement reasonCode idempotencyKey) := by
    unfold StockLedger.reverse throwIf
    rw [if_neg (not_not.mpr forward)]
    rfl
  have step : next (reverse actorId movementId reasonCode idempotencyKey) s = after (do
      let movement ← (do
        let found ← read fun s => s.movements.get? movementId
        orThrow found (.modelNotFound "StockMovement") : Action Stock Throwable StockMovement)
      let _ ← StockLedger.reverse actorId movementId movement reasonCode idempotencyKey) s := rfl
  rw [step, after_bind_of_returns loaded, allowed]
  rfl

theorem next_reverse_refused {actorId : Option Nat} {movementId : Nat} {reasonCode idempotencyKey : String}
    {s : Stock} (refused : ∀ movement, s.movements.get? movementId = some movement →
      movement.reversesMovementId ≠ none) :
    next (reverse actorId movementId reasonCode idempotencyKey) s = s := by
  unfold next perform
  cases stored : s.movements.get? movementId with
  | none =>
    rw [after_read, stored]
    rfl
  | some movement =>
    have loaded : Returns (read fun s => s.movements.get? movementId : Action Stock Throwable _) s (some movement) s := by
      simp [stored]
    have thrown : Throws (StockLedger.reverse actorId movementId movement reasonCode idempotencyKey) s
        (.domain "A reversal movement cannot itself be reversed automatically.") s :=
      Throws.bind (Throws.throwIf (refused movement stored))
    rw [after_bind_of_returns loaded]
    exact congrArg Prod.snd (Throws.bind thrown)

variable {call : CustodyCall}

/-- A posting call records its posting, and at most rewrites a reservation after it. -/
theorem next_posts {s : Stock} {data : MovementData} (posts : call.Posts s data) :
    ∃ actorId s₁, Admits actorId data s ∧ Recorded data s s₁ ∧ SameLedger s₁ (next call s) := by
  cases call with
  | stock call =>
    cases call with
    | post actorId =>
      obtain ⟨rfl, admits⟩ := posts
      obtain ⟨-, refused⟩ | ⟨-, recorded⟩ := StockCall.next_post actorId data s
      · exact absurd admits refused
      · exact ⟨actorId, _, admits, recorded, rfl, rfl, rfl⟩
    | issue actorId =>
      obtain ⟨r, loaded, consumable, admits⟩ := posts
      obtain ⟨s₁, recorded, rewritten⟩ := StockCall.next_issue_admitted loaded admits consumable
      exact ⟨actorId, s₁, admits, recorded, rewritten.sameLedger⟩
    | reserve => exact posts.elim
    | consume => exact posts.elim
    | release => exact posts.elim
  | reverse actorId movementId reasonCode idempotencyKey =>
    obtain ⟨movement, stored, forward, rfl, admits⟩ := posts
    obtain ⟨-, refused⟩ | ⟨-, recorded⟩ := StockCall.next_post actorId
      (reversalData movementId movement reasonCode idempotencyKey) s
    · exact absurd admits refused
    · rw [next_reverse actorId reasonCode idempotencyKey stored forward]
      exact ⟨actorId, _, admits, recorded, rfl, rfl, rfl⟩

theorem next_unposted {s : Stock} (unposted : ∀ data, ¬ call.Posts s data) : SameLedger s (next call s) := by
  cases call with
  | stock call =>
    rw [next_stock]
    cases call with
    | post actorId data =>
      obtain ⟨same, -⟩ | ⟨admits, -⟩ := StockCall.next_post actorId data s
      · rw [same]
        exact ⟨rfl, rfl, rfl⟩
      · exact absurd ⟨rfl, admits⟩ (unposted data)
    | reserve data =>
      obtain ⟨same, -⟩ | ⟨-, made⟩ := StockCall.next_reserve data s
      · rw [same]
        exact ⟨rfl, rfl, rfl⟩
      · rw [made]
        exact ⟨rfl, rfl, rfl⟩
    | consume key quantityBase =>
      obtain same | ⟨r, -, rewritten⟩ := StockCall.next_consume key quantityBase s
      · rw [same]
        exact ⟨rfl, rfl, rfl⟩
      · exact rewritten.sameLedger
    | release key =>
      obtain same | ⟨r, -, rewritten⟩ := StockCall.next_release key s
      · rw [same]
        exact ⟨rfl, rfl, rfl⟩
      · exact rewritten.sameLedger
    | issue actorId key sourceBinId quantityBase idempotencyKey =>
      obtain same | ⟨r, data, s₁, loaded, posted, consumable, rewritten⟩ :=
        StockCall.next_issue actorId key sourceBinId quantityBase idempotencyKey s
      · rw [same]
        exact ⟨rfl, rfl, rfl⟩
      · obtain rfl | ⟨admits, recorded⟩ := posted
        · exact rewritten.sameLedger
        · have held : Consumable key quantityBase r s :=
            { consumable with stored := by rw [← recorded.reservations]; exact consumable.stored }
          exact absurd ⟨r, loaded, held, admits⟩ (unposted data)
  | reverse actorId movementId reasonCode idempotencyKey =>
    by_cases loads : ∃ movement, s.movements.get? movementId = some movement ∧ movement.reversesMovementId = none
    · obtain ⟨movement, stored, forward⟩ := loads
      rw [next_reverse actorId reasonCode idempotencyKey stored forward]
      obtain ⟨same, -⟩ | ⟨admits, -⟩ := StockCall.next_post actorId
        (reversalData movementId movement reasonCode idempotencyKey) s
      · rw [same]
        exact ⟨rfl, rfl, rfl⟩
      · exact absurd ⟨movement, stored, forward, rfl, admits⟩ (unposted _)
    · rw [next_reverse_refused]
      · exact ⟨rfl, rfl, rfl⟩
      · intro movement stored reversal
        exact loads ⟨movement, stored, reversal⟩

/-- The call records a posting that misplaces a serial or a lot. -/
def Misplacing (call : CustodyCall) (s : Stock) : Prop := ∃ data, call.Posts s data ∧ Misplaces data s

theorem Posts.unique {s : Stock} {data data' : MovementData} (first : call.Posts s data)
    (second : call.Posts s data') : data = data' := by
  cases call with
  | stock call =>
    cases call with
    | post => exact first.1.trans second.1.symm
    | issue =>
      obtain ⟨r, loaded, -⟩ := first
      obtain ⟨r', loaded', -⟩ := second
      exact (loaded.unique loaded').2
    | reserve => exact first.elim
    | consume => exact first.elim
    | release => exact first.elim
  | reverse =>
    obtain ⟨movement, stored, -, rfl, -⟩ := first
    obtain ⟨movement', stored', -, rfl, -⟩ := second
    rw [stored] at stored'
    cases stored'
    rfl

theorem custody_next (call : CustodyCall) (s : Stock) (custody : Custody s) :
    Custody (next call s) ↔ ¬ call.Misplacing s := by
  by_cases posting : ∃ data, call.Posts s data
  · obtain ⟨data, posts⟩ := posting
    obtain ⟨actorId, s₁, admits, recorded, same⟩ := next_posts posts
    rw [same.custody, custody_recorded admits recorded custody]
    apply not_congr
    constructor
    · exact fun misplaces => ⟨data, posts, misplaces⟩
    · rintro ⟨data', posts', misplaces⟩
      rw [posts.unique posts']
      exact misplaces
  · have unposted := not_exists.mp posting
    rw [(next_unposted unposted).custody]
    exact iff_of_true custody fun ⟨data, posts, _⟩ => unposted data posts

/-- Before the first movement, no serial of a serialized item lies in a bin. -/
def Unplaced (items : Table Nat InventoryItem) (serials : Table Nat StockSerial) : Prop :=
  ∀ key serial item, serials.get? key = some serial → items.get? serial.itemId = some item →
    item.trackingType = .serial → serial.currentBinId = none

theorem one_le_serialsIn {key binId : Nat} {serial : StockSerial} {s : Stock}
    (stored : s.serials.get? key = some serial) (lies : serial.currentBinId = some binId) :
    1 ≤ serialsIn serial.itemId binId s := by
  have single := Table.sumOver_single s.serials key fun _ => 1
  rw [stored, Option.map_some, Option.getD_some] at single
  unfold serialsIn
  calc
    1 = s.serials.sumOver fun key' _ => if key' = key then 1 else 0 := single.symm
    _ ≤ _ := by
      apply Table.sumOver_mono
      intro key' serial' stored'
      by_cases here : key' = key
      · subst here
        rw [stored] at stored'
        cases stored'
        simp [lies]
      · rw [if_neg here]
        split <;> omega

theorem custody_opening (unitIds : List Nat) (bins : Table Nat InventoryBin) (items : Table Nat InventoryItem)
    (lots : Table Nat StockLot) (serials : Table Nat StockSerial) :
    Custody (Stock.opening unitIds bins items lots serials) ↔ Unplaced items serials := by
  constructor
  · intro custody key serial item stored owner tracking
    by_contra lies
    obtain ⟨binId, here⟩ := Option.ne_none_iff_exists'.mp lies
    have count := one_le_serialsIn (s := Stock.opening unitIds bins items lots serials) stored here
    have held := custody.serials serial.itemId binId ⟨item, owner, tracking⟩
    have nothing : onHand serial.itemId binId (Stock.opening unitIds bins items lots serials) = 0 := rfl
    omega
  · intro unplaced
    refine ⟨?_, ?_, ?_⟩
    · rintro itemId binId ⟨item, owner, tracking⟩
      have nothing : onHand itemId binId (Stock.opening unitIds bins items lots serials) = 0 := rfl
      rw [nothing]
      unfold serialsIn
      rw [Table.sumOver_congr (g := fun _ _ => 0), Table.sumOver_zero]
      intro key serial stored
      rw [if_neg]
      rintro ⟨rfl, lies⟩
      rw [unplaced key serial item stored owner tracking] at lies
      cases lies
    · intro key serial binId binId' _ here there
      rw [here] at there
      exact Option.some.inj there
    · exact fun _ _ _ _ => le_refl 0

/-- In a run from any catalogue the serials and the lots stay with the movements exactly when no
serial lies in a bin beforehand and no posting, issue or reversal misplaces one. -/
theorem custody_iff (unitIds : List Nat) (bins : Table Nat InventoryBin) (items : Table Nat InventoryItem)
    (lots : Table Nat StockLot) (serials : Table Nat StockSerial) (calls : List CustodyCall) :
    Runs.Throughout next Custody calls (Stock.opening unitIds bins items lots serials) ↔
      Unplaced items serials ∧ Runs.Met next (fun call s => ¬ call.Misplacing s) calls
        (Stock.opening unitIds bins items lots serials) := by
  have along := fun holds => Runs.throughout_iff_met (Q := fun _ => True) (fun _ _ _ => trivial)
    (fun call s _ custody => custody_next call s custody) calls
    (Stock.opening unitIds bins items lots serials) trivial holds
  constructor
  · intro all
    have start : Custody (Stock.opening unitIds bins items lots serials) := all [] List.nil_prefix
    exact ⟨(custody_opening ..).mp start, (along start).mp all⟩
  · rintro ⟨unplaced, met⟩
    exact (along ((custody_opening ..).mpr unplaced)).mpr met

/-! One serial, received into one bin and then into another. -/

def oneSerial : Stock :=
  Stock.opening [1] ⟨[(1, ⟨1, .available⟩), (2, ⟨1, .available⟩)], nodup_two⟩
    ⟨[(1, ⟨.serial, .standard, some 100, 1, "PHP"⟩)], nodup_one⟩ Table.empty
    ⟨[(1, ⟨1, none, "received"⟩)], nodup_one⟩

def receiptOf (binId referenceId : Nat) (idempotencyKey : String) : CustodyCall :=
  stock (.post (some 1)
    { itemId := 1, uomId := 1, toBinId := some binId, serialId := some 1, movementType := .receipt
      quantityBase := 1, currency := "PHP", unitCostMinor := 100, referenceType := "goods_receipt"
      referenceId, idempotencyKey })

theorem custody_fails : ¬ ∀ (unitIds : List Nat) (bins : Table Nat InventoryBin)
    (items : Table Nat InventoryItem) (lots : Table Nat StockLot) (serials : Table Nat StockSerial)
    (calls : List CustodyCall), Unplaced items serials →
    Runs.Throughout next Custody calls (Stock.opening unitIds bins items lots serials) := by
  intro always
  have unplaced : Unplaced oneSerial.items oneSerial.serials := by
    intro key serial item stored
    obtain ⟨rfl, rfl⟩ : key = 1 ∧ serial = ⟨1, none, "received"⟩ := by
      have member := (Table.mem_entries oneSerial.serials key serial).mpr stored
      simpa [oneSerial, Stock.opening] using member
    exact fun _ _ => rfl
  have final := (always oneSerial.unitIds oneSerial.bins oneSerial.items oneSerial.lots oneSerial.serials
    [receiptOf 1 1 "receipt-1", receiptOf 2 2 "receipt-2"] unplaced).last
  have same : Stock.opening oneSerial.unitIds oneSerial.bins oneSerial.items oneSerial.lots oneSerial.serials =
    oneSerial := rfl
  rw [same] at final
  have serialized : Tracked 1 .serial
      (Runs.reached next [receiptOf 1 1 "receipt-1", receiptOf 2 2 "receipt-2"] oneSerial) :=
    ⟨⟨.serial, .standard, some 100, 1, "PHP"⟩, by decide +kernel, rfl⟩
  have told := final.serials 1 1 serialized
  have counted : onHand 1 1
      (Runs.reached next [receiptOf 1 1 "receipt-1", receiptOf 2 2 "receipt-2"] oneSerial) = 1 ∧
    serialsIn 1 1 (Runs.reached next [receiptOf 1 1 "receipt-1", receiptOf 2 2 "receipt-2"] oneSerial) = 0 := by
    decide +kernel
  omega

end CustodyCall
end VtsaCsms.Inventory
