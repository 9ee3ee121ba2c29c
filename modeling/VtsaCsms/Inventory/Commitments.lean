import VtsaCsms.Inventory.StockMoves

/-!
# Committed stock

Whether the stock of a warehouse covers the reservations in it, and the stock of a bin those
that name it. A check at a bin does not see what the warehouse has reserved without a bin.
-/
namespace VtsaCsms.Inventory
open Foundation Foundation.Action StockAvailabilityQuery StockLedger StockReservationService WorkOrderPartsService

/-- On hand in the bins of available custody of a warehouse. -/
def availableIn (itemId warehouseId : Nat) (s : Stock) : Int :=
  heldIn (eligible (some warehouseId) none s) itemId s

/-- What active reservations of a warehouse still hold. -/
def committed (itemId warehouseId : Nat) (s : Stock) : Int := reserved itemId (some warehouseId) none s

/-- Every active reservation can be issued in full: its warehouse has what is reserved there,
and the bin it names has what is reserved from that bin. -/
structure Covered (s : Stock) : Prop where
  warehouse : ∀ itemId warehouseId, committed itemId warehouseId s ≤ availableIn itemId warehouseId s
  bin : ∀ key r binId, s.reservations.get? key = some r → r.status.holdsStock = true → r.binId = some binId →
    reserved r.itemId (some r.warehouseId) (some binId) s ≤ onHand r.itemId binId s

/-- A reservation that names a bin names one of its warehouse, of available custody. -/
def Placed (s : Stock) : Prop :=
  ∀ key r binId, s.reservations.get? key = some r → r.binId = some binId →
    ∃ bin, s.bins.get? binId = some bin ∧ bin.warehouseId = r.warehouseId ∧ bin.custodyType = .available

/-! ### What reservations hold after a call -/

variable {key : Nat} {r r' : StockReservation} {s s' : Stock} {data : MovementData} {actorId : Option Nat}

theorem reserved_consumed {quantityBase : Int}
    (consumable : Consumable key quantityBase r s) (rewritten : Rewritten key r (consumed quantityBase r) s s')
    (itemId : Nat) (warehouseId binId : Option Nat) :
    reserved itemId warehouseId binId s' = reserved itemId warehouseId binId s -
      if StockAvailabilityQuery.Counts itemId warehouseId binId r then quantityBase else 0 := by
  have sums := rewritten.sums fun r =>
    if StockAvailabilityQuery.Counts itemId warehouseId binId r then
      r.reservedQuantityBase - r.consumedQuantityBase else 0
  have within := consumable.within
  unfold reserved
  rw [sums]
  by_cases counts : StockAvailabilityQuery.Counts itemId warehouseId binId r
  · rw [if_pos counts, if_pos counts]
    by_cases all : r.consumedQuantityBase + quantityBase = r.reservedQuantityBase
    · have spent : ¬ StockAvailabilityQuery.Counts itemId warehouseId binId (consumed quantityBase r) := by
        rintro ⟨-, -, -, holds⟩
        simp [consumed, all, ReservationStatus.holdsStock] at holds
      rw [if_neg spent]
      omega
    · have left : StockAvailabilityQuery.Counts itemId warehouseId binId (consumed quantityBase r) := by
        refine ⟨counts.1, counts.2.1, counts.2.2.1, ?_⟩
        simp [consumed, all, ReservationStatus.holdsStock]
      rw [if_pos left]
      simp only [consumed]
      omega
  · have other : ¬ StockAvailabilityQuery.Counts itemId warehouseId binId (consumed quantityBase r) := fun counts' =>
      counts ⟨counts'.1, counts'.2.1, counts'.2.2.1, consumable.holds⟩
    rw [if_neg counts, if_neg counts, if_neg other]
    omega

theorem reserved_released (sound : Sound s) (stored : s.reservations.get? key = some r)
    (rewritten : Rewritten key r { r with status := .released } s s')
    (itemId : Nat) (warehouseId binId : Option Nat) :
    reserved itemId warehouseId binId s' ≤ reserved itemId warehouseId binId s := by
  have sums := rewritten.sums fun r =>
    if StockAvailabilityQuery.Counts itemId warehouseId binId r then
      r.reservedQuantityBase - r.consumedQuantityBase else 0
  have bounds := sound.reservations key r stored
  unfold reserved
  rw [sums]
  have gone : ¬ StockAvailabilityQuery.Counts itemId warehouseId binId { r with status := .released } :=
    fun counts => Bool.false_ne_true counts.2.2.2
  rw [if_neg gone]
  split <;> omega

theorem reserved_granted (data : ReservationData) (s : Stock) (itemId : Nat) (warehouseId binId : Option Nat) :
    reserved itemId warehouseId binId (withReservation data s) = reserved itemId warehouseId binId s +
      if data.itemId = itemId ∧ warehouseId.all (· = data.warehouseId) ∧ binId.all (some · = data.binId) then
        grantedTo data s else 0 := by
  unfold reserved withReservation
  simp only [Table.sumOver_create]
  by_cases nothing : grantedTo data s = 0
  · have refused : ¬ StockAvailabilityQuery.Counts itemId warehouseId binId
        (reservation data (grantedTo data s)) := by
      rintro ⟨-, -, -, holds⟩
      simp [reservation, reservationStatus, nothing, ReservationStatus.holdsStock] at holds
    rw [if_neg refused, nothing, ite_self]
  · have active : (reservation data (grantedTo data s)).status.holdsStock = true := by
      unfold reservation reservationStatus
      simp only [if_neg nothing]
      split <;> rfl
    have counts : StockAvailabilityQuery.Counts itemId warehouseId binId (reservation data (grantedTo data s)) ↔
        data.itemId = itemId ∧ warehouseId.all (· = data.warehouseId) ∧ binId.all (some · = data.binId) :=
      ⟨fun c => ⟨c.1, c.2.1, c.2.2.1⟩, fun c => ⟨c.1, c.2.1, c.2.2, active⟩⟩
    simp only [counts]
    simp only [reservation, sub_zero]

/-! ### Postings -/

/-- A posting takes its quantity out of the available bins of a warehouse. -/
def Takes (data : MovementData) (warehouseId : Nat) (s : Stock) : Prop :=
  data.fromBinId.any (eligible (some warehouseId) none s) = true ∧
    ¬ data.toBinId.any (eligible (some warehouseId) none s) = true

def NamesSource (data : MovementData) (warehouseId binId : Nat) (s : Stock) : Prop :=
  ∃ key r, s.reservations.get? key = some r ∧ r.status.holdsStock = true ∧ r.itemId = data.itemId ∧
    r.warehouseId = warehouseId ∧ r.binId = some binId ∧ data.fromBinId = some binId

/-- A posting leaves what the warehouse has reserved, and what is reserved from its source bin. -/
structure LeavesReserved (data : MovementData) (s : Stock) : Prop where
  warehouse : ∀ warehouseId, Takes data warehouseId s →
    data.quantityBase ≤ availableIn data.itemId warehouseId s - committed data.itemId warehouseId s
  bin : ∀ warehouseId binId, NamesSource data warehouseId binId s → data.quantityBase ≤
    onHand data.itemId binId s - reserved data.itemId (some warehouseId) (some binId) s

theorem eligible_recorded (recorded : Recorded data s s')
    (warehouseId binId : Option Nat) : eligible warehouseId binId s' = eligible warehouseId binId s := by
  funext key
  unfold eligible
  rw [recorded.bins]

theorem reserved_recorded (recorded : Recorded data s s') (itemId : Nat) (warehouseId binId : Option Nat) :
    reserved itemId warehouseId binId s' = reserved itemId warehouseId binId s := by
  unfold reserved
  rw [recorded.reservations]

theorem onHand_recorded
    (admits : Admits actorId data s) (recorded : Recorded data s s') (itemId binId : Nat) :
    (data.itemId = itemId → data.fromBinId = some binId →
      onHand itemId binId s' = onHand itemId binId s - data.quantityBase) ∧
    (¬ (data.itemId = itemId ∧ data.fromBinId = some binId) → onHand itemId binId s ≤ onHand itemId binId s') := by
  have positive := admits.positive
  have takes : data.fromBinId.any (fun key => decide (key = binId)) = true ↔ data.fromBinId = some binId := by
    cases data.fromBinId <;> simp
  have gives : data.toBinId.any (fun key => decide (key = binId)) = true ↔ data.toBinId = some binId := by
    cases data.toBinId <;> simp
  unfold onHand
  rw [recorded.moved]
  constructor
  · intro item source
    have elsewhere : data.toBinId ≠ some binId := fun same => admits.apart ⟨by simp [source], by rw [source, same]⟩
    rw [if_neg fun both => elsewhere (gives.mp both.2), if_pos ⟨item, takes.mpr source⟩]
    omega
  · intro other
    have untouched : ¬ (data.itemId = itemId ∧ data.fromBinId.any (fun key => decide (key = binId)) = true) :=
      fun both => other ⟨both.1, takes.mp both.2⟩
    rw [if_neg untouched]
    split <;> omega

theorem covered_recorded
    (admits : Admits actorId data s) (recorded : Recorded data s s') (covered : Covered s) :
    Covered s' ↔ LeavesReserved data s := by
  have positive := admits.positive
  have available : ∀ itemId warehouseId, availableIn itemId warehouseId s' = availableIn itemId warehouseId s +
      (if data.itemId = itemId ∧ data.toBinId.any (eligible (some warehouseId) none s) then
        data.quantityBase else 0) -
      (if data.itemId = itemId ∧ data.fromBinId.any (eligible (some warehouseId) none s) then
        data.quantityBase else 0) := by
    intro itemId warehouseId
    unfold availableIn
    rw [eligible_recorded recorded, recorded.moved]
  have held : ∀ itemId warehouseId, committed itemId warehouseId s' = committed itemId warehouseId s :=
    fun itemId warehouseId => reserved_recorded recorded _ _ _
  constructor
  · intro after'
    refine ⟨?_, ?_⟩
    · rintro warehouseId ⟨taken, kept⟩
      have left := after'.warehouse data.itemId warehouseId
      rw [available, held, if_neg fun both => kept both.2, if_pos ⟨rfl, taken⟩] at left
      omega
    · rintro warehouseId binId ⟨key, r, stored, holds, item, rfl, named, source⟩
      have left := after'.bin key r binId (by rw [recorded.reservations]; exact stored) holds named
      rw [item, reserved_recorded recorded,
        (onHand_recorded admits recorded data.itemId binId).1 rfl source] at left
      omega
  · intro leaves
    refine ⟨?_, ?_⟩
    · intro itemId warehouseId
      have before := covered.warehouse itemId warehouseId
      rw [available, held]
      by_cases item : data.itemId = itemId
      · subst item
        by_cases taken : data.fromBinId.any (eligible (some warehouseId) none s) = true
        · by_cases kept : data.toBinId.any (eligible (some warehouseId) none s) = true
          · rw [if_pos ⟨rfl, kept⟩, if_pos ⟨rfl, taken⟩]
            omega
          · have enough := leaves.warehouse warehouseId ⟨taken, kept⟩
            rw [if_neg fun both => kept both.2, if_pos ⟨rfl, taken⟩]
            omega
        · have untouched : ¬ (data.itemId = data.itemId ∧
              data.fromBinId.any (eligible (some warehouseId) none s) = true) := fun both => taken both.2
          rw [if_neg untouched]
          split <;> omega
      · rw [if_neg fun both => item both.1, if_neg fun both => item both.1]
        omega
    · intro key r binId stored holds named
      rw [recorded.reservations] at stored
      have before := covered.bin key r binId stored holds named
      rw [reserved_recorded recorded]
      obtain ⟨taken, kept⟩ := onHand_recorded admits recorded r.itemId binId
      by_cases source : data.itemId = r.itemId ∧ data.fromBinId = some binId
      · have enough := leaves.bin r.warehouseId binId
          ⟨key, r, stored, holds, source.1.symm, rfl, named, source.2⟩
        rw [source.1] at enough
        rw [taken source.1 source.2]
        omega
      · exact le_trans before (kept source)

/-! ### Grants -/

/-- A reservation that names a bin asks for no more than the warehouse has available, or the bin
has no more to grant. -/
def FitsWarehouse (data : ReservationData) (s : Stock) : Prop :=
  data.binId = none ∨
    (data.allowPartial = false ∧ (reservableStock data s).availableBase < data.requestedQuantityBase) ∨
    min (reservableStock data s).availableBase data.requestedQuantityBase ≤
      availableIn data.itemId data.warehouseId s - committed data.itemId data.warehouseId s

theorem grantedTo_le {data : ReservationData} (positive : 0 < grantedTo data s) :
    grantedTo data s ≤ (reservableStock data s).availableBase := by
  unfold grantedTo granted at positive ⊢
  simp only at positive ⊢
  split at positive
  · omega
  · rename_i whole
    rw [if_neg whole]
    omega

theorem Sound.grant_covers (sound : Sound s) {data : ReservationData}
    (positive : 0 < grantedTo data s) : grantedTo data s ≤
      heldIn (eligible (some data.warehouseId) data.binId s) data.itemId s -
        reserved data.itemId (some data.warehouseId) data.binId s := by
  have within := grantedTo_le positive
  have incoming := sound.moved_nonneg StockMovement.toBinId
    (eligible (some data.warehouseId) data.binId s) data.itemId
  have outgoing := sound.moved_nonneg StockMovement.fromBinId
    (eligible (some data.warehouseId) data.binId s) data.itemId
  have held := sound.reserved_nonneg data.itemId (some data.warehouseId) data.binId
  have top : 0 ≤ phpIntMax := by decide
  unfold reservableStock StockAvailability.availableBase intOfSum at within
  simp only [Option.getD_some] at within
  unfold heldIn
  omega

theorem fitsWarehouse_iff {data : ReservationData} (sound : Sound s) (reservable : Reservable data s)
    (covered : Covered s) : FitsWarehouse data s ↔ grantedTo data s ≤
      availableIn data.itemId data.warehouseId s - committed data.itemId data.warehouseId s := by
  have room := covered.warehouse data.itemId data.warehouseId
  have requested := reservable.requested
  unfold FitsWarehouse
  cases named : data.binId with
  | none =>
    refine iff_of_true (Or.inl rfl) ?_
    by_cases positive : 0 < grantedTo data s
    · have covers := sound.grant_covers positive
      rw [named] at covers
      exact covers
    · omega
  | some =>
    simp only [reduceCtorEq, false_or]
    unfold grantedTo granted
    cases data.allowPartial with
    | false =>
      simp only [Bool.false_eq_true, not_false_eq_true, true_and]
      split <;> omega
    | true =>
      simp only [Bool.true_eq_false, false_and, false_or, not_true_eq_false, if_false]
      omega

theorem covered_granted {data : ReservationData} (sound : Sound s)
    (reservable : Reservable data s) (covered : Covered s) :
    Covered (withReservation data s) ↔ FitsWarehouse data s := by
  rw [fitsWarehouse_iff sound reservable covered]
  have stock : ∀ itemId warehouseId,
      availableIn itemId warehouseId (withReservation data s) = availableIn itemId warehouseId s :=
    fun _ _ => rfl
  have hand : ∀ itemId binId, onHand itemId binId (withReservation data s) = onHand itemId binId s :=
    fun _ _ => rfl
  -- what is granted from a bin is there
  have inBin : ∀ binId, data.binId = some binId → 0 < grantedTo data s →
      reserved data.itemId (some data.warehouseId) (some binId) s + grantedTo data s ≤
        onHand data.itemId binId s := by
    intro binId named positive
    obtain ⟨bin, stored, warehouse, custody⟩ := reservable.bin binId named
    have covers := sound.grant_covers positive
    rw [named, ← warehouse, eligible_bin stored custody] at covers
    rw [← warehouse]
    unfold onHand
    omega
  have nonneg := (granted_bounds sound reservable.requested).1
  constructor
  · intro after'
    have left := after'.warehouse data.itemId data.warehouseId
    unfold committed at left ⊢
    rw [stock, reserved_granted, if_pos ⟨rfl, by simp, rfl⟩] at left
    omega
  · intro fits
    refine ⟨?_, ?_⟩
    · intro itemId warehouseId
      have before := covered.warehouse itemId warehouseId
      unfold committed at before fits ⊢
      rw [stock, reserved_granted]
      by_cases here : data.itemId = itemId ∧ data.warehouseId = warehouseId
      · obtain ⟨rfl, rfl⟩ := here
        rw [if_pos ⟨rfl, by simp, rfl⟩]
        omega
      · have other : ¬ (data.itemId = itemId ∧
            (some warehouseId).all (fun x => decide (x = data.warehouseId)) = true ∧
              (none : Option Nat).all (fun x => decide (some x = data.binId)) = true) := by
          rintro ⟨item, warehouse, -⟩
          exact here ⟨item, (by simpa [eq_comm] using warehouse)⟩
        rw [if_neg other]
        omega
    · intro key r binId found holds named
      rw [hand, reserved_granted]
      have grows : reserved r.itemId (some r.warehouseId) (some binId) s ≤ onHand r.itemId binId s ∨
          (0 < grantedTo data s ∧ data.itemId = r.itemId ∧ data.warehouseId = r.warehouseId ∧
            data.binId = some binId) := by
        obtain ⟨-, rfl⟩ | earlier := Table.get?_create_cases found
        · refine Or.inr ⟨?_, rfl, rfl, named⟩
          by_contra nothing
          have zero : grantedTo data s = 0 := by omega
          simp [reservation, reservationStatus, zero, ReservationStatus.holdsStock] at holds
        · exact Or.inl (covered.bin key r binId earlier holds named)
      by_cases same : data.itemId = r.itemId ∧ data.warehouseId = r.warehouseId ∧ data.binId = some binId
      · obtain ⟨item, warehouse, bin⟩ := same
        rw [if_pos ⟨item, by simp [warehouse], by simp [bin]⟩]
        by_cases positive : 0 < grantedTo data s
        · have enough := inBin binId bin positive
          rw [item, warehouse] at enough
          exact enough
        · rcases grows with before | ⟨positive', -⟩
          · omega
          · exact absurd positive' positive
      · have other : ¬ (data.itemId = r.itemId ∧
            (some r.warehouseId).all (fun x => decide (x = data.warehouseId)) = true ∧
              (some binId).all (fun x => decide (some x = data.binId)) = true) := by
          rintro ⟨item, warehouse, bin⟩
          exact same ⟨item, (by simpa [eq_comm] using warehouse), (by simpa [eq_comm] using bin)⟩
        rw [if_neg other, add_zero]
        rcases grows with before | ⟨-, item, warehouse, bin⟩
        · exact before
        · exact absurd ⟨item, warehouse, bin⟩ same

/-! ### Consumption and release -/

theorem availableIn_rewritten (rewritten : Rewritten key r r' s s') (itemId warehouseId : Nat) :
    availableIn itemId warehouseId s' = availableIn itemId warehouseId s := by
  rw [rewritten.others]
  rfl

theorem onHand_rewritten
    (rewritten : Rewritten key r r' s s') (itemId binId : Nat) : onHand itemId binId s' = onHand itemId binId s := by
  rw [rewritten.others]
  rfl

theorem covered_rewritten (rewritten : Rewritten key r r' s s') (stored : s.reservations.get? key = some r)
    (same : r'.itemId = r.itemId ∧ r'.warehouseId = r.warehouseId ∧ r'.binId = r.binId)
    (active : r.status.holdsStock = true ∨ r'.status.holdsStock = false)
    (less : ∀ itemId warehouseId binId, reserved itemId warehouseId binId s' ≤ reserved itemId warehouseId binId s)
    (covered : Covered s) : Covered s' := by
  refine ⟨?_, ?_⟩
  · intro itemId warehouseId
    have before := covered.warehouse itemId warehouseId
    have after' := less itemId (some warehouseId) none
    unfold committed at before ⊢
    rw [availableIn_rewritten rewritten]
    omega
  · intro k q binId found holds named
    have after' := less q.itemId (some q.warehouseId) (some binId)
    rw [onHand_rewritten rewritten]
    obtain ⟨rfl, rfl⟩ | ⟨-, earlier⟩ := rewritten.rows k q found
    · obtain ⟨item, warehouse, bin⟩ := same
      have before := covered.bin k r binId stored
        (active.resolve_right fun gone => by rw [gone] at holds; contradiction) (bin ▸ named)
      rw [item, warehouse] at after' ⊢
      omega
    · have before := covered.bin k q binId earlier holds named
      omega

/-! ### Issues -/

/-- What is issued of a reservation without a bin is not reserved from the source bin. -/
def IssueLeaves (r : StockReservation) (data : MovementData) (s : Stock) : Prop :=
  r.binId = none → ∀ warehouseId binId, NamesSource data warehouseId binId s → data.quantityBase ≤
    onHand data.itemId binId s - reserved data.itemId (some warehouseId) (some binId) s

theorem covered_issued {sourceBinId : Nat} {quantityBase : Int}
    {idempotencyKey : String} {s₁ : Stock} (placed : Placed s)
    (loaded : Loaded key sourceBinId quantityBase idempotencyKey r data s) (admits : Admits actorId data s)
    (recorded : Recorded data s s₁) (consumable : Consumable key quantityBase r s₁)
    (rewritten : Rewritten key r (consumed quantityBase r) s₁ s') (covered : Covered s) :
    Covered s' ↔ IssueLeaves r data s := by
  have stored := loaded.stored
  have holds := consumable.holds
  have positive := consumable.positive
  obtain ⟨item, cost, -, -, rfl⟩ := loaded.data
  -- a source bin of available custody is one the reservation authorizes
  have authorized : ∀ bin, s.bins.get? sourceBinId = some bin → bin.custodyType = .available →
      r.warehouseId = bin.warehouseId ∧ (r.binId = none ∨ r.binId = some sourceBinId) := by
    intro bin there custody
    obtain ⟨bin', there', enough⟩ := admits.available rfl
    rw [there] at there'
    cases there'
    rw [if_pos custody] at enough
    obtain ⟨allowance, allowed, -⟩ := enough
    obtain ⟨r', found, authorizes, -⟩ := reservationAllowance_cited allowed
    rw [stored] at found
    cases found
    exact ⟨authorizes.2.1, authorizes.2.2.1⟩
  have hand : ∀ itemId binId, onHand itemId binId s' = onHand itemId binId s₁ :=
    onHand_rewritten rewritten
  have held : ∀ itemId warehouseId binId, reserved itemId warehouseId binId s' =
      reserved itemId warehouseId binId s -
        if StockAvailabilityQuery.Counts itemId warehouseId binId r then quantityBase else 0 := by
    intro itemId warehouseId binId
    rw [reserved_consumed consumable rewritten, reserved_recorded recorded]
  constructor
  · rintro after' unnamed warehouseId binId ⟨k, q, found, active, sameItem, rfl, named, source⟩
    have other : k ≠ key := by
      rintro rfl
      rw [stored] at found
      cases found
      rw [unnamed] at named
      contradiction
    have left := after'.bin k q binId (rewritten.kept k q other (by rw [recorded.reservations]; exact found))
      active named
    have untouched : ¬ StockAvailabilityQuery.Counts q.itemId (some q.warehouseId) (some binId) r := by
      rintro ⟨-, -, bin, -⟩
      rw [unnamed] at bin
      simp at bin
    rw [hand, held, if_neg untouched, sub_zero, sameItem,
      (onHand_recorded admits recorded _ binId).1 rfl source] at left
    omega
  · intro leaves
    refine ⟨?_, ?_⟩
    · intro itemId warehouseId
      have before := covered.warehouse itemId warehouseId
      unfold committed at before ⊢
      rw [held, availableIn_rewritten rewritten]
      unfold availableIn at before ⊢
      have nowhere : ¬ ((issueData key r item sourceBinId quantityBase cost idempotencyKey).itemId = itemId ∧
          (issueData key r item sourceBinId quantityBase cost idempotencyKey).toBinId.any
            (eligible (some warehouseId) none s) = true) := by
        rintro ⟨-, target⟩
        simp [issueData] at target
      rw [eligible_recorded recorded, recorded.moved, if_neg nowhere]
      by_cases taken : (issueData key r item sourceBinId quantityBase cost idempotencyKey).itemId = itemId ∧
          (issueData key r item sourceBinId quantityBase cost idempotencyKey).fromBinId.any
            (eligible (some warehouseId) none s) = true
      · rw [if_pos taken]
        obtain ⟨sameItem, source⟩ := taken
        simp only [issueData, Option.any_some] at sameItem source
        unfold eligible at source
        obtain ⟨bin, there, fits⟩ := (Option.any_eq_true _ _).mp source
        simp only [Option.all_some, Option.all_none, Bool.and_true, Bool.and_eq_true, decide_eq_true_eq] at fits
        have counts : StockAvailabilityQuery.Counts itemId (some warehouseId) none r := by
          refine ⟨sameItem, ?_, rfl, holds⟩
          rw [(authorized bin there fits.1).1]
          simpa using fits.2
        rw [if_pos counts]
        simp only [issueData]
        omega
      · rw [if_neg taken]
        split <;> omega
    · intro k q binId found active named
      rw [hand, held]
      -- in the entry's rows this is a reservation of the same bin that is covered
      obtain ⟨q₀, found₀, active₀, sameItem, sameWarehouse, sameBin⟩ : ∃ q₀, s.reservations.get? k = some q₀ ∧
          q₀.status.holdsStock = true ∧ q₀.itemId = q.itemId ∧ q₀.warehouseId = q.warehouseId ∧
          q₀.binId = q.binId := by
        obtain ⟨rfl, rfl⟩ | ⟨-, earlier⟩ := rewritten.rows k q found
        · exact ⟨r, stored, holds, rfl, rfl, rfl⟩
        · rw [recorded.reservations] at earlier
          exact ⟨q, earlier, active, rfl, rfl, rfl⟩
      rw [named] at sameBin
      have before := covered.bin k q₀ binId found₀ active₀ sameBin
      rw [sameItem, sameWarehouse] at before
      obtain ⟨taken, kept⟩ := onHand_recorded admits recorded q.itemId binId
      by_cases source : r.itemId = q.itemId ∧ some sourceBinId = some binId
      · obtain ⟨sameItem', here⟩ := source
        cases here
        rw [taken sameItem' rfl]
        obtain ⟨bin, there, warehouse, custody⟩ := placed k q₀ sourceBinId found₀ sameBin
        obtain ⟨own, none' | named'⟩ := authorized bin there custody
        · have enough := leaves none' q₀.warehouseId sourceBinId
            ⟨k, q₀, found₀, active₀, sameItem.trans sameItem'.symm, rfl, sameBin, rfl⟩
          simp only [issueData] at enough ⊢
          rw [sameItem', sameWarehouse] at enough
          split <;> omega
        · have counts : StockAvailabilityQuery.Counts q.itemId (some q.warehouseId) (some sourceBinId) r := by
            refine ⟨sameItem', ?_, by simp [named'], holds⟩
            rw [own, warehouse, sameWarehouse]
            simp
          rw [if_pos counts]
          simp only [issueData]
          omega
      · have more := kept source
        split <;> omega

/-! ### Runs -/

theorem placed_recorded (recorded : Recorded data s s') (placed : Placed s) :
    Placed s' := by
  intro key r binId stored named
  rw [recorded.reservations] at stored
  rw [recorded.bins]
  exact placed key r binId stored named

theorem placed_granted {data : ReservationData} (reservable : Reservable data s) (placed : Placed s) :
    Placed (withReservation data s) := by
  intro key r binId found named
  obtain ⟨-, rfl⟩ | earlier := Table.get?_create_cases found
  · exact reservable.bin binId named
  · exact placed key r binId earlier named

theorem placed_rewritten (rewritten : Rewritten key r r' s s')
    (stored : s.reservations.get? key = some r) (same : r'.warehouseId = r.warehouseId ∧ r'.binId = r.binId)
    (placed : Placed s) : Placed s' := by
  intro k q binId found named
  rw [rewritten.others]
  obtain ⟨-, rfl⟩ | ⟨-, earlier⟩ := rewritten.rows k q found
  · rw [same.2] at named
    rw [same.1]
    exact placed key r binId stored named
  · exact placed k q binId earlier named

namespace StockCall

/-- Postings leave what is reserved, reservations fit their warehouse, and what is issued of a
reservation without a bin is not reserved from the source bin. -/
def Uncommitted : StockCall → Stock → Prop
  | post actorId data, s => Admits actorId data s → LeavesReserved data s
  | reserve data, s => Reservable data s → FitsWarehouse data s
  | consume _ _, _ | release _, _ => True
  | issue actorId key sourceBinId quantityBase idempotencyKey, s => ∀ r data,
      Loaded key sourceBinId quantityBase idempotencyKey r data s → Admits actorId data s →
        Consumable key quantityBase r s → IssueLeaves r data s

theorem placed_next (call : StockCall) (s : Stock) (placed : Placed s) : Placed (next call s) := by
  cases call with
  | post actorId data =>
    rcases next_post actorId data s with ⟨same, -⟩ | ⟨-, recorded⟩
    · rw [same]
      exact placed
    · exact placed_recorded recorded placed
  | reserve data =>
    rcases next_reserve data s with ⟨same, -⟩ | ⟨reservable, made⟩
    · rw [same]
      exact placed
    · rw [made]
      exact placed_granted reservable placed
  | consume key quantityBase =>
    rcases next_consume key quantityBase s with same | ⟨r, consumable, rewritten⟩
    · rw [same]
      exact placed
    · exact placed_rewritten rewritten consumable.stored ⟨rfl, rfl⟩ placed
  | release key =>
    rcases next_release key s with same | ⟨r, stored, rewritten⟩
    · rw [same]
      exact placed
    · exact placed_rewritten rewritten stored ⟨rfl, rfl⟩ placed
  | issue actorId key sourceBinId quantityBase idempotencyKey =>
    rcases next_issue actorId key sourceBinId quantityBase idempotencyKey s with
      same | ⟨r, data, s₁, loaded, posted, consumable, rewritten⟩
    · rw [same]
      exact placed
    · have placed₁ : Placed s₁ := by
        rcases posted with rfl | ⟨-, recorded⟩
        · exact placed
        · exact placed_recorded recorded placed
      exact placed_rewritten rewritten consumable.stored ⟨rfl, rfl⟩ placed₁

theorem covered_consumed {key : Nat} {quantityBase : Int} {r : StockReservation} {s s' : Stock}
    (consumable : Consumable key quantityBase r s) (rewritten : Rewritten key r (consumed quantityBase r) s s')
    (covered : Covered s) : Covered s' := by
  have positive := consumable.positive
  refine covered_rewritten rewritten consumable.stored ⟨rfl, rfl, rfl⟩ (Or.inl consumable.holds) ?_ covered
  intro itemId warehouseId binId
  rw [reserved_consumed consumable rewritten]
  split <;> omega

theorem covered_next (call : StockCall) (s : Stock) (sound : Sound s) (placed : Placed s) (covered : Covered s) :
    Covered (next call s) ↔ call.Uncommitted s := by
  cases call with
  | post actorId data =>
    rcases next_post actorId data s with ⟨same, refused⟩ | ⟨admits, recorded⟩
    · rw [same]
      exact iff_of_true covered fun admits => absurd admits refused
    · rw [covered_recorded admits recorded covered]
      exact ⟨fun leaves _ => leaves, fun leaves => leaves admits⟩
  | reserve data =>
    rcases next_reserve data s with ⟨same, refused⟩ | ⟨reservable, made⟩
    · rw [same]
      exact iff_of_true covered fun reservable => absurd reservable refused
    · rw [made, covered_granted sound reservable covered]
      exact ⟨fun fits _ => fits, fun fits => fits reservable⟩
  | consume key quantityBase =>
    refine iff_of_true ?_ trivial
    rcases next_consume key quantityBase s with same | ⟨r, consumable, rewritten⟩
    · rw [same]
      exact covered
    · exact covered_consumed consumable rewritten covered
  | release key =>
    refine iff_of_true ?_ trivial
    rcases next_release key s with same | ⟨r, stored, rewritten⟩
    · rw [same]
      exact covered
    · exact covered_rewritten rewritten stored ⟨rfl, rfl, rfl⟩ (Or.inr rfl)
        (reserved_released sound stored rewritten) covered
  | issue actorId key sourceBinId quantityBase idempotencyKey =>
    constructor
    · intro after' r data loaded admits consumable
      obtain ⟨s₁, recorded, rewritten⟩ := next_issue_admitted loaded admits consumable
      have consumable₁ : Consumable key quantityBase r s₁ :=
        { consumable with stored := by rw [recorded.reservations]; exact consumable.stored }
      exact (covered_issued placed loaded admits recorded consumable₁ rewritten covered).mp after'
    · intro leaves
      rcases next_issue actorId key sourceBinId quantityBase idempotencyKey s with
        same | ⟨r, data, s₁, loaded, posted, consumable, rewritten⟩
      · rw [same]
        exact covered
      · rcases posted with rfl | ⟨admits, recorded⟩
        · exact covered_consumed consumable rewritten covered
        · have held : Consumable key quantityBase r s :=
            { consumable with stored := by rw [← recorded.reservations]; exact consumable.stored }
          exact (covered_issued placed loaded admits recorded consumable rewritten covered).mpr
            (leaves r data loaded admits held)

/-- In a run from any catalogue the stock always covers the active reservations exactly when
every call leaves what is reserved. -/
theorem reservations_covered_iff (unitIds : List Nat) (bins : Table Nat InventoryBin)
    (items : Table Nat InventoryItem) (lots : Table Nat StockLot) (serials : Table Nat StockSerial)
    (calls : List StockCall) :
    Runs.Throughout next Covered calls (Stock.opening unitIds bins items lots serials) ↔
      Runs.Met next Uncommitted calls (Stock.opening unitIds bins items lots serials) := by
  refine Runs.throughout_iff_met (Q := fun s => Sound s ∧ Placed s)
    (fun call s kept => ⟨sound_next call s kept.1, placed_next call s kept.2⟩)
    (fun call s kept covered => covered_next call s kept.1 kept.2 covered) calls _ ⟨⟨?_, ?_⟩, ?_⟩ ⟨?_, ?_⟩
  · exact fun _ _ stored => (by cases stored)
  · exact fun _ _ stored => (by cases stored)
  · exact fun _ _ _ stored => (by cases stored)
  · exact fun _ _ => le_refl 0
  · exact fun _ _ _ stored => (by cases stored)

/-! One bin: what a warehouse has reserved without a bin is reserved once more from the bin. -/

def oneBin : Stock :=
  Stock.opening [1] ⟨[(1, ⟨1, .available⟩)], nodup_one⟩
    ⟨[(1, ⟨.none, .standard, some 100, 1, "PHP"⟩)], nodup_one⟩ Table.empty Table.empty

def reservedTwice : List StockCall :=
  [post (some 1)
      { itemId := 1, uomId := 1, toBinId := some 1, movementType := .receipt, quantityBase := 5
        currency := "PHP", unitCostMinor := 100, referenceType := "goods_receipt", referenceId := 1
        idempotencyKey := "receipt-1" },
    reserve
      { itemId := 1, warehouseId := 1, requestedQuantityBase := 5, purposeType := "maintenance_work_order"
        purposeId := 1, idempotencyKey := "reserve-1" },
    reserve
      { itemId := 1, warehouseId := 1, binId := some 1, requestedQuantityBase := 5
        purposeType := "maintenance_work_order", purposeId := 2, idempotencyKey := "reserve-2" }]

theorem reservations_covered_fails : ¬ ∀ (unitIds : List Nat) (bins : Table Nat InventoryBin)
    (items : Table Nat InventoryItem) (lots : Table Nat StockLot) (serials : Table Nat StockSerial)
    (calls : List StockCall),
    Runs.Throughout next Covered calls (Stock.opening unitIds bins items lots serials) := by
  intro always
  have final := (always oneBin.unitIds oneBin.bins oneBin.items oneBin.lots oneBin.serials reservedTwice).last
  have same : Stock.opening oneBin.unitIds oneBin.bins oneBin.items oneBin.lots oneBin.serials = oneBin := rfl
  rw [same] at final
  have bound := final.warehouse 1 1
  have held : committed 1 1 (Runs.reached next reservedTwice oneBin) = 10 := by decide +kernel
  have stock : availableIn 1 1 (Runs.reached next reservedTwice oneBin) = 5 := by decide +kernel
  omega

end StockCall
end VtsaCsms.Inventory
