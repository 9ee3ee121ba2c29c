import VtsaCsms.Inventory.StockMoves

/-!
# Stock on hand

`StockLedger::post` takes from a bin what is available there plus what the cited reservation
still holds. A reservation without a bin holds stock of the whole warehouse, so the allowance
may exceed what the bin has.
-/
namespace VtsaCsms.Inventory
open Foundation Foundation.Action StockAvailabilityQuery StockLedger StockReservationService WorkOrderPartsService

/-- No bin holds less than nothing of any item. -/
def NonNegative (s : Stock) : Prop := ∀ itemId binId, 0 ≤ onHand itemId binId s

/-- An admitted posting that cites a reservation without a bin for more than its source bin has
on hand. -/
structure Overdraft (actorId : Option Nat) (data : MovementData) (s : Stock) : Prop where
  admits : Admits actorId data s
  cited : ∃ key r, data.reservationId = some key ∧ s.reservations.get? key = some r ∧ r.binId = none
  short : ∃ binId, data.fromBinId = some binId ∧ onHand data.itemId binId s < data.quantityBase

theorem nonNegative_recorded {actorId : Option Nat} {data : MovementData} {s s' : Stock} (sound : Sound s)
    (admits : Admits actorId data s) (recorded : Recorded data s s') (nonneg : NonNegative s) :
    NonNegative s' ↔ ¬ Overdraft actorId data s := by
  have positive := admits.positive
  constructor
  · rintro after' ⟨-, -, binId, source, short⟩
    have left := after' data.itemId binId
    have target : data.toBinId ≠ some binId := fun same => admits.apart ⟨by simp [source], by rw [source, same]⟩
    unfold onHand at left short
    rw [recorded.moved, source] at left
    have none' : ¬ (data.itemId = data.itemId ∧ data.toBinId.any (fun key => decide (key = binId)) = true) := by
      rintro ⟨-, some'⟩
      obtain ⟨key, there, same⟩ := (Option.any_eq_true _ _).mp some'
      exact target (by rw [there, of_decide_eq_true same])
    rw [if_neg none', if_pos ⟨rfl, by simp⟩] at left
    omega
  · intro covered itemId binId
    have before := nonneg itemId binId
    unfold onHand at before ⊢
    rw [recorded.moved]
    by_cases taken : data.itemId = itemId ∧ data.fromBinId.any (fun key => decide (key = binId)) = true
    · have enough : data.quantityBase ≤ onHand itemId binId s := by
        obtain ⟨rfl, some'⟩ := taken
        obtain ⟨key, source, same⟩ := (Option.any_eq_true _ _).mp some'
        have here : key = binId := of_decide_eq_true same
        subst here
        by_contra short
        have less := not_le.mp short
        exact covered ⟨admits, admits.short sound source less, key, source, less⟩
      unfold onHand at enough
      rw [if_pos taken]
      split <;> omega
    · rw [if_neg taken]
      split <;> omega

theorem nonNegative_rewritten {key : Nat} {r r' : StockReservation} {s s' : Stock}
    (rewritten : Rewritten key r r' s s') : NonNegative s' ↔ NonNegative s := by
  rw [rewritten.others]
  exact Iff.rfl

namespace StockCall

/-- A posting or an issue that overdraws its source bin. -/
def Overdraws : StockCall → Stock → Prop
  | post actorId data, s => Overdraft actorId data s
  | issue actorId key sourceBinId quantityBase idempotencyKey, s => ∃ r data,
      Loaded key sourceBinId quantityBase idempotencyKey r data s ∧ Consumable key quantityBase r s ∧
        Overdraft actorId data s
  | reserve _, _ | consume _ _, _ | release _, _ => False

theorem nonNegative_next (call : StockCall) (s : Stock) (sound : Sound s) (nonneg : NonNegative s) :
    NonNegative (next call s) ↔ ¬ call.Overdraws s := by
  cases call with
  | post actorId data =>
    rcases next_post actorId data s with ⟨same, refused⟩ | ⟨admits, recorded⟩
    · rw [same]
      exact iff_of_true nonneg fun overdraft => refused overdraft.admits
    · exact nonNegative_recorded sound admits recorded nonneg
  | reserve data =>
    refine iff_of_true ?_ id
    rcases next_reserve data s with ⟨same, -⟩ | ⟨-, made⟩
    · rw [same]
      exact nonneg
    · rw [made]
      exact nonneg
  | consume key quantityBase =>
    refine iff_of_true ?_ id
    rcases next_consume key quantityBase s with same | ⟨r, -, rewritten⟩
    · rw [same]
      exact nonneg
    · exact (nonNegative_rewritten rewritten).mpr nonneg
  | release key =>
    refine iff_of_true ?_ id
    rcases next_release key s with same | ⟨r, -, rewritten⟩
    · rw [same]
      exact nonneg
    · exact (nonNegative_rewritten rewritten).mpr nonneg
  | issue actorId key sourceBinId quantityBase idempotencyKey =>
    constructor
    · rintro after' ⟨r, data, loaded, consumable, overdraft⟩
      obtain ⟨s₁, recorded, rewritten⟩ := next_issue_admitted loaded overdraft.admits consumable
      rw [nonNegative_rewritten rewritten] at after'
      exact (nonNegative_recorded sound overdraft.admits recorded nonneg).mp after' overdraft
    · intro covered
      rcases next_issue actorId key sourceBinId quantityBase idempotencyKey s with
        same | ⟨r, data, s₁, loaded, posted, consumable, rewritten⟩
      · rw [same]
        exact nonneg
      · rw [nonNegative_rewritten rewritten]
        rcases posted with rfl | ⟨admits, recorded⟩
        · exact nonneg
        · refine (nonNegative_recorded sound admits recorded nonneg).mpr fun overdraft => ?_
          have held : Consumable key quantityBase r s :=
            { consumable with stored := by rw [← recorded.reservations]; exact consumable.stored }
          exact covered ⟨r, data, loaded, held, overdraft⟩

/-- In a run from any catalogue no bin ever holds less than nothing exactly when no posting and
no issue overdraws its source bin. -/
theorem on_hand_nonnegative_iff (unitIds : List Nat) (bins : Table Nat InventoryBin)
    (items : Table Nat InventoryItem) (lots : Table Nat StockLot) (serials : Table Nat StockSerial)
    (calls : List StockCall) :
    Runs.Throughout next NonNegative calls (Stock.opening unitIds bins items lots serials) ↔
      Runs.Met next (fun call s => ¬ call.Overdraws s) calls (Stock.opening unitIds bins items lots serials) := by
  refine Runs.throughout_iff_met (fun call s sound => sound_next call s sound)
    (fun call s sound nonneg => nonNegative_next call s sound nonneg) calls _ ?_ ?_
  · exact ⟨fun _ _ stored => (by cases stored), fun _ _ stored => (by cases stored)⟩
  · exact fun _ _ => le_refl 0

/-! Two bins of one warehouse: the stock lies in the first, and the issue is from the second. -/

def twoBins : Stock :=
  Stock.opening [1] ⟨[(1, ⟨1, .available⟩), (2, ⟨1, .available⟩)], nodup_two⟩
    ⟨[(1, ⟨.none, .standard, some 100, 1, "PHP"⟩)], nodup_one⟩ Table.empty Table.empty

def warehouseIssue : List StockCall :=
  [post (some 1)
      { itemId := 1, uomId := 1, toBinId := some 1, movementType := .receipt, quantityBase := 5
        currency := "PHP", unitCostMinor := 100, referenceType := "goods_receipt", referenceId := 1
        idempotencyKey := "receipt-1" },
    reserve
      { itemId := 1, warehouseId := 1, requestedQuantityBase := 5, purposeType := "maintenance_work_order"
        purposeId := 1, idempotencyKey := "reserve-1" },
    issue (some 1) 0 2 5 "issue-1"]

theorem on_hand_fails : ¬ ∀ (unitIds : List Nat) (bins : Table Nat InventoryBin)
    (items : Table Nat InventoryItem) (lots : Table Nat StockLot) (serials : Table Nat StockSerial)
    (calls : List StockCall),
    Runs.Throughout next NonNegative calls (Stock.opening unitIds bins items lots serials) := by
  intro always
  have final := (always twoBins.unitIds twoBins.bins twoBins.items twoBins.lots twoBins.serials
    warehouseIssue).last 1 2
  have overdrawn : onHand 1 2 (Runs.reached next warehouseIssue twoBins) = -5 := by decide +kernel
  have same : Stock.opening twoBins.unitIds twoBins.bins twoBins.items twoBins.lots twoBins.serials = twoBins := rfl
  rw [same, overdrawn] at final
  omega

end StockCall
end VtsaCsms.Inventory
