import VtsaCsms.Maintenance.WorkOrderRuns

/-!
# What a call does to the work orders

A call of the workflow reports a work order, moves one, or changes columns of it that no transition reads back;
it does the last before it moves one as well.
-/
namespace VtsaCsms.Maintenance
open Foundation Foundation.Action EloquentAssetMaintenanceContract WorkOrderWorkflow

/-- The transitions of a work order, in order. -/
def trail (workOrderId : Nat) (s : WorkOrderBooks) : List WorkOrderTransition :=
  (s.transitions.rowsWhere fun _ t => decide (t.workOrderId = workOrderId)).map Prod.snd

theorem trail_create (t : WorkOrderTransition) {s s' : WorkOrderBooks}
    (created : s'.transitions = s.transitions.create t) (workOrderId : Nat) :
    trail workOrderId s' = trail workOrderId s ++ if t.workOrderId = workOrderId then [t] else [] := by
  unfold trail
  rw [created, Table.rowsWhere_create, List.map_append]
  by_cases own : t.workOrderId = workOrderId
  · simp [own]
  · simp [own]

theorem trail_new {s : WorkOrderBooks} (keyed : Keyed s) : trail s.workOrders.nextId s = [] := by
  have states : (trail s.workOrders.nextId s).map WorkOrderTransition.toState = history s.workOrders.nextId s := by
    unfold trail history
    rw [List.map_map]
    rfl
  rwa [history_new keyed, List.map_eq_nil_iff] at states

theorem trail_reported (call : Acting) {s s' : WorkOrderBooks}
    (created : s'.transitions = s.transitions.create (reportedRow call s.workOrders.nextId)) (workOrderId : Nat) :
    trail workOrderId s' = trail workOrderId s ++
      if s.workOrders.nextId = workOrderId then [reportedRow call s.workOrders.nextId] else [] :=
  trail_create (reportedRow call s.workOrders.nextId) created workOrderId

theorem trail_movedTo (setup : MaintenanceSetup) (call : Acting) (workOrderId : Nat) (target : WorkOrderState)
    (reasonCode : String) (notes : Option String) (w : WorkOrder) (s : WorkOrderBooks) (other : Nat) :
    trail other (movedTo setup call workOrderId target reasonCode notes w s) = trail other s ++
      if workOrderId = other then [transitionRow call workOrderId target reasonCode notes w] else [] := by
  refine trail_create (transitionRow call workOrderId target reasonCode notes w) ?_ other
  unfold movedTo
  dsimp only
  rw [(acted_frame call workOrderId target reasonCode w s).2]

/-- A work order without the columns that only describe it. -/
def plain (w : WorkOrder) : WorkOrder :=
  { w with
    scope := none
    scheduledStartAt := none
    scheduledEndAt := none
    scheduleTimezone := ""
    workPerformed := none
    resolutionCodeId := none
    failureCodeId := none
    rootCauseCodeId := none
    diagnosis := none
    holdReasonCode := none
    holdNotes := none
    holdReviewAt := none }

/-- The rows that transitions write are as they were, but for what describes a work order. -/
structure Described (s s' : WorkOrderBooks) : Prop where
  assets : s'.assets = s.assets
  transitions : s'.transitions = s.transitions
  downtimePeriods : s'.downtimePeriods = s.downtimePeriods
  assetActions : s'.assetActions = s.assetActions
  orders : ∀ workOrderId,
    (s'.workOrders.get? workOrderId).map plain = (s.workOrders.get? workOrderId).map plain

namespace Described
variable {s s' : WorkOrderBooks}

theorem refl (s : WorkOrderBooks) : Described s s := ⟨rfl, rfl, rfl, rfl, fun _ => rfl⟩

theorem stored (described : Described s s') {workOrderId : Nat} {w' : WorkOrder}
    (found : s'.workOrders.get? workOrderId = some w') :
    ∃ w, s.workOrders.get? workOrderId = some w ∧ plain w' = plain w := by
  have orders := described.orders workOrderId
  rw [found, Option.map_some] at orders
  obtain ⟨w, found', same⟩ := Option.map_eq_some_iff.mp orders.symm
  exact ⟨w, found', same.symm⟩

theorem keyed (described : Described s s') (keyed : Keyed s) : Keyed s' := by
  refine SameWork.keyed ⟨described.assets, described.transitions, fun workOrderId => ?_⟩ keyed
  have columns := congrArg (Option.map fun w => (w.asset, w.assetRestrictionRequired)) (described.orders workOrderId)
  rwa [Option.map_map, Option.map_map] at columns

theorem trail (described : Described s s') (workOrderId : Nat) :
    Maintenance.trail workOrderId s' = Maintenance.trail workOrderId s := by
  unfold Maintenance.trail
  rw [described.transitions]

end Described

/-- What a call may do. Work is started, or taken up again, by a `transition` that asks for it. -/
inductive Changes (setup : MaintenanceSetup) (asked : WorkOrderCall) (s : WorkOrderBooks) : WorkOrderBooks → Prop where
  | described {s' : WorkOrderBooks} (described : Described s s') : Changes setup asked s s'
  | reported {s' : WorkOrderBooks} (call : Acting) (data : WorkOrderData)
      (success : Returns (WorkOrderWorkflow.create setup call data) s () s') : Changes setup asked s s'
  | moved {s₁ : WorkOrderBooks} (described : Described s s₁) (call : Acting) (workOrderId : Nat)
      (target : WorkOrderState) (reasonCode : String) (notes : Option String) (w : WorkOrder)
      (may : MayMove call workOrderId w target s₁)
      (starts : target = .inProgress → asked = .transition call workOrderId target reasonCode notes ∧ s₁ = s) :
      Changes setup asked s (movedTo setup call workOrderId target reasonCode notes w s₁)

section Calls
variable {setup : MaintenanceSetup} {asked : WorkOrderCall} {s : WorkOrderBooks}

theorem described_setWorkOrder (workOrderId : Nat) {change : WorkOrder → WorkOrder}
    (same : ∀ w, plain (change w) = plain w) (s : WorkOrderBooks) :
    Described s (after (setWorkOrder workOrderId change) s) := by
  refine ⟨rfl, rfl, rfl, rfl, fun other => ?_⟩
  show ((s.workOrders.update workOrderId change).get? other).map plain = _
  rw [Table.get?_update]
  split
  · rw [Option.map_map]
    congr 1
    funext w
    exact same w
  · rfl

theorem changes_transition {s₁ : WorkOrderBooks} (described : Described s s₁) (call : Acting) (workOrderId : Nat)
    {target : WorkOrderState} (reasonCode : String) (notes : Option String)
    (starts : target = .inProgress → asked = .transition call workOrderId target reasonCode notes ∧ s₁ = s) :
    Changes setup asked s (after (WorkOrderWorkflow.transition setup call workOrderId target reasonCode notes) s₁) := by
  refine after_atomic (atomic_transaction _) (.described described) fun _ s' success => ?_
  obtain ⟨w, may, rfl⟩ := (transition_returns ..).mp success
  exact .moved described call workOrderId target reasonCode notes w may starts

theorem changes_create (call : Acting) (data : WorkOrderData) :
    Changes setup asked s (after (WorkOrderWorkflow.create setup call data) s) :=
  after_atomic (atomic_transaction _) (.described (.refl s)) fun _ _ success => .reported call data success

theorem changes_saved_transition (call : Acting) (workOrderId : Nat) {target : WorkOrderState} (reasonCode : String)
    (notes : Option String) {change : WorkOrder → WorkOrder} (same : ∀ w, plain (change w) = plain w)
    (waits : target ≠ .inProgress) :
    Changes setup asked s (after (do
      setWorkOrder workOrderId change
      WorkOrderWorkflow.transition setup call workOrderId target reasonCode notes) s) := by
  have saved := described_setWorkOrder workOrderId same s
  unfold setWorkOrder at saved ⊢
  rw [after_write]
  exact changes_transition saved call workOrderId reasonCode notes fun starts => absurd starts waits

theorem changes_assign (call : Acting) (workOrderId : Nat) (technician vendor : Option Nat) :
    Changes setup asked s (after (WorkOrderWorkflow.assign setup call workOrderId technician vendor) s) := by
  have atomic : Atomic (WorkOrderWorkflow.assign setup call workOrderId technician vendor) :=
    (atomic_throwIf _ _).bind (fun _ _ _ passed => ((returns_throwIf ..).mp passed).2) fun _ => atomic_transaction _
  refine after_atomic atomic (.described (.refl s)) fun _ s' success => ?_
  obtain ⟨rows, rfl | moves⟩ := assign_returns success
  · exact .described ⟨rfl, rfl, rfl, rfl, fun _ => rfl⟩
  · have assigned : Described s { s with assignments := rows } := ⟨rfl, rfl, rfl, rfl, fun _ => rfl⟩
    have moved : Changes setup asked s (after (WorkOrderWorkflow.transition setup call workOrderId .assigned
        "resource_assigned" none) { s with assignments := rows }) :=
      changes_transition assigned call workOrderId "resource_assigned" none nofun
    rwa [moves.after_eq] at moved

theorem changes_next (setup : MaintenanceSetup) (asked : WorkOrderCall) (s : WorkOrderBooks) :
    Changes setup asked s (asked.next setup s) := by
  unfold WorkOrderCall.next
  cases asked with
  | create call data => exact changes_create call data
  | transition call workOrderId target reasonCode notes =>
    exact changes_transition (.refl s) call workOrderId reasonCode notes fun _ => ⟨rfl, rfl⟩
  | assign call workOrderId technician vendor => exact changes_assign call workOrderId technician vendor
  | plan call workOrderId scope scheduledStartAt scheduledEndAt timezone =>
    unfold WorkOrderCall.perform WorkOrderWorkflow.plan
    rw [after_throwIf]
    split
    · exact .described (.refl s)
    · refine changes_saved_transition call workOrderId _ _ (fun _ => rfl) ?_
      split <;> decide
  | recordResolution workOrderId =>
    unfold WorkOrderCall.perform WorkOrderWorkflow.recordResolution
    refine after_silent_bind (silent_load workOrderId) (.described (.refl s)) fun found => ?_
    rw [after_throwIf]
    split
    · exact .described (.refl s)
    · refine .described (described_setWorkOrder workOrderId ?_ s)
      exact fun _ => rfl
  | placeOnHold call workOrderId =>
    unfold WorkOrderCall.perform WorkOrderWorkflow.placeOnHold
    rw [after_throwIf]
    split
    · exact .described (.refl s)
    · rename_i pauses
      refine changes_saved_transition call workOrderId _ _ (fun _ => rfl) fun starts => pauses ?_
      rw [starts]
      rfl
  | completeChecklistItem call itemId =>
    unfold WorkOrderCall.perform WorkOrderWorkflow.completeChecklistItem requireActor
    rw [after_read]
    refine after_silent_bind (keeps_orThrow _ _) (.described (.refl s)) fun item => ?_
    rw [after_throwIf]
    split
    · exact .described (.refl s)
    rw [after_read, after_throwIf]
    split
    · exact .described (.refl s)
    refine after_silent_bind (keeps_orThrow _ _) (.described (.refl s)) fun actor => ?_
    exact .described ⟨rfl, rfl, rfl, rfl, fun _ => rfl⟩
  | reopen call workOrderId reason =>
    unfold WorkOrderCall.perform WorkOrderWorkflow.reopen
    refine after_silent_bind (silent_load workOrderId) (.described (.refl s)) fun found => ?_
    rw [after_throwIf]
    split
    · exact .described (.refl s)
    · exact changes_create call _
  | elsewhere => exact .described ⟨rfl, rfl, rfl, rfl, fun _ => rfl⟩

theorem Changes.keyed {s' : WorkOrderBooks} (changes : Changes setup asked s s') (keyed : Keyed s) : Keyed s' := by
  cases changes with
  | described described => exact described.keyed keyed
  | reported call data success => exact create_keyed keyed success
  | moved described call workOrderId target reasonCode notes w may => exact keyed_movedTo may (described.keyed keyed)

end Calls
end VtsaCsms.Maintenance
