import VtsaCsms.Maintenance.WorkOrderRuns

/-!
# Refused changes

`plan` and `placeOnHold` save what they are given and then try a transition of their own, in no
common transaction: when the transition is refused, the saved columns stay.
-/
namespace VtsaCsms.Maintenance
open Foundation Foundation.Action WorkOrderWorkflow

/-- A change that saves columns of the work order and then moves it. -/
inductive DescribedMove where
  | plan (scope : String) (scheduledStartAt scheduledEndAt : Option Instant) (timezone : String)
  | placeOnHold (holdState : WorkOrderState) (reasonCode notes : String) (reviewAt : Option Instant)

namespace DescribedMove

def perform (setup : MaintenanceSetup) (call : Acting) (workOrderId : Nat) : DescribedMove → Maintaining Unit
  | plan scope scheduledStartAt scheduledEndAt timezone =>
    WorkOrderWorkflow.plan setup call workOrderId scope scheduledStartAt scheduledEndAt timezone
  | placeOnHold holdState reasonCode notes reviewAt =>
    WorkOrderWorkflow.placeOnHold setup call workOrderId holdState reasonCode notes reviewAt

def Unfit : DescribedMove → Prop
  | plan _ scheduledStartAt scheduledEndAt _ =>
    (scheduledStartAt.any fun start => scheduledEndAt.any fun stop => decide (stop < start)) = true
  | placeOnHold holdState _ _ _ => holdState.pausesSla = false

instance (move : DescribedMove) : Decidable move.Unfit := by
  cases move <;> exact inferInstanceAs (Decidable (_ = _))

def refusal : DescribedMove → Throwable
  | plan .. => .domain "Scheduled completion cannot precede the scheduled start."
  | placeOnHold .. => .domain "The selected state is not an approved hold state."

def saved : DescribedMove → WorkOrder → WorkOrder
  | plan scope scheduledStartAt scheduledEndAt timezone, w => { w with
      scope := some scope
      scheduledStartAt := scheduledStartAt.map Instant.toSecond
      scheduledEndAt := scheduledEndAt.map Instant.toSecond
      scheduleTimezone := timezone }
  | placeOnHold _ reasonCode notes reviewAt, w => { w with
      holdReasonCode := some reasonCode
      holdNotes := some notes
      holdReviewAt := reviewAt.map Instant.toSecond }

def target : DescribedMove → WorkOrderState
  | plan _ scheduledStartAt _ _ => if scheduledStartAt = none then .planned else .scheduled
  | placeOnHold holdState _ _ _ => holdState

def reasonCode : DescribedMove → String
  | plan .. => "work_planned"
  | placeOnHold _ reasonCode _ _ => reasonCode

def notes : DescribedMove → Option String
  | plan .. => none
  | placeOnHold _ _ notes _ => some notes

theorem perform_eq (setup : MaintenanceSetup) (call : Acting) (workOrderId : Nat) (move : DescribedMove) :
    move.perform setup call workOrderId = (do
      throwIf move.Unfit move.refusal
      setWorkOrder workOrderId move.saved
      transition setup call workOrderId move.target move.reasonCode move.notes) := by
  cases move <;> rfl

end DescribedMove

/-- The work order may be moved, and no other transition has the number of the next one. -/
def MovesOn (workOrderId : Nat) (target : WorkOrderState) (s : WorkOrderBooks) : Prop :=
  ∃ w, s.workOrders.get? workOrderId = some w ∧ w.state.canTransitionTo target = true ∧
    ∀ key t, s.transitions.get? key = some t → ¬ (t.workOrderId = workOrderId ∧ t.version = w.aggregateVersion + 1)

/-- Where the call throws, the columns of the work order are as before. -/
def LeavesFields (m : Maintaining Unit) (workOrderId : Nat) (s : WorkOrderBooks) : Prop :=
  ∀ e s', Throws m s e s' → s'.workOrders.get? workOrderId = s.workOrders.get? workOrderId

variable {call : Acting} {workOrderId : Nat} {s : WorkOrderBooks} {move : DescribedMove}

theorem target_unguarded (fit : ¬ move.Unfit) : move.target ≠ .inProgress ∧ move.target ≠ .completed ∧
    move.target ≠ .triaged ∧ ¬ PutsBack move.target := by
  cases move with
  | plan _ scheduledStartAt =>
    unfold DescribedMove.target
    dsimp only
    split <;> decide
  | placeOnHold holdState =>
    have pauses : holdState.pausesSla = true := by simpa [DescribedMove.Unfit] using fit
    show holdState ≠ _ ∧ holdState ≠ _ ∧ holdState ≠ _ ∧ ¬ PutsBack holdState
    cases holdState <;> first | decide | cases pauses

theorem mayMove_iff (fit : ¬ move.Unfit) :
    (∃ w, MayMove call workOrderId w move.target { s with workOrders := s.workOrders.update workOrderId move.saved }) ↔
      MovesOn workOrderId move.target s := by
  have state (w : WorkOrder) : (move.saved w).state = w.state ∧ (move.saved w).aggregateVersion = w.aggregateVersion := by
    cases move <;> exact ⟨rfl, rfl⟩
  obtain ⟨started, completed, triaged, putsBack⟩ := target_unguarded fit
  unfold PutsBack at putsBack
  rw [not_or] at putsBack
  constructor
  · rintro ⟨w', may⟩
    obtain ⟨w, stored, rfl⟩ : ∃ w, s.workOrders.get? workOrderId = some w ∧ move.saved w = w' := by
      have there := may.stored
      rwa [Table.get?_update_self, Option.map_eq_some_iff] at there
    exact ⟨w, stored, (state w).1 ▸ may.allowed, (state w).2 ▸ may.version⟩
  · rintro ⟨w, stored, allowed, version⟩
    refine ⟨move.saved w, ?_, by rwa [(state w).1], ?_, ?_, ?_, ?_, by rwa [(state w).2]⟩
    · rw [Table.get?_update_self, stored, Option.map_some]
    · exact ⟨fun same => absurd same started, fun same => absurd same completed, fun same => absurd same completed,
        fun same => absurd same completed, fun same => absurd same putsBack.1, fun same => absurd same putsBack.1,
        fun same => absurd same putsBack.2⟩
    · rintro (⟨same, -⟩ | same | same | same)
      · exact absurd same triaged
      · exact absurd same completed
      · exact absurd same putsBack.1
      · exact absurd same putsBack.2
    · rintro (same | same | same)
      · exact absurd same started
      · exact absurd same putsBack.1
      · exact absurd same putsBack.2
    · rintro (same | same)
      · exact absurd same putsBack.1
      · exact absurd same putsBack.2

theorem perform_cases (setup : MaintenanceSetup) (call : Acting) (workOrderId : Nat) (move : DescribedMove)
    (s : WorkOrderBooks) :
    (move.Unfit ∧ Throws (move.perform setup call workOrderId) s move.refusal s) ∨
    (MovesOn workOrderId move.target s ∧ ∃ s', Returns (move.perform setup call workOrderId) s () s') ∨
    (¬ move.Unfit ∧ ¬ MovesOn workOrderId move.target s ∧ ∃ e, Throws (move.perform setup call workOrderId) s e
      { s with workOrders := s.workOrders.update workOrderId move.saved }) := by
  rw [DescribedMove.perform_eq]
  by_cases unfit : move.Unfit
  · exact Or.inl ⟨unfit, (Throws.throwIf unfit).bind⟩
  have fits : Returns (throwIf move.Unfit move.refusal : Maintaining Unit) s () s := .throwIf unfit
  have saves : Returns (setWorkOrder workOrderId move.saved) s ()
      { s with workOrders := s.workOrders.update workOrderId move.saved } := (returns_write ..).mpr rfl
  have may : (∃ w, MayMove call workOrderId w move.target
      { s with workOrders := s.workOrders.update workOrderId move.saved }) ↔ MovesOn workOrderId move.target s :=
    mayMove_iff unfit
  have moves := transition_returns setup call workOrderId move.target move.reasonCode move.notes
    { s with workOrders := s.workOrders.update workOrderId move.saved }
  have atomic : Atomic (transition setup call workOrderId move.target move.reasonCode move.notes) := atomic_transaction _
  rcases run : transition setup call workOrderId move.target move.reasonCode move.notes
    { s with workOrders := s.workOrders.update workOrderId move.saved } with ⟨out, s'⟩
  cases out with
  | ok u =>
    obtain ⟨w, moved, -⟩ := (moves s' u).mp run
    exact Or.inr (Or.inl ⟨may.mp ⟨w, moved⟩, s', .bind fits (.bind saves run)⟩)
  | error e =>
    have kept := atomic _ e (by rw [run])
    rw [run] at kept
    refine Or.inr (Or.inr ⟨unfit, fun on => ?_, e, .after_returns fits (.after_returns saves (kept ▸ run))⟩)
    obtain ⟨w, moved⟩ := may.mpr on
    cases run.symm.trans ((moves _ ()).mpr ⟨w, moved, rfl⟩)

/-- A refused change leaves the work order as it was exactly if it is refused at once, or is not refused, or has
nothing new to save. -/
theorem refused_change_leaves_iff (setup : MaintenanceSetup) (call : Acting) (workOrderId : Nat) (move : DescribedMove)
    (s : WorkOrderBooks) :
    LeavesFields (move.perform setup call workOrderId) workOrderId s ↔
      move.Unfit ∨ MovesOn workOrderId move.target s ∨
        ∀ w, s.workOrders.get? workOrderId = some w → move.saved w = w := by
  rcases perform_cases setup call workOrderId move s with ⟨unfit, refused⟩ | ⟨on, s', success⟩ | ⟨fit, still, e, refused⟩
  · refine iff_of_true (fun e s' thrown => ?_) (Or.inl unfit)
    rw [(thrown.unique refused).2]
  · exact iff_of_true (fun e s'' thrown => absurd success thrown.not_returns) (Or.inr (Or.inl on))
  · have changed : LeavesFields (move.perform setup call workOrderId) workOrderId s ↔
        (s.workOrders.get? workOrderId).map move.saved = s.workOrders.get? workOrderId := by
      rw [← Table.get?_update_self]
      constructor
      · exact fun leaves => leaves e _ refused
      · intro same e' s' thrown
        rw [(thrown.unique refused).2]
        exact same
    rw [changed]
    constructor
    · intro same
      refine Or.inr (Or.inr fun w stored => ?_)
      rw [stored] at same
      exact Option.some.inj same
    · rintro (unfit | on | same)
      · exact absurd unfit fit
      · exact absurd on still
      · cases stored : s.workOrders.get? workOrderId with
        | none => rfl
        | some w => rw [Option.map_some, same w stored]

/-- A repair that was reported is planned before it is triaged. -/
theorem refused_plan_saved : ¬ ∀ (setup : MaintenanceSetup) (call : Acting) (workOrderId : Nat) (move : DescribedMove)
    (s : WorkOrderBooks), LeavesFields (move.perform setup call workOrderId) workOrderId s := by
  intro always
  let s := Runs.reached (WorkOrderCall.next oneTechnician) (startRepair.take 1) inService
  have leaves := always oneTechnician ⟨some 2, 0⟩ 0 (.plan "Replace the cable" none none "UTC") s
  rcases perform_cases oneTechnician ⟨some 2, 0⟩ 0 (.plan "Replace the cable" none none "UTC") s with
    ⟨unfit, -⟩ | ⟨on, -⟩ | ⟨-, -, e, refused⟩
  · cases unfit
  · obtain ⟨w, stored, allowed, -⟩ := on
    have reported : ((s.workOrders.get? 0).all fun w => decide (w.state = .reported)) = true := by decide +kernel
    rw [stored] at reported
    rw [of_decide_eq_true reported] at allowed
    cases allowed
  · have same := congrArg (Option.map WorkOrder.scope) (leaves e _ refused)
    have before : (s.workOrders.get? 0).map WorkOrder.scope = some none := by decide +kernel
    rw [Table.get?_update_self, before] at same
    cases stored : s.workOrders.get? 0 with
    | none => simp [stored] at before
    | some => simp [stored, DescribedMove.saved] at same

end VtsaCsms.Maintenance
