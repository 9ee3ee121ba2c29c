import VtsaCsms.Maintenance.WorkOrderRuns

/-!
# Passed checklists

A completion asks that no result differs from `pass`; in SQL a result of NULL does not. An item
that requires a pass and is not marked required may so be left unanswered.
-/
namespace VtsaCsms.Maintenance
open Foundation Foundation.Action WorkOrderWorkflow

/-- A completed work order has passed every item that requires it. -/
def PassedWhereCompleted (s : WorkOrderBooks) : Prop :=
  ∀ workOrderId w, s.workOrders.get? workOrderId = some w → w.state = .completed →
    ∀ key item, s.checklistItems.get? key = some item → item.workOrderId = workOrderId → item.requiresPass = true →
      item.result = some .pass

/-- An item that requires a pass has no other result. -/
def NoneFailed (s : WorkOrderBooks) : Prop :=
  ∀ key item, s.checklistItems.get? key = some item → item.requiresPass = true → item.result = none ∨
    item.result = some .pass

/-- A completion that goes through with an item unanswered that requires a pass. -/
def CompletesUnanswered : WorkOrderCall → WorkOrderBooks → Prop
  | .transition call workOrderId target _ _, s =>
    target = .completed ∧ (∃ w, MayMove call workOrderId w target s) ∧
      ∃ key item, s.checklistItems.get? key = some item ∧ item.workOrderId = workOrderId ∧ item.requiresPass = true ∧
        item.result = none
  | _, _ => False

/-! ### Changes that complete nothing -/

/-- An item of before, perhaps passed since; or a new one of a new work order. -/
def Answered (s : WorkOrderBooks) (key : Nat) (item' : WorkOrderChecklistItem) : Prop :=
  (∃ item, s.checklistItems.get? key = some item ∧ item.workOrderId = item'.workOrderId ∧ item.requiresPass = true ∧
    (item'.result = item.result ∨ item'.result = some .pass)) ∨
  s.workOrders.get? item'.workOrderId = none ∧ (item'.result = none ∨ item'.result = some .pass)

/-- No work order is completed, and none loses a result. -/
structure CompletesNone (s s' : WorkOrderBooks) : Prop where
  kept : ∀ workOrderId, s'.workOrders.get? workOrderId = none → s.workOrders.get? workOrderId = none
  completed : ∀ workOrderId w', s'.workOrders.get? workOrderId = some w' → w'.state = .completed →
    ∃ w, s.workOrders.get? workOrderId = some w ∧ w.state = .completed
  items : ∀ key item', s'.checklistItems.get? key = some item' → item'.requiresPass = true → Answered s key item'

namespace CompletesNone
variable {s s' s'' : WorkOrderBooks}

theorem of_states (items : s'.checklistItems = s.checklistItems)
    (states : ∀ workOrderId, (s'.workOrders.get? workOrderId).map WorkOrder.state =
      (s.workOrders.get? workOrderId).map WorkOrder.state) : CompletesNone s s' where
  kept workOrderId missing := by
    have same := states workOrderId
    rw [missing] at same
    exact Option.map_eq_none_iff.mp same.symm
  completed workOrderId w' stored completed := by
    have same := states workOrderId
    rw [stored] at same
    obtain ⟨w, there, state⟩ := Option.map_eq_some_iff.mp same.symm
    exact ⟨w, there, state.trans completed⟩
  items key item' stored required := Or.inl ⟨item', items ▸ stored, rfl, required, Or.inl rfl⟩

theorem refl (s : WorkOrderBooks) : CompletesNone s s := of_states rfl fun _ => rfl

theorem trans (first : CompletesNone s s') (second : CompletesNone s' s'') : CompletesNone s s'' where
  kept workOrderId missing := first.kept workOrderId (second.kept workOrderId missing)
  completed workOrderId w'' stored completed := by
    obtain ⟨w', there, completed'⟩ := second.completed workOrderId w'' stored completed
    exact first.completed workOrderId w' there completed'
  items key item'' stored required := by
    obtain ⟨item', there, own, required', result⟩ | ⟨new, unfailed⟩ := second.items key item'' stored required
    · obtain ⟨item, there', own', required'', result'⟩ | ⟨new, unfailed⟩ := first.items key item' there required'
      · refine Or.inl ⟨item, there', own'.trans own, required'', ?_⟩
        obtain same | passed := result
        · rwa [same]
        · exact Or.inr passed
      · refine Or.inr ⟨own ▸ new, ?_⟩
        obtain same | passed := result
        · rwa [same]
        · exact Or.inr passed
    · exact Or.inr ⟨first.kept _ new, unfailed⟩

theorem noneFailed (change : CompletesNone s s') (sound : NoneFailed s) : NoneFailed s' := by
  intro key item' stored required
  obtain ⟨item, there, -, required', same | passed⟩ | ⟨-, unfailed⟩ := change.items key item' stored required
  · rw [same]
    exact sound key item there required'
  · exact Or.inr passed
  · exact unfailed

theorem passed (change : CompletesNone s s') (sound : PassedWhereCompleted s) : PassedWhereCompleted s' := by
  intro workOrderId w' stored completed key item' there own required
  obtain ⟨w, stored', completed'⟩ := change.completed workOrderId w' stored completed
  obtain ⟨item, there', own', required', same | passed⟩ | ⟨new, -⟩ := change.items key item' there required
  · rw [same]
    exact sound workOrderId w stored' completed' key item there' (own'.trans own) required'
  · exact passed
  · rw [own, stored'] at new
    cases new

end CompletesNone

/-! ### The calls -/

section Calls
variable {setup : MaintenanceSetup} {s s' : WorkOrderBooks}

theorem setWorkOrder_completesNone (workOrderId : Nat) {change : WorkOrder → WorkOrder}
    (state : ∀ w, (change w).state = w.state) : CompletesNone s (after (setWorkOrder workOrderId change) s) := by
  refine .of_states rfl fun other => ?_
  show ((s.workOrders.update workOrderId change).get? other).map _ = _
  rw [Table.get?_update]
  split
  · cases s.workOrders.get? other with
    | none => rfl
    | some w => exact congrArg some (state w)
  · rfl

theorem acted_items (call : Acting) (workOrderId : Nat) (target : WorkOrderState) (reasonCode : String)
    (locked : WorkOrder) (s : WorkOrderBooks) :
    (acted call workOrderId target reasonCode locked s).checklistItems = s.checklistItems := by
  unfold acted restricted withDowntime
  repeat' split
  all_goals rfl

theorem transition_completesNone (call : Acting) (workOrderId : Nat) {target : WorkOrderState} (reasonCode : String)
    (notes : Option String) (goesOn : target ≠ .completed) (s : WorkOrderBooks) :
    CompletesNone s (after (WorkOrderWorkflow.transition setup call workOrderId target reasonCode notes) s) := by
  refine after_atomic (atomic_transaction _) (.refl s) fun u s' success => ?_
  obtain ⟨w, may, rfl⟩ := (transition_returns ..).mp success
  refine ⟨fun other missing => ?_, fun other w' stored completed => ?_, fun key item' stored required => ?_⟩
  · rw [get?_movedTo may] at missing
    split at missing
    · cases missing
    · exact missing
  · rw [get?_movedTo may] at stored
    split at stored
    · cases stored
      exact absurd completed goesOn
    · exact ⟨w', stored, completed⟩
  · have same : s.checklistItems.get? key = some item' := by
      rw [← acted_items call workOrderId target reasonCode w s]
      exact stored
    exact Or.inl ⟨item', same, rfl, required, Or.inl rfl⟩

theorem saved_transition_completesNone (call : Acting) (workOrderId : Nat) {target : WorkOrderState}
    (reasonCode : String) (notes : Option String) {change : WorkOrder → WorkOrder}
    (state : ∀ w, (change w).state = w.state) (goesOn : target ≠ .completed) :
    CompletesNone s (after (do
      setWorkOrder workOrderId change
      WorkOrderWorkflow.transition setup call workOrderId target reasonCode notes) s) := by
  have saved := setWorkOrder_completesNone (s := s) workOrderId state
  unfold setWorkOrder at saved ⊢
  rw [after_write]
  exact saved.trans (transition_completesNone call workOrderId reasonCode notes goesOn _)

theorem create_completesNone (call : Acting) (data : WorkOrderData) (s : WorkOrderBooks) :
    CompletesNone s (after (WorkOrderWorkflow.create setup call data) s) := by
  refine after_atomic (atomic_transaction _) (.refl s) fun u s' success => ?_
  obtain ⟨currency, rows, rfl, -, copied⟩ := create_reports success
  refine ⟨fun workOrderId missing => ?_, fun workOrderId w' stored completed => ?_, fun key item' stored required => ?_⟩
  · by_contra present
    obtain ⟨w', stored⟩ := Option.ne_none_iff_exists'.mp present
    rw [Table.get?_create_of_some _ _ stored] at missing
    cases missing
  · obtain ⟨-, rfl⟩ | earlier := Table.get?_create_cases stored
    · cases completed
    · exact ⟨w', earlier, completed⟩
  · obtain old | ⟨own, unanswered⟩ := copied key item' stored
    · exact Or.inl ⟨item', old, rfl, required, Or.inl rfl⟩
    · exact Or.inr ⟨by rw [own, Table.get?_nextId], Or.inl unanswered⟩

theorem assign_completesNone (call : Acting) (workOrderId : Nat) (technician vendor : Option Nat)
    (s : WorkOrderBooks) :
    CompletesNone s (after (WorkOrderWorkflow.assign setup call workOrderId technician vendor) s) := by
  have atomic : Atomic (WorkOrderWorkflow.assign setup call workOrderId technician vendor) :=
    (atomic_throwIf _ _).bind (fun _ _ _ passed => ((returns_throwIf ..).mp passed).2) fun _ => atomic_transaction _
  refine after_atomic atomic (.refl s) fun u s' success => ?_
  obtain ⟨rows, rfl | moves⟩ := assign_returns success
  · exact .of_states rfl fun _ => rfl
  · have assigned : CompletesNone s { s with assignments := rows } := .of_states rfl fun _ => rfl
    have moved : CompletesNone { s with assignments := rows } (after (WorkOrderWorkflow.transition setup call
        workOrderId .assigned "resource_assigned" none) { s with assignments := rows }) :=
      transition_completesNone call workOrderId "resource_assigned" none (by decide) _
    rw [moves.after_eq] at moved
    exact assigned.trans moved

theorem completeChecklistItem_completesNone (call : Acting) (itemId : Nat) (result : ChecklistResult)
    (notes : Option String) (s : WorkOrderBooks) :
    CompletesNone s (after (WorkOrderWorkflow.completeChecklistItem call itemId result notes) s) := by
  unfold WorkOrderWorkflow.completeChecklistItem requireActor
  rw [after_read]
  cases found : s.checklistItems.get? itemId with
  | none => exact .refl s
  | some item =>
    rw [after_bind_of_returns ((returns_orThrow ..).mpr ⟨rfl, rfl⟩), after_throwIf]
    split
    · exact .refl s
    rename_i unrefused
    rw [after_read, after_throwIf]
    split
    · exact .refl s
    refine after_silent_bind (keeps_orThrow _ _) (.refl s) fun actor => ?_
    refine ⟨fun _ missing => missing, fun _ w stored completed => ⟨w, stored, completed⟩,
      fun key item' stored required => ?_⟩
    obtain ⟨rfl, old, there, rfl⟩ | ⟨-, same⟩ := Table.get?_update_cases stored
    · cases found.symm.trans there
      have passes : result = .pass := by
        by_contra other
        exact unrefused ⟨required, other⟩
      exact Or.inl ⟨item, there, rfl, required, Or.inr (congrArg some passes)⟩
    · exact Or.inl ⟨item', same, rfl, required, Or.inl rfl⟩

theorem completesNone_next (call : WorkOrderCall) (s : WorkOrderBooks)
    (other : ∀ acting workOrderId reasonCode notes, call ≠ .transition acting workOrderId .completed reasonCode notes) :
    CompletesNone s (call.next setup s) := by
  cases call with
  | create call data => exact create_completesNone call data s
  | transition call workOrderId target reasonCode notes =>
    refine transition_completesNone call workOrderId reasonCode notes (fun completes => ?_) s
    exact other call workOrderId reasonCode notes (by rw [completes])
  | assign call workOrderId technician vendor => exact assign_completesNone call workOrderId technician vendor s
  | plan call workOrderId scope scheduledStartAt scheduledEndAt timezone =>
    unfold WorkOrderCall.next WorkOrderCall.perform WorkOrderWorkflow.plan
    rw [after_throwIf]
    split
    · exact .refl s
    · refine saved_transition_completesNone call workOrderId _ _ (fun _ => rfl) ?_
      split <;> decide
  | recordResolution workOrderId =>
    unfold WorkOrderCall.next WorkOrderCall.perform WorkOrderWorkflow.recordResolution
    refine after_silent_bind (silent_load workOrderId) (.refl s) fun found => ?_
    rw [after_throwIf]
    split
    · exact .refl s
    · exact setWorkOrder_completesNone workOrderId fun _ => rfl
  | placeOnHold call workOrderId holdState =>
    unfold WorkOrderCall.next WorkOrderCall.perform WorkOrderWorkflow.placeOnHold
    rw [after_throwIf]
    split
    · exact .refl s
    · rename_i pauses
      refine saved_transition_completesNone call workOrderId _ _ (fun _ => rfl) fun completes => pauses ?_
      rw [completes]
      rfl
  | completeChecklistItem call itemId result notes => exact completeChecklistItem_completesNone call itemId result notes s
  | reopen call workOrderId reason =>
    unfold WorkOrderCall.next WorkOrderCall.perform WorkOrderWorkflow.reopen
    refine after_silent_bind (silent_load workOrderId) (.refl s) fun found => ?_
    rw [after_throwIf]
    split
    · exact .refl s
    · exact create_completesNone call _ s
  | elsewhere => exact .of_states rfl fun _ => rfl

/-- A completion keeps what a completed work order has passed, unless it leaves an item unanswered. -/
theorem completed_step (call : Acting) (workOrderId : Nat) (reasonCode : String) (notes : Option String)
    (s : WorkOrderBooks) (unfailed : NoneFailed s) (sound : PassedWhereCompleted s) :
    NoneFailed (WorkOrderCall.next setup (.transition call workOrderId .completed reasonCode notes) s) ∧
      (PassedWhereCompleted (WorkOrderCall.next setup (.transition call workOrderId .completed reasonCode notes) s) ↔
        ¬ CompletesUnanswered (.transition call workOrderId .completed reasonCode notes) s) := by
  unfold WorkOrderCall.next WorkOrderCall.perform CompletesUnanswered
  have atomic : Atomic (WorkOrderWorkflow.transition setup call workOrderId .completed reasonCode notes) :=
    atomic_transaction _
  obtain ⟨unchanged, refused⟩ | success := after_cases atomic s
  · rw [unchanged]
    refine ⟨unfailed, iff_of_true sound ?_⟩
    rintro ⟨-, ⟨w, may⟩, -⟩
    exact refused _ ((transition_returns ..).mpr ⟨w, may, rfl⟩)
  obtain ⟨w, may, same⟩ := (transition_returns ..).mp success
  rw [same]
  have items : (movedTo setup call workOrderId .completed reasonCode notes w s).checklistItems = s.checklistItems :=
    acted_items call workOrderId .completed reasonCode w s
  refine ⟨fun key item stored => unfailed key item (items ▸ stored), ?_⟩
  constructor
  · rintro after' ⟨-, -, key, item, stored, own, required, unanswered⟩
    have passed := after' workOrderId _ (by rw [get?_movedTo may, if_pos rfl]) rfl key item (items ▸ stored) own required
    rw [unanswered] at passed
    cases passed
  · intro answered other w' stored completed key item there own required
    rw [items] at there
    rw [get?_movedTo may] at stored
    split at stored
    · rename_i self
      refine (unfailed key item there required).resolve_left fun unanswered => answered ?_
      exact ⟨rfl, ⟨w, may⟩, key, item, there, own.trans self, required, unanswered⟩
    · exact sound other w' stored completed key item there own required

end Calls

/-- Every completed work order has passed what requires a pass, throughout a run, exactly if no completion goes
through with such an item unanswered. -/
theorem passed_where_completed_iff (setup : MaintenanceSetup) (calls : List WorkOrderCall) (s : WorkOrderBooks)
    (unfailed : NoneFailed s) (sound : PassedWhereCompleted s) :
    Runs.Throughout (WorkOrderCall.next setup) PassedWhereCompleted calls s ↔
      Runs.Met (WorkOrderCall.next setup) (fun call s => ¬ CompletesUnanswered call s) calls s := by
  refine Runs.throughout_iff_met_of (Q := NoneFailed) (fun call s unfailed sound => ?_) calls s unfailed sound
  by_cases completes : ∃ acting workOrderId reasonCode notes,
      call = .transition acting workOrderId .completed reasonCode notes
  · obtain ⟨acting, workOrderId, reasonCode, notes, rfl⟩ := completes
    exact completed_step acting workOrderId reasonCode notes s unfailed sound
  · have change : CompletesNone s (call.next setup s) :=
      completesNone_next call s fun acting workOrderId reasonCode notes same =>
        completes ⟨acting, workOrderId, reasonCode, notes, same⟩
    refine ⟨change.noneFailed unfailed, iff_of_true (change.passed sound) fun unanswered => ?_⟩
    cases call with
    | transition acting workOrderId target reasonCode notes =>
      exact completes ⟨acting, workOrderId, reasonCode, notes, by rw [unanswered.1]⟩
    | _ => exact unanswered

theorem inService_passed : NoneFailed inService ∧ PassedWhereCompleted inService := by
  constructor
  · intro key item stored
    cases stored
  · intro workOrderId w stored
    cases stored

/-- One technician, and a checklist of one step that is to be passed and not required. -/
def oneStep : MaintenanceSetup :=
  { oneTechnician with
    templateItems := fun _ => [{ sortOrder := 0, itemType := "safety", label := "Earth", isRequired := false
                                 requiresPass := true }] }

/-- A repair with that checklist is completed; the step is answered or not. -/
def repairWithChecklist (answers : List WorkOrderCall) : List WorkOrderCall :=
  [.create ⟨some 2, 0⟩
      { workType := "corrective", siteId := 0, asset := oneStation, priorityId := 0, title := "Repair"
        description := "Cable", checklistTemplateId := some 0 },
    .transition ⟨some 2, 0⟩ 0 .triaged "dispatch" none,
    .assign ⟨some 2, 0⟩ 0 (some 1) none,
    .transition ⟨some 1, 0⟩ 0 .inProgress "started" none] ++ answers ++
    [.transition ⟨some 1, 0⟩ 0 .completed "done" none]

/-- The step is passed before the completion. -/
theorem passed_repairWithChecklist : Runs.Throughout (WorkOrderCall.next oneStep) PassedWhereCompleted
    (repairWithChecklist [.completeChecklistItem ⟨some 1, 0⟩ 0 .pass none]) inService := by
  refine (passed_where_completed_iff oneStep _ inService inService_passed.1 inService_passed.2).mpr ?_
  unfold repairWithChecklist
  simp only [List.cons_append, List.nil_append]
  refine ⟨id, fun unanswered => (by cases unanswered.1), id, fun unanswered => (by cases unanswered.1), id, ?_, trivial⟩
  rintro ⟨-, -, key, item, stored, -, -, unanswered⟩
  have answered : ((Runs.reached (WorkOrderCall.next oneStep)
      ((repairWithChecklist [.completeChecklistItem ⟨some 1, 0⟩ 0 .pass none]).take 5) inService).checklistItems.entries.all
        fun row => row.2.result.isSome) = true := by decide +kernel
  have some' := List.all_eq_true.mp answered _ ((Table.mem_entries ..).mpr stored)
  rw [unanswered] at some'
  cases some'

/-- Nobody answers the step. -/
theorem unanswered_step_completed : ¬ ∀ (setup : MaintenanceSetup) (calls : List WorkOrderCall) (s : WorkOrderBooks),
    NoneFailed s → PassedWhereCompleted s → Runs.Throughout (WorkOrderCall.next setup) PassedWhereCompleted calls s := by
  intro always
  have last := (always oneStep (repairWithChecklist []) inService inService_passed.1 inService_passed.2).last
  have facts : ((Runs.reached (WorkOrderCall.next oneStep) (repairWithChecklist []) inService).workOrders.get? 0).any
        (fun w => decide (w.state = .completed)) = true ∧
      ((Runs.reached (WorkOrderCall.next oneStep) (repairWithChecklist []) inService).checklistItems.get? 0).any
        (fun item => decide (item.workOrderId = 0 ∧ item.requiresPass = true ∧ item.result = none)) = true := by
    decide +kernel
  obtain ⟨w, stored, completed⟩ := (Option.any_eq_true _ _).mp facts.1
  obtain ⟨item, there, step⟩ := (Option.any_eq_true _ _).mp facts.2
  obtain ⟨own, required, unanswered⟩ := of_decide_eq_true step
  have passed := last 0 w stored (of_decide_eq_true completed) 0 item there own required
  rw [unanswered] at passed
  cases passed

end VtsaCsms.Maintenance
