import VtsaCsms.Maintenance.AssetRestriction

/-!
# Runs of work orders

In any run of the work orders' calls the lifecycle of every asset says which are worked on, exactly as
long as no work order ends its work under another one, and none is canceled that works alone.
-/
namespace VtsaCsms.Maintenance
open Foundation Foundation.Action Foundation.Spans EloquentAssetMaintenanceContract WorkOrderWorkflow

/-- The calls of the workflow, and what other services leave of the parts and photos in between. -/
inductive WorkOrderCall where
  | create (call : Acting) (data : WorkOrderData)
  | transition (call : Acting) (workOrderId : Nat) (target : WorkOrderState) (reasonCode : String)
      (notes : Option String)
  | assign (call : Acting) (workOrderId : Nat) (technician vendor : Option Nat)
  | plan (call : Acting) (workOrderId : Nat) (scope : String) (scheduledStartAt scheduledEndAt : Option Instant)
      (timezone : String)
  | recordResolution (workOrderId : Nat) (workPerformed : String) (resolutionCodeId : Nat)
      (failureCodeId rootCauseCodeId : Option Nat) (diagnosis : Option String)
  | placeOnHold (call : Acting) (workOrderId : Nat) (holdState : WorkOrderState) (reasonCode notes : String)
      (reviewAt : Option Instant)
  | completeChecklistItem (call : Acting) (itemId : Nat) (result : ChecklistResult) (notes : Option String)
  | reopen (call : Acting) (workOrderId : Nat) (reason : String)
  | elsewhere (partQuantities : Table Nat PartQuantities) (photos : List Nat)

namespace WorkOrderCall

def perform (setup : MaintenanceSetup) : WorkOrderCall → Maintaining Unit
  | create call data => WorkOrderWorkflow.create setup call data
  | transition call workOrderId target reasonCode notes =>
    WorkOrderWorkflow.transition setup call workOrderId target reasonCode notes
  | assign call workOrderId technician vendor => WorkOrderWorkflow.assign setup call workOrderId technician vendor
  | plan call workOrderId scope scheduledStartAt scheduledEndAt timezone =>
    WorkOrderWorkflow.plan setup call workOrderId scope scheduledStartAt scheduledEndAt timezone
  | recordResolution workOrderId workPerformed resolutionCodeId failureCodeId rootCauseCodeId diagnosis =>
    WorkOrderWorkflow.recordResolution workOrderId workPerformed resolutionCodeId failureCodeId rootCauseCodeId
      diagnosis
  | placeOnHold call workOrderId holdState reasonCode notes reviewAt =>
    WorkOrderWorkflow.placeOnHold setup call workOrderId holdState reasonCode notes reviewAt
  | completeChecklistItem call itemId result notes =>
    WorkOrderWorkflow.completeChecklistItem call itemId result notes
  | reopen call workOrderId reason => WorkOrderWorkflow.reopen setup call workOrderId reason
  | elsewhere partQuantities photos => write fun s => { s with partQuantities, photos }

def next (setup : MaintenanceSetup) (call : WorkOrderCall) (s : WorkOrderBooks) : WorkOrderBooks :=
  after (call.perform setup) s

end WorkOrderCall

/-- A transition that goes through spares the work of the others. -/
def SparesOthers : WorkOrderCall → WorkOrderBooks → Prop
  | .transition call workOrderId target _ _, s =>
    ∀ w, MayMove call workOrderId w target s → Spares workOrderId w target s
  | _, _ => True

/-- What a call other than a transition keeps. -/
def Kept (s' : WorkOrderBooks) : Prop := Keyed s' ∧ OutOfServiceWhileWorkedOn s'

section Calls
variable {setup : MaintenanceSetup} {s : WorkOrderBooks}

theorem Kept.same {s' : WorkOrderBooks} (kept : Kept s) (same : SameWork s s') : Kept s' :=
  ⟨same.keyed kept.1, same.outOfService.mpr kept.2⟩

theorem setWorkOrder_kept (workOrderId : Nat) {change : WorkOrder → WorkOrder} (asset : ∀ w, (change w).asset = w.asset)
    (required : ∀ w, (change w).assetRestrictionRequired = w.assetRestrictionRequired) (kept : Kept s) :
    Kept (after (setWorkOrder workOrderId change) s) :=
  kept.same (sameWork_setWorkOrder workOrderId asset required s)

theorem pausesSla_goesOn {state : WorkOrderState} (pauses : state.pausesSla = true) :
    ¬ PutsBack state ∧ state ≠ .canceled := by
  cases state <;> first | exact ⟨by decide, by decide⟩ | cases pauses

theorem create_kept (call : Acting) (data : WorkOrderData) (kept : Kept s) :
    Kept (after (WorkOrderWorkflow.create setup call data) s) := by
  have atomic : Atomic (WorkOrderWorkflow.create setup call data) := atomic_transaction _
  obtain ⟨unchanged, -⟩ | success := after_cases atomic s
  · rwa [unchanged]
  · exact create_keeps kept.1 kept.2 success

theorem saved_transition_kept (call : Acting) (workOrderId : Nat) {target : WorkOrderState} (reasonCode : String)
    (notes : Option String) {change : WorkOrder → WorkOrder} (asset : ∀ w, (change w).asset = w.asset)
    (required : ∀ w, (change w).assetRestrictionRequired = w.assetRestrictionRequired)
    (goesOn : ¬ PutsBack target ∧ target ≠ .canceled) (kept : Kept s) :
    Kept (after (do
      setWorkOrder workOrderId change
      WorkOrderWorkflow.transition setup call workOrderId target reasonCode notes) s) := by
  have saved := setWorkOrder_kept workOrderId asset required kept
  unfold setWorkOrder at saved ⊢
  rw [after_write]
  exact transition_keeps saved.1 saved.2 goesOn.1 goesOn.2

theorem plan_kept (call : Acting) (workOrderId : Nat) (scope : String)
    (scheduledStartAt scheduledEndAt : Option Instant) (timezone : String) (kept : Kept s) :
    Kept (after (WorkOrderWorkflow.plan setup call workOrderId scope scheduledStartAt scheduledEndAt timezone) s) := by
  unfold WorkOrderWorkflow.plan
  rw [after_throwIf]
  split
  · exact kept
  · refine saved_transition_kept call workOrderId _ _ (fun _ => rfl) (fun _ => rfl) ?_ kept
    split
    · exact ⟨by decide, by decide⟩
    · exact ⟨by decide, by decide⟩

theorem placeOnHold_kept (call : Acting) (workOrderId : Nat) (holdState : WorkOrderState) (reasonCode notes : String)
    (reviewAt : Option Instant) (kept : Kept s) :
    Kept (after (WorkOrderWorkflow.placeOnHold setup call workOrderId holdState reasonCode notes reviewAt) s) := by
  unfold WorkOrderWorkflow.placeOnHold
  rw [after_throwIf]
  split
  · exact kept
  · rename_i pauses
    exact saved_transition_kept call workOrderId _ _ (fun _ => rfl) (fun _ => rfl)
      (pausesSla_goesOn (by simpa using pauses)) kept

theorem silent_load (workOrderId : Nat) : Keeps id (WorkOrderWorkflow.load workOrderId) :=
  (keeps_read _).bind fun _ => keeps_orThrow _ _

theorem recordResolution_kept (workOrderId : Nat) (workPerformed : String) (resolutionCodeId : Nat)
    (failureCodeId rootCauseCodeId : Option Nat) (diagnosis : Option String) (kept : Kept s) :
    Kept (after (WorkOrderWorkflow.recordResolution workOrderId workPerformed resolutionCodeId failureCodeId
      rootCauseCodeId diagnosis) s) := by
  unfold WorkOrderWorkflow.recordResolution
  refine after_silent_bind (silent_load workOrderId) kept fun found => ?_
  rw [after_throwIf]
  split
  · exact kept
  · exact setWorkOrder_kept workOrderId (fun _ => rfl) (fun _ => rfl) kept

theorem completeChecklistItem_kept (call : Acting) (itemId : Nat) (result : ChecklistResult) (notes : Option String)
    (kept : Kept s) : Kept (after (WorkOrderWorkflow.completeChecklistItem call itemId result notes) s) := by
  unfold WorkOrderWorkflow.completeChecklistItem requireActor
  rw [after_read]
  refine after_silent_bind (keeps_orThrow _ _) kept fun item => ?_
  rw [after_throwIf]
  split
  · exact kept
  rw [after_read, after_throwIf]
  split
  · exact kept
  refine after_silent_bind (keeps_orThrow _ _) kept fun actor => ?_
  exact kept.same ⟨rfl, rfl, fun _ => rfl⟩

theorem reopen_kept (call : Acting) (workOrderId : Nat) (reason : String) (kept : Kept s) :
    Kept (after (WorkOrderWorkflow.reopen setup call workOrderId reason) s) := by
  unfold WorkOrderWorkflow.reopen
  refine after_silent_bind (silent_load workOrderId) kept fun found => ?_
  rw [after_throwIf]
  split
  · exact kept
  · exact create_kept call _ kept

theorem assign_returns {call : Acting} {workOrderId : Nat} {technician vendor : Option Nat} {s' : WorkOrderBooks}
    (success : Returns (WorkOrderWorkflow.assign setup call workOrderId technician vendor) s () s') :
    ∃ rows, s' = { s with assignments := rows } ∨
      Returns (WorkOrderWorkflow.transition setup call workOrderId .assigned "resource_assigned" none)
        { s with assignments := rows } () s' := by
  unfold WorkOrderWorkflow.assign at success
  simp only [returns_bind, returns_transaction, returns_loadWorkOrder, returns_throwIf] at success
  obtain ⟨_, _, ⟨-, rfl⟩, locked, _, ⟨-, rfl⟩, _, s, ⟨-, rfl⟩, checked⟩ := success
  have rest : ∃ rows, Returns (doIf (locked.state ≠ .assigned)
      (WorkOrderWorkflow.transition setup call workOrderId .assigned "resource_assigned" none))
        { s with assignments := rows } () s' := by
    cases technician with
    | none =>
      simp only [returns_bind, returns_throwIf, returns_write, returns_requireActor] at checked
      obtain ⟨_, _, ⟨-, rfl⟩, _, _, rfl, _, _, ⟨-, rfl⟩, _, _, rfl, rest⟩ := checked
      exact ⟨_, rest⟩
    | some =>
      unfold WorkOrderWorkflow.assertTechnicianSkills at checked
      simp only [returns_bind, returns_throwIf, returns_write, returns_requireActor] at checked
      obtain ⟨_, _, ⟨-, rfl⟩, _, _, ⟨_, _, ⟨-, rfl⟩, -, rfl⟩, _, _, rfl, _, _, ⟨-, rfl⟩, _, _, rfl, rest⟩ := checked
      exact ⟨_, rest⟩
  obtain ⟨rows, rest⟩ := rest
  rw [returns_doIf] at rest
  obtain ⟨-, moves⟩ | ⟨-, same⟩ := rest
  · exact ⟨rows, Or.inr moves⟩
  · exact ⟨rows, Or.inl same⟩

theorem assign_kept (call : Acting) (workOrderId : Nat) (technician vendor : Option Nat) (kept : Kept s) :
    Kept (after (WorkOrderWorkflow.assign setup call workOrderId technician vendor) s) := by
  have atomic : Atomic (WorkOrderWorkflow.assign setup call workOrderId technician vendor) :=
    (atomic_throwIf _ _).bind (fun _ _ _ passed => ((returns_throwIf ..).mp passed).2) fun _ => atomic_transaction _
  obtain ⟨unchanged, -⟩ | success := after_cases atomic s
  · rwa [unchanged]
  · obtain ⟨rows, same | moves⟩ := assign_returns success
    · rw [same]
      exact kept.same ⟨rfl, rfl, fun _ => rfl⟩
    · have assigned : Kept { s with assignments := rows } := kept.same ⟨rfl, rfl, fun _ => rfl⟩
      have moved : Kept (after (WorkOrderWorkflow.transition setup call workOrderId .assigned "resource_assigned" none)
          { s with assignments := rows }) := transition_keeps assigned.1 assigned.2 (by decide) (by decide)
      rwa [moves.after_eq] at moved

/-- A call keeps the lifecycles true to the work exactly when a transition it makes spares the others. -/
theorem next_step (call : WorkOrderCall) (s : WorkOrderBooks) (keyed : Keyed s)
    (sound : OutOfServiceWhileWorkedOn s) :
    Keyed (call.next setup s) ∧ (OutOfServiceWhileWorkedOn (call.next setup s) ↔ SparesOthers call s) := by
  have of_kept : ∀ s', Kept s' → Keyed s' ∧ (OutOfServiceWhileWorkedOn s' ↔ True) :=
    fun s' kept => ⟨kept.1, iff_true_intro kept.2⟩
  have kept : Kept s := ⟨keyed, sound⟩
  cases call with
  | create call data => exact of_kept _ (create_kept call data kept)
  | assign call workOrderId technician vendor => exact of_kept _ (assign_kept call workOrderId technician vendor kept)
  | plan call workOrderId scope scheduledStartAt scheduledEndAt timezone =>
    exact of_kept _ (plan_kept call workOrderId scope scheduledStartAt scheduledEndAt timezone kept)
  | recordResolution workOrderId workPerformed resolutionCodeId failureCodeId rootCauseCodeId diagnosis =>
    exact of_kept _ (recordResolution_kept workOrderId workPerformed resolutionCodeId failureCodeId rootCauseCodeId
      diagnosis kept)
  | placeOnHold call workOrderId holdState reasonCode notes reviewAt =>
    exact of_kept _ (placeOnHold_kept call workOrderId holdState reasonCode notes reviewAt kept)
  | completeChecklistItem call itemId result notes =>
    exact of_kept _ (completeChecklistItem_kept call itemId result notes kept)
  | reopen call workOrderId reason => exact of_kept _ (reopen_kept call workOrderId reason kept)
  | elsewhere => exact of_kept _ (kept.same ⟨rfl, rfl, fun _ => rfl⟩)
  | transition call workOrderId target reasonCode notes =>
    unfold WorkOrderCall.next WorkOrderCall.perform SparesOthers
    have atomic : Atomic (WorkOrderWorkflow.transition setup call workOrderId target reasonCode notes) :=
      atomic_transaction _
    obtain ⟨unchanged, refused⟩ | success := after_cases atomic s
    · rw [unchanged]
      refine ⟨keyed, iff_of_true sound ?_⟩
      intro w may
      exact absurd ((transition_returns ..).mpr ⟨w, may, rfl⟩) (refused _)
    · obtain ⟨keyed', spared⟩ := transition_step keyed sound success
      obtain ⟨w, may, -⟩ := (transition_returns ..).mp success
      refine ⟨keyed', spared.trans ⟨?_, fun all => ⟨w, may, all w may⟩⟩⟩
      rintro ⟨w₁, may₁, spares⟩ w₂ may₂
      cases may₁.stored.symm.trans may₂.stored
      exact spares

end Calls

/-- Whatever the work orders, the lifecycle of every asset says whether it is worked on throughout a run
exactly when every transition that goes through spares the work of the others. -/
theorem outOfService_iff_spares (setup : MaintenanceSetup) (calls : List WorkOrderCall) (s : WorkOrderBooks)
    (keyed : Keyed s) (sound : OutOfServiceWhileWorkedOn s) :
    Runs.Throughout (WorkOrderCall.next setup) OutOfServiceWhileWorkedOn calls s ↔
      Runs.Met (WorkOrderCall.next setup) SparesOthers calls s :=
  Runs.throughout_iff_met_of next_step calls s keyed sound

/-! ### One station -/

def oneTechnician : MaintenanceSetup where
  policies := Table.empty
  templateItems := fun _ => []
  users := [1]
  organizations := []
  memberships := [{ userId := 1, active := true, expiresAt := none }]
  requiredSkills := fun _ => []
  technicianSkills := []

def oneStation : AssetKey := (.station, 0)

def inService : WorkOrderBooks where
  assets := ⟨[(oneStation, { siteId := 0, lifecycleStatus := .active })], by decide⟩
  workOrders := Table.empty
  transitions := Table.empty
  assignments := Table.empty
  checklistItems := Table.empty
  partQuantities := Table.empty
  photos := []
  downtimePeriods := Table.empty
  assetActions := Table.empty

theorem inService_keyed : Keyed inService where
  assets := by
    intro workOrderId w stored
    cases stored
  orders := by
    intro key t stored
    cases stored

theorem inService_sound : OutOfServiceWhileWorkedOn inService := by
  intro key a stored
  have active : a.lifecycleStatus = .active := by
    rw [← Table.mem_entries] at stored
    obtain same | none' := List.mem_cons.mp stored
    · cases same
      rfl
    · cases none'
  rw [active]
  refine iff_of_false nofun ?_
  rintro ⟨workOrderId, w, none', -⟩
  cases none'

/-- A repair of the station is reported, triaged, assigned and started. -/
def startRepair : List WorkOrderCall :=
  [.create ⟨some 2, 0⟩
      { workType := "corrective", siteId := 0, asset := oneStation, priorityId := 0, title := "Repair"
        description := "Cable", assetRestrictionRequired := true },
    .transition ⟨some 2, 0⟩ 0 .triaged "dispatch" none,
    .assign ⟨some 2, 0⟩ 0 (some 1) none,
    .transition ⟨some 1, 0⟩ 0 .inProgress "started" none]

def repairOnce : List WorkOrderCall :=
  startRepair ++
    [.recordResolution 0 "Cable replaced" 0 none none none,
      .transition ⟨some 1, 0⟩ 0 .completed "done" none,
      .transition ⟨some 2, 0⟩ 0 .verified "checked" none]

def cancelRepair : List WorkOrderCall :=
  startRepair ++
    [.placeOnHold ⟨some 1, 0⟩ 0 .onHold "weather" "Rain" none,
      .transition ⟨some 2, 0⟩ 0 .canceled "not needed" none]

theorem outOfService_repairOnce :
    Runs.Throughout (WorkOrderCall.next oneTechnician) OutOfServiceWhileWorkedOn repairOnce inService := by
  have goesOn : ∀ (workOrderId : Nat) (target : WorkOrderState) (s : WorkOrderBooks), ¬ PutsBack target →
      target ≠ .canceled → ∀ w, Spares workOrderId w target s :=
    fun _ _ _ stays other _ _ => ⟨fun back => absurd back stays, fun cancels => absurd cancels other⟩
  refine (outOfService_iff_spares oneTechnician repairOnce inService inService_keyed inService_sound).mpr ?_
  refine ⟨trivial, fun w _ => goesOn _ _ _ (by decide) (by decide) w, trivial,
    fun w _ => goesOn _ _ _ (by decide) (by decide) w, trivial, fun w _ => goesOn _ _ _ (by decide) (by decide) w,
    fun w _ _ => ⟨fun _ other different => ?_, nofun⟩, trivial⟩
  rintro ⟨w', stored, -⟩
  have alone : (Runs.reached (WorkOrderCall.next oneTechnician) (repairOnce.take 6) inService).workOrders.entries.map
      Prod.fst = [0] := by decide +kernel
  have mem := List.mem_map_of_mem (f := Prod.fst) ((Table.mem_entries _ other w').mpr stored)
  exact different (List.mem_singleton.mp (alone ▸ mem))

/-- The canceled repair leaves the station in maintenance, and no work order works on it. -/
theorem canceledRepair_outOfService : ¬ ∀ (setup : MaintenanceSetup) (calls : List WorkOrderCall) (s : WorkOrderBooks),
    Keyed s → OutOfServiceWhileWorkedOn s →
      Runs.Throughout (WorkOrderCall.next setup) OutOfServiceWhileWorkedOn calls s := by
  intro always
  have last := (always oneTechnician cancelRepair inService inService_keyed inService_sound).last
  have station : (Runs.reached (WorkOrderCall.next oneTechnician) cancelRepair inService).assets.get? oneStation =
      some { siteId := 0, lifecycleStatus := .maintenance } := by decide +kernel
  have idle : ((Runs.reached (WorkOrderCall.next oneTechnician) cancelRepair inService).workOrders.exists?
      fun workOrderId _ =>
        decide (Working workOrderId (Runs.reached (WorkOrderCall.next oneTechnician) cancelRepair inService))) = false := by
    decide +kernel
  obtain ⟨workOrderId, w, stored, -, -, working⟩ := (last oneStation _ station).mp rfl
  rw [(Table.exists?_iff ..).mpr ⟨workOrderId, w, stored, by exact decide_eq_true working⟩] at idle
  cases idle

end VtsaCsms.Maintenance
