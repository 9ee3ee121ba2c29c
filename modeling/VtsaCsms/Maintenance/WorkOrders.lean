import VtsaCsms.Foundation.Action
import VtsaCsms.Foundation.Php
import VtsaCsms.Foundation.Table

/-!
# Work orders

`WorkOrderWorkflow.php` and `WorkOrderState.php`: a work order from the report to its closure, and
what its transitions do to the asset (`EloquentAssetMaintenanceContract.php`) and to its downtime.
-/
namespace VtsaCsms.Maintenance
open Foundation Foundation.Action

/-! ### States -/

inductive WorkOrderState where
  | reported | triaged | planned | scheduled | assigned | inProgress | onHold | awaitingParts | awaitingAccess
  | awaitingExternal | awaitingSafetyClearance | completed | verificationRequired | verified | closed | canceled
  deriving DecidableEq, Repr

namespace WorkOrderState

def value : WorkOrderState → String
  | reported => "reported"
  | triaged => "triaged"
  | planned => "planned"
  | scheduled => "scheduled"
  | assigned => "assigned"
  | inProgress => "in_progress"
  | onHold => "on_hold"
  | awaitingParts => "awaiting_parts"
  | awaitingAccess => "awaiting_access"
  | awaitingExternal => "awaiting_external"
  | awaitingSafetyClearance => "awaiting_safety_clearance"
  | completed => "completed"
  | verificationRequired => "verification_required"
  | verified => "verified"
  | closed => "closed"
  | canceled => "canceled"

def targets : WorkOrderState → List WorkOrderState
  | reported => [triaged, canceled]
  | triaged => [planned, assigned, canceled]
  | planned => [scheduled, assigned, awaitingParts, awaitingAccess, awaitingExternal, canceled]
  | scheduled => [assigned, planned, awaitingParts, awaitingAccess, canceled]
  | assigned => [inProgress, scheduled, awaitingParts, awaitingAccess, canceled]
  | inProgress =>
    [onHold, awaitingParts, awaitingAccess, awaitingExternal, awaitingSafetyClearance, completed]
  | onHold => [inProgress, planned, canceled]
  | awaitingParts => [inProgress, planned, canceled]
  | awaitingAccess => [inProgress, scheduled, canceled]
  | awaitingExternal => [inProgress, planned, canceled]
  | awaitingSafetyClearance => [inProgress, completed]
  | completed => [verificationRequired, verified, inProgress]
  | verificationRequired => [verified, inProgress]
  | verified => [closed, inProgress]
  | closed | canceled => []

def canTransitionTo (source target : WorkOrderState) : Bool := target ∈ source.targets

def pausesSla (state : WorkOrderState) : Bool :=
  state ∈ [onHold, awaitingParts, awaitingAccess, awaitingExternal, awaitingSafetyClearance]

end WorkOrderState

/-! ### Rows -/

inductive AssetType where
  | station | evse | connector | component
  deriving DecidableEq, Repr

def AssetType.model : AssetType → String
  | station => "ChargingStation"
  | evse => "Evse"
  | connector => "Connector"
  | component => "AssetComponent"

/-- An asset by its type and key. -/
abbrev AssetKey : Type := AssetType × Nat

inductive AssetLifecycleStatus where
  | draft | active | maintenance | retired
  deriving DecidableEq, Repr

structure Asset where
  siteId : Nat
  lifecycleStatus : AssetLifecycleStatus
  deriving DecidableEq, Repr

structure WorkOrderData where
  workType : String
  siteId : Nat
  asset : AssetKey
  priorityId : Nat
  title : String
  description : String
  scope : Option String := none
  currency : Option String := none
  slaPolicyId : Option Nat := none
  checklistTemplateId : Option Nat := none
  warrantyId : Option Nat := none
  reopenedFromId : Option Nat := none
  safetyCritical : Bool := false
  verificationRequired : Bool := false
  assetRestrictionRequired : Bool := false
  estimatedCostMinor : Option Int := none
  deriving DecidableEq, Repr

structure WorkOrder where
  workType : String
  siteId : Nat
  asset : AssetKey
  priorityId : Nat
  title : String
  description : String
  scope : Option String
  currency : String
  slaPolicyId : Option Nat
  checklistTemplateId : Option Nat
  warrantyId : Option Nat
  reopenedFromId : Option Nat
  safetyCritical : Bool
  verificationRequired : Bool
  assetRestrictionRequired : Bool
  estimatedCostMinor : Int
  state : WorkOrderState := .reported
  workPerformed : Option String := none
  resolutionCodeId : Option Nat := none
  failureCodeId : Option Nat := none
  rootCauseCodeId : Option Nat := none
  diagnosis : Option String := none
  holdReasonCode : Option String := none
  holdNotes : Option String := none
  holdReviewAt : Option Instant := none
  scheduledStartAt : Option Instant := none
  scheduledEndAt : Option Instant := none
  scheduleTimezone : String := "UTC"
  acknowledgeTargetAt : Option Instant
  resolveTargetAt : Option Instant
  slaPausedAt : Option Instant := none
  slaPausedSeconds : Int := 0
  acknowledgedAt : Option Instant := none
  startedAt : Option Instant := none
  completedAt : Option Instant := none
  verifiedAt : Option Instant := none
  closedAt : Option Instant := none
  createdBy : Option Nat
  acknowledgedBy : Option Nat := none
  completedBy : Option Nat := none
  verifiedBy : Option Nat := none
  closedBy : Option Nat := none
  aggregateVersion : Nat := 1
  deriving DecidableEq, Repr

inductive AssignmentStatus where
  | assigned | released
  deriving DecidableEq, Repr

structure WorkOrderAssignment where
  workOrderId : Nat
  technicianUserId : Option Nat
  vendorOrganizationId : Option Nat
  status : AssignmentStatus := .assigned
  assignedBy : Nat
  assignedAt : Instant
  releasedAt : Option Instant := none
  deriving DecidableEq, Repr

inductive ChecklistResult where
  | pass | fail | complete | notApplicable
  deriving DecidableEq, Repr

structure ChecklistTemplateItem where
  sortOrder : Nat
  itemType : String
  label : String
  instructions : Option String := none
  isRequired : Bool := true
  requiresPhoto : Bool := false
  requiresPass : Bool := false
  deriving DecidableEq, Repr

structure WorkOrderChecklistItem extends ChecklistTemplateItem where
  workOrderId : Nat
  result : Option ChecklistResult := none
  notes : Option String := none
  completedBy : Option Nat := none
  completedAt : Option Instant := none
  deriving DecidableEq, Repr

/-- The quantities that the completion of a work order compares. -/
structure PartQuantities where
  workOrderId : Nat
  issuedQuantityBase : Int
  returnedQuantityBase : Int
  deriving DecidableEq, Repr

structure WorkOrderTransition where
  workOrderId : Nat
  fromState : Option WorkOrderState
  toState : WorkOrderState
  reasonCode : String
  notes : Option String
  version : Nat
  actorId : Option Nat
  occurredAt : Instant
  deriving DecidableEq, Repr

structure DowntimePeriod where
  workOrderId : Nat
  siteId : Nat
  asset : AssetKey
  reasonCode : String
  startedAt : Instant
  endedAt : Option Instant := none
  durationSeconds : Option Int := none
  deriving DecidableEq, Repr

inductive AssetActionKind where
  | restrict | returnToService
  deriving DecidableEq, Repr

structure AssetAction where
  workOrderId : Nat
  action : AssetActionKind
  asset : AssetKey
  reasonCode : String
  aggregateVersion : Nat
  requestedBy : Nat
  requestedAt : Instant
  deriving DecidableEq, Repr

structure SlaPolicy where
  priorityId : Nat
  acknowledgeSeconds : Int
  resolveSeconds : Int
  pauseStates : Option (List WorkOrderState) := none
  effectiveFrom : Instant
  effectiveTo : Option Instant := none
  isActive : Bool := true
  deriving DecidableEq, Repr

structure Membership where
  userId : Nat
  active : Bool
  expiresAt : Option Instant
  deriving DecidableEq, Repr

structure TechnicianSkill where
  userId : Nat
  skillId : Nat
  validUntil : Option Instant
  deriving DecidableEq, Repr

/-- What maintenance looks up and does not write. -/
structure MaintenanceSetup where
  policies : Table Nat SlaPolicy
  templateItems : Nat → List ChecklistTemplateItem
  users : List Nat
  organizations : List Nat
  memberships : List Membership
  requiredSkills : Nat → List Nat
  technicianSkills : List TechnicianSkill

structure WorkOrderBooks where
  assets : Table AssetKey Asset
  workOrders : Table Nat WorkOrder
  transitions : Table Nat WorkOrderTransition
  assignments : Table Nat WorkOrderAssignment
  checklistItems : Table Nat WorkOrderChecklistItem
  partQuantities : Table Nat PartQuantities
  photos : List Nat
  downtimePeriods : Table Nat DowntimePeriod
  assetActions : Table Nat AssetAction

/-- Who makes a change, and when. -/
structure Acting where
  actorId : Option Nat
  now : Instant

abbrev Maintaining (α : Type) : Type := Action WorkOrderBooks Throwable α

/-! ### The asset -/

namespace EloquentAssetMaintenanceContract

def asset (key : AssetKey) : Maintaining Asset := do
  let found ← read fun s => s.assets.get? key
  orThrow found (.modelNotFound key.1.model)

def setLifecycle (key : AssetKey) (status : AssetLifecycleStatus) : Maintaining Unit :=
  write fun s => { s with assets := s.assets.update key fun a => { a with lifecycleStatus := status } }

def assertBelongsToSite (key : AssetKey) (siteId : Nat) : Maintaining Unit := do
  let found ← asset key
  throwIf (found.siteId ≠ siteId) (.domain "The selected asset does not belong to the work-order site.")

/-- An asset in `target` stays as it is; one in `source` is put into `target`. -/
def exchange (key : AssetKey) (source target : AssetLifecycleStatus) (refusal : String) : Maintaining Unit := do
  let found ← asset key
  doIf (found.lifecycleStatus ≠ target) do
    throwIf (found.lifecycleStatus ≠ source) (.domain refusal)
    setLifecycle key target

def restrictForMaintenance (key : AssetKey) : Maintaining Unit :=
  exchange key .active .maintenance "Only an active asset can be restricted for maintenance."

def returnToService (key : AssetKey) : Maintaining Unit :=
  exchange key .maintenance .active "Only an asset in maintenance can be returned to service."

end EloquentAssetMaintenanceContract

namespace WorkOrderWorkflow
open EloquentAssetMaintenanceContract

def requireActor (call : Acting) : Maintaining Nat :=
  orThrow call.actorId (.domain "Maintenance changes require an accountable actor.")

def load (workOrderId : Nat) : Maintaining WorkOrder := do
  let found ← read fun s => s.workOrders.get? workOrderId
  orThrow found (.modelNotFound "WorkOrder")

def setWorkOrder (workOrderId : Nat) (change : WorkOrder → WorkOrder) : Maintaining Unit :=
  write fun s => { s with workOrders := s.workOrders.update workOrderId change }

/-- `maint_work_transition_ver_unique`. -/
def recordTransition (call : Acting) (transition : WorkOrderTransition) : Maintaining Unit := do
  let taken ← read fun s => s.transitions.exists? fun _ t =>
    decide (t.workOrderId = transition.workOrderId ∧ t.version = transition.version)
  throwIf (taken = true) (.uniqueConstraint "maint_work_transition_ver_unique")
  write fun s => { s with
    transitions := s.transitions.create
      { transition with actorId := call.actorId, occurredAt := call.now.toSecond } }

/-! ### Creation -/

def isCurrency (currency : String) : Bool :=
  currency.toList.length = 3 && currency.toList.all Char.isUpper

def effectiveSla (setup : MaintenanceSetup) (call : Acting) (slaPolicyId : Option Nat) (priorityId : Nat) :
    Maintaining (Option SlaPolicy) :=
  match slaPolicyId with
  | none => pure none
  | some key => do
    let policy ← orThrow (setup.policies.get? key) (.modelNotFound "SlaPolicy")
    throwIf (¬ (policy.priorityId = priorityId ∧ policy.isActive = true ∧ policy.effectiveFrom ≤ call.now ∧
      (policy.effectiveTo.all fun ends => decide (call.now < ends)) = true)) (.modelNotFound "SlaPolicy")
    pure (some policy)

/-- The work order that the data describe. -/
def reported (call : Acting) (sla : Option SlaPolicy) (currency : String) (data : WorkOrderData) : WorkOrder where
  workType := data.workType
  siteId := data.siteId
  asset := data.asset
  priorityId := data.priorityId
  title := data.title
  description := data.description
  scope := data.scope
  currency := currency
  slaPolicyId := data.slaPolicyId
  checklistTemplateId := data.checklistTemplateId
  warrantyId := data.warrantyId
  reopenedFromId := data.reopenedFromId
  safetyCritical := data.safetyCritical
  verificationRequired := data.verificationRequired
  assetRestrictionRequired := data.assetRestrictionRequired
  estimatedCostMinor := max 0 (data.estimatedCostMinor.getD 0)
  acknowledgeTargetAt := sla.map fun policy => (call.now.addSeconds policy.acknowledgeSeconds).toSecond
  resolveTargetAt := sla.map fun policy => (call.now.addSeconds policy.resolveSeconds).toSecond
  createdBy := call.actorId

def copyItem (workOrderId : Nat) (item : ChecklistTemplateItem) : Maintaining Unit :=
  write fun s => { s with checklistItems := s.checklistItems.create { item with workOrderId } }

def create (setup : MaintenanceSetup) (call : Acting) (data : WorkOrderData) : Maintaining Unit :=
  transaction do
    assertBelongsToSite data.asset data.siteId
    let sla ← effectiveSla setup call data.slaPolicyId data.priorityId
    let currency := strToUpper (data.currency.getD "PHP")
    throwIf (isCurrency currency = false)
      (.domain "Maintenance currency must be a three-letter ISO 4217 code.")
    let workOrderId ← read fun s => s.workOrders.nextId
    write fun s => { s with workOrders := s.workOrders.create (reported call sla currency data) }
    forEach ((data.checklistTemplateId.map setup.templateItems).getD []) (copyItem workOrderId)
    recordTransition call
      { workOrderId, fromState := none, toState := .reported, reasonCode := "work_order_created"
        notes := none, version := 1, actorId := none, occurredAt := call.now }

/-! ### Transitions -/

def guardTransition (call : Acting) (workOrderId : Nat) (locked : WorkOrder) (target : WorkOrderState) :
    Maintaining Unit := do
  let s ← read id
  throwIf (target = .inProgress ∧ ¬ (s.assignments.exists? fun _ a =>
      decide (a.workOrderId = workOrderId ∧ a.status = .assigned)) = true)
    (.domain "A technician or service vendor must be assigned before work starts.")
  throwIf (target = .completed ∧ (s.checklistItems.exists? fun _ item =>
      decide (item.workOrderId = workOrderId ∧ item.isRequired = true ∧ item.completedAt = none)) = true)
    (.domain "All required checklist and safety steps must be completed.")
  -- A result of NULL is not unequal to anything.
  throwIf (target = .completed ∧ (s.checklistItems.exists? fun _ item =>
      decide (item.workOrderId = workOrderId ∧ item.requiresPass = true ∧
        (item.result.any fun result => decide (result ≠ .pass)) = true)) = true)
    (.domain "All required safety results must pass.")
  throwIf (target = .completed ∧ (s.partQuantities.exists? fun _ part =>
      decide (part.workOrderId = workOrderId ∧ part.issuedQuantityBase < part.returnedQuantityBase)) = true)
    (.domain "Part return quantities are inconsistent.")
  doIf (target = .verified ∧ locked.verificationRequired = true) do
    let actor ← requireActor call
    throwIf (locked.completedBy = some actor)
      (.domain "Required verification must be performed by a different user.")
  throwIf (target = .verified ∧ (locked.resolutionCodeId = none ∨ locked.workPerformed = none))
    (.domain "Resolution code and work-performed evidence are required for verification.")
  throwIf (target = .closed ∧ locked.verifiedAt = none) (.domain "Only verified work may be closed.")

/-- A transition whose author the work order keeps. -/
def Signed (locked : WorkOrder) (target : WorkOrderState) : Prop :=
  (target = .triaged ∧ locked.acknowledgedAt = none) ∨ target = .completed ∨ target = .verified ∨ target = .closed
  deriving Decidable

def policyPausesSla (setup : MaintenanceSetup) (locked : WorkOrder) (target : WorkOrderState) : Bool :=
  target.pausesSla && ((locked.slaPolicyId.bind setup.policies.get?).any fun policy =>
    decide (target ∈ policy.pauseStates.getD []))

/-- The seconds of a pause that ends now. -/
def pauseSeconds (call : Acting) (locked : WorkOrder) (pauses : Bool) : Int :=
  match pauses, locked.slaPausedAt with
  | false, some since => max 0 (since.diffInSeconds call.now)
  | _, _ => 0

def moved (call : Acting) (target : WorkOrderState) (pauses : Bool) (locked : WorkOrder) : WorkOrder :=
  let now := call.now.toSecond
  let acknowledges : Bool := decide (target = .triaged ∧ locked.acknowledgedAt = none)
  { locked with
    state := target
    acknowledgedAt := if acknowledges then some now else locked.acknowledgedAt
    acknowledgedBy := if acknowledges then call.actorId else locked.acknowledgedBy
    startedAt := if target = .inProgress then locked.startedAt.or (some now) else locked.startedAt
    completedAt := if target = .completed then some now else locked.completedAt
    completedBy := if target = .completed then call.actorId else locked.completedBy
    verifiedAt := if target = .verified then some now else locked.verifiedAt
    verifiedBy := if target = .verified then call.actorId else locked.verifiedBy
    closedAt := if target = .closed then some now else locked.closedAt
    closedBy := if target = .closed then call.actorId else locked.closedBy
    holdReasonCode := if target.pausesSla then locked.holdReasonCode else none
    holdNotes := if target.pausesSla then locked.holdNotes else none
    holdReviewAt := if target.pausesSla then locked.holdReviewAt else none
    slaPausedAt := if pauses then locked.slaPausedAt.or (some now) else none
    slaPausedSeconds := locked.slaPausedSeconds + pauseSeconds call locked pauses
    acknowledgeTargetAt := if locked.acknowledgedAt = none then
        locked.acknowledgeTargetAt.map fun t => t.addSeconds (pauseSeconds call locked pauses)
      else locked.acknowledgeTargetAt
    resolveTargetAt := locked.resolveTargetAt.map fun t => t.addSeconds (pauseSeconds call locked pauses)
    aggregateVersion := locked.aggregateVersion + 1 }

def recordAssetAction (call : Acting) (workOrderId : Nat) (locked : WorkOrder) (action : AssetActionKind)
    (reasonCode : String) : Maintaining Unit := do
  let requestedBy ← requireActor call
  write fun s => { s with
    assetActions := s.assetActions.create
      { workOrderId, action, asset := locked.asset, reasonCode, aggregateVersion := locked.aggregateVersion
        requestedBy, requestedAt := call.now.toSecond } }

/-- `firstOrCreate`: a work order has one period for its asset, ended or not. -/
def startDowntime (call : Acting) (workOrderId : Nat) (locked : WorkOrder) (reasonCode : String) :
    Maintaining Unit := do
  let found ← read fun s => s.downtimePeriods.exists? fun _ p =>
    decide (p.workOrderId = workOrderId ∧ p.asset = locked.asset)
  doIf (found = false) (write fun s => { s with
    downtimePeriods := s.downtimePeriods.create
      { workOrderId, siteId := locked.siteId, asset := locked.asset, reasonCode, startedAt := call.now.toSecond } })

def openPeriod (workOrderId : Nat) (p : DowntimePeriod) : Bool :=
  decide (p.workOrderId = workOrderId ∧ p.endedAt = none)

/-- `maint_downtime_time_chk`: a period does not end before it started. -/
def endDowntime (call : Acting) (workOrderId : Nat) : Maintaining Unit := do
  let early ← read fun s => s.downtimePeriods.exists? fun _ p =>
    openPeriod workOrderId p && decide (call.now.toSecond < p.startedAt)
  throwIf (early = true) ⟨.query, "maint_downtime_time_chk"⟩
  write fun s => { s with
    downtimePeriods := s.downtimePeriods.updateWhere (fun _ p => openPeriod workOrderId p) fun p =>
      { p with
        endedAt := some call.now.toSecond
        durationSeconds := some (max 0 (p.startedAt.diffInSeconds call.now)) } }

def transition (setup : MaintenanceSetup) (call : Acting) (workOrderId : Nat) (target : WorkOrderState)
    (reasonCode : String) (notes : Option String) : Maintaining Unit :=
  transaction do
    let locked ← load workOrderId
    throwIf (locked.state.canTransitionTo target = false)
      (.domain ("Work order cannot move from " ++ locked.state.value ++ " to " ++ target.value ++ "."))
    guardTransition call workOrderId locked target
    doIf (Signed locked target) do
      let _ ← requireActor call
    doIf (target = .inProgress ∧ locked.assetRestrictionRequired = true) do
      restrictForMaintenance locked.asset
      recordAssetAction call workOrderId locked .restrict reasonCode
      startDowntime call workOrderId locked reasonCode
    doIf ((target = .verified ∨ target = .closed) ∧ locked.assetRestrictionRequired = true) do
      returnToService locked.asset
      recordAssetAction call workOrderId locked .returnToService reasonCode
      endDowntime call workOrderId
    setWorkOrder workOrderId (moved call target (policyPausesSla setup locked target))
    recordTransition call
      { workOrderId, fromState := some locked.state, toState := target, reasonCode, notes
        version := locked.aggregateVersion + 1, actorId := none, occurredAt := call.now }

/-! ### The other calls -/

/-- `assertTechnicianSkills`. -/
def assertTechnicianSkills (setup : MaintenanceSetup) (call : Acting) (workOrderId userId : Nat) :
    Maintaining Unit := do
  throwIf (¬ ∃ m ∈ setup.memberships, m.userId = userId ∧ m.active = true ∧
      (m.expiresAt.all fun ends => decide (call.now < ends)) = true)
    (.domain "The selected technician is not an active tenant member.")
  throwIf (¬ ∀ skill ∈ setup.requiredSkills workOrderId, ∃ held ∈ setup.technicianSkills,
      held.userId = userId ∧ held.skillId = skill ∧
        (held.validUntil.all fun until' => decide (call.now ≤ until')) = true)
    (.domain "The selected technician lacks a current required skill.")

def assignable : WorkOrderState → Bool
  | .triaged | .planned | .scheduled | .assigned => true
  | _ => false

def assign (setup : MaintenanceSetup) (call : Acting) (workOrderId : Nat) (technician vendor : Option Nat) :
    Maintaining Unit := do
  throwIf (technician.isNone = vendor.isNone) (.domain "Assign exactly one technician or service vendor.")
  transaction do
    let locked ← load workOrderId
    throwIf (assignable locked.state = false)
      (.domain "This work order cannot be assigned in its current state.")
    match technician with
    | some userId => do
      throwIf (userId ∉ setup.users) (.modelNotFound "User")
      assertTechnicianSkills setup call workOrderId userId
    | none => throwIf ((vendor.all fun key => decide (key ∉ setup.organizations)) = true) (.modelNotFound "Organization")
    write fun s => { s with
      assignments := s.assignments.updateWhere
        (fun _ a => decide (a.workOrderId = workOrderId ∧ a.status = .assigned))
        fun a => { a with status := .released, releasedAt := some call.now.toSecond } }
    let assignedBy ← requireActor call
    write fun s => { s with
      assignments := s.assignments.create
        { workOrderId, technicianUserId := technician, vendorOrganizationId := vendor, assignedBy
          assignedAt := call.now.toSecond } }
    doIf (locked.state ≠ .assigned) (transition setup call workOrderId .assigned "resource_assigned" none)

/-- The plan is saved before the transition is tried. -/
def plan (setup : MaintenanceSetup) (call : Acting) (workOrderId : Nat) (scope : String)
    (scheduledStartAt scheduledEndAt : Option Instant) (timezone : String) : Maintaining Unit := do
  throwIf ((scheduledStartAt.any fun start => scheduledEndAt.any fun stop => decide (stop < start)) = true)
    (.domain "Scheduled completion cannot precede the scheduled start.")
  setWorkOrder workOrderId fun w => { w with
    scope := some scope
    scheduledStartAt := scheduledStartAt.map Instant.toSecond
    scheduledEndAt := scheduledEndAt.map Instant.toSecond
    scheduleTimezone := timezone }
  transition setup call workOrderId (if scheduledStartAt = none then .planned else .scheduled) "work_planned" none

def recordResolution (workOrderId : Nat) (workPerformed : String) (resolutionCodeId : Nat)
    (failureCodeId rootCauseCodeId : Option Nat) (diagnosis : Option String) : Maintaining Unit := do
  let found ← load workOrderId
  throwIf (¬ (found.state = .inProgress ∨ found.state = .awaitingSafetyClearance))
    (.domain "Resolution evidence may only be recorded while work is active.")
  setWorkOrder workOrderId fun w => { w with
    workPerformed := some workPerformed
    resolutionCodeId := some resolutionCodeId
    failureCodeId, rootCauseCodeId, diagnosis }

/-- The hold is saved before the transition is tried. -/
def placeOnHold (setup : MaintenanceSetup) (call : Acting) (workOrderId : Nat) (holdState : WorkOrderState)
    (reasonCode notes : String) (reviewAt : Option Instant) : Maintaining Unit := do
  throwIf (holdState.pausesSla = false) (.domain "The selected state is not an approved hold state.")
  setWorkOrder workOrderId fun w => { w with
    holdReasonCode := some reasonCode
    holdNotes := some notes
    holdReviewAt := reviewAt.map Instant.toSecond }
  transition setup call workOrderId holdState reasonCode (some notes)

def completeChecklistItem (call : Acting) (itemId : Nat) (result : ChecklistResult) (notes : Option String) :
    Maintaining Unit := do
  let found ← read fun s => s.checklistItems.get? itemId
  let item ← orThrow found (.modelNotFound "WorkOrderChecklistItem")
  throwIf (item.requiresPass = true ∧ result ≠ .pass) (.domain "This safety step requires a passing result.")
  let photos ← read WorkOrderBooks.photos
  throwIf (item.requiresPhoto = true ∧ item.workOrderId ∉ photos)
    (.domain "Required photo evidence must be uploaded first.")
  let actor ← requireActor call
  write fun s => { s with
    checklistItems := s.checklistItems.update itemId fun i =>
      { i with result := some result, notes, completedBy := some actor, completedAt := some call.now.toSecond } }

/-- What a follow-up of a closed work order is created from. -/
def followUp (closedId : Nat) (closed : WorkOrder) (reason : String) : WorkOrderData where
  workType := closed.workType
  siteId := closed.siteId
  asset := closed.asset
  priorityId := closed.priorityId
  slaPolicyId := closed.slaPolicyId
  checklistTemplateId := closed.checklistTemplateId
  warrantyId := closed.warrantyId
  title := "Reopened: " ++ closed.title
  description := reason
  scope := closed.scope
  currency := some closed.currency
  safetyCritical := closed.safetyCritical
  verificationRequired := closed.verificationRequired
  assetRestrictionRequired := closed.assetRestrictionRequired
  reopenedFromId := some closedId

def reopen (setup : MaintenanceSetup) (call : Acting) (workOrderId : Nat) (reason : String) : Maintaining Unit := do
  let found ← load workOrderId
  throwIf (found.state ≠ .closed) (.domain "Only a closed work order can be reopened.")
  create setup call (followUp workOrderId found reason)

end WorkOrderWorkflow
end VtsaCsms.Maintenance
