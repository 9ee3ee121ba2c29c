import VtsaCsms.Maintenance.WorkOrderHistory

/-!
# Preventive plans

`PreventivePlanManager.php` and `PreventiveMaintenanceScheduler.php`: plans that fall due on a date or by the use
of an asset, and the work orders that the scheduler makes of them.
-/
namespace VtsaCsms.Maintenance
open Foundation Foundation.Action EloquentAssetMaintenanceContract

/-! ### Rows -/

inductive PreventiveTriggerType where
  | date | runtimeSeconds | sessionCount | energyWh
  deriving DecidableEq, Repr

structure PreventivePlan where
  planNumber : String
  siteId : Nat
  asset : AssetKey
  name : String
  triggerType : PreventiveTriggerType
  intervalValue : Int
  nextDueAt : Option Instant
  baselineRuntimeSeconds : Int := 0
  baselineSessionCount : Int := 0
  baselineEnergyWh : Int := 0
  priorityId : Nat
  slaPolicyId : Option Nat := none
  checklistTemplateId : Option Nat := none
  isActive : Bool := true
  lastGeneratedAt : Option Instant := none
  deriving DecidableEq, Repr

/-- A `checkpoint_key` as what its text is made of. -/
inductive CheckpointKey where
  | blank
  | date (second : Instant)
  | usage (triggerType : PreventiveTriggerType) (value : Int)
  deriving DecidableEq, Repr

structure PreventiveOccurrence where
  planId : Nat
  workOrderId : Nat
  checkpointKey : CheckpointKey
  triggerType : PreventiveTriggerType
  triggerValue : Option Int
  dueAt : Option Instant
  generatedAt : Instant
  deriving DecidableEq, Repr

/-- What the scheduler sums of a charging session. -/
structure ChargingSession where
  chargingStationId : Nat
  evseId : Option Nat
  connectorId : Option Nat
  startedAt : Option Instant
  durationSeconds : Int
  energyWh : Int
  deriving DecidableEq, Repr

structure PreventiveBooks where
  orders : WorkOrderBooks
  plans : Table Nat PreventivePlan
  occurrences : Table Nat PreventiveOccurrence
  chargingSessions : Table Nat ChargingSession

/-- What the plans look up besides: the sites, the active priorities, and the sites for which a user may dispatch. -/
structure PreventiveSetup extends MaintenanceSetup where
  sites : List Nat
  activePriorities : List Nat
  dispatchSites : Nat → List Nat

inductive PlanFailure where
  | http (status : Nat) (message : String)
  | validation (fields : List String)
  | thrown (throwable : Throwable)
  deriving DecidableEq

abbrev Planning (α : Type) : Type := Action PreventiveBooks PlanFailure α

def within {α : Type} (m : Maintaining α) : Planning α := fun s =>
  ((m s.orders).1.mapError .thrown, { s with orders := (m s.orders).2 })

theorem returns_within {α : Type} (m : Maintaining α) (s s' : PreventiveBooks) (a : α) :
    Returns (within m) s a s' ↔ ∃ orders, Returns m s.orders a orders ∧ s' = { s with orders } := by
  unfold within Returns
  dsimp only
  generalize m s.orders = out
  obtain ⟨outcome, orders⟩ := out
  cases outcome with
  | error e =>
    constructor
    · intro success
      cases success
    · rintro ⟨_, success, -⟩
      cases success
  | ok b =>
    constructor
    · intro success
      cases success
      exact ⟨orders, rfl, rfl⟩
    · rintro ⟨_, success, rfl⟩
      cases success
      rfl

/-! ### The plans -/

namespace PreventivePlanManager

structure PlanInput where
  siteId : Nat
  asset : AssetKey
  name : String
  priorityId : Nat
  triggerType : PreventiveTriggerType
  intervalValue : Int
  nextDueAt : Option Instant
  deriving DecidableEq, Repr

/-- A required text is not blank. -/
def filled (text : String) : Bool := !text.toList.all Char.isWhitespace

/-- The fields that the validator refuses. -/
def refusedFields (setup : PreventiveSetup) (input : PlanInput) : List String :=
  (if input.siteId ∈ setup.sites then [] else ["site_id"]) ++
  (if filled input.name = true ∧ input.name.length ≤ 200 then [] else ["name"]) ++
  (if input.priorityId ∈ setup.activePriorities then [] else ["priority_id"]) ++
  (if 1 ≤ input.intervalValue ∧ input.intervalValue ≤ 2147483647 then [] else ["interval_value"]) ++
  (if input.triggerType = .date ∧ input.nextDueAt = none then ["next_due_at"] else [])

def authorize (setup : PreventiveSetup) (user siteId : Nat) : Planning Unit :=
  throwIf (siteId ∉ setup.dispatchSites user) (.http 403 "")

def load (planId : Nat) : Planning PreventivePlan := do
  let found ← read fun s => s.plans.get? planId
  orThrow found (.thrown (.modelNotFound "PreventivePlan"))

/-- Historical occurrences and usage baselines belong to the original asset and trigger. -/
def guardEdit (setup : PreventiveSetup) (user : Nat) (input : PlanInput) (planId : Nat) : Planning Unit := do
  let record ← load planId
  authorize setup user record.siteId
  throwIf (¬ (record.siteId = input.siteId ∧ record.asset = input.asset ∧ record.triggerType = input.triggerType))
    (.http 422 "Create a new plan to change its asset or trigger.")

def dueAt (input : PlanInput) : Option Instant :=
  if input.triggerType = .date then input.nextDueAt.map Instant.toSecond else none

def fill (input : PlanInput) (record : PreventivePlan) : PreventivePlan :=
  { record with
    siteId := input.siteId
    asset := input.asset
    name := input.name
    priorityId := input.priorityId
    triggerType := input.triggerType
    intervalValue := input.intervalValue
    nextDueAt := dueAt input }

def created (input : PlanInput) (ulid : String) : PreventivePlan where
  planNumber := "PM-" ++ ulid
  siteId := input.siteId
  asset := input.asset
  name := input.name
  priorityId := input.priorityId
  triggerType := input.triggerType
  intervalValue := input.intervalValue
  nextDueAt := dueAt input

def save (setup : PreventiveSetup) (user : Nat) (input : PlanInput) (ulid : String) (plan : Option Nat) :
    Planning Unit := do
  throwIf (refusedFields setup input ≠ []) (.validation (refusedFields setup input))
  authorize setup user input.siteId
  transaction do
    match plan with
    | some planId => guardEdit setup user input planId
    | none => pure ()
    within (assertBelongsToSite input.asset input.siteId)
    throwIf (input.asset.1 = .component ∧ input.triggerType ≠ .date)
      (.http 422 "Components support date-based plans.")
    write fun s => { s with
      plans := match plan with
        | some planId => s.plans.update planId (fill input)
        | none => s.plans.create (created input ulid) }

def setActive (setup : PreventiveSetup) (user planId : Nat) (active : Bool) (reason : String) : Planning Unit := do
  throwIf (¬ (filled reason = true ∧ reason.length ≤ 500)) (.validation ["reason"])
  transaction do
    let record ← load planId
    authorize setup user record.siteId
    doIf (record.isActive ≠ active) (write fun s => { s with
      plans := s.plans.update planId fun p => { p with isActive := active } })

end PreventivePlanManager

/-! ### The scheduler -/

namespace PreventivePlan

def baseline (plan : PreventivePlan) : PreventiveTriggerType → Int
  | .date => 0
  | .runtimeSeconds => plan.baselineRuntimeSeconds
  | .sessionCount => plan.baselineSessionCount
  | .energyWh => plan.baselineEnergyWh

end PreventivePlan

namespace PreventiveMaintenanceScheduler

structure Checkpoint where
  due : Bool
  key : CheckpointKey
  triggerValue : Option Int
  dueAt : Option Instant
  deriving DecidableEq, Repr

def usageQuery (plan : PreventivePlan) (sessions : Table Nat ChargingSession) : List ChargingSession :=
  (sessions.rowsWhere fun _ session =>
    match plan.asset with
    | (.station, id) => session.chargingStationId = id
    | (.evse, id) => session.evseId = some id
    | (.connector, id) => session.connectorId = some id
    | (.component, _) => false).map Prod.snd

def usage (triggerType : PreventiveTriggerType) (sessions : List ChargingSession) : Int :=
  match triggerType with
  | .date => 0
  | .runtimeSeconds => (sessions.map ChargingSession.durationSeconds).sum
  | .sessionCount => sessions.countP fun session => session.startedAt.isSome
  | .energyWh => (sessions.map ChargingSession.energyWh).sum

def checkpoint (plan : PreventivePlan) (asOf : Instant) (sessions : Table Nat ChargingSession) : Checkpoint :=
  if plan.triggerType = .date then
    match plan.nextDueAt with
    | none => ⟨false, .blank, none, none⟩
    | some dueAt =>
      if asOf < dueAt then ⟨false, .blank, none, some dueAt⟩
      else ⟨true, .date dueAt.toSecond, none, some dueAt⟩
  else if plan.asset.1 = .component then ⟨false, .blank, none, none⟩
  else
    let value := usage plan.triggerType (usageQuery plan sessions)
    if value - plan.baseline plan.triggerType < plan.intervalValue then ⟨false, .blank, some value, none⟩
    else ⟨true, .usage plan.triggerType value, some value, none⟩

def workOrderData (plan : PreventivePlan) : WorkOrderData where
  workType := "preventive"
  siteId := plan.siteId
  asset := plan.asset
  priorityId := plan.priorityId
  slaPolicyId := plan.slaPolicyId
  checklistTemplateId := plan.checklistTemplateId
  title := plan.name
  description := "Generated from preventive maintenance plan " ++ plan.planNumber ++ "."

def advanced (asOf : Instant) (triggerValue : Option Int) (plan : PreventivePlan) : PreventivePlan :=
  let generated := { plan with lastGeneratedAt := some asOf.toSecond }
  match plan.triggerType with
  | .date => { generated with nextDueAt := some (asOf.addSeconds plan.intervalValue).toSecond }
  | .runtimeSeconds => { generated with baselineRuntimeSeconds := triggerValue.getD 0 }
  | .sessionCount => { generated with baselineSessionCount := triggerValue.getD 0 }
  | .energyWh => { generated with baselineEnergyWh := triggerValue.getD 0 }

def occurrence (planId workOrderId : Nat) (plan : PreventivePlan) (point : Checkpoint) (asOf : Instant) :
    PreventiveOccurrence where
  planId := planId
  workOrderId := workOrderId
  checkpointKey := point.key
  triggerType := plan.triggerType
  triggerValue := point.triggerValue
  dueAt := point.dueAt
  generatedAt := asOf.toSecond

/-- An occurrence of the plan has the key. -/
def occurred (planId : Nat) (key : CheckpointKey) (s : PreventiveBooks) : Bool :=
  s.occurrences.exists? fun _ o => decide (o.planId = planId ∧ o.checkpointKey = key)

/-- `maint_pm_occurrence_unique`. -/
def recordOccurrence (occurrence : PreventiveOccurrence) : Planning Unit := do
  let taken ← read (occurred occurrence.planId occurrence.checkpointKey)
  throwIf (taken = true) (.thrown (.uniqueConstraint "maint_pm_occurrence_unique"))
  write fun s => { s with occurrences := s.occurrences.create occurrence }

def generateIfDue (setup : PreventiveSetup) (call : Acting) (asOf : Instant) (planId : Nat) : Planning Bool :=
  transaction do
    let locked ← PreventivePlanManager.load planId
    if locked.isActive = false ∨ locked.intervalValue ≤ 0 then pure false
    else do
      let sessions ← read PreventiveBooks.chargingSessions
      let point := checkpoint locked asOf sessions
      let exists' ← read (occurred planId point.key)
      if point.due = false ∨ exists' = true then pure false
      else do
        let workOrderId ← read fun s => s.orders.workOrders.nextId
        within (WorkOrderWorkflow.create setup.toMaintenanceSetup call (workOrderData locked))
        recordOccurrence (occurrence planId workOrderId locked point asOf)
        write fun s => { s with plans := s.plans.update planId (advanced asOf point.triggerValue) }
        pure true

def generateEach (setup : PreventiveSetup) (call : Acting) (asOf : Instant) : List Nat → Nat → Planning Nat
  | [], generated => pure generated
  | planId :: rest, generated => do
    let made ← generateIfDue setup call asOf planId
    generateEach setup call asOf rest (if made then generated + 1 else generated)

/-- The chunks of the active plans, one after the other. -/
def run (setup : PreventiveSetup) (call : Acting) (asOf : Instant) : Planning Nat := do
  let plans ← read fun s => (s.plans.rowsWhere fun _ plan => plan.isActive).map Prod.fst
  generateEach setup call asOf plans 0

/-! ### The work order -/

/-- The asset is one of the site. -/
def OfSite (key : AssetKey) (siteId : Nat) (s : WorkOrderBooks) : Prop :=
  ∃ a, s.assets.get? key = some a ∧ a.siteId = siteId

/-- The SLA policy, if there is one, is in force for the priority. -/
def SlaInForce (setup : MaintenanceSetup) (call : Acting) (slaPolicyId : Option Nat) (priorityId : Nat) : Prop :=
  ∀ key, slaPolicyId = some key → ∃ policy, setup.policies.get? key = some policy ∧
    policy.priorityId = priorityId ∧ policy.isActive = true ∧ policy.effectiveFrom ≤ call.now ∧
      (policy.effectiveTo.all fun ends => decide (call.now < ends)) = true

section Creation
variable {setup : MaintenanceSetup} {call : Acting} {s : WorkOrderBooks}

theorem effectiveSla_finishes (slaPolicyId : Option Nat) (priorityId : Nat) :
    (∃ sla s', Returns (WorkOrderWorkflow.effectiveSla setup call slaPolicyId priorityId) s sla s') ↔
      SlaInForce setup call slaPolicyId priorityId := by
  unfold WorkOrderWorkflow.effectiveSla SlaInForce
  cases slaPolicyId with
  | none => exact ⟨fun _ => nofun, fun _ => ⟨none, s, (returns_pure ..).mpr ⟨rfl, rfl⟩⟩⟩
  | some key =>
    simp only [returns_bind, returns_orThrow, returns_throwIf, returns_pure, not_not]
    constructor
    · rintro ⟨_, _, policy, _, ⟨found, rfl⟩, _, _, ⟨inForce, rfl⟩, -⟩ _ same
      cases same
      exact ⟨policy, found, inForce⟩
    · intro each
      obtain ⟨policy, found, inForce⟩ := each key rfl
      exact ⟨some policy, s, policy, s, ⟨found, rfl⟩, (), s, ⟨inForce, rfl⟩, rfl, rfl⟩

theorem copyItems_finish (workOrderId : Nat) (items : List ChecklistTemplateItem) (s : WorkOrderBooks) :
    ∃ rows, Returns (forEach items (WorkOrderWorkflow.copyItem workOrderId)) s ()
      { s with checklistItems := rows } := by
  induction items generalizing s with
  | nil => exact ⟨s.checklistItems, (returns_pure ..).mpr ⟨rfl, rfl⟩⟩
  | cons item _ ih =>
    obtain ⟨rows, later⟩ := ih { s with checklistItems := s.checklistItems.create { item with workOrderId } }
    exact ⟨rows, Returns.bind ((returns_write _ s _ ()).mpr rfl) later⟩

/-- A work order in pesos is created exactly where its asset is one of its site and its SLA policy is in force. -/
theorem create_finishes (keyed : Keyed s) {data : WorkOrderData} (currency : data.currency = none) :
    (∃ s', Returns (WorkOrderWorkflow.create setup call data) s () s') ↔
      OfSite data.asset data.siteId s ∧ SlaInForce setup call data.slaPolicyId data.priorityId := by
  have pesos : WorkOrderWorkflow.isCurrency (strToUpper (data.currency.getD "PHP")) = true := by
    rw [currency]
    decide
  rw [← effectiveSla_finishes (s := s)]
  unfold WorkOrderWorkflow.create OfSite
  simp only [returns_transaction, returns_bind, returns_assertBelongsToSite, returns_throwIf, returns_read,
    returns_write, returns_recordTransition]
  constructor
  · rintro ⟨_, _, _, ⟨stored, rfl⟩, sla, _, found, -⟩
    exact ⟨stored, sla, _, found⟩
  · rintro ⟨stored, sla, s₀, found⟩
    obtain ⟨-, rfl⟩ := effectiveSla_returns found
    let order := WorkOrderWorkflow.reported call sla (strToUpper (data.currency.getD "PHP")) data
    obtain ⟨rows, copied⟩ := copyItems_finish s₀.workOrders.nextId
      ((data.checklistTemplateId.map setup.templateItems).getD [])
      { s₀ with workOrders := s₀.workOrders.create order }
    have new : ∀ key t, s₀.transitions.get? key = some t →
        ¬ (t.workOrderId = s₀.workOrders.nextId ∧ t.version = 1) := by
      rintro key t present ⟨named, -⟩
      obtain ⟨w, known⟩ := keyed.orders key t present
      rw [named, Table.get?_nextId] at known
      cases known
    exact ⟨_, (), s₀, ⟨stored, rfl⟩, sla, s₀, found, (), s₀, ⟨by rw [pesos]; decide, rfl⟩, _, s₀, ⟨rfl, rfl⟩, (), _, rfl,
      (), _, copied, new, rfl⟩

end Creation

/-! ### A turn of the loop -/

/-- The plan is due, and no work order was generated at its checkpoint. -/
structure Ready (planId : Nat) (plan : PreventivePlan) (asOf : Instant) (s : PreventiveBooks) : Prop where
  active : plan.isActive = true
  interval : 0 < plan.intervalValue
  due : (checkpoint plan asOf s.chargingSessions).due = true
  unused : occurred planId (checkpoint plan asOf s.chargingSessions).key s = false

/-- The books with the work order of the plan. -/
def generatedTo (planId : Nat) (plan : PreventivePlan) (asOf : Instant) (orders : WorkOrderBooks)
    (s : PreventiveBooks) : PreventiveBooks where
  orders := orders
  plans := s.plans.update planId (advanced asOf (checkpoint plan asOf s.chargingSessions).triggerValue)
  occurrences := s.occurrences.create
    (occurrence planId s.orders.workOrders.nextId plan (checkpoint plan asOf s.chargingSessions) asOf)
  chargingSessions := s.chargingSessions

/-- The work order of the plan is created. -/
abbrev Creates (setup : PreventiveSetup) (call : Acting) (plan : PreventivePlan) (orders orders' : WorkOrderBooks) :
    Prop :=
  Returns (WorkOrderWorkflow.create setup.toMaintenanceSetup call (workOrderData plan)) orders () orders'

section Turn
variable {setup : PreventiveSetup} {call : Acting} {asOf : Instant} {planId : Nat} {s s' : PreventiveBooks}

theorem returns_load (plan : PreventivePlan) : Returns (PreventivePlanManager.load planId) s plan s' ↔
    s.plans.get? planId = some plan ∧ s' = s := by
  unfold PreventivePlanManager.load
  exact returns_find ..

theorem returns_recordOccurrence (o : PreventiveOccurrence) (u : Unit) : Returns (recordOccurrence o) s u s' ↔
    occurred o.planId o.checkpointKey s = false ∧ s' = { s with occurrences := s.occurrences.create o } := by
  unfold recordOccurrence
  simp only [returns_bind, returns_read, returns_throwIf, returns_write, Bool.not_eq_true]
  constructor
  · rintro ⟨_, _, ⟨rfl, rfl⟩, _, _, ⟨free, rfl⟩, rfl⟩
    exact ⟨free, rfl⟩
  · rintro ⟨free, rfl⟩
    exact ⟨_, s, ⟨rfl, rfl⟩, (), s, ⟨free, rfl⟩, rfl⟩

theorem generateIfDue_returns (made : Bool) : Returns (generateIfDue setup call asOf planId) s made s' ↔
    ∃ plan, s.plans.get? planId = some plan ∧
      ((Ready planId plan asOf s ∧ made = true ∧ ∃ orders, Creates setup call plan s.orders orders ∧
          s' = generatedTo planId plan asOf orders s) ∨
        (¬ Ready planId plan asOf s ∧ made = false ∧ s' = s)) := by
  unfold generateIfDue
  rw [returns_transaction, returns_bind]
  simp only [returns_load]
  constructor
  · rintro ⟨plan, _, ⟨stored, rfl⟩, body⟩
    refine ⟨plan, stored, ?_⟩
    rw [returns_ite, returns_pure] at body
    obtain ⟨idle, rfl, rfl⟩ | ⟨works, body⟩ := body
    · refine Or.inr ⟨fun ready => ?_, rfl, rfl⟩
      rcases idle with inactive | interval
      · exact absurd ready.active (by rw [inactive]; decide)
      · exact absurd ready.interval (by omega)
    obtain ⟨sessions, _, read₁, body⟩ := (returns_bind ..).mp body
    obtain ⟨rfl, rfl⟩ := (returns_read ..).mp read₁
    obtain ⟨_, _, read₂, body⟩ := (returns_bind ..).mp body
    obtain ⟨rfl, rfl⟩ := (returns_read ..).mp read₂
    rw [returns_ite, returns_pure] at body
    rw [not_or, Bool.not_eq_false, Int.not_le] at works
    obtain ⟨idle, rfl, rfl⟩ | ⟨due, body⟩ := body
    · refine Or.inr ⟨fun ready => ?_, rfl, rfl⟩
      rcases idle with early | used
      · exact absurd ready.due (by rw [early]; decide)
      · exact absurd ready.unused (by rw [used]; decide)
    rw [not_or, Bool.not_eq_false, Bool.not_eq_true] at due
    simp only [returns_bind, returns_read, returns_within, returns_recordOccurrence, returns_write,
      returns_pure] at body
    obtain ⟨_, _, ⟨rfl, rfl⟩, _, _, ⟨orders, creates, rfl⟩, _, _, ⟨-, rfl⟩, _, _, rfl, rfl, rfl⟩ := body
    exact Or.inl ⟨⟨works.1, works.2, due.1, due.2⟩, rfl, orders, creates, rfl⟩
  · rintro ⟨plan, stored, ⟨ready, rfl, orders, creates, rfl⟩ | ⟨idle, rfl, rfl⟩⟩
    · refine ⟨plan, s, ⟨stored, rfl⟩, ?_⟩
      rw [if_neg (by rw [not_or, Bool.not_eq_false, Int.not_le]; exact ⟨ready.active, ready.interval⟩)]
      refine Returns.bind ((returns_read ..).mpr ⟨rfl, rfl⟩) (Returns.bind ((returns_read ..).mpr ⟨rfl, rfl⟩) ?_)
      rw [if_neg (by rw [not_or, Bool.not_eq_false, Bool.not_eq_true]; exact ⟨ready.due, ready.unused⟩)]
      simp only [returns_bind, returns_read, returns_within, returns_recordOccurrence, returns_write, returns_pure]
      exact ⟨_, s, ⟨rfl, rfl⟩, (), _, ⟨orders, creates, rfl⟩, (), _, ⟨ready.unused, rfl⟩, (), _, rfl, trivial, rfl⟩
    · refine ⟨plan, s', ⟨stored, rfl⟩, ?_⟩
      by_cases works : plan.isActive = false ∨ plan.intervalValue ≤ 0
      · rw [if_pos works]
        exact (returns_pure ..).mpr ⟨rfl, rfl⟩
      rw [if_neg works]
      refine Returns.bind ((returns_read ..).mpr ⟨rfl, rfl⟩) (Returns.bind ((returns_read ..).mpr ⟨rfl, rfl⟩) ?_)
      rw [not_or, Bool.not_eq_false, Int.not_le] at works
      rw [if_pos]
      · exact (returns_pure ..).mpr ⟨rfl, rfl⟩
      · by_contra due
        rw [not_or, Bool.not_eq_false, Bool.not_eq_true] at due
        exact idle ⟨works.1, works.2, due.1, due.2⟩

end Turn

end PreventiveMaintenanceScheduler
end VtsaCsms.Maintenance
