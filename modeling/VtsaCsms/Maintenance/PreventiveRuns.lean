import VtsaCsms.Maintenance.PreventivePlans

/-!
# Runs of the preventive maintenance

In any run of the scheduler's and the plans' calls a checkpoint generates one work order. A run of the scheduler
generates one for every plan that is due, exactly as long as no date comes back that a plan has used, and nothing
keeps the work order of a due plan from being created.
-/
namespace VtsaCsms.Maintenance
open Foundation Foundation.Action PreventiveMaintenanceScheduler

/-- The calls of the plans and of the scheduler, and what the work orders, the charging sessions and the assets do in
between. -/
inductive PlanCall where
  | save (user : Nat) (input : PreventivePlanManager.PlanInput) (ulid : String) (plan : Option Nat)
  | setActive (user planId : Nat) (active : Bool) (reason : String)
  | run (call : Acting) (asOf : Instant)
  | workOrder (asked : WorkOrderCall)
  | charged (chargingSessions : Table Nat ChargingSession)
  | assetStored (key : AssetKey) (asset : Asset)

def PlanCall.next (setup : PreventiveSetup) : PlanCall → PreventiveBooks → PreventiveBooks
  | save user input ulid plan, s => after (PreventivePlanManager.save setup user input ulid plan) s
  | setActive user planId active reason, s => after (PreventivePlanManager.setActive setup user planId active reason) s
  | run call asOf, s => after (PreventiveMaintenanceScheduler.run setup call asOf) s
  | workOrder asked, s => { s with orders := asked.next setup.toMaintenanceSetup s.orders }
  | charged chargingSessions, s => { s with chargingSessions }
  | assetStored key asset, s => { s with orders := { s.orders with assets := s.orders.assets.put key asset } }

/-! ### What the maintenance is to do -/

/-- A checkpoint of a plan generated one work order at most, and no work order is of two checkpoints. -/
structure OncePerCheckpoint (s : PreventiveBooks) : Prop where
  once : ∀ key o key' o', s.occurrences.get? key = some o → s.occurrences.get? key' = some o' →
    (o.planId, o.checkpointKey) = (o'.planId, o'.checkpointKey) → key = key'
  own : ∀ key o key' o', s.occurrences.get? key = some o → s.occurrences.get? key' = some o' →
    o.workOrderId = o'.workOrderId → key = key'

/-- An active plan is due. -/
def Due (plan : PreventivePlan) (asOf : Instant) (s : PreventiveBooks) : Prop :=
  plan.isActive = true ∧ (checkpoint plan asOf s.chargingSessions).due = true

/-- The next due date or the usage baseline of the plan moved forward. -/
def Forward (plan plan' : PreventivePlan) : Prop :=
  if plan.triggerType = .date then
    ∃ dueAt dueAt', plan.nextDueAt = some dueAt ∧ plan'.nextDueAt = some dueAt' ∧ dueAt < dueAt'
  else plan.baseline plan.triggerType < plan'.baseline plan.triggerType

/-- A work order is new, for the checkpoint of the plan, and the plan moved forward. -/
structure Generates (planId : Nat) (plan : PreventivePlan) (asOf : Instant) (s s' : PreventiveBooks) : Prop where
  order : ∃ key o w, s.occurrences.get? key = none ∧ s'.occurrences.get? key = some o ∧ o.planId = planId ∧
    o.checkpointKey = (checkpoint plan asOf s.chargingSessions).key ∧
    s.orders.workOrders.get? o.workOrderId = none ∧ s'.orders.workOrders.get? o.workOrderId = some w ∧
    w.workType = "preventive" ∧ w.siteId = plan.siteId ∧ w.asset = plan.asset
  forward : ∃ plan', s'.plans.get? planId = some plan' ∧ Forward plan plan'

/-- Every work order that is new is of an occurrence. -/
def Attributed (s s' : PreventiveBooks) : Prop :=
  ∀ workOrderId w, s.orders.workOrders.get? workOrderId = none → s'.orders.workOrders.get? workOrderId = some w →
    ∃ key o, s'.occurrences.get? key = some o ∧ o.workOrderId = workOrderId

/-- A run of the scheduler generates a work order for every plan that is due, and no other. -/
def NeverStalls (setup : PreventiveSetup) : PlanCall → PreventiveBooks → Prop
  | .run call asOf, s =>
    (∀ planId plan, s.plans.get? planId = some plan → Due plan asOf s →
      Generates planId plan asOf s (PlanCall.next setup (.run call asOf) s)) ∧
    Attributed s (PlanCall.next setup (.run call asOf) s)
  | _, _ => True

/-- The date of a due plan is new to it, its asset is one of its site, and its SLA policy is in force. -/
def Unhindered (setup : PreventiveSetup) : PlanCall → PreventiveBooks → Prop
  | .run call asOf, s => ∀ planId plan, s.plans.get? planId = some plan → Due plan asOf s →
    (plan.triggerType = .date → occurred planId (checkpoint plan asOf s.chargingSessions).key s = false) ∧
      OfSite plan.asset plan.siteId s.orders ∧
      SlaInForce setup.toMaintenanceSetup call plan.slaPolicyId plan.priorityId
  | _, _ => True

/-- Plans as they are saved, before anything is generated. -/
structure Opening (s : PreventiveBooks) : Prop where
  keyed : Keyed s.orders
  interval : ∀ planId plan, s.plans.get? planId = some plan → 0 < plan.intervalValue
  nothing : ∀ key, s.occurrences.get? key = none

/-! ### Checkpoints -/

section Checkpoints
variable {plan : PreventivePlan} {asOf : Instant} {sessions : Table Nat ChargingSession}

theorem lt_later {dueAt now seconds : Int} (reached : dueAt ≤ now) (positive : 0 < seconds) :
    dueAt < (Instant.addSeconds now seconds).toSecond := by
  unfold Instant.addSeconds Instant.toSecond
  omega

theorem due_cases (due : (checkpoint plan asOf sessions).due = true) :
    (plan.triggerType = .date ∧ ∃ dueAt, plan.nextDueAt = some dueAt ∧ dueAt ≤ asOf ∧
        checkpoint plan asOf sessions = ⟨true, .date dueAt.toSecond, none, some dueAt⟩) ∨
      (plan.triggerType ≠ .date ∧ ∃ value, plan.baseline plan.triggerType + plan.intervalValue ≤ value ∧
        checkpoint plan asOf sessions = ⟨true, .usage plan.triggerType value, some value, none⟩) := by
  unfold checkpoint at due ⊢
  by_cases dated : plan.triggerType = .date
  · rw [if_pos dated] at due ⊢
    refine Or.inl ⟨dated, ?_⟩
    cases next : plan.nextDueAt with
    | none =>
      rw [next] at due
      cases due
    | some dueAt =>
      rw [next] at due
      dsimp only at due ⊢
      split at due
      · cases due
      · rename_i reached
        exact ⟨dueAt, rfl, not_lt.mp reached, if_neg reached⟩
  · rw [if_neg dated] at due ⊢
    refine Or.inr ⟨dated, ?_⟩
    split at due
    · cases due
    · rename_i used
      rw [if_neg used]
      dsimp only at due ⊢
      split at due
      · cases due
      · rename_i reached
        exact ⟨_, by omega, if_neg reached⟩

theorem advanced_baseline_of_usage (used : plan.triggerType ≠ .date) (value : Int)
    (triggerType : PreventiveTriggerType) :
    (advanced asOf (some value) plan).baseline triggerType =
      if triggerType = plan.triggerType then value else plan.baseline triggerType := by
  unfold advanced
  cases own : plan.triggerType with
  | date => exact absurd own used
  | _ => cases triggerType <;> rfl

theorem advanced_baseline_of_date (dated : plan.triggerType = .date) (triggerValue : Option Int)
    (triggerType : PreventiveTriggerType) :
    (advanced asOf triggerValue plan).baseline triggerType = plan.baseline triggerType := by
  unfold advanced
  rw [dated]
  cases triggerType <;> rfl

theorem advanced_intervalValue (triggerValue : Option Int) :
    (advanced asOf triggerValue plan).intervalValue = plan.intervalValue := by
  unfold advanced
  cases plan.triggerType <;> rfl

theorem baseline_le_advanced (interval : 0 < plan.intervalValue) (due : (checkpoint plan asOf sessions).due = true)
    (triggerType : PreventiveTriggerType) : plan.baseline triggerType ≤
      (advanced asOf (checkpoint plan asOf sessions).triggerValue plan).baseline triggerType := by
  obtain ⟨dated, -⟩ | ⟨used, value, reached, point⟩ := due_cases due
  · exact le_of_eq (advanced_baseline_of_date dated _ triggerType).symm
  · rw [point, advanced_baseline_of_usage used]
    split
    · rename_i own
      rw [own]
      omega
    · exact le_refl _

theorem forward_advanced (interval : 0 < plan.intervalValue) (due : (checkpoint plan asOf sessions).due = true) :
    Forward plan (advanced asOf (checkpoint plan asOf sessions).triggerValue plan) := by
  unfold Forward
  obtain ⟨dated, dueAt, next, reached, point⟩ | ⟨used, value, reached, point⟩ := due_cases due
  · rw [if_pos dated]
    refine ⟨dueAt, (asOf.addSeconds plan.intervalValue).toSecond, next, ?_, ?_⟩
    · unfold advanced
      rw [dated]
    · exact lt_later reached interval
  · rw [if_neg used, point, advanced_baseline_of_usage used, if_pos rfl]
    omega

end Checkpoints

/-! ### The loop -/

section Loop
variable {setup : PreventiveSetup} {call : Acting} {asOf : Instant}

theorem atomic_generateIfDue (planId : Nat) : Atomic (generateIfDue setup call asOf planId) := atomic_transaction _

theorem generateEach_keeps {P : PreventiveBooks → Prop} (plans : List Nat)
    (turn : ∀ planId ∈ plans, ∀ s plan orders, P s → s.plans.get? planId = some plan → Ready planId plan asOf s →
      Creates setup call plan s.orders orders → P (generatedTo planId plan asOf orders s))
    (generated : Nat) (s : PreventiveBooks) (entry : P s) :
    P (after (generateEach setup call asOf plans generated) s) := by
  induction plans generalizing generated s with
  | nil => exact entry
  | cons planId rest ih =>
    unfold generateEach
    refine after_bind (atomic_generateIfDue planId) entry fun made s₁ success => ?_
    refine ih (fun other mem => turn other (List.mem_cons_of_mem planId mem)) _ s₁ ?_
    obtain ⟨plan, stored, ⟨ready, -, orders, creates, rfl⟩ | ⟨-, -, rfl⟩⟩ := (generateIfDue_returns made).mp success
    · exact turn planId List.mem_cons_self s plan orders entry stored ready creates
    · exact entry

/-- What a turn leaves of the books, but for the plans. -/
structure Grown (s s' : PreventiveBooks) : Prop where
  assets : s'.orders.assets = s.orders.assets
  sessions : s'.chargingSessions = s.chargingSessions
  occurrences : ∀ key o, s.occurrences.get? key = some o → s'.occurrences.get? key = some o
  orders : ∀ workOrderId w, s.orders.workOrders.get? workOrderId = some w →
    s'.orders.workOrders.get? workOrderId = some w
  attributed : Attributed s s'

namespace Grown
variable {s s₁ s' : PreventiveBooks}

theorem refl (s : PreventiveBooks) : Grown s s where
  assets := rfl
  sessions := rfl
  occurrences := fun _ _ stored => stored
  orders := fun _ _ stored => stored
  attributed := by
    intro workOrderId w new stored
    rw [new] at stored
    cases stored

theorem trans (first : Grown s s₁) (later : Grown s₁ s') : Grown s s' where
  assets := later.assets.trans first.assets
  sessions := later.sessions.trans first.sessions
  occurrences := fun key o stored => later.occurrences key o (first.occurrences key o stored)
  orders := fun workOrderId w stored => later.orders workOrderId w (first.orders workOrderId w stored)
  attributed := by
    intro workOrderId w new stored
    cases between : s₁.orders.workOrders.get? workOrderId with
    | none => exact later.attributed workOrderId w between stored
    | some w₁ =>
      obtain ⟨key, o, present, named⟩ := first.attributed workOrderId w₁ new between
      exact ⟨key, o, later.occurrences key o present, named⟩

theorem generatedTo {planId : Nat} {plan : PreventivePlan} {orders : WorkOrderBooks}
    (creates : Creates setup call plan s.orders orders) : Grown s (generatedTo planId plan asOf orders s) := by
  obtain ⟨currency, rows, rfl, -, -⟩ := create_reports creates
  refine ⟨rfl, rfl, fun key o stored => Table.get?_create_of_some _ _ stored,
    fun workOrderId w stored => Table.get?_create_of_some _ _ stored, fun workOrderId w new stored => ?_⟩
  obtain ⟨rfl, -⟩ | earlier := Table.get?_create_cases stored
  · exact ⟨_, _, Table.get?_create_self .., rfl⟩
  · rw [new] at earlier
    cases earlier

theorem occurred (grown : Grown s s') {planId : Nat} {key : CheckpointKey}
    (before : PreventiveMaintenanceScheduler.occurred planId key s = true) :
    PreventiveMaintenanceScheduler.occurred planId key s' = true := by
  obtain ⟨row, o, stored, named⟩ := (Table.exists?_iff ..).mp before
  exact (Table.exists?_iff ..).mpr ⟨row, o, grown.occurrences row o stored, named⟩

theorem generates (grown : Grown s s₁) {planId : Nat} {plan : PreventivePlan}
    (later : Generates planId plan asOf s₁ s') : Generates planId plan asOf s s' := by
  obtain ⟨key, o, w, new, stored, named, point, newOrder, order, described⟩ := later.order
  rw [grown.sessions] at point
  refine ⟨⟨key, o, w, ?_, stored, named, point, ?_, order, described⟩, later.forward⟩
  · by_contra present
    obtain ⟨o', stored'⟩ := Option.ne_none_iff_exists'.mp present
    rw [grown.occurrences key o' stored'] at new
    cases new
  · by_contra present
    obtain ⟨w', stored'⟩ := Option.ne_none_iff_exists'.mp present
    rw [grown.orders _ w' stored'] at newOrder
    cases newOrder

end Grown

theorem Generates.later {planId : Nat} {plan : PreventivePlan} {s s₁ s' : PreventiveBooks}
    (generates : Generates planId plan asOf s s₁) (grown : Grown s₁ s')
    (same : s'.plans.get? planId = s₁.plans.get? planId) : Generates planId plan asOf s s' := by
  obtain ⟨⟨key, o, w, new, stored, named, point, newOrder, order, described⟩, plan', stored', forward⟩ := generates
  exact ⟨⟨key, o, w, new, grown.occurrences key o stored, named, point, newOrder, grown.orders _ w order, described⟩,
    plan', same.trans stored', forward⟩

theorem generates_generatedTo {planId : Nat} {plan : PreventivePlan} {orders : WorkOrderBooks} {s : PreventiveBooks}
    (stored : s.plans.get? planId = some plan) (ready : Ready planId plan asOf s)
    (creates : Creates setup call plan s.orders orders) :
    Generates planId plan asOf s (generatedTo planId plan asOf orders s) := by
  obtain ⟨currency, rows, rfl, -, -⟩ := create_reports creates
  refine ⟨⟨s.occurrences.nextId, _, _, Table.get?_nextId _, Table.get?_create_self .., rfl, rfl, Table.get?_nextId _,
    Table.get?_create_self .., rfl, rfl, rfl⟩, _, ?_, forward_advanced ready.interval ready.due⟩
  unfold generatedTo
  rw [Table.get?_update_self, stored, Option.map_some]

theorem grown_generateEach (plans : List Nat) (generated : Nat) (s : PreventiveBooks) :
    Grown s (after (generateEach setup call asOf plans generated) s) :=
  generateEach_keeps plans (fun _ _ _ _ _ grown _ _ creates => grown.trans (.generatedTo creates)) generated s (.refl s)

theorem plans_generateEach {planId : Nat} {plans : List Nat} (apart : planId ∉ plans) (generated : Nat)
    (s : PreventiveBooks) :
    (after (generateEach setup call asOf plans generated) s).plans.get? planId = s.plans.get? planId := by
  refine generateEach_keeps (P := fun s' => s'.plans.get? planId = s.plans.get? planId) plans ?_ generated s rfl
  intro other mem s₁ plan orders same _ _ _
  have different : planId ≠ other := fun eq => apart (eq ▸ mem)
  exact (Table.get?_update_of_ne _ _ different).trans same

/-- A due plan whose work order can be created at its checkpoint. -/
structure Creatable (setup : PreventiveSetup) (call : Acting) (asOf : Instant) (planId : Nat) (plan : PreventivePlan)
    (s : PreventiveBooks) : Prop where
  unused : occurred planId (checkpoint plan asOf s.chargingSessions).key s = false
  asset : OfSite plan.asset plan.siteId s.orders
  sla : SlaInForce setup.toMaintenanceSetup call plan.slaPolicyId plan.priorityId

theorem Grown.creatable {s s₁ : PreventiveBooks} (grown : Grown s s₁) {planId : Nat} {plan : PreventivePlan}
    (later : Creatable setup call asOf planId plan s₁) : Creatable setup call asOf planId plan s where
  unused := by
    have unused := later.unused
    rw [grown.sessions] at unused
    by_contra used
    rw [grown.occurred ((Bool.not_eq_false _).mp used)] at unused
    cases unused
  asset := by
    have asset := later.asset
    unfold OfSite at asset ⊢
    rwa [grown.assets] at asset
  sla := later.sla

/-- Turns that began on `s` came to the plan, which was creatable, or left it and its occurrences. -/
def Turned (setup : PreventiveSetup) (call : Acting) (asOf : Instant) (planId : Nat) (plan : PreventivePlan)
    (s s' : PreventiveBooks) : Prop :=
  Creatable setup call asOf planId plan s ∨
    s'.plans.get? planId = some plan ∧
      ∀ key o, s'.occurrences.get? key = some o → o.planId = planId → s.occurrences.get? key = some o

theorem turned_generateEach {planId : Nat} {plan : PreventivePlan} (plans : List Nat) (generated : Nat)
    {s : PreventiveBooks} (keyed : Keyed s.orders) (stored : s.plans.get? planId = some plan) :
    Turned setup call asOf planId plan s (after (generateEach setup call asOf plans generated) s) := by
  let along (s' : PreventiveBooks) : Prop :=
    Keyed s'.orders ∧ Grown s s' ∧ Turned setup call asOf planId plan s s'
  have all : along (after (generateEach setup call asOf plans generated) s) := by
    refine generateEach_keeps plans ?_ generated s ⟨keyed, .refl s, Or.inr ⟨stored, fun _ _ present _ => present⟩⟩
    rintro other - s₁ plan₁ orders ⟨keyed₁, grown, turned⟩ stored₁ ready creates
    refine ⟨create_keyed keyed₁ creates, grown.trans (.generatedTo creates), ?_⟩
    obtain creatable | ⟨same, none'⟩ := turned
    · exact Or.inl creatable
    by_cases own : other = planId
    · subst own
      rw [stored₁] at same
      cases same
      obtain ⟨asset, sla⟩ := (create_finishes keyed₁ rfl).mp ⟨orders, creates⟩
      exact Or.inl (grown.creatable ⟨ready.unused, asset, sla⟩)
    · refine Or.inr ⟨(Table.get?_update_of_ne _ _ (Ne.symm own)).trans same, fun key o present named => ?_⟩
      obtain ⟨-, rfl⟩ | earlier := Table.get?_create_cases present
      · exact absurd named own
      · exact none' key o earlier named
  exact all.2.2

theorem creatable_of_generates {planId : Nat} {plan : PreventivePlan} {plans : List Nat} {generated : Nat}
    {s : PreventiveBooks} (keyed : Keyed s.orders) (stored : s.plans.get? planId = some plan)
    (generates : Generates planId plan asOf s (after (generateEach setup call asOf plans generated) s)) :
    Creatable setup call asOf planId plan s := by
  obtain creatable | ⟨-, none'⟩ := turned_generateEach plans generated keyed stored
  · exact creatable
  · obtain ⟨key, o, w, new, present, named, -⟩ := generates.order
    rw [none' key o present named] at new
    cases new

/-- A plan that the loop can serve. -/
def Served (setup : PreventiveSetup) (call : Acting) (asOf : Instant) (planId : Nat) (s : PreventiveBooks) : Prop :=
  ∃ plan, s.plans.get? planId = some plan ∧ plan.isActive = true ∧ 0 < plan.intervalValue ∧
    ((checkpoint plan asOf s.chargingSessions).due = true → Creatable setup call asOf planId plan s)

theorem Served.generatedTo {planId other : Nat} {plan : PreventivePlan} {orders : WorkOrderBooks} {s : PreventiveBooks}
    (served : Served setup call asOf other s) (different : other ≠ planId)
    (creates : Creates setup call plan s.orders orders) :
    Served setup call asOf other (generatedTo planId plan asOf orders s) := by
  obtain ⟨plan', stored, active, interval, creatable⟩ := served
  have grown : Grown s (PreventiveMaintenanceScheduler.generatedTo planId plan asOf orders s) := .generatedTo creates
  refine ⟨plan', (Table.get?_update_of_ne _ _ different).trans stored, active, interval, fun due => ?_⟩
  obtain ⟨unused, asset, sla⟩ := creatable due
  refine ⟨?_, ?_, sla⟩
  · by_contra used
    obtain ⟨key, o, present, named⟩ := (Table.exists?_iff ..).mp ((Bool.not_eq_false _).mp used)
    rw [decide_eq_true_iff] at named
    obtain ⟨-, rfl⟩ | earlier := Table.get?_create_cases present
    · exact different named.1.symm
    · have before : occurred other (checkpoint plan' asOf s.chargingSessions).key s = true :=
        (Table.exists?_iff ..).mpr ⟨key, o, earlier, decide_eq_true named⟩
      rw [unused] at before
      cases before
  · unfold OfSite at asset ⊢
    rwa [grown.assets]

theorem generateEach_generates {plans : List Nat} (distinct : plans.Nodup) (generated : Nat) (s : PreventiveBooks)
    (keyed : Keyed s.orders) (served : ∀ planId ∈ plans, Served setup call asOf planId s) :
    ∀ planId ∈ plans, ∀ plan, s.plans.get? planId = some plan → (checkpoint plan asOf s.chargingSessions).due = true →
      Generates planId plan asOf s (after (generateEach setup call asOf plans generated) s) := by
  induction plans generalizing generated s with
  | nil => exact nofun
  | cons first rest ih =>
    obtain ⟨new, distinct'⟩ := List.nodup_cons.mp distinct
    obtain ⟨plan₁, stored₁, active, interval, creatable⟩ := served first List.mem_cons_self
    unfold generateEach
    by_cases due₁ : (checkpoint plan₁ asOf s.chargingSessions).due = true
    · obtain ⟨unused, asset, sla⟩ := creatable due₁
      have possible : ∃ orders, Creates setup call plan₁ s.orders orders := (create_finishes keyed rfl).mpr ⟨asset, sla⟩
      obtain ⟨orders, creates⟩ := possible
      have ready : Ready first plan₁ asOf s := ⟨active, interval, due₁, unused⟩
      have turn : Returns (generateIfDue setup call asOf first) s true (generatedTo first plan₁ asOf orders s) :=
        (generateIfDue_returns true).mpr ⟨plan₁, stored₁, Or.inl ⟨ready, rfl, orders, creates, rfl⟩⟩
      rw [after_bind_of_returns turn]
      intro planId mem plan stored due
      obtain rfl | later := List.mem_cons.mp mem
      · rw [stored₁] at stored
        cases stored
        exact (generates_generatedTo stored₁ ready creates).later (grown_generateEach rest _ _)
          (plans_generateEach new _ _)
      · have different : planId ≠ first := fun eq => new (eq ▸ later)
        have grown : Grown s (generatedTo first plan₁ asOf orders s) := .generatedTo creates
        refine grown.generates (ih distinct' _ _ (create_keyed keyed creates) ?_ planId later plan ?_ ?_)
        · intro other mem'
          exact (served other (List.mem_cons_of_mem first mem')).generatedTo (fun eq => new (eq ▸ mem')) creates
        · exact (Table.get?_update_of_ne _ _ different).trans stored
        · rwa [grown.sessions]
    · have turn : Returns (generateIfDue setup call asOf first) s false s :=
        (generateIfDue_returns false).mpr ⟨plan₁, stored₁, Or.inr ⟨fun ready => due₁ ready.due, rfl, rfl⟩⟩
      rw [after_bind_of_returns turn]
      intro planId mem plan stored due
      obtain rfl | later := List.mem_cons.mp mem
      · rw [stored₁] at stored
        cases stored
        exact absurd due due₁
      · exact ih distinct' _ s keyed (fun other mem' => served other (List.mem_cons_of_mem first mem')) planId later
          plan stored due

end Loop

/-! ### What every call keeps -/

/-- The occurrences are of plans and work orders there are, and a usage plan has passed all its checkpoints. -/
structure Planned (s : PreventiveBooks) : Prop extends OncePerCheckpoint s where
  keyed : Keyed s.orders
  plans : ∀ key o, s.occurrences.get? key = some o → ∃ plan, s.plans.get? o.planId = some plan
  orders : ∀ key o, s.occurrences.get? key = some o → ∃ w, s.orders.workOrders.get? o.workOrderId = some w
  interval : ∀ planId plan, s.plans.get? planId = some plan → 0 < plan.intervalValue
  below : ∀ key o plan triggerType value, s.occurrences.get? key = some o → s.plans.get? o.planId = some plan →
    o.checkpointKey = .usage triggerType value → value ≤ plan.baseline triggerType

theorem Opening.planned {s : PreventiveBooks} (opening : Opening s) : Planned s where
  keyed := opening.keyed
  interval := opening.interval
  once := by
    intro key o key' o' stored
    rw [opening.nothing] at stored
    cases stored
  own := by
    intro key o key' o' stored
    rw [opening.nothing] at stored
    cases stored
  plans := by
    intro key o stored
    rw [opening.nothing] at stored
    cases stored
  orders := by
    intro key o stored
    rw [opening.nothing] at stored
    cases stored
  below := by
    intro key o plan triggerType value stored
    rw [opening.nothing] at stored
    cases stored

section Invariant
variable {setup : PreventiveSetup} {call : Acting} {asOf : Instant} {planId : Nat} {plan : PreventivePlan}
  {s : PreventiveBooks}

theorem Planned.unused (planned : Planned s) (stored : s.plans.get? planId = some plan)
    (used : plan.triggerType ≠ .date) (due : (checkpoint plan asOf s.chargingSessions).due = true) :
    occurred planId (checkpoint plan asOf s.chargingSessions).key s = false := by
  have interval := planned.interval planId plan stored
  obtain ⟨dated, -⟩ | ⟨-, value, reached, point⟩ := due_cases due
  · exact absurd dated used
  by_contra before
  obtain ⟨key, o, present, named⟩ := (Table.exists?_iff ..).mp ((Bool.not_eq_false _).mp before)
  rw [decide_eq_true_iff, point] at named
  obtain ⟨rfl, at'⟩ := named
  have passed := planned.below key o plan _ value present stored at'
  omega

/-- Plans that stay, with an interval, and do not fall back. -/
structure Replanned (s : PreventiveBooks) (plans : Table Nat PreventivePlan) : Prop where
  kept : ∀ planId plan, s.plans.get? planId = some plan → ∃ plan', plans.get? planId = some plan' ∧
    ∀ triggerType, plan.baseline triggerType ≤ plan'.baseline triggerType
  interval : ∀ planId plan, plans.get? planId = some plan → 0 < plan.intervalValue

theorem Planned.replanned (planned : Planned s) {plans : Table Nat PreventivePlan} (replanned : Replanned s plans) :
    Planned { s with plans } where
  once := planned.once
  own := planned.own
  keyed := planned.keyed
  orders := planned.orders
  interval := replanned.interval
  plans := by
    intro key o stored
    obtain ⟨plan, known⟩ := planned.plans key o stored
    obtain ⟨plan', known', -⟩ := replanned.kept o.planId plan known
    exact ⟨plan', known'⟩
  below := by
    intro key o plan' triggerType value stored known' at'
    obtain ⟨plan, known⟩ := planned.plans key o stored
    obtain ⟨_, known'', higher⟩ := replanned.kept o.planId plan known
    cases known'.symm.trans known''
    exact le_trans (planned.below key o plan triggerType value stored known at') (higher triggerType)

theorem Planned.update (planned : Planned s) {change : PreventivePlan → PreventivePlan}
    (changed : ∀ plan, s.plans.get? planId = some plan → 0 < (change plan).intervalValue ∧
      ∀ triggerType, plan.baseline triggerType ≤ (change plan).baseline triggerType) :
    Planned { s with plans := s.plans.update planId change } := by
  refine planned.replanned ⟨fun other plan stored => ?_, fun other plan stored => ?_⟩
  · by_cases own : other = planId
    · subst own
      refine ⟨change plan, ?_, (changed plan stored).2⟩
      rw [Table.get?_update_self, stored, Option.map_some]
    · exact ⟨plan, (Table.get?_update_of_ne _ _ own).trans stored, fun _ => le_refl _⟩
  · rw [Table.get?_update] at stored
    split at stored
    · rename_i own
      subst own
      obtain ⟨plan', stored', rfl⟩ := Option.map_eq_some_iff.mp stored
      exact (changed plan' stored').1
    · exact planned.interval other plan stored

theorem distinct_create {ρ β : Type} {t : Table Nat ρ} {r : ρ} {f : ρ → β}
    (distinct : ∀ key q key' q', t.get? key = some q → t.get? key' = some q' → f q = f q' → key = key')
    (new : ∀ key q, t.get? key = some q → f q ≠ f r) (key : Nat) (q : ρ) (key' : Nat) (q' : ρ)
    (present : (t.create r).get? key = some q) (present' : (t.create r).get? key' = some q') (same : f q = f q') :
    key = key' := by
  obtain ⟨rfl, rfl⟩ | earlier := Table.get?_create_cases present
  · obtain ⟨rfl, rfl⟩ | earlier' := Table.get?_create_cases present'
    · rfl
    · exact absurd same.symm (new key' q' earlier')
  · obtain ⟨rfl, rfl⟩ | earlier' := Table.get?_create_cases present'
    · exact absurd same (new key q earlier)
    · exact distinct key q key' q' earlier earlier' same

theorem Planned.generatedTo {orders : WorkOrderBooks} (planned : Planned s)
    (stored : s.plans.get? planId = some plan) (ready : Ready planId plan asOf s)
    (creates : Creates setup call plan s.orders orders) :
    Planned (generatedTo planId plan asOf orders s) := by
  have advances : Planned { s with
      plans := s.plans.update planId (advanced asOf (checkpoint plan asOf s.chargingSessions).triggerValue) } := by
    refine planned.update fun plan' stored' => ?_
    rw [stored] at stored'
    cases stored'
    exact ⟨by rw [advanced_intervalValue]; exact ready.interval, baseline_le_advanced ready.interval ready.due⟩
  have row : (s.plans.update planId
      (advanced asOf (checkpoint plan asOf s.chargingSessions).triggerValue)).get? planId =
        some (advanced asOf (checkpoint plan asOf s.chargingSessions).triggerValue plan) := by
    rw [Table.get?_update_self, stored, Option.map_some]
  have grown : Grown s (PreventiveMaintenanceScheduler.generatedTo planId plan asOf orders s) := .generatedTo creates
  constructor
  · constructor
    · refine distinct_create planned.once fun key o present same => ?_
      obtain ⟨samePlan, samePoint⟩ := Prod.mk.inj same
      have used : occurred planId (checkpoint plan asOf s.chargingSessions).key s = true :=
        (Table.exists?_iff ..).mpr ⟨key, o, present, decide_eq_true ⟨samePlan, samePoint⟩⟩
      rw [ready.unused] at used
      cases used
    · refine distinct_create planned.own fun key o present same => ?_
      obtain ⟨w, known⟩ := planned.orders key o present
      exact Nat.ne_of_lt (Table.lt_nextId known) same
  · exact create_keyed planned.keyed creates
  · intro key o present
    obtain ⟨-, rfl⟩ | earlier := Table.get?_create_cases present
    · exact ⟨_, row⟩
    · exact advances.plans key o earlier
  · intro key o present
    obtain ⟨-, rfl⟩ | earlier := Table.get?_create_cases present
    · obtain ⟨currency, rows, rfl, -, -⟩ := create_reports creates
      exact ⟨_, Table.get?_create_self ..⟩
    · obtain ⟨w, known⟩ := planned.orders key o earlier
      exact ⟨w, grown.orders _ w known⟩
  · exact advances.interval
  · intro key o plan' triggerType value present known at'
    obtain ⟨-, rfl⟩ | earlier := Table.get?_create_cases present
    · cases row.symm.trans known
      obtain ⟨-, dueAt, -, -, point⟩ | ⟨used, value', -, point⟩ := due_cases ready.due
      · rw [occurrence, point] at at'
        cases at'
      · rw [occurrence, point] at at'
        cases at'
        rw [point, advanced_baseline_of_usage used, if_pos rfl]
    · exact advances.below key o plan' triggerType value earlier known at'

/-! ### Calls -/

theorem interval_pos {input : PreventivePlanManager.PlanInput}
    (valid : ¬ PreventivePlanManager.refusedFields setup input ≠ []) : 0 < input.intervalValue := by
  rw [not_not] at valid
  unfold PreventivePlanManager.refusedFields at valid
  simp only [List.append_eq_nil_iff] at valid
  obtain ⟨⟨-, interval⟩, -⟩ := valid
  by_contra out
  rw [if_neg (by omega)] at interval
  cases interval

theorem fill_baseline (input : PreventivePlanManager.PlanInput) (triggerType : PreventiveTriggerType) :
    (PreventivePlanManager.fill input plan).baseline triggerType = plan.baseline triggerType := by
  cases triggerType <;> rfl

theorem guardEdit_silent {user : Nat} {input : PreventivePlanManager.PlanInput} {s' : PreventiveBooks} {u : Unit}
    (success : Returns (PreventivePlanManager.guardEdit setup user input planId) s u s') : s' = s := by
  unfold PreventivePlanManager.guardEdit PreventivePlanManager.authorize at success
  simp only [returns_bind, returns_load, returns_throwIf] at success
  obtain ⟨_, _, ⟨-, rfl⟩, _, _, ⟨-, rfl⟩, -, rfl⟩ := success
  rfl

theorem planned_save (planned : Planned s) (user : Nat) (input : PreventivePlanManager.PlanInput) (ulid : String)
    (saved : Option Nat) : Planned (after (PreventivePlanManager.save setup user input ulid saved) s) := by
  unfold PreventivePlanManager.save PreventivePlanManager.authorize
  rw [after_throwIf]
  split
  · exact planned
  rename_i valid
  have interval := interval_pos valid
  rw [after_throwIf]
  split
  · exact planned
  refine after_transaction planned fun _ s' success => ?_
  cases saved with
  | some planId =>
    simp only [returns_bind, returns_within, returns_assertBelongsToSite, returns_throwIf, returns_write] at success
    obtain ⟨_, _, guarded, _, _, ⟨_, ⟨-, rfl⟩, rfl⟩, _, _, ⟨-, rfl⟩, rfl⟩ := success
    cases guardEdit_silent guarded
    exact planned.update fun plan _ => ⟨interval, fun triggerType => le_of_eq (fill_baseline input triggerType).symm⟩
  | none =>
    simp only [returns_bind, returns_within, returns_assertBelongsToSite, returns_throwIf, returns_write] at success
    obtain ⟨_, _, ⟨_, ⟨-, rfl⟩, rfl⟩, _, _, ⟨-, rfl⟩, rfl⟩ := success
    refine planned.replanned ⟨fun other plan stored => ?_, fun other plan stored => ?_⟩
    · exact ⟨plan, Table.get?_create_of_some _ _ stored, fun _ => le_refl _⟩
    · obtain ⟨-, rfl⟩ | earlier := Table.get?_create_cases stored
      · exact interval
      · exact planned.interval other plan earlier

theorem planned_setActive (planned : Planned s) (user planId : Nat) (active : Bool) (reason : String) :
    Planned (after (PreventivePlanManager.setActive setup user planId active reason) s) := by
  unfold PreventivePlanManager.setActive PreventivePlanManager.authorize
  rw [after_throwIf]
  split
  · exact planned
  refine after_transaction planned fun _ s' success => ?_
  simp only [returns_bind, returns_load, returns_throwIf, returns_doIf, returns_write] at success
  obtain ⟨_, _, ⟨-, rfl⟩, _, _, ⟨-, rfl⟩, ⟨-, rfl⟩ | ⟨-, rfl⟩⟩ := success
  · exact planned.update fun plan stored => ⟨planned.interval planId plan stored, fun triggerType => by
      cases triggerType <;> exact le_refl _⟩
  · exact planned

theorem planned_orders (planned : Planned s) {orders : WorkOrderBooks} (keyed : Keyed orders)
    (kept : ∀ workOrderId w, s.orders.workOrders.get? workOrderId = some w →
      ∃ w', orders.workOrders.get? workOrderId = some w') : Planned { s with orders } where
  once := planned.once
  own := planned.own
  keyed := keyed
  plans := planned.plans
  interval := planned.interval
  below := planned.below
  orders := by
    intro key o stored
    obtain ⟨w, known⟩ := planned.orders key o stored
    exact kept o.workOrderId w known

theorem Changes.kept {setup : MaintenanceSetup} {asked : WorkOrderCall} {s s' : WorkOrderBooks}
    (changes : Changes setup asked s s') {workOrderId : Nat} {w : WorkOrder}
    (stored : s.workOrders.get? workOrderId = some w) : ∃ w', s'.workOrders.get? workOrderId = some w' := by
  have described_kept : ∀ {s₁ : WorkOrderBooks}, Described s s₁ → ∃ w', s₁.workOrders.get? workOrderId = some w' := by
    intro s₁ described
    have orders := described.orders workOrderId
    rw [stored, Option.map_some] at orders
    obtain ⟨w', stored', -⟩ := Option.map_eq_some_iff.mp orders
    exact ⟨w', stored'⟩
  cases changes with
  | described described => exact described_kept described
  | reported call data success =>
    obtain ⟨currency, rows, rfl, -, -⟩ := create_reports success
    exact ⟨w, Table.get?_create_of_some _ _ stored⟩
  | moved described call moving target reasonCode notes w₁ may =>
    rw [get?_movedTo may]
    split
    · exact ⟨_, rfl⟩
    · exact described_kept described

theorem next_run : PlanCall.next setup (.run call asOf) s =
    after (generateEach setup call asOf ((s.plans.rowsWhere fun _ plan => plan.isActive).map Prod.fst) 0) s :=
  after_read _ _ _

theorem planned_next (planned : Planned s) (asked : PlanCall) : Planned (asked.next setup s) := by
  cases asked with
  | save user input ulid plan => exact planned_save planned user input ulid plan
  | setActive user planId active reason => exact planned_setActive planned user planId active reason
  | run call asOf =>
    rw [next_run]
    refine generateEach_keeps _ ?_ 0 s planned
    intro planId _ s₁ plan orders planned₁ stored ready creates
    exact planned₁.generatedTo stored ready creates
  | workOrder asked =>
    have changes := changes_next setup.toMaintenanceSetup asked s.orders
    exact planned_orders planned (changes.keyed planned.keyed) fun _ _ stored => changes.kept stored
  | charged chargingSessions => exact { planned with }
  | assetStored key asset =>
    refine planned_orders planned ⟨fun workOrderId w stored => ?_, planned.keyed.orders⟩ fun _ w stored => ⟨w, stored⟩
    obtain ⟨a, present⟩ := planned.keyed.assets workOrderId w stored
    show ∃ a, (s.orders.assets.put key asset).get? w.asset = some a
    rw [Table.get?_put]
    split
    · exact ⟨asset, rfl⟩
    · exact ⟨a, present⟩

/-- A run of the scheduler does what it is to do exactly where nothing hinders a plan that is due. -/
theorem neverStalls_iff (planned : Planned s) (asked : PlanCall) :
    NeverStalls setup asked s ↔ Unhindered setup asked s := by
  cases asked with
  | run call asOf =>
    simp only [NeverStalls, Unhindered, next_run]
    constructor
    · rintro ⟨generates, -⟩ planId plan stored due
      have creatable := creatable_of_generates planned.keyed stored (generates planId plan stored due)
      exact ⟨fun _ => creatable.unused, creatable.asset, creatable.sla⟩
    · intro unhindered
      refine ⟨fun planId plan stored due => ?_, (grown_generateEach _ 0 s).attributed⟩
      refine generateEach_generates (Table.nodup_rowsWhere _ _) 0 s planned.keyed ?_ planId ?_ plan stored due.2
      · intro other mem
        obtain ⟨⟨other', plan'⟩, row, rfl⟩ := List.mem_map.mp mem
        obtain ⟨stored', active⟩ := (Table.mem_rowsWhere ..).mp row
        refine ⟨plan', stored', active, planned.interval other' plan' stored', fun due' => ?_⟩
        obtain ⟨unused, asset, sla⟩ := unhindered other' plan' stored' ⟨active, due'⟩
        refine ⟨?_, asset, sla⟩
        by_cases dated : plan'.triggerType = .date
        · exact unused dated
        · exact planned.unused stored' dated due'
      · exact List.mem_map.mpr ⟨(planId, plan), (Table.mem_rowsWhere ..).mpr ⟨stored, due.1⟩, rfl⟩
  | _ => exact Iff.rfl

end Invariant

/-- Over any run a checkpoint generates one work order at most, and the scheduler never stalls exactly as long as no
due plan has a date it has used, or a work order that cannot be created. -/
theorem maintenance_goes_on_iff (setup : PreventiveSetup) (calls : List PlanCall) (s : PreventiveBooks)
    (opening : Opening s) :
    (Runs.Throughout (PlanCall.next setup) OncePerCheckpoint calls s ∧
        Runs.Met (PlanCall.next setup) (NeverStalls setup) calls s) ↔
      Runs.Met (PlanCall.next setup) (Unhindered setup) calls s := by
  have once : Runs.Throughout (PlanCall.next setup) OncePerCheckpoint calls s :=
    Runs.throughout_of_kept (fun asked _ planned => planned_next planned asked)
      (fun _ planned => planned.toOncePerCheckpoint) calls s opening.planned
  constructor
  · rintro ⟨-, met⟩
    exact Runs.met_of_met (fun asked _ planned _ => planned_next planned asked)
      (fun asked _ planned => (neverStalls_iff planned asked).mp) calls s opening.planned met
  · intro met
    exact ⟨once, Runs.met_of_met (fun asked _ planned _ => planned_next planned asked)
      (fun asked _ planned => (neverStalls_iff planned asked).mpr) calls s opening.planned met⟩

/-! ### A plan by the day -/

def oneDispatcher : PreventiveSetup where
  toMaintenanceSetup := oneTechnician
  sites := [0]
  activePriorities := [0]
  dispatchSites := fun _ => [0]

def noPlans : PreventiveBooks where
  orders := inService
  plans := Table.empty
  occurrences := Table.empty
  chargingSessions := Table.empty

theorem noPlans_opening : Opening noPlans where
  keyed := inService_keyed
  interval := by
    intro planId plan stored
    cases stored
  nothing := fun _ => rfl

def daily (nextDueAt : Instant) : PreventivePlanManager.PlanInput where
  siteId := 0
  asset := oneStation
  name := "Cabinet inspection"
  priorityId := 0
  triggerType := .date
  intervalValue := 86400
  nextDueAt := some nextDueAt

def inspection : List PlanCall :=
  [.save 1 (daily 1000000) "01" none, .run ⟨none, 2000000⟩ 2000000]

theorem inspection_goes_on :
    Runs.Throughout (PlanCall.next oneDispatcher) OncePerCheckpoint inspection noPlans ∧
      Runs.Met (PlanCall.next oneDispatcher) (NeverStalls oneDispatcher) inspection noPlans := by
  refine (maintenance_goes_on_iff oneDispatcher inspection noPlans noPlans_opening).mpr ⟨trivial, ?_, trivial⟩
  intro planId plan stored due
  have saved : (PlanCall.next oneDispatcher (.save 1 (daily 1000000) "01" none) noPlans).plans.entries =
      [(0, PreventivePlanManager.created (daily 1000000) "01")] := by decide +kernel
  have mem := (Table.mem_entries ..).mpr stored
  rw [saved, List.mem_singleton] at mem
  cases mem
  exact ⟨fun _ => rfl, ⟨_, rfl, rfl⟩, nofun⟩

/-- The plan is set back to the date it fell due on: it is due again, and the next run generates nothing. -/
theorem stalls_on_used_date : ¬ ∀ (setup : PreventiveSetup) (calls : List PlanCall) (s : PreventiveBooks), Opening s →
    Runs.Throughout (PlanCall.next setup) OncePerCheckpoint calls s ∧
      Runs.Met (PlanCall.next setup) (NeverStalls setup) calls s := by
  intro always
  let setBack := inspection ++ [.save 1 (daily 1000000) "02" (some 0)]
  obtain ⟨-, -, -, -, ⟨generates, -⟩, -⟩ :=
    always oneDispatcher (setBack ++ [.run ⟨none, 3000000⟩ 3000000]) noPlans noPlans_opening
  let s := Runs.reached (PlanCall.next oneDispatcher) setBack noPlans
  let s' := PlanCall.next oneDispatcher (.run ⟨none, 3000000⟩ 3000000) s
  have active : ((s.plans.get? 0).any fun plan =>
      plan.isActive && (checkpoint plan 3000000 s.chargingSessions).due) = true := by decide +kernel
  obtain ⟨plan, stored, due⟩ := (Option.any_eq_true ..).mp active
  obtain ⟨key, o, w, new, present, -⟩ := (generates 0 plan stored ((Bool.and_eq_true ..).mp due)).order
  have unchanged : s'.occurrences.entries = s.occurrences.entries := by decide +kernel
  have mem : (key, o) ∈ s'.occurrences.entries := (Table.mem_entries ..).mpr present
  rw [unchanged] at mem
  have old : s.occurrences.get? key = some o := (Table.mem_entries ..).mp mem
  cases new.symm.trans old

end VtsaCsms.Maintenance
