import VtsaCsms.Maintenance.WorkOrders

/-!
# What a transition does

When a transition of a work order goes through, and the rows it leaves.
-/
namespace VtsaCsms.Maintenance
open Foundation Foundation.Action EloquentAssetMaintenanceContract WorkOrderWorkflow

/-! ### The asset -/

def withLifecycle (key : AssetKey) (status : AssetLifecycleStatus) (s : WorkOrderBooks) : WorkOrderBooks :=
  { s with assets := s.assets.update key fun a => { a with lifecycleStatus := status } }

theorem returns_asset (key : AssetKey) (s s' : WorkOrderBooks) (a : Asset) :
    Returns (asset key) s a s' ↔ s.assets.get? key = some a ∧ s' = s :=
  returns_find ..

theorem returns_exchange (key : AssetKey) (source target : AssetLifecycleStatus) (refusal : String)
    (s s' : WorkOrderBooks) (u : Unit) :
    Returns (exchange key source target refusal) s u s' ↔
      (∃ a, s.assets.get? key = some a ∧ (a.lifecycleStatus = source ∨ a.lifecycleStatus = target)) ∧
        s' = withLifecycle key target s := by
  unfold exchange setLifecycle
  simp only [returns_bind, returns_asset, returns_doIf, returns_throwIf, returns_write, not_not]
  constructor
  · rintro ⟨a, _, ⟨stored, rfl⟩, ⟨-, _, _, ⟨active, rfl⟩, rfl⟩ | ⟨there, same⟩⟩
    · exact ⟨⟨a, stored, Or.inl active⟩, rfl⟩
    · refine ⟨⟨a, stored, Or.inr there⟩, ?_⟩
      have unchanged := Table.update_same (f := fun a : Asset => { a with lifecycleStatus := target }) stored
        (by rw [← there])
      rw [same, withLifecycle, unchanged]
  · rintro ⟨⟨a, stored, either⟩, rfl⟩
    refine ⟨a, s, ⟨stored, rfl⟩, ?_⟩
    by_cases there : a.lifecycleStatus = target
    · refine Or.inr ⟨there, ?_⟩
      have unchanged := Table.update_same (f := fun a : Asset => { a with lifecycleStatus := target }) stored
        (by rw [← there])
      rw [withLifecycle, unchanged]
    · exact Or.inl ⟨there, (), s, ⟨either.resolve_right there, rfl⟩, rfl⟩

/-! ### The rows beside it -/

def withAction (call : Acting) (workOrderId : Nat) (locked : WorkOrder) (action : AssetActionKind)
    (reasonCode : String) (s : WorkOrderBooks) : WorkOrderBooks :=
  { s with
    assetActions := s.assetActions.create
      { workOrderId, action, asset := locked.asset, reasonCode, aggregateVersion := locked.aggregateVersion
        requestedBy := call.actorId.getD 0, requestedAt := call.now.toSecond } }

def withDowntime (call : Acting) (workOrderId : Nat) (locked : WorkOrder) (reasonCode : String)
    (s : WorkOrderBooks) : WorkOrderBooks :=
  if (s.downtimePeriods.exists? fun _ p => decide (p.workOrderId = workOrderId ∧ p.asset = locked.asset)) = false then
    { s with
      downtimePeriods := s.downtimePeriods.create
        { workOrderId, siteId := locked.siteId, asset := locked.asset, reasonCode, startedAt := call.now.toSecond } }
  else s

def withoutDowntime (call : Acting) (workOrderId : Nat) (s : WorkOrderBooks) : WorkOrderBooks :=
  { s with
    downtimePeriods := s.downtimePeriods.updateWhere (fun _ p => openPeriod workOrderId p) fun p =>
      { p with
        endedAt := some call.now.toSecond
        durationSeconds := some (max 0 (p.startedAt.diffInSeconds call.now)) } }

theorem returns_requireActor (call : Acting) (s s' : WorkOrderBooks) (actor : Nat) :
    Returns (requireActor call) s actor s' ↔ call.actorId = some actor ∧ s' = s :=
  returns_orThrow ..

theorem returns_recordAssetAction (call : Acting) (workOrderId : Nat) (locked : WorkOrder)
    (action : AssetActionKind) (reasonCode : String) (s s' : WorkOrderBooks) (u : Unit) :
    Returns (recordAssetAction call workOrderId locked action reasonCode) s u s' ↔
      call.actorId.isSome = true ∧ s' = withAction call workOrderId locked action reasonCode s := by
  unfold recordAssetAction withAction
  simp only [returns_bind, returns_requireActor, returns_write]
  cases call.actorId with
  | none => simp
  | some => simp

theorem returns_startDowntime (call : Acting) (workOrderId : Nat) (locked : WorkOrder) (reasonCode : String)
    (s s' : WorkOrderBooks) (u : Unit) :
    Returns (startDowntime call workOrderId locked reasonCode) s u s' ↔
      s' = withDowntime call workOrderId locked reasonCode s := by
  unfold startDowntime withDowntime
  simp only [returns_bind, returns_read, returns_doIf, returns_write]
  constructor
  · rintro ⟨_, _, ⟨rfl, rfl⟩, ⟨absent, rfl⟩ | ⟨found, rfl⟩⟩
    · exact (if_pos absent).symm
    · exact (if_neg found).symm
  · rintro rfl
    refine ⟨_, s, ⟨rfl, rfl⟩, ?_⟩
    split
    · rename_i absent
      exact Or.inl ⟨absent, rfl⟩
    · rename_i found
      exact Or.inr ⟨found, rfl⟩

/-- No open period of the work order starts in the future. -/
def InTime (call : Acting) (workOrderId : Nat) (s : WorkOrderBooks) : Prop :=
  ∀ key p, s.downtimePeriods.get? key = some p → openPeriod workOrderId p = true → p.startedAt ≤ call.now.toSecond

theorem returns_endDowntime (call : Acting) (workOrderId : Nat) (s s' : WorkOrderBooks) (u : Unit) :
    Returns (endDowntime call workOrderId) s u s' ↔
      InTime call workOrderId s ∧ s' = withoutDowntime call workOrderId s := by
  have late : (¬ (s.downtimePeriods.exists? fun _ p =>
      openPeriod workOrderId p && decide (call.now.toSecond < p.startedAt)) = true) ↔ InTime call workOrderId s := by
    rw [Table.exists?_iff]
    unfold InTime
    simp only [Bool.and_eq_true, decide_eq_true_eq, not_exists, not_and, not_lt]
  unfold endDowntime
  simp only [returns_bind, returns_read, returns_throwIf, returns_write]
  constructor
  · rintro ⟨_, _, ⟨rfl, rfl⟩, _, _, ⟨early, rfl⟩, rfl⟩
    exact ⟨late.mp early, rfl⟩
  · rintro ⟨inTime, rfl⟩
    exact ⟨_, s, ⟨rfl, rfl⟩, (), s, ⟨late.mpr inTime, rfl⟩, rfl⟩

/-! ### Restriction and return -/

/-- An asset whose lifecycle maintenance may change, and somebody to account for it. -/
def Actable (call : Acting) (locked : WorkOrder) (s : WorkOrderBooks) : Prop :=
  (∃ a, s.assets.get? locked.asset = some a ∧
    (a.lifecycleStatus = .active ∨ a.lifecycleStatus = .maintenance)) ∧ call.actorId.isSome = true

def restricted (call : Acting) (workOrderId : Nat) (locked : WorkOrder) (reasonCode : String)
    (s : WorkOrderBooks) : WorkOrderBooks :=
  withDowntime call workOrderId locked reasonCode
    (withAction call workOrderId locked .restrict reasonCode (withLifecycle locked.asset .maintenance s))

def backInService (call : Acting) (workOrderId : Nat) (locked : WorkOrder) (reasonCode : String)
    (s : WorkOrderBooks) : WorkOrderBooks :=
  withoutDowntime call workOrderId
    (withAction call workOrderId locked .returnToService reasonCode (withLifecycle locked.asset .active s))

theorem returns_restricts (call : Acting) (workOrderId : Nat) (locked : WorkOrder) (reasonCode : String)
    (s s' : WorkOrderBooks) (u : Unit) :
    Returns (do
      restrictForMaintenance locked.asset
      recordAssetAction call workOrderId locked .restrict reasonCode
      startDowntime call workOrderId locked reasonCode) s u s' ↔
      Actable call locked s ∧ s' = restricted call workOrderId locked reasonCode s := by
  unfold restrictForMaintenance Actable restricted
  simp only [returns_bind, returns_exchange, returns_recordAssetAction, returns_startDowntime]
  constructor
  · rintro ⟨_, _, ⟨either, rfl⟩, _, _, ⟨actor, rfl⟩, rfl⟩
    exact ⟨⟨either, actor⟩, rfl⟩
  · rintro ⟨⟨either, actor⟩, rfl⟩
    exact ⟨(), _, ⟨either, rfl⟩, (), _, ⟨actor, rfl⟩, rfl⟩

theorem returns_puts_back (call : Acting) (workOrderId : Nat) (locked : WorkOrder) (reasonCode : String)
    (s s' : WorkOrderBooks) (u : Unit) :
    Returns (do
      returnToService locked.asset
      recordAssetAction call workOrderId locked .returnToService reasonCode
      endDowntime call workOrderId) s u s' ↔
      Actable call locked s ∧ InTime call workOrderId s ∧ s' = backInService call workOrderId locked reasonCode s := by
  unfold returnToService Actable backInService
  simp only [returns_bind, returns_exchange, returns_recordAssetAction, returns_endDowntime]
  constructor
  · rintro ⟨_, _, ⟨⟨a, stored, either⟩, rfl⟩, _, _, ⟨actor, rfl⟩, inTime, rfl⟩
    exact ⟨⟨⟨a, stored, either.symm⟩, actor⟩, inTime, rfl⟩
  · rintro ⟨⟨⟨a, stored, either⟩, actor⟩, inTime, rfl⟩
    exact ⟨(), _, ⟨⟨a, stored, either.symm⟩, rfl⟩, (), _, ⟨actor, rfl⟩, inTime, rfl⟩

/-! ### The transition -/

/-- What `guardTransition` asks for. -/
structure Guarded (call : Acting) (workOrderId : Nat) (locked : WorkOrder) (target : WorkOrderState)
    (s : WorkOrderBooks) : Prop where
  assigned : target = .inProgress → ∃ key a, s.assignments.get? key = some a ∧ a.workOrderId = workOrderId ∧
    a.status = .assigned
  done : target = .completed → ∀ key item, s.checklistItems.get? key = some item → item.workOrderId = workOrderId →
    item.isRequired = true → item.completedAt ≠ none
  passed : target = .completed → ∀ key item, s.checklistItems.get? key = some item → item.workOrderId = workOrderId →
    item.requiresPass = true → ∀ result, item.result = some result → result = .pass
  parts : target = .completed → ∀ key part, s.partQuantities.get? key = some part → part.workOrderId = workOrderId →
    part.returnedQuantityBase ≤ part.issuedQuantityBase
  separate : target = .verified → locked.verificationRequired = true →
    ∃ actor, call.actorId = some actor ∧ locked.completedBy ≠ some actor
  evidence : target = .verified → locked.resolutionCodeId ≠ none ∧ locked.workPerformed ≠ none
  verified : target = .closed → locked.verifiedAt ≠ none

theorem returns_guardTransition (call : Acting) (workOrderId : Nat) (locked : WorkOrder) (target : WorkOrderState)
    (s s' : WorkOrderBooks) (u : Unit) :
    Returns (guardTransition call workOrderId locked target) s u s' ↔
      Guarded call workOrderId locked target s ∧ s' = s := by
  unfold guardTransition
  simp only [returns_bind, returns_read, returns_throwIf, returns_doIf, returns_requireActor, Table.exists?_iff,
    decide_eq_true_eq, Option.any_eq_true]
  constructor
  · rintro ⟨_, _, ⟨rfl, rfl⟩, _, _, ⟨assigned, rfl⟩, _, _, ⟨done, rfl⟩, _, _, ⟨passed, rfl⟩, _, s, ⟨parts, rfl⟩, _, _,
      separate, _, _, ⟨evidence, rfl⟩, verified, rfl⟩
    have same : s = s' ∧ (target = .verified → locked.verificationRequired = true →
        ∃ actor, call.actorId = some actor ∧ locked.completedBy ≠ some actor) := by
      obtain ⟨-, actor, _, ⟨present, rfl⟩, other, rfl⟩ | ⟨free, rfl⟩ := separate
      · exact ⟨rfl, fun _ _ => ⟨actor, present, other⟩⟩
      · exact ⟨rfl, fun verifies required => absurd ⟨verifies, required⟩ free⟩
    obtain ⟨rfl, apart⟩ := same
    refine ⟨⟨?_, ?_, ?_, ?_, apart, ?_, ?_⟩, rfl⟩
    · intro starts
      by_contra none'
      exact assigned ⟨starts, none'⟩
    · intro completes key item stored own required missing
      exact done ⟨completes, key, item, stored, own, required, missing⟩
    · intro completes key item stored own required result found
      by_contra failed
      exact passed ⟨completes, key, item, stored, own, required, result, found, failed⟩
    · intro completes key part stored own
      by_contra more
      exact parts ⟨completes, key, part, stored, own, not_le.mp more⟩
    · intro verifies
      exact ⟨fun missing => evidence ⟨verifies, Or.inl missing⟩, fun missing => evidence ⟨verifies, Or.inr missing⟩⟩
    · intro closes missing
      exact verified ⟨closes, missing⟩
  · rintro ⟨guarded, rfl⟩
    refine ⟨_, s', ⟨rfl, rfl⟩, (), s', ⟨?_, rfl⟩, (), s', ⟨?_, rfl⟩, (), s', ⟨?_, rfl⟩, (), s', ⟨?_, rfl⟩, (), s', ?_, (), s',
      ⟨?_, rfl⟩, ?_, rfl⟩
    · rintro ⟨starts, none'⟩
      exact none' (guarded.assigned starts)
    · rintro ⟨completes, key, item, stored, own, required, missing⟩
      exact guarded.done completes key item stored own required missing
    · rintro ⟨completes, key, item, stored, own, required, result, found, failed⟩
      exact failed (guarded.passed completes key item stored own required result found)
    · rintro ⟨completes, key, part, stored, own, more⟩
      exact absurd (guarded.parts completes key part stored own) (not_le.mpr more)
    · by_cases required : target = .verified ∧ locked.verificationRequired = true
      · obtain ⟨actor, present, other⟩ := guarded.separate required.1 required.2
        exact Or.inl ⟨required, actor, s', ⟨present, rfl⟩, other, rfl⟩
      · exact Or.inr ⟨required, rfl⟩
    · rintro ⟨verifies, missing | missing⟩
      · exact (guarded.evidence verifies).1 missing
      · exact (guarded.evidence verifies).2 missing
    · rintro ⟨closes, missing⟩
      exact guarded.verified closes missing

/-- The target ends the work on the asset. -/
def PutsBack (target : WorkOrderState) : Prop := target = .verified ∨ target = .closed
  deriving Decidable

/-- A transition that goes through. -/
structure MayMove (call : Acting) (workOrderId : Nat) (locked : WorkOrder) (target : WorkOrderState)
    (s : WorkOrderBooks) : Prop where
  stored : s.workOrders.get? workOrderId = some locked
  allowed : locked.state.canTransitionTo target = true
  guarded : Guarded call workOrderId locked target s
  signed : Signed locked target → call.actorId.isSome = true
  acts : target = .inProgress ∨ PutsBack target → locked.assetRestrictionRequired = true → Actable call locked s
  inTime : PutsBack target → locked.assetRestrictionRequired = true → InTime call workOrderId s
  version : ∀ key t, s.transitions.get? key = some t →
    ¬ (t.workOrderId = workOrderId ∧ t.version = locked.aggregateVersion + 1)

/-- What a transition does to the asset and the rows beside it. -/
def acted (call : Acting) (workOrderId : Nat) (target : WorkOrderState) (reasonCode : String) (locked : WorkOrder)
    (s : WorkOrderBooks) : WorkOrderBooks :=
  if locked.assetRestrictionRequired = true then
    if target = .inProgress then restricted call workOrderId locked reasonCode s
    else if PutsBack target then backInService call workOrderId locked reasonCode s
    else s
  else s

def transitionRow (call : Acting) (workOrderId : Nat) (target : WorkOrderState) (reasonCode : String)
    (notes : Option String) (locked : WorkOrder) : WorkOrderTransition where
  workOrderId := workOrderId
  fromState := some locked.state
  toState := target
  reasonCode := reasonCode
  notes := notes
  version := locked.aggregateVersion + 1
  actorId := call.actorId
  occurredAt := call.now.toSecond

def movedTo (setup : MaintenanceSetup) (call : Acting) (workOrderId : Nat) (target : WorkOrderState)
    (reasonCode : String) (notes : Option String) (locked : WorkOrder) (s : WorkOrderBooks) : WorkOrderBooks :=
  let s₁ := acted call workOrderId target reasonCode locked s
  { s₁ with
    workOrders := s₁.workOrders.update workOrderId (moved call target (policyPausesSla setup locked target))
    transitions := s₁.transitions.create (transitionRow call workOrderId target reasonCode notes locked) }

theorem withDowntime_frame (call : Acting) (workOrderId : Nat) (locked : WorkOrder) (reasonCode : String)
    (s : WorkOrderBooks) :
    (withDowntime call workOrderId locked reasonCode s).workOrders = s.workOrders ∧
      (withDowntime call workOrderId locked reasonCode s).transitions = s.transitions ∧
        (withDowntime call workOrderId locked reasonCode s).assets = s.assets := by
  unfold withDowntime
  split
  · exact ⟨rfl, rfl, rfl⟩
  · exact ⟨rfl, rfl, rfl⟩

theorem acted_frame (call : Acting) (workOrderId : Nat) (target : WorkOrderState) (reasonCode : String)
    (locked : WorkOrder) (s : WorkOrderBooks) :
    (acted call workOrderId target reasonCode locked s).workOrders = s.workOrders ∧
      (acted call workOrderId target reasonCode locked s).transitions = s.transitions := by
  unfold acted
  split
  · split
    · obtain ⟨orders, transitions, -⟩ := withDowntime_frame call workOrderId locked reasonCode
        (withAction call workOrderId locked .restrict reasonCode (withLifecycle locked.asset .maintenance s))
      exact ⟨orders, transitions⟩
    · split
      · exact ⟨rfl, rfl⟩
      · exact ⟨rfl, rfl⟩
  · exact ⟨rfl, rfl⟩

theorem returns_recordTransition (call : Acting) (t : WorkOrderTransition) (s s' : WorkOrderBooks) (u : Unit) :
    Returns (recordTransition call t) s u s' ↔
      (∀ key t', s.transitions.get? key = some t' → ¬ (t'.workOrderId = t.workOrderId ∧ t'.version = t.version)) ∧
        s' = { s with
          transitions := s.transitions.create { t with actorId := call.actorId, occurredAt := call.now.toSecond } } := by
  have unused : (¬ (s.transitions.exists? fun _ t' =>
      decide (t'.workOrderId = t.workOrderId ∧ t'.version = t.version)) = true) ↔
      ∀ key t', s.transitions.get? key = some t' → ¬ (t'.workOrderId = t.workOrderId ∧ t'.version = t.version) := by
    rw [Table.exists?_iff]
    simp only [decide_eq_true_eq, not_exists, not_and]
  unfold recordTransition
  simp only [returns_bind, returns_read, returns_throwIf, returns_write]
  constructor
  · rintro ⟨_, _, ⟨rfl, rfl⟩, _, _, ⟨free, rfl⟩, rfl⟩
    exact ⟨unused.mp free, rfl⟩
  · rintro ⟨free, rfl⟩
    exact ⟨_, s, ⟨rfl, rfl⟩, (), s, ⟨unused.mpr free, rfl⟩, rfl⟩

theorem returns_acts (call : Acting) (workOrderId : Nat) (target : WorkOrderState) (reasonCode : String)
    (locked : WorkOrder) (s s' : WorkOrderBooks) :
    (∃ s₁, ((target = .inProgress ∧ locked.assetRestrictionRequired = true) ∧ Actable call locked s ∧
          s₁ = restricted call workOrderId locked reasonCode s ∨
        ¬ (target = .inProgress ∧ locked.assetRestrictionRequired = true) ∧ s₁ = s) ∧
      ((PutsBack target ∧ locked.assetRestrictionRequired = true) ∧ Actable call locked s₁ ∧
          InTime call workOrderId s₁ ∧ s' = backInService call workOrderId locked reasonCode s₁ ∨
        ¬ (PutsBack target ∧ locked.assetRestrictionRequired = true) ∧ s' = s₁)) ↔
      (target = .inProgress ∨ PutsBack target → locked.assetRestrictionRequired = true → Actable call locked s) ∧
        (PutsBack target → locked.assetRestrictionRequired = true → InTime call workOrderId s) ∧
          s' = acted call workOrderId target reasonCode locked s := by
  unfold acted
  by_cases required : locked.assetRestrictionRequired = true
  · by_cases starts : target = .inProgress
    · have other : ¬ PutsBack target := by rw [starts]; decide
      simp [required, starts, show ¬ PutsBack .inProgress by decide]
    · by_cases back : PutsBack target
      · simp [required, starts, back]
      · simp [required, starts, back]
  · simp [required]

theorem returns_loadWorkOrder (workOrderId : Nat) (s s' : WorkOrderBooks) (w : WorkOrder) :
    Returns (WorkOrderWorkflow.load workOrderId) s w s' ↔ s.workOrders.get? workOrderId = some w ∧ s' = s :=
  returns_find ..

theorem transition_returns (setup : MaintenanceSetup) (call : Acting) (workOrderId : Nat) (target : WorkOrderState)
    (reasonCode : String) (notes : Option String) (s s' : WorkOrderBooks) (u : Unit) :
    Returns (transition setup call workOrderId target reasonCode notes) s u s' ↔
      ∃ locked, MayMove call workOrderId locked target s ∧
        s' = movedTo setup call workOrderId target reasonCode notes locked s := by
  have signs : ∀ (locked : WorkOrder) (t t' : WorkOrderBooks) (u : Unit),
      Returns (doIf (Signed locked target) (requireActor call >>= fun _ => pure ())) t u t' ↔
        (Signed locked target → call.actorId.isSome = true) ∧ t' = t := by
    intro locked t t' u
    simp only [returns_doIf, returns_bind, returns_requireActor, returns_pure]
    by_cases signed : Signed locked target
    · cases call.actorId with
      | none => simp [signed]
      | some => simp [signed]
    · simp [signed]
  unfold transition setWorkOrder
  simp only [returns_transaction, returns_bind, returns_loadWorkOrder, returns_throwIf, returns_guardTransition, signs]
  simp only [returns_doIf, returns_restricts, returns_puts_back, returns_write, returns_recordTransition]
  constructor
  · rintro ⟨locked, _, ⟨stored, rfl⟩, _, _, ⟨allowed, rfl⟩, _, _, ⟨guarded, rfl⟩, _, s, ⟨signed, rfl⟩, _, s₁, restricts, _,
      _, putsBack, _, _, rfl, version, rfl⟩
    obtain ⟨acts, inTime, rfl⟩ := (returns_acts call workOrderId target reasonCode locked s _).mp
      ⟨s₁, restricts, putsBack⟩
    have frame := (acted_frame call workOrderId target reasonCode locked s).2
    exact ⟨locked, ⟨stored, by simpa using allowed, guarded, signed, acts, inTime, by rwa [frame] at version⟩, rfl⟩
  · rintro ⟨locked, may, rfl⟩
    have frame := (acted_frame call workOrderId target reasonCode locked s).2
    obtain ⟨s₁, restricts, putsBack⟩ := (returns_acts call workOrderId target reasonCode locked s _).mpr
      ⟨may.acts, may.inTime, rfl⟩
    exact ⟨locked, s, ⟨may.stored, rfl⟩, (), s, ⟨by simp [may.allowed], rfl⟩, (), s, ⟨may.guarded, rfl⟩, (), s,
      ⟨may.signed, rfl⟩, (), s₁, restricts, (), _, putsBack, (), _, rfl, by rw [frame]; exact may.version, rfl⟩

end VtsaCsms.Maintenance
