import VtsaCsms.Foundation.Runs
import VtsaCsms.Foundation.Spans
import VtsaCsms.Maintenance.WorkOrderMoves

/-!
# Assets under maintenance

Which work orders work on an asset, and when its lifecycle says so: over all runs of work orders, any
number of them on one asset.
-/
namespace VtsaCsms.Maintenance
open Foundation Foundation.Action Foundation.Spans EloquentAssetMaintenanceContract WorkOrderWorkflow

/-! ### Work on an asset -/

/-- The states a work order entered, in order. -/
def history (workOrderId : Nat) (s : WorkOrderBooks) : List WorkOrderState :=
  (s.transitions.rowsWhere fun _ t => decide (t.workOrderId = workOrderId)).map fun row => row.2.toState

def EndsWork (state : WorkOrderState) : Prop := state = .verified ∨ state = .closed ∨ state = .canceled
  deriving Decidable

/-- It entered `InProgress`, and was not verified, closed or canceled since. -/
def Working (workOrderId : Nat) (s : WorkOrderBooks) : Prop :=
  Ongoing (fun state => state = .inProgress) EndsWork (history workOrderId s)

instance (workOrderId : Nat) (s : WorkOrderBooks) : Decidable (Working workOrderId s) :=
  inferInstanceAs (Decidable (Ongoing _ _ _))

/-- A work order that restricts the asset works on it. -/
def Holds (workOrderId : Nat) (key : AssetKey) (s : WorkOrderBooks) : Prop :=
  ∃ w, s.workOrders.get? workOrderId = some w ∧ w.asset = key ∧ w.assetRestrictionRequired = true ∧
    Working workOrderId s

/-- An asset is in maintenance exactly while a work order that restricts it works on it. -/
def OutOfServiceWhileWorkedOn (s : WorkOrderBooks) : Prop :=
  ∀ key a, s.assets.get? key = some a →
    (a.lifecycleStatus = .maintenance ↔ ∃ workOrderId, Holds workOrderId key s)

/-- Work orders on assets there are, transitions of work orders there are. -/
structure Keyed (s : WorkOrderBooks) : Prop where
  assets : ∀ workOrderId w, s.workOrders.get? workOrderId = some w → ∃ a, s.assets.get? w.asset = some a
  orders : ∀ key t, s.transitions.get? key = some t → ∃ w, s.workOrders.get? t.workOrderId = some w

theorem history_create (t : WorkOrderTransition) (s : WorkOrderBooks) (workOrderId : Nat) :
    history workOrderId { s with transitions := s.transitions.create t } =
      history workOrderId s ++ if t.workOrderId = workOrderId then [t.toState] else [] := by
  unfold history
  rw [Table.rowsWhere_create, List.map_append]
  by_cases own : t.workOrderId = workOrderId
  · simp [own]
  · simp [own]

theorem history_new {s : WorkOrderBooks} (keyed : Keyed s) : history s.workOrders.nextId s = [] := by
  unfold history
  rw [List.map_eq_nil_iff]
  apply List.eq_nil_iff_forall_not_mem.mpr
  rintro ⟨key, t⟩ mem
  rw [Table.mem_rowsWhere, decide_eq_true_iff] at mem
  obtain ⟨w, stored⟩ := keyed.orders key t mem.1
  rw [mem.2, Table.get?_nextId] at stored
  cases stored

/-! ### What leaves the work as it is -/

/-- The assets, the transitions, and of each work order its asset and whether it restricts it. -/
structure SameWork (s s' : WorkOrderBooks) : Prop where
  assets : s'.assets = s.assets
  transitions : s'.transitions = s.transitions
  orders : ∀ workOrderId, (s'.workOrders.get? workOrderId).map (fun w => (w.asset, w.assetRestrictionRequired)) =
    (s.workOrders.get? workOrderId).map fun w => (w.asset, w.assetRestrictionRequired)

namespace SameWork
variable {s s' : WorkOrderBooks}

theorem symm (same : SameWork s s') : SameWork s' s where
  assets := same.assets.symm
  transitions := same.transitions.symm
  orders := fun workOrderId => (same.orders workOrderId).symm

theorem stored (same : SameWork s s') {workOrderId : Nat} {w : WorkOrder}
    (found : s.workOrders.get? workOrderId = some w) : ∃ w', s'.workOrders.get? workOrderId = some w' ∧
      w'.asset = w.asset ∧ w'.assetRestrictionRequired = w.assetRestrictionRequired := by
  have orders := same.orders workOrderId
  rw [found, Option.map_some] at orders
  obtain ⟨w', found', columns⟩ := Option.map_eq_some_iff.mp orders
  exact ⟨w', found', congrArg Prod.fst columns, congrArg Prod.snd columns⟩

theorem history (same : SameWork s s') (workOrderId : Nat) :
    Maintenance.history workOrderId s' = Maintenance.history workOrderId s := by
  unfold Maintenance.history
  rw [same.transitions]

theorem holds_of (same : SameWork s s') {workOrderId : Nat} {key : AssetKey} (holds : Holds workOrderId key s) :
    Holds workOrderId key s' := by
  obtain ⟨w, found, asset, required, working⟩ := holds
  obtain ⟨w', found', asset', required'⟩ := same.stored found
  refine ⟨w', found', asset'.trans asset, required'.trans required, ?_⟩
  unfold Working at working ⊢
  rwa [same.history]

theorem holds (same : SameWork s s') (workOrderId : Nat) (key : AssetKey) :
    Holds workOrderId key s' ↔ Holds workOrderId key s :=
  ⟨same.symm.holds_of, same.holds_of⟩

theorem outOfService (same : SameWork s s') : OutOfServiceWhileWorkedOn s' ↔ OutOfServiceWhileWorkedOn s := by
  unfold OutOfServiceWhileWorkedOn
  simp only [same.assets, same.holds]

theorem keyed (same : SameWork s s') (keyed : Keyed s) : Keyed s' where
  assets := by
    intro workOrderId w found
    obtain ⟨w', found', asset, -⟩ := same.symm.stored found
    rw [same.assets, ← asset]
    exact keyed.assets workOrderId w' found'
  orders := by
    intro key t found
    rw [same.transitions] at found
    obtain ⟨w, stored⟩ := keyed.orders key t found
    obtain ⟨w', stored', -⟩ := same.stored stored
    exact ⟨w', stored'⟩

end SameWork

theorem sameWork_setWorkOrder (workOrderId : Nat) {change : WorkOrder → WorkOrder}
    (asset : ∀ w, (change w).asset = w.asset)
    (required : ∀ w, (change w).assetRestrictionRequired = w.assetRestrictionRequired) (s : WorkOrderBooks) :
    SameWork s { s with workOrders := s.workOrders.update workOrderId change } where
  assets := rfl
  transitions := rfl
  orders := by
    intro other
    dsimp only
    rw [Table.get?_update]
    split
    · rw [Option.map_map]
      congr 1
      funext w
      exact Prod.ext (asset w) (required w)
    · rfl

/-! ### Transitions -/

section Transition
variable {setup : MaintenanceSetup} {call : Acting} {workOrderId : Nat} {target : WorkOrderState} {reasonCode : String}
  {notes : Option String} {w : WorkOrder} {s : WorkOrderBooks}

theorem get?_movedTo (may : MayMove call workOrderId w target s) (other : Nat) :
    (movedTo setup call workOrderId target reasonCode notes w s).workOrders.get? other =
      if other = workOrderId then some (moved call target (policyPausesSla setup w target) w)
      else s.workOrders.get? other := by
  unfold movedTo
  dsimp only
  rw [(acted_frame call workOrderId target reasonCode w s).1, Table.get?_update]
  split
  · rename_i same
    rw [same, may.stored, Option.map_some]
  · rfl

theorem history_movedTo (other : Nat) :
    history other (movedTo setup call workOrderId target reasonCode notes w s) =
      history other s ++ if workOrderId = other then [target] else [] := by
  have added := history_create (transitionRow call workOrderId target reasonCode notes w) s other
  have same : history other (movedTo setup call workOrderId target reasonCode notes w s) =
      history other { s with
        transitions := s.transitions.create (transitionRow call workOrderId target reasonCode notes w) } := by
    unfold history movedTo
    dsimp only
    rw [(acted_frame call workOrderId target reasonCode w s).2]
  rw [same, added]
  rfl

theorem working_movedTo_self : Working workOrderId (movedTo setup call workOrderId target reasonCode notes w s) ↔
    target = .inProgress ∨ (¬ EndsWork target ∧ Working workOrderId s) := by
  unfold Working
  rw [history_movedTo, if_pos rfl, ongoing_append]

theorem working_movedTo_other {other : Nat} (different : other ≠ workOrderId) :
    Working other (movedTo setup call workOrderId target reasonCode notes w s) ↔ Working other s := by
  unfold Working
  rw [history_movedTo, if_neg (Ne.symm different), List.append_nil]

theorem holds_movedTo (may : MayMove call workOrderId w target s) (other : Nat) (key : AssetKey) :
    Holds other key (movedTo setup call workOrderId target reasonCode notes w s) ↔
      if other = workOrderId then
        w.asset = key ∧ w.assetRestrictionRequired = true ∧
          (target = .inProgress ∨ (¬ EndsWork target ∧ Working workOrderId s))
      else Holds other key s := by
  unfold Holds
  by_cases own : other = workOrderId
  · subst own
    rw [if_pos rfl]
    constructor
    · rintro ⟨w', stored, asset, required, working⟩
      rw [get?_movedTo may, if_pos rfl] at stored
      cases stored
      exact ⟨asset, required, working_movedTo_self.mp working⟩
    · rintro ⟨asset, required, working⟩
      refine ⟨moved call target (policyPausesSla setup w target) w, ?_, asset, required, working_movedTo_self.mpr working⟩
      rw [get?_movedTo may, if_pos rfl]
  · rw [if_neg own]
    simp only [get?_movedTo may, if_neg own, working_movedTo_other own]

/-- What the target makes of the asset of a work order that restricts it. -/
def lifecycleAfter (target : WorkOrderState) (status : AssetLifecycleStatus) : AssetLifecycleStatus :=
  if target = .inProgress then .maintenance else if PutsBack target then .active else status

theorem assets_movedTo (key : AssetKey) :
    (movedTo setup call workOrderId target reasonCode notes w s).assets.get? key =
      if key = w.asset ∧ w.assetRestrictionRequired = true then
        (s.assets.get? key).map fun a => { a with lifecycleStatus := lifecycleAfter target a.lifecycleStatus }
      else s.assets.get? key := by
  have unchanged : (s.assets.get? key).map (fun a : Asset => { a with lifecycleStatus := a.lifecycleStatus }) =
      s.assets.get? key := by
    cases s.assets.get? key with
    | none => rfl
    | some => rfl
  unfold movedTo acted lifecycleAfter
  dsimp only
  by_cases required : w.assetRestrictionRequired = true
  · simp only [required, and_true, if_true]
    by_cases starts : target = .inProgress
    · simp only [if_pos starts]
      unfold restricted
      rw [(withDowntime_frame ..).2.2]
      exact Table.get?_update ..
    · simp only [if_neg starts]
      by_cases back : PutsBack target
      · simp only [if_pos back]
        exact Table.get?_update ..
      · simp only [if_neg back, unchanged, ite_self]
  · simp only [required, and_false, if_false, Bool.false_eq_true]

/-- Ending the work leaves the asset to the others that work on it, and canceling it leaves it to
some other that does. -/
def Spares (workOrderId : Nat) (w : WorkOrder) (target : WorkOrderState) (s : WorkOrderBooks) : Prop :=
  w.assetRestrictionRequired = true →
    (PutsBack target → ∀ other, other ≠ workOrderId → ¬ Holds other w.asset s) ∧
      (target = .canceled → Working workOrderId s → ∃ other, other ≠ workOrderId ∧ Holds other w.asset s)

theorem keyed_movedTo (may : MayMove call workOrderId w target s) (keyed : Keyed s) :
    Keyed (movedTo setup call workOrderId target reasonCode notes w s) where
  assets := by
    have kept : ∀ key a, s.assets.get? key = some a →
        ∃ a', (movedTo setup call workOrderId target reasonCode notes w s).assets.get? key = some a' := by
      intro key a stored
      rw [assets_movedTo, stored]
      split
      · exact ⟨_, rfl⟩
      · exact ⟨a, rfl⟩
    intro other w' stored
    rw [get?_movedTo may] at stored
    split at stored
    · cases stored
      obtain ⟨a, asset⟩ := keyed.assets workOrderId w may.stored
      exact kept _ a asset
    · obtain ⟨a, asset⟩ := keyed.assets other w' stored
      exact kept _ a asset
  orders := by
    intro key t stored
    rw [get?_movedTo may]
    unfold movedTo at stored
    dsimp only at stored
    rw [(acted_frame call workOrderId target reasonCode w s).2] at stored
    obtain ⟨-, rfl⟩ | earlier := Table.get?_create_cases stored
    · exact ⟨_, if_pos rfl⟩
    · obtain ⟨w', known⟩ := keyed.orders key t earlier
      split
      · exact ⟨_, rfl⟩
      · exact ⟨w', known⟩

theorem outOfService_movedTo_iff (may : MayMove call workOrderId w target s) (sound : OutOfServiceWhileWorkedOn s) :
    OutOfServiceWhileWorkedOn (movedTo setup call workOrderId target reasonCode notes w s) ↔
      ∀ a, (movedTo setup call workOrderId target reasonCode notes w s).assets.get? w.asset = some a →
        (a.lifecycleStatus = .maintenance ↔
          ∃ other, Holds other w.asset (movedTo setup call workOrderId target reasonCode notes w s)) := by
  constructor
  · exact fun all a stored => all w.asset a stored
  · intro here key a stored
    by_cases own : key = w.asset
    · subst own
      exact here a stored
    · rw [assets_movedTo, if_neg (fun both => own both.1)] at stored
      rw [sound key a stored]
      refine exists_congr fun other => ?_
      rw [holds_movedTo may]
      split
      · rename_i same
        constructor
        · rintro ⟨w', stored', asset, -⟩
          rw [same, may.stored] at stored'
          cases stored'
          exact absurd asset.symm own
        · rintro ⟨asset, -⟩
          exact absurd asset.symm own
      · exact Iff.rfl

theorem holds_self (may : MayMove call workOrderId w target s) : Holds workOrderId w.asset s ↔
    w.assetRestrictionRequired = true ∧ Working workOrderId s := by
  constructor
  · rintro ⟨w', stored, -, required, working⟩
    rw [may.stored] at stored
    cases stored
    exact ⟨required, working⟩
  · rintro ⟨required, working⟩
    exact ⟨w, may.stored, rfl, required, working⟩

theorem exists_holds_iff (workOrderId : Nat) (key : AssetKey) (s : WorkOrderBooks) :
    (∃ other, Holds other key s) ↔ Holds workOrderId key s ∨ ∃ other, other ≠ workOrderId ∧ Holds other key s := by
  constructor
  · rintro ⟨other, holds⟩
    by_cases own : other = workOrderId
    · exact Or.inl (own ▸ holds)
    · exact Or.inr ⟨other, own, holds⟩
  · rintro (holds | ⟨other, -, holds⟩)
    · exact ⟨workOrderId, holds⟩
    · exact ⟨other, holds⟩

/-- A transition keeps the asset's lifecycle true to the work exactly when it spares the others. -/
theorem outOfService_movedTo (may : MayMove call workOrderId w target s) (keyed : Keyed s)
    (sound : OutOfServiceWhileWorkedOn s) :
    OutOfServiceWhileWorkedOn (movedTo setup call workOrderId target reasonCode notes w s) ↔
      Spares workOrderId w target s := by
  obtain ⟨a, stored⟩ := keyed.assets workOrderId w may.stored
  have before := sound w.asset a stored
  rw [exists_holds_iff workOrderId] at before
  rw [outOfService_movedTo_iff may sound, exists_holds_iff workOrderId]
  have others : (∃ other, other ≠ workOrderId ∧
      Holds other w.asset (movedTo setup call workOrderId target reasonCode notes w s)) ↔
      ∃ other, other ≠ workOrderId ∧ Holds other w.asset s := by
    refine exists_congr fun other => and_congr_right fun different => ?_
    rw [holds_movedTo may, if_neg different]
  rw [others, holds_movedTo may, if_pos rfl, assets_movedTo, stored]
  rw [holds_self may] at before
  unfold Spares
  by_cases required : w.assetRestrictionRequired = true
  · simp only [required, and_true, if_true, true_and, Option.map_some, Option.some.injEq, forall_eq',
      forall_const] at before ⊢
    have alone : (∀ other, other ≠ workOrderId → ¬ Holds other w.asset s) ↔
        ¬ ∃ other, other ≠ workOrderId ∧ Holds other w.asset s := by
      simp only [not_exists, not_and]
    rw [alone]
    generalize (∃ other, other ≠ workOrderId ∧ Holds other w.asset s) = elsewhere at before ⊢
    by_cases starts : target = .inProgress
    · simp [starts, lifecycleAfter, show ¬ PutsBack .inProgress by decide]
    · by_cases back : PutsBack target
      · have ends : EndsWork target := back.elim Or.inl fun closes => Or.inr (Or.inl closes)
        have keeps : target ≠ .canceled := by
          rintro rfl
          exact absurd back (by decide)
        simp [starts, lifecycleAfter, back, ends, keeps]
      · by_cases cancels : target = .canceled
        · subst cancels
          have ends : EndsWork .canceled := Or.inr (Or.inr rfl)
          have untouched : lifecycleAfter .canceled a.lifecycleStatus = a.lifecycleStatus := rfl
          simp only [untouched, before, starts, back, not_true, ends, false_and, false_or, false_implies, true_and,
            forall_const]
          tauto
        · have lasts : ¬ EndsWork target := by
            rintro (verifies | closes | cancels')
            · exact back (Or.inl verifies)
            · exact back (Or.inr closes)
            · exact cancels cancels'
          simp [lifecycleAfter, starts, back, lasts, cancels, before]
  · simp only [required, Bool.false_eq_true, false_and, and_false, false_or, if_false, Option.some.injEq, forall_eq',
      false_implies, iff_true] at before ⊢
    exact before

end Transition

theorem transition_step {setup : MaintenanceSetup} {call : Acting} {workOrderId : Nat} {target : WorkOrderState}
    {reasonCode : String} {notes : Option String} {s s' : WorkOrderBooks} (keyed : Keyed s)
    (sound : OutOfServiceWhileWorkedOn s)
    (success : Returns (transition setup call workOrderId target reasonCode notes) s () s') :
    Keyed s' ∧ (OutOfServiceWhileWorkedOn s' ↔ ∃ w, MayMove call workOrderId w target s ∧ Spares workOrderId w target s) := by
  obtain ⟨w, may, rfl⟩ := (transition_returns ..).mp success
  refine ⟨keyed_movedTo may keyed, (outOfService_movedTo may keyed sound).trans ?_⟩
  constructor
  · exact fun spares => ⟨w, may, spares⟩
  · rintro ⟨w', may', spares⟩
    have same := may.stored.symm.trans may'.stored
    cases same
    exact spares

theorem transition_keeps {setup : MaintenanceSetup} {call : Acting} {workOrderId : Nat} {target : WorkOrderState}
    {reasonCode : String} {notes : Option String} {s : WorkOrderBooks} (keyed : Keyed s)
    (sound : OutOfServiceWhileWorkedOn s) (stays : ¬ PutsBack target) (goesOn : target ≠ .canceled) :
    Keyed (after (transition setup call workOrderId target reasonCode notes) s) ∧
      OutOfServiceWhileWorkedOn (after (transition setup call workOrderId target reasonCode notes) s) := by
  have atomic : Atomic (transition setup call workOrderId target reasonCode notes) := atomic_transaction _
  obtain ⟨unchanged, -⟩ | success := after_cases atomic s
  · rw [unchanged]
    exact ⟨keyed, sound⟩
  · obtain ⟨keyed', holds⟩ := transition_step keyed sound success
    obtain ⟨w, may, -⟩ := (transition_returns ..).mp success
    exact ⟨keyed', holds.mpr ⟨w, may, fun _ => ⟨fun back => absurd back stays, fun cancels => absurd cancels goesOn⟩⟩⟩

/-! ### Creation -/

theorem returns_copyItems (workOrderId : Nat) (items : List ChecklistTemplateItem) (s s' : WorkOrderBooks) (u : Unit)
    (success : Returns (forEach items (copyItem workOrderId)) s u s') :
    ∃ rows, s' = { s with checklistItems := rows } ∧ ∀ key item, rows.get? key = some item →
      s.checklistItems.get? key = some item ∨ item.workOrderId = workOrderId ∧ item.result = none := by
  induction items generalizing s with
  | nil =>
    simp only [forEach, returns_pure] at success
    exact ⟨s.checklistItems, success.2, fun _ _ stored => Or.inl stored⟩
  | cons _ _ ih =>
    unfold copyItem at success ih
    simp only [forEach, returns_bind, returns_write] at success
    obtain ⟨_, _, rfl, later⟩ := success
    obtain ⟨rows, same, copied⟩ := ih _ later
    refine ⟨rows, same, fun key item stored => ?_⟩
    obtain old | new := copied key item stored
    · obtain ⟨-, rfl⟩ | earlier := Table.get?_create_cases old
      · exact Or.inr ⟨rfl, rfl⟩
      · exact Or.inl earlier
    · exact Or.inr new

theorem returns_assertBelongsToSite (key : AssetKey) (siteId : Nat) (s s' : WorkOrderBooks) (u : Unit) :
    Returns (assertBelongsToSite key siteId) s u s' ↔
      (∃ a, s.assets.get? key = some a ∧ a.siteId = siteId) ∧ s' = s := by
  unfold assertBelongsToSite
  simp only [returns_bind, returns_asset, returns_throwIf, not_not]
  constructor
  · rintro ⟨a, _, ⟨stored, rfl⟩, site, rfl⟩
    exact ⟨⟨a, stored, site⟩, rfl⟩
  · rintro ⟨⟨a, stored, site⟩, rfl⟩
    exact ⟨a, s', ⟨stored, rfl⟩, site, rfl⟩

theorem effectiveSla_returns {setup : MaintenanceSetup} {call : Acting} {slaPolicyId : Option Nat} {priorityId : Nat}
    {s s' : WorkOrderBooks} {sla : Option SlaPolicy}
    (success : Returns (effectiveSla setup call slaPolicyId priorityId) s sla s') :
    sla = slaPolicyId.bind setup.policies.get? ∧ s' = s := by
  unfold effectiveSla at success
  cases slaPolicyId with
  | none => exact (returns_pure ..).mp success
  | some key =>
    simp only [returns_bind, returns_orThrow, returns_throwIf, returns_pure] at success
    obtain ⟨_, _, ⟨found, rfl⟩, _, _, ⟨-, rfl⟩, rfl, rfl⟩ := success
    exact ⟨found.symm, rfl⟩

/-- The transition row of a new work order. -/
def reportedRow (call : Acting) (workOrderId : Nat) : WorkOrderTransition where
  workOrderId := workOrderId
  fromState := none
  toState := .reported
  reasonCode := "work_order_created"
  notes := none
  version := 1
  actorId := call.actorId
  occurredAt := call.now.toSecond

theorem create_reports {setup : MaintenanceSetup} {call : Acting} {data : WorkOrderData} {s s' : WorkOrderBooks}
    (success : Returns (create setup call data) s () s') :
    ∃ currency rows, s' = { s with
        workOrders := s.workOrders.create
          (reported call (data.slaPolicyId.bind setup.policies.get?) currency data)
        checklistItems := rows
        transitions := s.transitions.create (reportedRow call s.workOrders.nextId) } ∧
      (∃ a, s.assets.get? data.asset = some a) ∧ ∀ key item, rows.get? key = some item →
        s.checklistItems.get? key = some item ∨ item.workOrderId = s.workOrders.nextId ∧ item.result = none := by
  unfold create at success
  simp only [returns_transaction, returns_bind, returns_assertBelongsToSite, returns_throwIf, returns_read,
    returns_write, returns_recordTransition] at success
  obtain ⟨_, _, ⟨⟨a, stored, -⟩, rfl⟩, sla, _, found, _, _, ⟨-, rfl⟩, _, s₀, ⟨rfl, rfl⟩, _, _, rfl, _, _, copies, -,
    rfl⟩ := success
  obtain ⟨rfl, rfl⟩ := effectiveSla_returns found
  obtain ⟨rows, rfl, copied⟩ := returns_copyItems _ _ _ _ _ copies
  exact ⟨_, rows, rfl, ⟨a, stored⟩, copied⟩

theorem create_keyed {setup : MaintenanceSetup} {call : Acting} {data : WorkOrderData} {s s' : WorkOrderBooks}
    (keyed : Keyed s) (success : Returns (create setup call data) s () s') : Keyed s' := by
  obtain ⟨currency, rows, rfl, ⟨a, stored⟩, -⟩ := create_reports success
  refine ⟨?_, ?_⟩
  · intro workOrderId w' found
    obtain ⟨-, rfl⟩ | earlier := Table.get?_create_cases found
    · exact ⟨a, stored⟩
    · exact keyed.assets workOrderId w' earlier
  · intro key t' found
    dsimp only
    obtain ⟨-, rfl⟩ | earlier := Table.get?_create_cases found
    · exact ⟨_, Table.get?_create_self ..⟩
    · obtain ⟨w', known⟩ := keyed.orders key t' earlier
      exact ⟨w', Table.get?_create_of_some _ _ known⟩

theorem create_keeps {setup : MaintenanceSetup} {call : Acting} {data : WorkOrderData} {s s' : WorkOrderBooks}
    (keyed : Keyed s) (sound : OutOfServiceWhileWorkedOn s) (success : Returns (create setup call data) s () s') :
    Keyed s' ∧ OutOfServiceWhileWorkedOn s' := by
  refine ⟨create_keyed keyed success, ?_⟩
  obtain ⟨currency, rows, rfl, -, -⟩ := create_reports success
  intro key a' found
  rw [sound key a' found]
  refine exists_congr fun workOrderId => ?_
  have entered := history_create (reportedRow call s.workOrders.nextId) s workOrderId
  have own : (reportedRow call s.workOrders.nextId).workOrderId = s.workOrders.nextId := rfl
  have first : (reportedRow call s.workOrders.nextId).toState = .reported := rfl
  unfold Holds Working
  rw [show history workOrderId { s with
      workOrders := s.workOrders.create
        (reported call (data.slaPolicyId.bind setup.policies.get?) currency data)
      checklistItems := rows
      transitions := s.transitions.create (reportedRow call s.workOrders.nextId) } = _ from entered, Table.get?_create]
  by_cases new : workOrderId = s.workOrders.nextId
  · -- The new work order has only been reported.
    subst new
    rw [history_new keyed, own, if_pos rfl, if_pos rfl, first, Table.get?_nextId, ongoing_append]
    constructor
    · rintro ⟨w', found', -⟩
      cases found'
    · rintro ⟨w', -, -, -, starts | ⟨-, none'⟩⟩
      · cases starts
      · exact absurd none' not_ongoing_nil
  · rw [if_neg new, own, if_neg (Ne.symm new), List.append_nil]

end VtsaCsms.Maintenance
