import VtsaCsms.Maintenance.WorkOrderHistory

/-!
# What the transitions of a work order tell

The transition rows of a work order lead to the state and the version it stands in, and whoever verified a work
order that asks for it did not complete it.
-/
namespace VtsaCsms.Maintenance
open Foundation WorkOrderWorkflow

/-- From the report on, one allowed edge after the other, each under the next version. -/
inductive Leads : List WorkOrderTransition → WorkOrderState → Nat → Prop where
  | reported {first : WorkOrderTransition} (new : first.fromState = none) (state : first.toState = .reported)
      (version : first.version = 1) : Leads [first] .reported 1
  | moved {rows : List WorkOrderTransition} {state : WorkOrderState} {version : Nat} (leads : Leads rows state version)
      (t : WorkOrderTransition) (source : t.fromState = some state) (allowed : state.canTransitionTo t.toState = true)
      (next : t.version = version + 1) : Leads (rows ++ [t]) t.toState (version + 1)

/-- The transitions lead to where the work order is, and another user than its last completer verified it. -/
structure Told (w : WorkOrder) (rows : List WorkOrderTransition) : Prop where
  leads : Leads rows w.state w.aggregateVersion
  completed : w.state = .completed ∨ w.state = .verificationRequired ∨ w.state = .verified ∨ w.state = .closed →
    w.completedBy.isSome = true
  separate : w.verificationRequired = true → w.state = .verified ∨ w.state = .closed →
    w.verifiedBy.isSome = true ∧ w.verifiedBy ≠ w.completedBy

structure TrailsTell (s : WorkOrderBooks) : Prop where
  keyed : Keyed s
  told : ∀ workOrderId w, s.workOrders.get? workOrderId = some w → Told w (trail workOrderId s)

section Moves
variable {setup : MaintenanceSetup} {s : WorkOrderBooks}

theorem told_plain (w : WorkOrder) (rows : List WorkOrderTransition) : Told (plain w) rows ↔ Told w rows :=
  ⟨fun told => ⟨told.leads, told.completed, told.separate⟩, fun told => ⟨told.leads, told.completed, told.separate⟩⟩

theorem told_reported (call : Acting) (sla : Option SlaPolicy) (currency : String) (data : WorkOrderData)
    (workOrderId : Nat) : Told (reported call sla currency data) [reportedRow call workOrderId] where
  leads := .reported rfl rfl rfl
  completed := by
    rintro (none' | none' | none' | none') <;> cases none'
  separate := by
    rintro - (none' | none') <;> cases none'

theorem told_moved {call : Acting} {workOrderId : Nat} {w : WorkOrder} {target : WorkOrderState} (pauses : Bool)
    (reasonCode : String) (notes : Option String) (may : MayMove call workOrderId w target s)
    {rows : List WorkOrderTransition} (told : Told w rows) :
    Told (moved call target pauses w) (rows ++ [transitionRow call workOrderId target reasonCode notes w]) := by
  have allowed := may.allowed
  refine ⟨.moved told.leads _ rfl allowed rfl, ?_, ?_⟩
  · show target = _ ∨ target = _ ∨ target = _ ∨ target = _ →
      (if target = .completed then call.actorId else w.completedBy).isSome = true
    intro reaches
    by_cases completes : target = .completed
    · rw [if_pos completes]
      exact may.signed (Or.inr (Or.inl completes))
    · rw [if_neg completes]
      -- What may follow a completion is reached from a completed work order.
      refine told.completed ?_
      obtain rfl | rfl | rfl | rfl := reaches
      · exact absurd rfl completes
      all_goals revert allowed; cases w.state <;> decide
  · show w.verificationRequired = true → target = _ ∨ target = _ →
      (if target = .verified then call.actorId else w.verifiedBy).isSome = true ∧
        (if target = .verified then call.actorId else w.verifiedBy) ≠
          (if target = .completed then call.actorId else w.completedBy)
    rintro required (rfl | rfl)
    · obtain ⟨actor, present, other⟩ := may.guarded.separate rfl required
      rw [if_pos rfl, if_neg (by decide), present]
      exact ⟨rfl, Ne.symm other⟩
    · rw [if_neg (by decide), if_neg (by decide)]
      refine told.separate required (Or.inl ?_)
      revert allowed
      cases w.state <;> decide

/-- A call keeps what the transitions tell, and adds to them. -/
theorem told_next (call : WorkOrderCall) (s : WorkOrderBooks) (tell : TrailsTell s) :
    TrailsTell (call.next setup s) ∧ ∀ workOrderId, trail workOrderId s <+: trail workOrderId (call.next setup s) := by
  have changes := changes_next setup call s
  suffices both : (∀ workOrderId w, (call.next setup s).workOrders.get? workOrderId = some w →
      Told w (trail workOrderId (call.next setup s))) ∧
      ∀ workOrderId, trail workOrderId s <+: trail workOrderId (call.next setup s) from
    ⟨⟨changes.keyed tell.keyed, both.1⟩, both.2⟩
  have of_described {s₁ : WorkOrderBooks} (described : Described s s₁) :
      ∀ workOrderId w, s₁.workOrders.get? workOrderId = some w → Told w (trail workOrderId s₁) := by
    intro workOrderId w' stored
    obtain ⟨w, stored', same⟩ := described.stored stored
    rw [described.trail]
    rw [← told_plain, same, told_plain]
    exact tell.told workOrderId w stored'
  generalize call.next setup s = s' at changes
  cases changes with
  | described described =>
    refine ⟨of_described described, fun workOrderId => ?_⟩
    rw [described.trail]
  | reported call data success =>
    obtain ⟨currency, rows, rfl, -, -⟩ := create_reports success
    constructor
    · intro workOrderId w stored
      rw [trail_reported call (s := s) rfl]
      obtain ⟨rfl, rfl⟩ | earlier := Table.get?_create_cases stored
      · rw [trail_new tell.keyed, List.nil_append, if_pos rfl]
        exact told_reported call _ currency data _
      · have other : s.workOrders.nextId ≠ workOrderId := (Table.lt_nextId earlier).ne'
        rw [if_neg other, List.append_nil]
        exact tell.told workOrderId w earlier
    · intro workOrderId
      exact ⟨_, (trail_reported call rfl workOrderId).symm⟩
  | @moved s₁ described call workOrderId target reasonCode notes w may =>
    constructor
    · intro other w' stored
      rw [trail_movedTo]
      rw [get?_movedTo may] at stored
      split at stored
      · rename_i own
        cases stored
        subst own
        rw [if_pos rfl]
        exact told_moved _ reasonCode notes may (of_described described other w may.stored)
      · rename_i own
        rw [if_neg (Ne.symm own), List.append_nil]
        exact of_described described other w' stored
    · intro other
      rw [trail_movedTo, described.trail]
      exact List.prefix_append _ _

end Moves

def equipped (assets : Table AssetKey Asset) : WorkOrderBooks := { inService with assets }

theorem told_reached (setup : MaintenanceSetup) (calls : List WorkOrderCall) (s : WorkOrderBooks) (tell : TrailsTell s) :
    TrailsTell (Runs.reached (WorkOrderCall.next setup) calls s) ∧
      ∀ workOrderId, trail workOrderId s <+: trail workOrderId (Runs.reached (WorkOrderCall.next setup) calls s) :=
  Runs.reached_related (R := fun s s' => ∀ workOrderId, trail workOrderId s <+: trail workOrderId s')
    (fun _ _ => List.prefix_refl _) (fun first rest workOrderId => (first workOrderId).trans (rest workOrderId))
    told_next calls s tell

theorem trailsTell_equipped (assets : Table AssetKey Asset) : TrailsTell (equipped assets) := by
  refine ⟨⟨?_, ?_⟩, ?_⟩
  all_goals
    intro _ _ none'
    cases none'

/-- In every run the transitions of a work order lead to the state and the version it has, and stay. -/
theorem trails_lead (setup : MaintenanceSetup) (assets : Table AssetKey Asset) (before later : List WorkOrderCall)
    (workOrderId : Nat) :
    (∀ w, (Runs.reached (WorkOrderCall.next setup) before (equipped assets)).workOrders.get? workOrderId = some w →
      Leads (trail workOrderId (Runs.reached (WorkOrderCall.next setup) before (equipped assets))) w.state
        w.aggregateVersion) ∧
    trail workOrderId (Runs.reached (WorkOrderCall.next setup) before (equipped assets)) <+:
      trail workOrderId (Runs.reached (WorkOrderCall.next setup) (before ++ later) (equipped assets)) := by
  have tell := (told_reached setup before _ (trailsTell_equipped assets)).1
  rw [Runs.reached_append]
  exact ⟨fun w stored => (tell.told workOrderId w stored).leads, (told_reached setup later _ tell).2 workOrderId⟩

/-- Whoever verified a work order that asks for it did not complete it. -/
def VerifiedByAnother (s : WorkOrderBooks) : Prop :=
  ∀ workOrderId w, s.workOrders.get? workOrderId = some w → w.verificationRequired = true →
    w.state = .verified ∨ w.state = .closed →
      ∃ verifier completer, w.verifiedBy = some verifier ∧ w.completedBy = some completer ∧ verifier ≠ completer

/-- In every run a work order that asks for it is verified by another user than completed it last. -/
theorem verified_by_another (setup : MaintenanceSetup) (assets : Table AssetKey Asset) (calls : List WorkOrderCall) :
    Runs.Throughout (WorkOrderCall.next setup) VerifiedByAnother calls (equipped assets) := by
  refine Runs.throughout_of_kept (Q := TrailsTell) (fun call s tell => (told_next call s tell).1) ?_ calls _
    (trailsTell_equipped assets)
  intro s tell workOrderId w stored required reaches
  have told := tell.told workOrderId w stored
  obtain ⟨present, different⟩ := told.separate required reaches
  obtain ⟨verifier, verified⟩ := Option.isSome_iff_exists.mp present
  obtain ⟨completer, completed⟩ := Option.isSome_iff_exists.mp (told.completed (Or.inr (Or.inr reaches)))
  rw [verified, completed] at different
  exact ⟨verifier, completer, verified, completed, fun same => different (congrArg some same)⟩

end VtsaCsms.Maintenance
