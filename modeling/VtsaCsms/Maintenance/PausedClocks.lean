import Mathlib.Data.List.TakeWhile
import VtsaCsms.Maintenance.WorkOrderHistory

/-!
# The clocks of a service level

`sla_paused_at`, `sla_paused_seconds` and the two targets of a work order against its transitions: a pause is from
a transition into a state that its policy pauses in to the next transition out of such states.
-/
namespace VtsaCsms.Maintenance
open Foundation Foundation.Action Foundation.Spans WorkOrderWorkflow

/-- Into a state that pauses under the policy of the work order. -/
def Pauses (setup : MaintenanceSetup) (w : WorkOrder) (t : WorkOrderTransition) : Prop :=
  policyPausesSla setup w t.toState = true

instance (setup : MaintenanceSetup) (w : WorkOrder) : DecidablePred (Pauses setup w) :=
  fun _ => inferInstanceAs (Decidable (_ = true))

/-- The whole seconds of a pause; none if the clock was set back in it. -/
def pauseLength (first last : WorkOrderTransition) : Int := max 0 (first.occurredAt.diffInSeconds last.occurredAt)

/-- The whole seconds of the pauses that are over. -/
def pausedSeconds (setup : MaintenanceSetup) (w : WorkOrder) (transitions : List WorkOrderTransition) : Int :=
  total (Pauses setup w) (fun t => ¬ Pauses setup w t) pauseLength transitions

/-- The transition that began the pause that is not over. -/
def pausedBy (setup : MaintenanceSetup) (w : WorkOrder) (transitions : List WorkOrderTransition) :
    Option WorkOrderTransition :=
  current (Pauses setup w) (fun t => ¬ Pauses setup w t) transitions

/-- A target as the report sets it. -/
def originalTarget (setup : MaintenanceSetup) (w : WorkOrder) (transitions : List WorkOrderTransition)
    (seconds : SlaPolicy → Int) : Option Instant :=
  (w.slaPolicyId.bind setup.policies.get?).bind fun policy =>
    transitions.head?.map fun first => first.occurredAt.addSeconds (seconds policy)

/-- The transitions before the one that acknowledges the work order. -/
def beforeAcknowledgement (transitions : List WorkOrderTransition) : List WorkOrderTransition :=
  transitions.takeWhile fun t => decide (t.toState ≠ .triaged)

/-- The clocks of a work order with these transitions. -/
structure Clocked (setup : MaintenanceSetup) (w : WorkOrder) (transitions : List WorkOrderTransition) : Prop where
  pausing : w.slaPausedAt.isSome = true ↔ policyPausesSla setup w w.state = true
  pausedAt : w.slaPausedAt = (pausedBy setup w transitions).map WorkOrderTransition.occurredAt
  seconds : w.slaPausedSeconds = pausedSeconds setup w transitions
  resolve : w.resolveTargetAt =
    (originalTarget setup w transitions SlaPolicy.resolveSeconds).map (·.addSeconds w.slaPausedSeconds)
  acknowledge : w.acknowledgeTargetAt =
    (originalTarget setup w transitions SlaPolicy.acknowledgeSeconds).map
      (·.addSeconds (pausedSeconds setup w (beforeAcknowledgement transitions)))
  acknowledged : w.acknowledgedAt = none ↔ ∀ t ∈ transitions, t.toState ≠ .triaged
  reported : transitions ≠ []
  whole : ∀ t ∈ transitions, t.occurredAt.toSecond = t.occurredAt

def ClocksPauseExactly (setup : MaintenanceSetup) (s : WorkOrderBooks) : Prop :=
  ∀ workOrderId w, s.workOrders.get? workOrderId = some w → Clocked setup w (trail workOrderId s)

/-! ### One more transition -/

section Move
variable {setup : MaintenanceSetup} {w : WorkOrder} {transitions : List WorkOrderTransition}

theorem clocked_plain : Clocked setup (plain w) transitions ↔ Clocked setup w transitions :=
  ⟨fun c => ⟨c.1, c.2, c.3, c.4, c.5, c.6, c.7, c.8⟩, fun c => ⟨c.1, c.2, c.3, c.4, c.5, c.6, c.7, c.8⟩⟩

theorem clocked_reported (call : Acting) (currency : String) (data : WorkOrderData) (workOrderId : Nat) :
    Clocked setup (reported call (data.slaPolicyId.bind setup.policies.get?) currency data)
      [reportedRow call workOrderId] := by
  have runs : ¬ Pauses setup (reported call (data.slaPolicyId.bind setup.policies.get?) currency data)
      (reportedRow call workOrderId) := by
    unfold Pauses policyPausesSla
    exact Bool.false_ne_true
  have target (seconds : SlaPolicy → Int) :
      ((data.slaPolicyId.bind setup.policies.get?).map fun policy => (call.now.addSeconds (seconds policy)).toSecond) =
        (originalTarget setup (reported call (data.slaPolicyId.bind setup.policies.get?) currency data)
          [reportedRow call workOrderId] seconds).map (·.addSeconds 0) := by
    unfold originalTarget
    show _ = ((data.slaPolicyId.bind setup.policies.get?).bind fun policy =>
      some (call.now.toSecond.addSeconds (seconds policy))).map (·.addSeconds 0)
    cases data.slaPolicyId.bind setup.policies.get? with
    | none => rfl
    | some policy =>
      exact congrArg some ((Instant.toSecond_addSeconds ..).trans (Instant.addSeconds_zero _).symm)
  refine ⟨iff_of_false Bool.false_ne_true runs, ?_, ?_, target _, ?_, ?_, List.cons_ne_nil _ _, ?_⟩
  · unfold pausedBy
    rw [← List.nil_append [_], current_append, if_neg runs, if_pos runs]
    rfl
  · unfold pausedSeconds
    rw [← List.nil_append [_], total_append, if_pos ⟨runs, runs⟩]
    rfl
  · have before : pausedSeconds setup (reported call (data.slaPolicyId.bind setup.policies.get?) currency data)
        (beforeAcknowledgement [reportedRow call workOrderId]) = 0 := by
      unfold pausedSeconds beforeAcknowledgement
      show total _ _ _ [reportedRow call workOrderId] = 0
      rw [← List.nil_append [_], total_append, if_pos ⟨runs, runs⟩]
      rfl
    rw [before]
    exact target _
  · refine iff_of_true rfl fun t mem => ?_
    rw [List.mem_singleton.mp mem]
    exact nofun
  · intro t mem
    rw [List.mem_singleton.mp mem]
    exact Instant.toSecond_toSecond call.now

theorem head?_append_of_ne_nil {α : Type} {xs : List α} (present : xs ≠ []) (x : α) :
    (xs ++ [x]).head? = xs.head? := by
  cases xs with
  | nil => exact absurd rfl present
  | cons => rfl

theorem originalTarget_append (present : transitions ≠ []) (t : WorkOrderTransition) (seconds : SlaPolicy → Int) :
    originalTarget setup w (transitions ++ [t]) seconds = originalTarget setup w transitions seconds := by
  unfold originalTarget
  rw [head?_append_of_ne_nil present]

theorem pausedSeconds_append (clocked : Clocked setup w transitions) (call : Acting) (t : WorkOrderTransition)
    (now : t.occurredAt = call.now.toSecond) :
    pausedSeconds setup w (transitions ++ [t]) =
      pausedSeconds setup w transitions + pauseSeconds call w (policyPausesSla setup w t.toState) := by
  unfold pausedSeconds
  rw [total_append]
  congr 1
  have since : w.slaPausedAt = (pausedBy setup w transitions).map WorkOrderTransition.occurredAt := clocked.pausedAt
  have begun : current (Pauses setup w) (fun t => ¬ Pauses setup w t) transitions = pausedBy setup w transitions := rfl
  rw [begun]
  unfold pauseSeconds
  by_cases pauses : Pauses setup w t
  · rw [if_neg fun both => both.1 pauses, show policyPausesSla setup w t.toState = true from pauses]
  · rw [if_pos ⟨pauses, pauses⟩, Bool.eq_false_iff.mpr pauses, since]
    cases found : pausedBy setup w transitions with
    | none => rfl
    | some first =>
      show max 0 _ = max 0 _
      have whole := clocked.whole first (current_mem found)
      rw [now]
      exact (Instant.diffInSeconds_toSecond call.now whole).symm

theorem pausedBy_append (t : WorkOrderTransition) :
    pausedBy setup w (transitions ++ [t]) =
      if policyPausesSla setup w t.toState = true then (pausedBy setup w transitions).or (some t) else none := by
  unfold pausedBy
  rw [current_append]
  by_cases pauses : Pauses setup w t
  · rw [if_pos pauses]
    exact (if_pos pauses).symm
  · rw [if_neg pauses, if_pos pauses]
    exact (if_neg pauses).symm

theorem triaged_unpaused (clocked : Clocked setup w transitions)
    (allowed : w.state.canTransitionTo .triaged = true) : w.slaPausedAt = none := by
  have first : w.state = .reported := by
    revert allowed
    cases w.state <;> decide
  rw [← Option.not_isSome_iff_eq_none, clocked.pausing, first]
  unfold policyPausesSla
  exact Bool.false_ne_true

theorem takeWhile_append_of_all {α : Type} {p : α → Bool} {xs : List α} (all : ∀ x ∈ xs, p x = true) (x : α) :
    (xs ++ [x]).takeWhile p = xs ++ if p x = true then [x] else [] := by
  rw [List.takeWhile_append_of_pos all, List.takeWhile_cons]
  split <;> rfl

theorem takeWhile_append_of_stop {α : Type} {p : α → Bool} {xs : List α} (stop : ¬ ∀ x ∈ xs, p x = true) (x : α) :
    (xs ++ [x]).takeWhile p = xs.takeWhile p := by
  rw [List.takeWhile_append, if_neg]
  intro length
  have whole := (List.takeWhile_prefix p).eq_of_length length
  exact stop (List.takeWhile_eq_self_iff.mp whole)

/-- The pauses before the acknowledgement are those that ended while the work order was unacknowledged. -/
theorem acknowledge_append (clocked : Clocked setup w transitions) (call : Acting) (t : WorkOrderTransition)
    (now : t.occurredAt = call.now.toSecond) (allowed : w.state.canTransitionTo t.toState = true) :
    pausedSeconds setup w (beforeAcknowledgement (transitions ++ [t])) =
      pausedSeconds setup w (beforeAcknowledgement transitions) +
        if w.acknowledgedAt = none then pauseSeconds call w (policyPausesSla setup w t.toState) else 0 := by
  unfold beforeAcknowledgement
  by_cases unacknowledged : w.acknowledgedAt = none
  · have none' : ∀ x ∈ transitions, decide (x.toState ≠ .triaged) = true := fun x mem =>
      decide_eq_true (clocked.acknowledged.mp unacknowledged x mem)
    rw [takeWhile_append_of_all none', if_pos unacknowledged, List.takeWhile_eq_self_iff.mpr none']
    by_cases triages : t.toState = .triaged
    · have still : pauseSeconds call w (policyPausesSla setup w t.toState) = 0 := by
        rw [triages] at allowed
        unfold pauseSeconds
        rw [triaged_unpaused clocked allowed]
        cases policyPausesSla setup w t.toState <;> rfl
      rw [still, if_neg (by simp [triages]), List.append_nil, add_zero]
    · rw [if_pos (by simp [triages])]
      exact pausedSeconds_append clocked call t now
  · have some' : ¬ ∀ x ∈ transitions, decide (x.toState ≠ .triaged) = true := fun all =>
      unacknowledged (clocked.acknowledged.mpr fun x mem => of_decide_eq_true (all x mem))
    rw [takeWhile_append_of_stop some', if_neg unacknowledged, add_zero]

theorem clocked_moved (clocked : Clocked setup w transitions) (call : Acting) (workOrderId : Nat)
    (target : WorkOrderState) (reasonCode : String) (notes : Option String)
    (allowed : w.state.canTransitionTo target = true) :
    Clocked setup (moved call target (policyPausesSla setup w target) w)
      (transitions ++ [transitionRow call workOrderId target reasonCode notes w]) := by
  have seconds := pausedSeconds_append clocked call (transitionRow call workOrderId target reasonCode notes w) rfl
  have acknowledge := acknowledge_append clocked call (transitionRow call workOrderId target reasonCode notes w) rfl
    allowed
  have original (seconds : SlaPolicy → Int) : originalTarget setup w
      (transitions ++ [transitionRow call workOrderId target reasonCode notes w]) seconds = _ :=
    originalTarget_append clocked.reported _ seconds
  refine ⟨?_, ?_, ?_, ?_, ?_, ?_, List.append_ne_nil_of_left_ne_nil clocked.reported _, ?_⟩
  · show (if policyPausesSla setup w target = true then w.slaPausedAt.or (some call.now.toSecond) else none).isSome
      = true ↔ policyPausesSla setup w target = true
    split
    · rename_i pauses
      simp [pauses]
    · rename_i runs
      simp [runs]
  · show (if policyPausesSla setup w target = true then w.slaPausedAt.or (some call.now.toSecond) else none) =
      (pausedBy setup w (transitions ++ [_])).map _
    rw [pausedBy_append, clocked.pausedAt]
    show _ = Option.map _ (if policyPausesSla setup w target = true then _ else _)
    split
    · cases pausedBy setup w transitions <;> rfl
    · rfl
  · exact (congrArg (· + _) clocked.seconds).trans seconds.symm
  · show w.resolveTargetAt.map _ = Option.map _ (originalTarget setup w (transitions ++ [_]) _)
    rw [original, clocked.resolve, Option.map_map]
    congr 1
    funext t
    exact Instant.addSeconds_addSeconds ..
  · show (if w.acknowledgedAt = none then w.acknowledgeTargetAt.map _ else w.acknowledgeTargetAt) =
      Option.map (fun t => t.addSeconds (pausedSeconds setup w (beforeAcknowledgement
        (transitions ++ [transitionRow call workOrderId target reasonCode notes w]))))
        (originalTarget setup w (transitions ++ [_]) _)
    rw [original, acknowledge, clocked.acknowledge]
    split
    · rw [Option.map_map]
      congr 1
      funext t
      exact Instant.addSeconds_addSeconds ..
    · rw [add_zero]
  · show (if decide (target = .triaged ∧ w.acknowledgedAt = none) = true then some call.now.toSecond
      else w.acknowledgedAt) = none ↔ _
    rw [List.forall_mem_append, List.forall_mem_singleton, ← clocked.acknowledged]
    show _ ↔ w.acknowledgedAt = none ∧ target ≠ .triaged
    by_cases triages : target = .triaged
    · by_cases unacknowledged : w.acknowledgedAt = none
      · simp [triages, unacknowledged]
      · simp [triages, unacknowledged]
    · simp [triages]
  · intro t mem
    obtain earlier | last := List.mem_append.mp mem
    · exact clocked.whole t earlier
    · rw [List.mem_singleton.mp last]
      exact Instant.toSecond_toSecond call.now

end Move

/-! ### Runs -/

theorem clocks_next {setup : MaintenanceSetup} (call : WorkOrderCall) (s : WorkOrderBooks)
    (sound : Keyed s ∧ ClocksPauseExactly setup s) :
    Keyed (call.next setup s) ∧ ClocksPauseExactly setup (call.next setup s) := by
  obtain ⟨keyed, clocks⟩ := sound
  have changes := changes_next setup call s
  refine ⟨changes.keyed keyed, ?_⟩
  have of_described {s₁ : WorkOrderBooks} (described : Described s s₁) : ClocksPauseExactly setup s₁ := by
    intro workOrderId w' stored
    obtain ⟨w, stored', same⟩ := described.stored stored
    rw [described.trail, ← clocked_plain, same, clocked_plain]
    exact clocks workOrderId w stored'
  generalize call.next setup s = s' at changes
  cases changes with
  | described described => exact of_described described
  | reported call data success =>
    obtain ⟨currency, rows, rfl, -, -⟩ := create_reports success
    intro workOrderId w stored
    rw [trail_reported call (s := s) rfl]
    obtain ⟨rfl, rfl⟩ | earlier := Table.get?_create_cases stored
    · rw [trail_new keyed, List.nil_append, if_pos rfl]
      exact clocked_reported call currency data _
    · have other : s.workOrders.nextId ≠ workOrderId := (Table.lt_nextId earlier).ne'
      rw [if_neg other, List.append_nil]
      exact clocks workOrderId w earlier
  | @moved s₁ described call workOrderId target reasonCode notes w may =>
    intro other w' stored
    rw [trail_movedTo]
    rw [get?_movedTo may] at stored
    split at stored
    · rename_i own
      cases stored
      subst own
      rw [if_pos rfl]
      exact clocked_moved (of_described described other w may.stored) call other target reasonCode notes may.allowed
    · rename_i own
      rw [if_neg (Ne.symm own), List.append_nil]
      exact of_described described other w' stored

def hourly : MaintenanceSetup :=
  { oneTechnician with
    policies := Table.empty.create
      { priorityId := 0, acknowledgeSeconds := 600, resolveSeconds := 3600, pauseStates := some [.onHold]
        effectiveFrom := 0 } }

def repairOnHold : List WorkOrderCall :=
  [.create ⟨some 2, 0⟩
      { workType := "corrective", siteId := 0, asset := oneStation, priorityId := 0, title := "Repair"
        description := "Cable", slaPolicyId := some 0 },
    .transition ⟨some 2, 0⟩ 0 .triaged "dispatch" none,
    .assign ⟨some 2, 0⟩ 0 (some 1) none,
    .transition ⟨some 1, 0⟩ 0 .inProgress "started" none,
    .placeOnHold ⟨some 1, 60000000⟩ 0 .onHold "weather" "Rain" none,
    .transition ⟨some 1, 150900000⟩ 0 .inProgress "dry" none]

end VtsaCsms.Maintenance
