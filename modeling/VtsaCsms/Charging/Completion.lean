import VtsaCsms.Charging.Refinement

/-!
# Completed sessions and their records

A session completes with the record that is then its latest finalized one, and no record is
written for it afterwards. Only a recording after completion lets the two differ.
-/
namespace VtsaCsms.Charging
open Foundation Foundation.Action

theorem ChargingSessionState.completed_final {state : ChargingSessionState}
    (before : state.canTransitionTo .finalizing = true) : state ≠ .completed := by
  rintro rfl
  contradiction

/-! ### Records -/

variable {c c' : Core} {sessionId key : Nat} {cdr : ChargeDetailRecord} {p : Permits}

theorem RecordWritten.latest {t : Indexed Nat ChargeDetailRecord ChargeDetailRecord.clash}
    (record : RecordWritten c t sessionId key cdr)
    (finalized : cdr.state = .finalized) : LatestFinalized t sessionId key cdr := by
  refine ⟨record.placed.get, record.session, finalized, ?_⟩
  intro k row stored session _
  rcases record.placed.cases stored with ⟨-, rfl⟩ | ⟨different, stored⟩
  · exact le_refl _
  · exact (record.newest k row stored session different).le

theorem RecordWritten.others {t : Indexed Nat ChargeDetailRecord ChargeDetailRecord.clash}
    {other : Nat} (record : RecordWritten c t sessionId key cdr)
    (different : other ≠ sessionId) (k : Nat) (row : ChargeDetailRecord) (session : row.sessionId = other) :
    t.get? k = some row ↔ c.cdrs.get? k = some row := by
  by_cases same : k = key
  · subst same
    constructor
    · intro stored
      have placed : some row = some cdr := stored.symm.trans record.placed.get
      cases placed
      exact absurd (session.symm.trans record.session) different
    · intro stored
      exact absurd (session.symm.trans (record.own row stored)) different
  · rw [record.placed.other same]

theorem LatestFinalized.of_others {cdrs cdrs' : Indexed Nat ChargeDetailRecord ChargeDetailRecord.clash}
    (latest : LatestFinalized cdrs sessionId key cdr)
    (same : ∀ k row, row.sessionId = sessionId → (cdrs'.get? k = some row ↔ cdrs.get? k = some row)) :
    LatestFinalized cdrs' sessionId key cdr := by
  refine ⟨(same key cdr latest.session).mpr latest.stored, latest.session, latest.finalized, ?_⟩
  intro k row stored session finalized
  exact latest.highest k row ((same k row session).mp stored) session finalized

theorem Move.records_final (move : Move p c c')
    {q : ChargingSession} (stored : c.sessions.get? key = some q) (completed : q.state = .completed)
    (k : Nat) (row : ChargeDetailRecord) (session : row.sessionId = key) :
    c'.cdrs.get? k = some row ↔ c.cdrs.get? k = some row := by
  cases move with
  | @ended t cdrs ended q₀ q' cdrKey cdr old before evidence record closing =>
    refine record.others ?_ k row session
    rintro rfl
    have same : some q = some q₀ := stored.symm.trans old.stored
    cases same
    exact ChargingSessionState.completed_final before completed
  | stopExpired _ expiry =>
    cases expiry
    rfl
  | stopRejected _ rejection =>
    cases rejection
    rfl
  | _ => rfl

theorem Move.latest_final (move : Move p c c') {cdrKey : Nat}
    {q : ChargingSession} (stored : c.sessions.get? key = some q)
    (completed : q.state = .completed) (latest : LatestFinalized c.cdrs key cdrKey cdr) :
    LatestFinalized c'.cdrs key cdrKey cdr :=
  latest.of_others fun k row session => move.records_final stored completed k row session

/-! ### Sessions -/

theorem Move.completed_row (move : Move p c c')
    {q' : ChargingSession} (stored : c'.sessions.get? key = some q') (completed : q'.state = .completed) :
    (∃ q, c.sessions.get? key = some q ∧ q'.standing = q.standing ∧
      (q'.measures = q.measures ∨ p.late)) ∨
    ∃ cdrKey cdr, LatestFinalized c'.cdrs key cdrKey cdr ∧
      (q'.finalizationOutcome ≠ some "unbillable" → Agrees q' cdr) := by
  have same : ∀ {q'}, c.sessions.get? key = some q' → ∃ q, c.sessions.get? key = some q ∧
      q'.standing = q.standing ∧ (q'.measures = q.measures ∨ p.late) :=
    fun {q'} stored => ⟨q', stored, rfl, Or.inl rfl⟩
  have elsewhere : ∀ {t k q₀}, Indexed.Placed c.sessions t k q₀ → t.get? key = some q' →
      q₀.state ≠ .completed → ∃ q, c.sessions.get? key = some q ∧
        q'.standing = q.standing ∧ (q'.measures = q.measures ∨ p.late) := by
    intro t k q₀ placed stored other
    refine same (placed.unmoved stored ?_)
    rintro rfl
    exact other completed
  cases move with
  | noted row standing measures =>
    rcases row.placed.cases stored with ⟨rfl, rfl⟩ | ⟨-, stored⟩
    · exact Or.inl ⟨_, row.stored, standing, Or.inl measures⟩
    · exact Or.inl (same stored)
  | measured row standing late =>
    rcases row.placed.cases stored with ⟨rfl, rfl⟩ | ⟨-, stored⟩
    · have state := congrArg SessionStanding.state standing
      exact Or.inl ⟨_, row.stored, standing, Or.inr (late (state.symm.trans completed))⟩
    · exact Or.inl (same stored)
  | driven row _ delivering =>
    refine Or.inl (elsewhere row.placed stored ?_)
    intro state
    rw [state] at delivering
    contradiction
  | reconstructed _ placed delivering =>
    refine Or.inl (elsewhere placed stored ?_)
    intro state
    rw [state] at delivering
    contradiction
  | requested _ placed starting => exact Or.inl (elsewhere placed stored (by rw [starting]; simp))
  | stopRequested row _ _ stopping => exact Or.inl (elsewhere row.placed stored (by rw [stopping]; simp))
  | stopExpired _ expiry =>
    cases expiry
    exact Or.inl (same stored)
  | stopRejected _ rejection =>
    obtain @⟨t, commands, cmdKey, cmd, cmd', q, q₁, command, type, rejected, row, evidence, back, other⟩ :=
      rejection
    rcases row.placed.cases stored with ⟨rfl, rfl⟩ | ⟨-, stored⟩
    · by_cases returns : q.state = .stopping ∧ q.state.canTransitionTo cmd.expectedSessionState = true
      · have reached := returns.2
        rw [returns.1, ← back returns.1 returns.2, completed] at reached
        contradiction
      · have unchanged := other returns
        subst unchanged
        exact Or.inl (same row.stored)
    · exact Or.inl (same stored)
  | resumed _ _ row before allowed back =>
    refine Or.inl (elsewhere row.placed stored ?_)
    intro state
    rw [before, ← back, state] at allowed
    contradiction
  | ended row _ _ record closing =>
    rcases row.placed.cases stored with ⟨rfl, rfl⟩ | ⟨-, stored⟩
    · cases closing with
      | review state =>
        rw [state] at completed
        contradiction
      | completed _ finalized agrees => exact Or.inr ⟨_, _, record.latest finalized, agrees⟩
    · exact Or.inl (same stored)
  | reviewed row _ review => exact Or.inl (elsewhere row.placed stored (by rw [review]; simp))
  | withdrawn row _ closed =>
    refine Or.inl (elsewhere row.placed stored ?_)
    intro state
    rw [state] at closed
    simp at closed
  | commandMoved => exact Or.inl (same stored)
  | prepaid => exact Or.inl (same stored)
  | settled => exact Or.inl (same stored)
  | alerted => exact Or.inl (same stored)
  | funded => exact Or.inl (same stored)

def Recorded (c : Core) : Prop :=
  ∀ key q, c.sessions.get? key = some q → q.state = .completed →
    ∃ cdrKey cdr, LatestFinalized c.cdrs key cdrKey cdr ∧
      (q.finalizationOutcome ≠ some "unbillable" → Agrees q cdr)

theorem recorded_empty : Recorded Store.empty.core := fun _ _ stored => by cases stored

theorem Agrees.of_same {q q' : ChargingSession} (agrees : Agrees q cdr)
    (standing : q'.standing = q.standing) (measures : q'.measures = q.measures) : Agrees q' cdr where
  energy := (congrArg SessionMeasures.energyWh measures).trans agrees.energy
  duration := (congrArg SessionMeasures.durationSeconds measures).trans agrees.duration
  finalCost := (congrArg SessionStanding.finalCostMinor standing).trans agrees.finalCost
  estimatedCost := (congrArg SessionMeasures.estimatedCostMinor measures).trans agrees.estimatedCost

theorem recorded_move (unmeasured : ¬ p.late) (move : Move p c c') (recorded : Recorded c) : Recorded c' := by
  intro key q' stored completed
  rcases move.completed_row stored completed with ⟨q, before, standing, measures | late⟩ | latest
  · have state : q'.state = q.state := congrArg SessionStanding.state standing
    have outcome : q'.finalizationOutcome = q.finalizationOutcome :=
      congrArg SessionStanding.finalizationOutcome standing
    obtain ⟨cdrKey, cdr, latest, agrees⟩ := recorded key q before (state.symm.trans completed)
    refine ⟨cdrKey, cdr, move.latest_final before (state.symm.trans completed) latest, ?_⟩
    intro billed
    rw [outcome] at billed
    exact (agrees billed).of_same standing measures
  · exact absurd late unmeasured
  · exact latest

/-! ### Runs -/

namespace Step

theorem recorded_next {env : Environment} {step : Step} {s : Store}
    (unmeasured : ¬ step.Remeasures env s) (recorded : Recorded s.core) :
    Recorded (step.next env s).core :=
  (moves env step s).keep (P := Recorded) (fun move => recorded_move unmeasured move) recorded

/-- In a run that measures no completed session again, a completed session agrees with its
latest finalized record, unless it could not be billed. -/
theorem completed_agrees (steps : List (Environment × Step))
    (unmeasured : Along (fun env s step => ¬ step.Remeasures env s) steps Store.empty)
    (key : Nat) (q : ChargingSession)
    (stored : (run steps Store.empty).sessions.get? key = some q) (completed : q.state = .completed)
    (billed : q.finalizationOutcome ≠ some "unbillable") :
    ∃ cdrKey cdr, ChargeDetailRecordGenerator.latestFinalized (run steps Store.empty) key =
      some (cdrKey, cdr) ∧ Agrees q cdr := by
  have recorded : Recorded (run steps Store.empty).core :=
    run_along (P := fun s => Recorded s.core) (fun _ _ _ met holds => recorded_next met holds) steps
      Store.empty unmeasured recorded_empty
  obtain ⟨cdrKey, cdr, latest, agrees⟩ := recorded key q stored completed
  refine ⟨cdrKey, cdr, ?_, agrees billed⟩
  rw [ChargeDetailRecordGenerator.latestFinalized_iff]
  exact ⟨latest.stored, latest.session, latest.finalized, latest.highest⟩

theorem unmeasured_of_none {env : Environment} {step : Step} {s : Store}
    (none : s.sessions.exists? (fun _ q => q.state = .completed) = false) : ¬ step.Remeasures env s := by
  intro measures
  cases step with
  | event =>
    obtain ⟨_, _, _, _, _, _, _, T, key, q, -, held, completed⟩ := measures
    have found : s.sessions.exists? (fun _ q => q.state = .completed) = true := by
      rw [Indexed.exists?_iff]
      exact ⟨key, q, (OcppEventConsumer.holder_some held).1, by simp [completed]⟩
    rw [none] at found
    contradiction
  | _ => exact measures

def chargedRun : List (Environment × Step) :=
  [(Deployment.environment "2.0.1" 1 2, .event (Deployment.transactionEvent "E1" "Started" "10:02:00"
      [("authorization_status", .string "Accepted"), Deployment.register "10:02:00" 100])),
    (Deployment.environment "2.0.1" 1 3, .event (Deployment.transactionEvent "E2" "Ended" "10:03:00"
      [Deployment.register "10:03:00" 1100]))]

set_option maxRecDepth 20000 in
theorem completed_agrees_charged :
    ∃ q cdrKey cdr, (run chargedRun Store.empty).sessions.get? 0 = some q ∧ q.energyWh = 1000 ∧
      ChargeDetailRecordGenerator.latestFinalized (run chargedRun Store.empty) 0 = some (cdrKey, cdr) ∧
      Agrees q cdr := by
  have unmeasured : Along (fun env s step => ¬ step.Remeasures env s) chargedRun Store.empty :=
    ⟨unmeasured_of_none (by decide +kernel), unmeasured_of_none (by decide +kernel), trivial⟩
  have found : ((run chargedRun Store.empty).sessions.get? 0).any (fun q => q.state = .completed &&
      q.finalizationOutcome ≠ some "unbillable" && q.energyWh = 1000) = true := by decide +kernel
  obtain ⟨q, stored, about⟩ := (Option.any_eq_true _ _).mp found
  simp only [Bool.and_eq_true, decide_eq_true_eq] at about
  obtain ⟨⟨completed, billed⟩, energy⟩ := about
  obtain ⟨cdrKey, cdr, latest, agrees⟩ := completed_agrees chargedRun unmeasured 0 q stored completed billed
  exact ⟨q, cdrKey, cdr, stored, energy, latest, agrees⟩

def remeasuredRun : List (Environment × Step) :=
  chargedRun ++ [(Deployment.environment "2.0.1" 1 4, .event (Deployment.received "E3" "meter_values"
    "10:04:00" "ocpp2.0.1" [("evse_id", .int 1), ("connector_id", .int 1),
      ("protocol_transaction_id", .string "TX-1"), Deployment.register "10:04:00" 2100]))]

set_option maxRecDepth 20000 in
theorem late_reading_disagrees :
    ∃ q cdrKey cdr, (run remeasuredRun Store.empty).sessions.get? 0 = some q ∧ q.state = .completed ∧
      q.finalizationOutcome = some "complete" ∧
      ChargeDetailRecordGenerator.latestFinalized (run remeasuredRun Store.empty) 0 = some (cdrKey, cdr) ∧
      q.energyWh = 3100 ∧ cdr.energyWh = 1000 ∧ ¬ Agrees q cdr := by
  have facts : ((run remeasuredRun Store.empty).sessions.get? 0).any (fun q => q.state = .completed &&
        q.finalizationOutcome = some "complete" && q.energyWh = 3100) = true ∧
      (ChargeDetailRecordGenerator.latestFinalized (run remeasuredRun Store.empty) 0).any
        (fun row => row.2.energyWh = 1000) = true := by decide +kernel
  generalize run remeasuredRun Store.empty = s at facts ⊢
  obtain ⟨q, stored, about⟩ := (Option.any_eq_true _ _).mp facts.1
  obtain ⟨⟨cdrKey, cdr⟩, latest, recorded⟩ := (Option.any_eq_true _ _).mp facts.2
  simp only [Bool.and_eq_true, decide_eq_true_eq] at about recorded
  obtain ⟨⟨completed, outcome⟩, energy⟩ := about
  refine ⟨q, cdrKey, cdr, stored, completed, outcome, latest, energy, recorded, ?_⟩
  intro agrees
  have same := agrees.energy
  omega

end Step
end VtsaCsms.Charging
