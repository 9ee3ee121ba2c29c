import VtsaCsms.Charging.Consumption

/-!
# When a stop completes its session

The generator of an unreviewed record asks for evidence that nothing blocks. What it sees is
what the stop event has just recorded, so whether a stop completes its session is decided
before the session moves.
-/
namespace VtsaCsms.Charging
open Foundation Foundation.Action Assets

namespace ChargeDetailRecordGenerator

/-- Nothing in the session's evidence blocks a record. -/
def Unblocked (env : Environment) (s : Store) (key : Nat) (q : ChargingSession) : Prop :=
  ∃ flow, EnergyFlowDuration.measure env s key q = .ok flow ∧ (anomaliesOf q flow).any blocks = false

theorem generate_blocked {env : Environment} {key : Nat} {outcome : String} {q : ChargingSession}
    {s s' : Store} {u : Unit} (success : Returns (generate env key false outcome) s u s')
    (stored : s.sessions.get? key = some q) (blocking : ¬ Unblocked env s key q) :
    ∃ t cdrs q' cdrKey c, s' = { s with sessions := t, cdrs := cdrs } ∧
      Indexed.Placed s.sessions t key q' ∧ Indexed.Placed s.cdrs cdrs cdrKey c ∧ c.sessionId = key ∧
      SentToReview q q' c := by
  unfold generate at success
  simp only [returns_transaction, returns_bind, returns_read, returns_lift, lockSession_returns]
    at success
  obtain ⟨q₀, s, ⟨stored₀, rfl⟩, ⟨cdrKey, c⟩, _, opens, success⟩ := success
  rw [stored] at stored₀
  cases stored₀
  obtain ⟨cdrs₁, rfl, opened, session, -, -⟩ := openCdr_returns opens
  simp only [returns_ite] at success
  obtain ⟨_, _, begins, measured, _, ⟨rfl, rfl⟩, flow, _, ⟨measures, rfl⟩, success⟩ := success
  obtain ⟨-, cdrs₂, rfl, restarted⟩ :=
    ChargeDetailRecordStateMachine.transition_returns begins opened.get rfl
  rcases success with ⟨-, success⟩ | ⟨clear, -⟩
  · obtain ⟨t, cdrs, q', c', rfl, placed, record, same, -, sent⟩ :=
      blocked_returns success stored restarted.get rfl
    exact ⟨t, cdrs, q', cdrKey, c', rfl, placed, (opened.trans restarted).trans record,
      same.trans session, sent⟩
  · refine absurd ⟨flow, measures, ?_⟩ blocking
    simpa using clear

end ChargeDetailRecordGenerator

namespace OcppEventConsumer

def recordStop (env : Environment) (e : Envelope) (data : Mixed) (sourceAt : Instant) (key : Nat) :
    Charge Unit := do
  saveSession key (stoppedRow data sourceAt)
  MeterValueService.record env key e.eventId (samplesOf data) sourceAt

/-- The stop event is about this session, and the evidence it completes is in order. -/
def Clears (env : Environment) (connector : ConnectorSnapshot) (e : Envelope) (data : Mixed)
    (sourceAt : Instant) (s : Store) (key : Nat) : Prop :=
  ∃ T q recorded row, transactionId data = .ok T ∧ holder s connector T = some (key, q) ∧
    q.state.canTransitionTo .finalizing = true ∧
    Returns (recordStop env e data sourceAt key) s () recorded ∧
    recorded.sessions.get? key = some row ∧
    ChargeDetailRecordGenerator.Unblocked env recorded key row

variable {env : Environment} {e : Envelope} {data : Mixed} {sourceAt : Instant} {s s' : Store}

theorem recordStop_returns {key : Nat} {q : ChargingSession} {u : Unit}
    (success : Returns (recordStop env e data sourceAt key) s u s') (stored : s.sessions.get? key = some q) :
    ∃ m t readings, s' = { s with sessions := t, readings := readings } ∧ Indexed.Placed s.sessions t key
      (MeterValueService.applyMeasured m sourceAt (stoppedRow data sourceAt q)) := by
  unfold recordStop at success
  rw [returns_bind] at success
  obtain ⟨_, _, saves, records⟩ := success
  obtain ⟨t₁, rfl, updated⟩ := saveSession_returns saves
  have row := updated.placed stored
  obtain ⟨q₁, m, t, readings, stored₁, rfl, measured⟩ := MeterValueService.record_returns records
  rw [row.get] at stored₁
  cases stored₁
  exact ⟨m, t, readings, rfl, row.trans measured⟩

/-- A stop: its evidence is recorded, the session finalizes, its reservation is released and its
record generated. -/
theorem stop_steps {connector : ConnectorSnapshot} {u : Unit}
    (success : Returns (stop env connector e data sourceAt) s u s') :
    ∃ T key q m t readings finalizing version released,
      transactionId data = .ok T ∧ holder s connector T = some (key, q) ∧
      q.state.canTransitionTo .finalizing = true ∧
      Returns (recordStop env e data sourceAt key) s () { s with sessions := t, readings := readings } ∧
      Indexed.Placed s.sessions t key (MeterValueService.applyMeasured m sourceAt (stoppedRow data sourceAt q)) ∧
      Indexed.Placed t finalizing key
        { MeterValueService.applyMeasured m sourceAt (stoppedRow data sourceAt q) with
          state := .finalizing, aggregateVersion := version } ∧
      Returns (ConnectorReservationService.release env key "transaction_ended")
        { s with sessions := finalizing, readings := readings } () released ∧
      Returns (ChargeDetailRecordGenerator.generate env key) released () s' := by
  unfold stop at success
  simp only [returns_bind, returns_lift, lockSession_returns] at success
  obtain ⟨T, s₀, ⟨identified, rfl⟩, key, s, finds, q, s, ⟨stored, rfl⟩, _, s₁, saves, _, _, records,
    refreshed, s₂, ⟨reloaded, rfl⟩, _, _, moves, _, released, releases, generates⟩ := success
  obtain ⟨same, q₀, held⟩ := findSession_returns finds
  subst same
  have stored₀ := (holder_some held).1
  rw [stored] at stored₀
  cases stored₀
  have evidence : Returns (recordStop env e data sourceAt key) s () s₂ := by
    unfold recordStop
    rw [returns_bind]
    exact ⟨_, s₁, saves, records⟩
  obtain ⟨m, t, readings, rfl, row⟩ := recordStop_returns evidence stored
  rw [row.get] at reloaded
  cases reloaded
  obtain ⟨allowed, finalizing, version, rfl, moved⟩ :=
    ChargingSessionStateMachine.transition_returns moves row.get rfl
  exact ⟨T, key, q, m, t, readings, finalizing, version, released, identified, held, allowed, evidence, row,
    moved, releases, generates⟩

theorem stop_blocked {connector : ConnectorSnapshot} {u : Unit}
    (success : Returns (stop env connector e data sourceAt) s u s')
    (unclear : ∀ key, ¬ Clears env connector e data sourceAt s key) :
    ∃ T key q t statuses reservations readings cdrs q' cdrKey c,
      transactionId data = .ok T ∧ holder s connector T = some (key, q) ∧
      s' = { s with sessions := t, reservations := reservations, connectorStatuses := statuses
                    readings := readings, cdrs := cdrs } ∧
      Indexed.Placed s.sessions t key q' ∧ q'.connectorId = q.connectorId ∧
      q'.authorizationTokenId = q.authorizationTokenId ∧ q'.state = .reviewRequired ∧
      Indexed.Placed s.cdrs cdrs cdrKey c ∧ c.sessionId = key ∧ c.state = .reviewRequired := by
  obtain ⟨T, key, q, m, t₁, readings, t₂, version, released, identified, held, allowed, evidence, row, moved,
    releases, generates⟩ := stop_steps success
  obtain ⟨reservations, statuses, rfl⟩ := ConnectorReservationService.release_returns releases
  have blocking := unclear key
  obtain ⟨t, cdrs, q', cdrKey, c, rfl, placed, record, session, sent⟩ :=
    ChargeDetailRecordGenerator.generate_blocked generates moved.get fun unblocked =>
      blocking ⟨T, q, { s with sessions := t₁, readings := readings }, _, identified, held, allowed,
        evidence, row.get, unblocked⟩
  obtain ⟨state, version', rfl, finalizing, -⟩ := sent.session
  exact ⟨T, key, q, t, statuses, reservations, readings, cdrs, _, cdrKey, c, identified, held, rfl,
    (row.trans moved).trans placed, rfl, rfl, finalizing rfl, record, session, sent.record⟩

/-! ### Whole events -/

/-- The event is taken up: its handler runs on the rows `s₁`, marked and observed. -/
structure Taken (env : Environment) (event : Mixed) (s : Store) (e : Envelope) (data : Mixed)
    (action : String) (s₁ : Store) : Prop where
  accepted : Accepted env event e action
  unseen : s.inbound.get? e.eventId = none
  read : e.data = .ok data
  marked : ∃ row current, inboundRow env e .received none none = .ok row ∧
    Returns (observeConnection env e data action) (marked s e row) current s₁ ∧ ¬ skips data action current

theorem Taken.rows {event : Mixed} {s₁ : Store}
    {action : String} (taken : Taken env event s e data action s₁) :
    ∃ connections inbound, s₁ = { s with connections := connections, inbound := inbound } := by
  obtain ⟨row, current, -, observed, -⟩ := taken.marked
  obtain ⟨connections, rfl⟩ := observeConnection_returns observed
  exact ⟨connections, _, rfl⟩

theorem consume_cases (env : Environment) (event : Mixed) (s : Store) :
    (∃ connections inbound, after (consume env event) s =
      { s with connections := connections, inbound := inbound }) ∨
    ∃ e data action s₁ s₂ inbound, ∃ a : Addressed env e data action, Taken env event s e data action s₁ ∧
      Returns (a.evidence.handler env a.connector e data a.occurredAt a.sourceAt) s₁ () s₂ ∧
      after (consume env event) s = { s₂ with inbound := inbound } := by
  by_cases known : ∃ e action, Accepted env event e action
  · obtain ⟨e, action, accepted⟩ := known
    cases seen : s.inbound.get? e.eventId with
    | some =>
      rw [after, consume_duplicate accepted seen]
      exact Or.inl ⟨s.connections, s.inbound, rfl⟩
    | none =>
      rcases process_cases env e action s with ⟨s', processed⟩ | ⟨exception, thrown⟩
      · rw [after, consume_processed accepted seen processed]
        obtain ⟨row, s₂, built, handled, rfl⟩ := (process_returns _ _ _ _ _ _).mp processed
        obtain ⟨data, current, s₁, read, observed, run⟩ := (handle_returns _ _ _ _ _ _).mp handled
        rcases run with ⟨-, rfl⟩ | ⟨kept, run⟩
        · obtain ⟨connections, rfl⟩ := observeConnection_returns observed
          exact Or.inl ⟨connections, _, rfl⟩
        · obtain ⟨a, run⟩ := (dispatch_returns _ _ _ _ _ _ _).mp run
          exact Or.inr ⟨e, data, action, s₁, s₂, _, a, ⟨accepted, seen, read, row, current, built, observed, kept⟩,
            run, rfl⟩
      · rw [after, consume_thrown accepted seen thrown]
        rcases quarantine_cases env exception seen with ⟨_, same⟩ | ⟨row, same⟩
        · simp only [bind, same]
          exact Or.inl ⟨s.connections, s.inbound, rfl⟩
        · simp only [bind, same]
          exact Or.inl ⟨s.connections, _, rfl⟩
  · rw [after, consume_refused known s]
    exact Or.inl ⟨s.connections, s.inbound, rfl⟩

/-- The event is taken up, and stops the session with its evidence in order. -/
def Completes (env : Environment) (s : Store) (event : Mixed) (key : Nat) : Prop :=
  ∃ e data action s₁, ∃ a : Addressed env e data action, Taken env event s e data action s₁ ∧
    a.evidence = .stop ∧ Clears env a.connector e data a.sourceAt s₁ key

end OcppEventConsumer
end VtsaCsms.Charging
