import VtsaCsms.Charging.Effects
import VtsaCsms.Charging.OcppEvents

/-!
# What an event writes

One inversion for each handler of the consumer. Every handler that returns has changed the
row of one session at most, and which session that is depends on the rows before it.
-/
namespace VtsaCsms.Charging
open Foundation Foundation.Action Assets Tariffs
namespace OcppEventConsumer

/-! ### The session of an event -/

theorem newRow_fresh (env : Environment) (connector : ConnectorSnapshot) (origin : ChargingSessionOrigin)
    (requestedAt : Instant) (versionId code : Option String) :
    let row := ChargingSessionCreator.newRow env connector origin requestedAt versionId code
    row.state = .requested ∧ row.startedAt = none ∧ row.protocolTransactionId = none ∧
      row.connectorId = connector.connectorId ∧ row.chargingStationId = connector.stationId ∧
      row.protocol = connector.protocol ∧ row.stoppedAt = none := by
  unfold ChargingSessionCreator.newRow
  split
  · exact ⟨rfl, rfl, rfl, rfl, rfl, rfl, rfl⟩
  · exact ⟨rfl, rfl, rfl, rfl, rfl, rfl, rfl⟩

def reconstructedRow (env : Environment) (connector : ConnectorSnapshot) (transactionId : String)
    (sourceAt : Instant) : ChargingSession :=
  let row := ChargingSessionCreator.newRow env connector .reconstructed sourceAt
  { row with
    protocolTransactionId := some transactionId
    startedAt := some sourceAt.toSecond
    authorizationStatus := .unknown
    anomalyFlags := (row.anomalyFlags ++ [SessionAnomaly.reconstructedAfterReconnect]).eraseDups }

theorem reconstructedRow_fresh (env : Environment) (connector : ConnectorSnapshot)
    (transactionId : String) (sourceAt : Instant) :
    let row := reconstructedRow env connector transactionId sourceAt
    row.state = .requested ∧ row.startedAt = some sourceAt.toSecond ∧
      row.protocolTransactionId = some transactionId ∧ row.connectorId = connector.connectorId ∧
      row.chargingStationId = connector.stationId ∧ row.protocol = connector.protocol := by
  obtain ⟨state, -, -, connectorId, station, protocol, -⟩ :=
    newRow_fresh env connector .reconstructed sourceAt none none
  exact ⟨state, rfl, rfl, connectorId, station, protocol⟩

/-- The key and row `findOrReconstruct` goes on with. -/
def located (env : Environment) (s : Store) (connector : ConnectorSnapshot) (transactionId : String)
    (sourceAt : Instant) : Nat × ChargingSession :=
  (holder s connector transactionId).getD
    (s.sessions.nextId, reconstructedRow env connector transactionId sourceAt)

/-- The key and row `sessionForStart` goes on with. -/
def selected (env : Environment) (s : Store) (connector : ConnectorSnapshot) (transactionId : String)
    (sourceAt : Instant) : Nat × ChargingSession :=
  ((holder s connector transactionId).or (reservedFor s connector sourceAt)).getD
    (s.sessions.nextId, reconstructedRow env connector transactionId sourceAt)

variable {s s' : Store} {connector : ConnectorSnapshot} {key : Nat} {q : ChargingSession} {sourceAt : Instant}
  {env : Environment} {u : Unit} {e : Envelope}

theorem holder_some {transactionId : String} (found : holder s connector transactionId = some (key, q)) :
    s.sessions.get? key = some q ∧ q.chargingStationId = connector.stationId ∧
      q.protocol = connector.protocol ∧ q.protocolTransactionId = some transactionId := by
  obtain ⟨stored, holds⟩ := Indexed.first?_some found
  simp only [OcppEventConsumer.holds, Bool.and_eq_true, decide_eq_true_eq] at holds
  exact ⟨stored, holds.1.1, holds.1.2, holds.2⟩

theorem reservedFor_some (found : reservedFor s connector sourceAt = some (key, q)) :
    s.sessions.get? key = some q ∧ awaitsStart s connector.connectorId sourceAt key q = true := by
  obtain ⟨member, -⟩ := latestBy_some found
  rwa [Indexed.mem_rowsWhere] at member

theorem reconstruct_returns {transactionId : String}
    (success : Returns (reconstruct env connector transactionId sourceAt) s key s') :
    key = s.sessions.nextId ∧ ∃ t, s' = { s with sessions := t } ∧
      Indexed.Placed s.sessions t key (reconstructedRow env connector transactionId sourceAt) := by
  unfold reconstruct ChargingSessionCreator.create onSessions at success
  simp only [returns_bind, returns_throwIf, returns_focus, returns_pure] at success
  obtain ⟨_, _, ⟨_, _, ⟨-, rfl⟩, t₁, creates, rfl⟩, _, _, saved, rfl, rfl⟩ := success
  have created := Indexed.create_returns creates
  obtain ⟨t, rfl, updated⟩ := saveSession_returns saved
  exact ⟨created.1, t, rfl, created.placed.update updated⟩

theorem findOrReconstruct_returns {transactionId : String}
    (success : Returns (findOrReconstruct env connector transactionId sourceAt) s key s') :
    key = (located env s connector transactionId sourceAt).1 ∧ ∃ t, s' = { s with sessions := t } ∧
      Indexed.Placed s.sessions t key (located env s connector transactionId sourceAt).2 := by
  unfold findOrReconstruct at success
  simp only [returns_bind, returns_read] at success
  obtain ⟨existing, s, ⟨rfl, rfl⟩, success⟩ := success
  unfold located
  cases found : holder s connector transactionId with
  | some =>
    rw [found] at success
    simp only [returns_pure] at success
    obtain ⟨rfl, rfl⟩ := success
    exact ⟨rfl, s'.sessions, rfl, Indexed.Placed.self (holder_some found).1⟩
  | none =>
    rw [found] at success
    exact reconstruct_returns success

theorem sessionForStart_returns {transactionId : String}
    (success : Returns (sessionForStart env connector transactionId sourceAt) s key s') :
    key = (selected env s connector transactionId sourceAt).1 ∧ ∃ t, s' = { s with sessions := t } ∧
      Indexed.Placed s.sessions t key (selected env s connector transactionId sourceAt).2 := by
  unfold sessionForStart at success
  simp only [returns_bind, returns_read] at success
  obtain ⟨existing, s, ⟨rfl, rfl⟩, success⟩ := success
  unfold selected
  cases found : holder s connector transactionId with
  | some =>
    rw [found] at success
    simp only [returns_pure] at success
    obtain ⟨rfl, rfl⟩ := success
    exact ⟨rfl, s'.sessions, rfl, Indexed.Placed.self (holder_some found).1⟩
  | none =>
    rw [found] at success
    simp only [returns_bind, returns_read] at success
    obtain ⟨reserved, s, ⟨rfl, rfl⟩, success⟩ := success
    cases awaited : reservedFor s connector sourceAt with
    | some =>
      rw [awaited] at success
      simp only [returns_pure] at success
      obtain ⟨rfl, rfl⟩ := success
      exact ⟨rfl, s'.sessions, rfl, Indexed.Placed.self (reservedFor_some awaited).1⟩
    | none =>
      rw [awaited] at success
      exact reconstruct_returns success

theorem findSession_returns {transactionId : String}
    (success : Returns (findSession connector transactionId) s key s') :
    s' = s ∧ ∃ q, holder s connector transactionId = some (key, q) := by
  unfold findSession at success
  simp only [returns_bind, returns_read, returns_orThrow, returns_pure] at success
  obtain ⟨_, s, ⟨rfl, rfl⟩, found, _, ⟨existing, rfl⟩, rfl, rfl⟩ := success
  exact ⟨rfl, found.2, existing⟩

/-! ### Connector status -/

theorem setConnectorStatus_returns {connectorId : String} {next : ConnectorAvailability}
    {notified changed : Bool} {observedAt : Instant} {connectionId reportedStatus : Option String}
    (success : Returns
      (setConnectorStatus connectorId next notified observedAt connectionId reportedStatus) s changed s') :
    ∃ statuses, s' = { s with connectorStatuses := statuses } := by
  have row : ∀ {row : ConnectorStatus} {s s' : Store},
      Returns (connectorStatusRow connectorId observedAt) s row s' →
        ∃ statuses, s' = { s with connectorStatuses := statuses } := by
    intro row s s' success
    unfold connectorStatusRow at success
    simp only [returns_bind, returns_read] at success
    obtain ⟨stored, s, ⟨-, rfl⟩, success⟩ := success
    cases stored with
    | some =>
      rw [returns_pure] at success
      exact ⟨_, success.2⟩
    | none =>
      simp only [returns_bind, returns_write, returns_pure] at success
      obtain ⟨_, _, rfl, -, rfl⟩ := success
      exact ⟨_, rfl⟩
  unfold setConnectorStatus saveConnectorStatus at success
  simp only [returns_bind, returns_ite, returns_write, returns_pure] at success
  obtain ⟨_, _, loaded, ⟨-, -, rfl⟩ | ⟨-, _, _, rfl, _, _, moves, -, rfl⟩⟩ := success
  · exact row loaded
  · obtain ⟨_, rfl⟩ := row loaded
    obtain ⟨-, statuses, rfl⟩ := ConnectorAvailabilityStateMachine.transition_returns moves
    exact ⟨statuses, rfl⟩

/-! ### Handlers -/

/-- The row, or what a recording made of it. -/
def MeasuredFrom (sourceAt : Instant) (q q' : ChargingSession) : Prop :=
  q' = q ∨ ∃ m, q' = MeterValueService.applyMeasured m sourceAt q

theorem samples_returns {eventId : String} {samples : List Mixed} (success : Returns (doIf (samples ≠ [])
      (MeterValueService.record env key eventId samples sourceAt)) s u s')
    (stored : s.sessions.get? key = some q) :
    ∃ t readings q', s' = { s with sessions := t, readings := readings } ∧
      Indexed.Placed s.sessions t key q' ∧ MeasuredFrom sourceAt q q' ∧ (samples = [] → q' = q) := by
  rw [returns_doIf] at success
  rcases success with ⟨some', success⟩ | ⟨-, same⟩
  · obtain ⟨q₀, m, t, readings, stored₀, rfl, placed⟩ := MeterValueService.record_returns success
    rw [stored] at stored₀
    cases stored₀
    exact ⟨t, readings, _, rfl, placed, Or.inr ⟨m, rfl⟩, fun none => absurd none some'⟩
  · exact ⟨s.sessions, s.readings, q, same, Indexed.Placed.self stored, Or.inl rfl, fun _ => rfl⟩

theorem start_returns {data : Mixed} (success : Returns (start env connector e data sourceAt) s u s') :
    ∃ T authorization t statuses reservations readings version q',
      transactionId data = .ok T ∧ authorizationStatus env data = .ok authorization ∧
      (entered (selected env s connector T sourceAt).2.state).canTransitionTo .charging = true ∧
      s' = { s with sessions := t, reservations := reservations, connectorStatuses := statuses
                    readings := readings } ∧
      Indexed.Placed s.sessions t (selected env s connector T sourceAt).1 q' ∧
      MeasuredFrom sourceAt
        { startedRow data T authorization sourceAt (selected env s connector T sourceAt).2 with
          state := .charging, aggregateVersion := version } q' := by
  unfold start at success
  simp only [returns_bind, returns_lift, lockSession_returns] at success
  obtain ⟨T, _, ⟨identified, rfl⟩, key, _, finds, q, _, ⟨stored, rfl⟩, authorization, _,
    ⟨authorized, rfl⟩, _, _, saves, _, _, enters, _, _, moves, _, _, releases, _, _, occupies,
    success⟩ := success
  obtain ⟨rfl, t₀, rfl, chosen⟩ := sessionForStart_returns finds
  rw [chosen.get] at stored
  cases stored
  obtain ⟨t₁, rfl, updated⟩ := saveSession_returns saves
  have row₁ := chosen.update updated
  obtain ⟨-, t₂, _, rfl, row₂⟩ := ChargingSessionStateMachine.transition_returns enters row₁.get rfl
  obtain ⟨allowed, t₃, version, rfl, row₃⟩ :=
    ChargingSessionStateMachine.transition_returns moves row₂.get rfl
  obtain ⟨reservations, _, rfl⟩ := ConnectorReservationService.release_returns releases
  obtain ⟨statuses, rfl⟩ := setConnectorStatus_returns occupies
  obtain ⟨t, readings, q', rfl, placed, measured, -⟩ := samples_returns success row₃.get
  exact ⟨T, authorization, t, statuses, reservations, readings, version, q', identified, authorized,
    allowed, rfl, ((row₁.trans row₂).trans row₃).trans placed, measured⟩

theorem stop_returns {data : Mixed} (success : Returns (stop env connector e data sourceAt) s u s') :
    ∃ T key q m version t statuses reservations readings cdrs q' cdrKey c,
      transactionId data = .ok T ∧ holder s connector T = some (key, q) ∧
      q.state.canTransitionTo .finalizing = true ∧
      s' = { s with sessions := t, reservations := reservations, connectorStatuses := statuses
                    readings := readings, cdrs := cdrs } ∧
      Indexed.Placed s.sessions t key q' ∧ Indexed.Placed s.cdrs cdrs cdrKey c ∧ c.sessionId = key ∧
      (∀ old, s.cdrs.get? cdrKey = some old → old.sessionId = key) ∧
      (∀ k row, s.cdrs.get? k = some row → row.sessionId = key → k ≠ cdrKey →
        row.version < c.version) ∧
      (ChargeDetailRecordGenerator.SentToReview
        { MeterValueService.applyMeasured m sourceAt (stoppedRow data sourceAt q) with
          state := .finalizing, aggregateVersion := version } q' c ∨
      ChargeDetailRecordGenerator.Finalized env "complete"
        { MeterValueService.applyMeasured m sourceAt (stoppedRow data sourceAt q) with
          state := .finalizing, aggregateVersion := version } q' c) := by
  unfold stop at success
  simp only [returns_bind, returns_lift, lockSession_returns] at success
  obtain ⟨T, _, ⟨identified, rfl⟩, key, _, finds, q, _, ⟨stored, rfl⟩, _, _, saves, _, _, records,
    refreshed, _, ⟨reloaded, rfl⟩, _, _, moves, _, _, releases, generates⟩ := success
  obtain ⟨rfl, q₀, held⟩ := findSession_returns finds
  have stored₀ := (holder_some held).1
  rw [stored] at stored₀
  cases stored₀
  obtain ⟨t₁, rfl, updated⟩ := saveSession_returns saves
  have row₁ := updated.placed stored
  obtain ⟨q₁, m, t₂, readings, stored₁, rfl, row₂⟩ := MeterValueService.record_returns records
  rw [row₁.get] at stored₁
  cases stored₁
  rw [row₂.get] at reloaded
  cases reloaded
  obtain ⟨allowed, t₃, version, rfl, row₃⟩ :=
    ChargingSessionStateMachine.transition_returns moves row₂.get rfl
  obtain ⟨reservations, statuses, rfl⟩ := ConnectorReservationService.release_returns releases
  obtain ⟨q₃, t, cdrs, q', cdrKey, c, stored₃, rfl, placed, record, session, old, higher, outcome⟩ :=
    ChargeDetailRecordGenerator.generate_returns generates
  rw [row₃.get] at stored₃
  cases stored₃
  refine ⟨T, key, q, m, version, t, statuses, reservations, readings, cdrs, q', cdrKey, c, identified,
    held, allowed, rfl, ((row₁.trans row₂).trans row₃).trans placed, record, session, old, higher, ?_⟩
  rcases outcome with ⟨-, sent⟩ | final
  · exact Or.inl sent
  · exact Or.inr final

def reached (current target : ChargingSessionState) : ChargingSessionState :=
  if current.canTransitionTo target = true then target else current

theorem retarget_returns {current target : ChargingSessionState}
    (success : Returns (doIf (current.canTransitionTo target = true)
      (ChargingSessionStateMachine.transition key current target)) s u s')
    (stored : s.sessions.get? key = some q) (inState : q.state = current) :
    ∃ t version, s' = { s with sessions := t } ∧ Indexed.Placed s.sessions t key
      { q with state := reached current target, aggregateVersion := version } := by
  rw [returns_doIf] at success
  rcases success with ⟨allowed, moves⟩ | ⟨refused, rfl⟩
  · obtain ⟨-, t, version, rfl, placed⟩ :=
      ChargingSessionStateMachine.transition_returns moves stored inState
    refine ⟨t, version, rfl, ?_⟩
    rw [reached, if_pos allowed]
    exact placed
  · refine ⟨s'.sessions, q.aggregateVersion, rfl, ?_⟩
    rw [reached, if_neg refused, ← inState]
    exact Indexed.Placed.self stored

theorem updatedRow_inState (data : Mixed) (transactionId : String) (sourceAt : Instant)
    (q : ChargingSession) (state : ChargingSessionState) (version : Nat) :
    updatedRow data transactionId sourceAt { q with state := state, aggregateVersion := version } =
      { updatedRow data transactionId sourceAt q with state := state, aggregateVersion := version } :=
  rfl

theorem updated_returns {data : Mixed} (success : Returns (updated env connector e data sourceAt) s u s') :
    ∃ T word t readings version q', transactionId data = .ok T ∧ text env data "charging_state" = .ok word ∧
      s' = { s with sessions := t, readings := readings } ∧
      Indexed.Placed s.sessions t (located env s connector T sourceAt).1 q' ∧
      MeasuredFrom sourceAt
        { updatedRow data T sourceAt (located env s connector T sourceAt).2 with
          state := reached (entered (located env s connector T sourceAt).2.state)
            (updatedTarget (mbStrToLower word))
          aggregateVersion := version } q' ∧
      (samplesOf data = [] → q' =
        { updatedRow data T sourceAt (located env s connector T sourceAt).2 with
          state := reached (entered (located env s connector T sourceAt).2.state)
            (updatedTarget (mbStrToLower word))
          aggregateVersion := version }) := by
  unfold updated at success
  simp only [returns_bind, returns_lift, lockSession_returns] at success
  obtain ⟨T, _, ⟨identified, rfl⟩, key, _, finds, q, _, ⟨stored, rfl⟩, word, _, ⟨spelled, rfl⟩, _, _,
    enters, _, _, moves, _, _, saves, success⟩ := success
  obtain ⟨rfl, t₀, rfl, chosen⟩ := findOrReconstruct_returns finds
  rw [chosen.get] at stored
  cases stored
  obtain ⟨-, t₁, _, rfl, row₁⟩ := ChargingSessionStateMachine.transition_returns enters chosen.get rfl
  obtain ⟨t₂, version, rfl, row₂⟩ := retarget_returns moves row₁.get rfl
  obtain ⟨t₃, rfl, updated⟩ := saveSession_returns saves
  have row₃ := ((chosen.trans row₁).trans row₂).update updated
  rw [updatedRow_inState, updatedRow_inState] at row₃
  obtain ⟨t, readings, q', rfl, placed, measured, unsampled⟩ := samples_returns success row₃.get
  exact ⟨T, word, t, readings, version, q', identified, spelled, rfl, row₃.trans placed, measured,
    unsampled⟩

theorem meteredSession_returns {data : Mixed}
    (success : Returns (meteredSession env connector data) s key s') :
    s' = s ∧ ∃ q, s.sessions.get? key = some q ∧
      (((data.get "protocol_transaction_id").isNull = true ∧
          q.state ∈ [.starting, .charging, .suspendedByEv, .suspendedByEvse, .stopping]) ∨
        ((data.get "protocol_transaction_id").isNull = false ∧
          ∃ T, text env data "protocol_transaction_id" = .ok T ∧
            holder s connector T = some (key, q))) := by
  unfold meteredSession at success
  rw [returns_ite] at success
  rcases success with ⟨unnamed, success⟩ | ⟨named, success⟩
  · unfold activeSession at success
    simp only [returns_bind, returns_read, returns_orThrow, returns_pure] at success
    obtain ⟨_, s, ⟨rfl, rfl⟩, found, _, ⟨active, rfl⟩, rfl, rfl⟩ := success
    obtain ⟨member, -⟩ := latestBy_some active
    rw [Indexed.mem_rowsWhere] at member
    refine ⟨rfl, found.2, member.1, Or.inl ⟨unnamed, ?_⟩⟩
    have selected := member.2
    simp only [Bool.and_eq_true, decide_eq_true_eq] at selected
    exact selected.2
  · simp only [returns_bind, returns_lift] at success
    obtain ⟨T, s, ⟨spelled, rfl⟩, finds⟩ := success
    obtain ⟨rfl, q, held⟩ := findSession_returns finds
    exact ⟨rfl, q, (holder_some held).1, Or.inr ⟨by simpa using named, T, spelled, held⟩⟩

theorem meterValues_returns {data : Mixed} {receivedAt : Instant}
    (success : Returns (meterValues env connector e data receivedAt) s u s') :
    ∃ key q m flags t readings, Returns (meteredSession env connector data) s key s ∧
      s.sessions.get? key = some q ∧ s' = { s with sessions := t, readings := readings } ∧
      Indexed.Placed s.sessions t key
        { MeterValueService.applyMeasured m receivedAt q with anomalyFlags := flags } := by
  unfold meterValues addClockSkew at success
  simp only [returns_bind, lockSession_returns, returns_doIf, returns_ite, returns_pure] at success
  obtain ⟨key, _, finds, q, s, ⟨stored, rfl⟩, _, _, records, success⟩ := success
  have same := (meteredSession_returns finds).1
  subst same
  obtain ⟨q₀, m, t₁, readings, stored₀, rfl, placed⟩ := MeterValueService.record_returns records
  rw [stored] at stored₀
  cases stored₀
  rcases success with ⟨-, ⟨-, -, rfl⟩ | ⟨-, saves⟩⟩ | ⟨-, rfl⟩
  · exact ⟨key, q, m, _, t₁, readings, finds, stored, rfl, placed⟩
  · obtain ⟨t, rfl, updated⟩ := saveSession_returns saves
    exact ⟨key, q, m, _, t, readings, finds, stored, rfl, placed.update updated⟩
  · exact ⟨key, q, m, _, t₁, readings, finds, stored, rfl, placed⟩

theorem status_returns {data : Mixed} (success : Returns (status env connector e data sourceAt) s u s') :
    ∃ statuses, s' = { s with connectorStatuses := statuses } := by
  unfold status at success
  simp only [returns_bind, returns_lift, returns_ite, returns_pure] at success
  obtain ⟨_, _, ⟨-, rfl⟩, _, _, changes, ⟨-, -, rfl⟩ | ⟨-, -, rfl⟩⟩ := success
  · exact setConnectorStatus_returns changes
  · exact setConnectorStatus_returns changes

theorem observeConnection_returns {data : Mixed} {action : String} {current : Bool}
    (success : Returns (observeConnection env e data action) s current s') :
    ∃ connections, s' = { s with connections := connections } := by
  unfold observeConnection StationConnectionProjector.observe at success
  simp only [returns_ite, returns_bind, returns_lift, returns_orThrow, returns_read, returns_pure]
    at success
  rcases success with ⟨-, _, _, ⟨-, rfl⟩, _, _, ⟨-, rfl⟩, _, _, ⟨-, rfl⟩, _, _, ⟨-, rfl⟩, _, _,
    ⟨-, rfl⟩, _, _, ⟨rfl, rfl⟩, success⟩ | ⟨-, -, rfl⟩
  · split at success
    · simp only [returns_bind, returns_write, returns_pure] at success
      obtain ⟨_, _, rfl, -, rfl⟩ := success
      exact ⟨_, rfl⟩
    · rw [returns_pure] at success
      exact ⟨_, success.2⟩
  · exact ⟨_, rfl⟩

/-! ### Which handler runs -/

inductive Evidence where
  | start | stop | updated | meterValues | status
  deriving DecidableEq

/-- The handler an action leads to. -/
def evidenceOf (env : Environment) (data : Mixed) (action : String) : Except Throwable Evidence :=
  if action = "start_transaction" then .ok .start
  else if action = "stop_transaction" then .ok .stop
  else if action = "transaction_event" then do
    let word ← text env data "event_type"
    if mbStrToLower word = "started" then .ok .start
    else if mbStrToLower word = "ended" then .ok .stop
    else if mbStrToLower word = "updated" then .ok .updated
    else .error (.domain "Unsupported OCPP 2.0.1 transaction event type.")
  else if action = "meter_values" then .ok .meterValues
  else .ok .status

def Evidence.handler (env : Environment) (connector : ConnectorSnapshot) (e : Envelope) (data : Mixed)
    (occurredAt sourceAt : Instant) : Evidence → Charge Unit
  | start => OcppEventConsumer.start env connector e data sourceAt
  | stop => OcppEventConsumer.stop env connector e data sourceAt
  | updated => OcppEventConsumer.updated env connector e data sourceAt
  | meterValues => OcppEventConsumer.meterValues env connector e data occurredAt
  | status => OcppEventConsumer.status env connector e data occurredAt

/-- What an event that reaches a connector is about. -/
structure Addressed (env : Environment) (e : Envelope) (data : Mixed) (action : String) where
  connector : ConnectorSnapshot
  occurredAt : Instant
  sourceAt : Instant
  evidence : Evidence
  resolved : OcppEventConsumer.connector env e data = .ok connector
  protocol : text env data "protocol" = .ok connector.protocol
  occurred : StationConnectionProjector.parseAt env e.occurredAt = .ok occurredAt
  sourced : sourceTime env data occurredAt = .ok sourceAt
  kind : evidenceOf env data action = .ok evidence

theorem transactionEvent_returns (env : Environment) (connector : ConnectorSnapshot) (e : Envelope)
    (data : Mixed) (occurredAt sourceAt : Instant) (s s' : Store) (u : Unit) :
    Returns (transactionEvent env connector e data sourceAt) s u s' ↔
      ∃ evidence, evidenceOf env data "transaction_event" = .ok evidence ∧
        Returns (evidence.handler env connector e data occurredAt sourceAt) s u s' := by
  unfold transactionEvent evidenceOf
  rw [if_neg (by decide), if_neg (by decide), if_pos rfl, returns_bind]
  simp only [returns_lift]
  cases spelled : text env data "event_type" with
  | error => simp [bind, Except.bind]
  | ok word =>
    simp only [Except.ok.injEq, bind, Except.bind]
    by_cases started : mbStrToLower word = "started"
    · simp [started, Evidence.handler]
    · by_cases ended : mbStrToLower word = "ended"
      · simp [ended, Evidence.handler]
      · by_cases updated : mbStrToLower word = "updated"
        · simp [updated, Evidence.handler]
        · simp [started, ended, updated]

theorem dispatch_returns (env : Environment) (e : Envelope) (data : Mixed) (action : String)
    (s s' : Store) (u : Unit) :
    Returns (dispatch env e data action) s u s' ↔
      ∃ a : Addressed env e data action,
        Returns (a.evidence.handler env a.connector e data a.occurredAt a.sourceAt) s u s' := by
  have handled : ∀ connector occurredAt sourceAt,
      Returns (if action = "start_transaction" then start env connector e data sourceAt
        else if action = "stop_transaction" then stop env connector e data sourceAt
        else if action = "transaction_event" then transactionEvent env connector e data sourceAt
        else if action = "meter_values" then meterValues env connector e data occurredAt
        else status env connector e data occurredAt) s u s' ↔
      ∃ evidence, evidenceOf env data action = .ok evidence ∧
        Returns (evidence.handler env connector e data occurredAt sourceAt) s u s' := by
    intro connector occurredAt sourceAt
    by_cases event : action = "transaction_event"
    · subst event
      simpa using transactionEvent_returns env connector e data occurredAt sourceAt s s' u
    · unfold evidenceOf
      by_cases begins : action = "start_transaction"
      · simp [begins, Evidence.handler]
      · by_cases ends : action = "stop_transaction"
        · simp [ends, Evidence.handler]
        · by_cases metered : action = "meter_values"
          · simp [metered, Evidence.handler]
          · simp [begins, ends, event, metered, Evidence.handler]
  unfold dispatch
  simp only [returns_bind, returns_lift, returns_throwIf]
  constructor
  · rintro ⟨connector, _, ⟨resolved, rfl⟩, protocol, _, ⟨spelled, rfl⟩, _, _, ⟨same, rfl⟩, occurredAt, _,
      ⟨occurred, rfl⟩, sourceAt, _, ⟨sourced, rfl⟩, run⟩
    obtain ⟨evidence, kind, run⟩ := (handled connector occurredAt sourceAt).mp run
    have same : connector.protocol = protocol := by simpa using same
    exact ⟨⟨connector, occurredAt, sourceAt, evidence, resolved, by rw [spelled, same], occurred, sourced,
      kind⟩, run⟩
  · rintro ⟨a, run⟩
    refine ⟨a.connector, s, ⟨a.resolved, rfl⟩, a.connector.protocol, s, ⟨a.protocol, rfl⟩, (), s,
      ⟨by simp, rfl⟩, a.occurredAt, s, ⟨a.occurred, rfl⟩, a.sourceAt, s, ⟨a.sourced, rfl⟩, ?_⟩
    exact (handled _ _ _).mpr ⟨a.evidence, a.kind, run⟩

/-- Events the handler looks at no further: about the station, outdated or about no connector. -/
def skips (data : Mixed) (action : String) (current : Bool) : Prop :=
  action ∈ stationActions ∨
    (action = "status_notification" ∧ (current = false ∨ isZero (data.get "connector_id") = true)) ∨
    action ∉ connectorActions

theorem handle_returns (env : Environment) (e : Envelope) (action : String) (s s' : Store) (u : Unit) :
    Returns (handle env e action) s u s' ↔
      ∃ data current s₁, e.data = .ok data ∧
        Returns (observeConnection env e data action) s current s₁ ∧
        ((skips data action current ∧ s' = s₁) ∨
          (¬ skips data action current ∧ Returns (dispatch env e data action) s₁ u s')) := by
  unfold handle
  simp only [returns_bind, returns_lift]
  constructor
  · rintro ⟨data, _, ⟨read, rfl⟩, current, s₁, observed, run⟩
    refine ⟨data, current, s₁, read, observed, ?_⟩
    simp only [returns_ite, returns_pure] at run
    unfold skips
    rcases run with ⟨skipped, -, rfl⟩ | ⟨notStation, ⟨unknown, -, rfl⟩ | ⟨known, run⟩⟩
    · exact Or.inl ⟨by tauto, rfl⟩
    · exact Or.inl ⟨by tauto, rfl⟩
    · exact Or.inr ⟨by tauto, run⟩
  · rintro ⟨data, current, s₁, read, observed, run⟩
    refine ⟨data, s, ⟨read, rfl⟩, current, s₁, observed, ?_⟩
    simp only [returns_ite, returns_pure]
    unfold skips at run
    rcases run with ⟨skipped, rfl⟩ | ⟨kept, run⟩
    · by_cases station : action ∈ stationActions ∨ (action = "status_notification" ∧
          (current = false ∨ isZero (data.get "connector_id") = true))
      · exact Or.inl ⟨station, trivial, rfl⟩
      · exact Or.inr ⟨station, Or.inl ⟨by tauto, trivial, rfl⟩⟩
    · exact Or.inr ⟨by tauto, Or.inr ⟨by tauto, run⟩⟩

end OcppEventConsumer
end VtsaCsms.Charging
