import VtsaCsms.Charging.ChargeDetailRecords

/-!
# What the charging services write

One inversion for each save, transition and service: from a successful run, the rows it
changed, and with the equation for the store that it changed no others.
-/
namespace VtsaCsms.Charging
open Foundation Foundation.Action Assets Tariffs

/-! ### Saves and locks -/

variable {key : Nat} {s s' : Store} {u : Unit} {env : Environment}

theorem saveSession_returns {f : ChargingSession → ChargingSession}
    (success : Returns (saveSession key f) s u s') :
    ∃ t, s' = { s with sessions := t } ∧ Indexed.Updated s.sessions t key f := by
  unfold saveSession onSessions at success
  rw [returns_focus] at success
  obtain ⟨t, saved, rfl⟩ := success
  exact ⟨t, rfl, Indexed.update_returns saved⟩

theorem saveCommand_returns {f : ChargerCommand → ChargerCommand}
    (success : Returns (saveCommand key f) s u s') :
    ∃ t, s' = { s with commands := t } ∧ Indexed.Updated s.commands t key f := by
  unfold saveCommand onCommands at success
  rw [returns_focus] at success
  obtain ⟨t, saved, rfl⟩ := success
  exact ⟨t, rfl, Indexed.update_returns saved⟩

theorem saveCdr_returns {f : ChargeDetailRecord → ChargeDetailRecord}
    (success : Returns (saveCdr key f) s u s') :
    ∃ t, s' = { s with cdrs := t } ∧ Indexed.Updated s.cdrs t key f := by
  unfold saveCdr onCdrs at success
  rw [returns_focus] at success
  obtain ⟨t, saved, rfl⟩ := success
  exact ⟨t, rfl, Indexed.update_returns saved⟩

theorem saveCustomer_returns {f : CustomerChargingSession → CustomerChargingSession}
    (success : Returns (saveCustomer key f) s u s') :
    ∃ t, s' = { s with customers := t } ∧ Indexed.Updated s.customers t key f := by
  unfold saveCustomer onCustomers at success
  rw [returns_focus] at success
  obtain ⟨t, saved, rfl⟩ := success
  exact ⟨t, rfl, Indexed.update_returns saved⟩

theorem saveReservation_returns {f : ConnectorReservation → ConnectorReservation}
    (success : Returns (saveReservation key f) s u s') :
    ∃ t, s' = { s with reservations := t } ∧ Indexed.Updated s.reservations t key f := by
  unfold saveReservation onReservations at success
  rw [returns_focus] at success
  obtain ⟨t, saved, rfl⟩ := success
  exact ⟨t, rfl, Indexed.update_returns saved⟩

@[simp] theorem lockSession_returns (key : Nat) (s s' : Store) (q : ChargingSession) :
    Returns (lockSession key) s q s' ↔ s.sessions.get? key = some q ∧ s' = s := by
  unfold lockSession
  simp only [returns_bind, returns_read, returns_orThrow]
  constructor
  · rintro ⟨_, _, ⟨rfl, rfl⟩, found, rfl⟩
    exact ⟨found, rfl⟩
  · rintro ⟨found, rfl⟩
    exact ⟨_, _, ⟨rfl, rfl⟩, found, rfl⟩

@[simp] theorem lockCommand_returns (key : Nat) (s s' : Store) (c : ChargerCommand) :
    Returns (lockCommand key) s c s' ↔ s.commands.get? key = some c ∧ s' = s := by
  unfold lockCommand
  simp only [returns_bind, returns_read, returns_orThrow]
  constructor
  · rintro ⟨_, _, ⟨rfl, rfl⟩, found, rfl⟩
    exact ⟨found, rfl⟩
  · rintro ⟨found, rfl⟩
    exact ⟨_, _, ⟨rfl, rfl⟩, found, rfl⟩

/-! ### Transitions -/

theorem ChargingSessionStateMachine.transition_returns
    {current next : ChargingSessionState} {q : ChargingSession}
    (success : Returns (ChargingSessionStateMachine.transition key current next) s u s')
    (stored : s.sessions.get? key = some q) (inState : q.state = current) :
    current.canTransitionTo next = true ∧ ∃ t version, s' = { s with sessions := t } ∧
      Indexed.Placed s.sessions t key { q with state := next, aggregateVersion := version } := by
  unfold transition at success
  rw [returns_ite] at success
  rcases success with ⟨same, success⟩ | ⟨-, success⟩
  · rw [returns_pure] at success
    obtain ⟨-, rfl⟩ := success
    subst same
    subst inState
    refine ⟨by simp [ChargingSessionState.canTransitionTo], s'.sessions, q.aggregateVersion, rfl, ?_⟩
    exact Indexed.Placed.self stored
  · simp only [returns_bind, returns_throwIf] at success
    obtain ⟨_, _, ⟨allowed, rfl⟩, saved⟩ := success
    obtain ⟨t, rfl, updated⟩ := saveSession_returns saved
    refine ⟨by simpa using allowed, t, q.aggregateVersion + 1, rfl, ?_⟩
    exact updated.placed stored

theorem ChargerCommandStateMachine.transition_returns
    {current next : ChargerCommandState} {c : ChargerCommand}
    (success : Returns (ChargerCommandStateMachine.transition env key current next) s u s')
    (stored : s.commands.get? key = some c) (inState : c.state = current) :
    current.canTransitionTo next = true ∧ ∃ t dispatched acknowledged,
      s' = { s with commands := t } ∧ Indexed.Placed s.commands t key
        { c with state := next, dispatchedAt := dispatched, acknowledgedAt := acknowledged } ∧
      (next ≠ .dispatched → dispatched = c.dispatchedAt) := by
  unfold transition at success
  rw [returns_ite] at success
  rcases success with ⟨same, success⟩ | ⟨-, success⟩
  · rw [returns_pure] at success
    obtain ⟨-, rfl⟩ := success
    subst same
    subst inState
    refine ⟨by simp [ChargerCommandState.canTransitionTo], s'.commands, c.dispatchedAt,
      c.acknowledgedAt, rfl, ?_, fun _ => rfl⟩
    exact Indexed.Placed.self stored
  · simp only [returns_bind, returns_throwIf] at success
    obtain ⟨_, _, ⟨allowed, rfl⟩, saved⟩ := success
    obtain ⟨t, rfl, updated⟩ := saveCommand_returns saved
    refine ⟨by simpa using allowed, t, _, _, rfl, updated.placed stored, ?_⟩
    intro other
    exact if_neg other

theorem ChargeDetailRecordStateMachine.transition_returns
    {current next : ChargeDetailRecordState} {c : ChargeDetailRecord}
    (success : Returns (ChargeDetailRecordStateMachine.transition key current next) s u s')
    (stored : s.cdrs.get? key = some c) (inState : c.state = current) :
    current.canTransitionTo next = true ∧ ∃ t, s' = { s with cdrs := t } ∧
      Indexed.Placed s.cdrs t key { c with state := next } := by
  unfold transition at success
  rw [returns_ite] at success
  rcases success with ⟨same, success⟩ | ⟨-, success⟩
  · rw [returns_pure] at success
    obtain ⟨-, rfl⟩ := success
    subst same
    subst inState
    refine ⟨by simp [ChargeDetailRecordState.canTransitionTo], s'.cdrs, rfl, ?_⟩
    exact Indexed.Placed.self stored
  · simp only [returns_bind, returns_throwIf] at success
    obtain ⟨_, _, ⟨allowed, rfl⟩, saved⟩ := success
    obtain ⟨t, rfl, updated⟩ := saveCdr_returns saved
    exact ⟨by simpa using allowed, t, rfl, updated.placed stored⟩

theorem ConnectorAvailabilityStateMachine.transition_returns {connectorId : String}
    {current next : ConnectorAvailability} {observedAt : Instant} (success : Returns
      (ConnectorAvailabilityStateMachine.transition connectorId current next observedAt) s u s') :
    current.canTransitionTo next = true ∧ ∃ statuses, s' = { s with connectorStatuses := statuses } := by
  unfold transition saveConnectorStatus at success
  rw [returns_ite] at success
  rcases success with ⟨same, success⟩ | ⟨-, success⟩
  · rw [returns_write] at success
    subst same
    exact ⟨by simp [ConnectorAvailability.canTransitionTo], _, success⟩
  · simp only [returns_bind, returns_throwIf, returns_write] at success
    obtain ⟨_, _, ⟨allowed, rfl⟩, written⟩ := success
    exact ⟨by simpa using allowed, _, written⟩

/-! ### Reservations and connectors -/

theorem ConnectorReservationService.release_returns {sessionId : Nat} {reason : String} {restore : Bool}
    (success : Returns (ConnectorReservationService.release env sessionId reason restore) s u s') :
    ∃ reservations statuses,
      s' = { s with reservations := reservations, connectorStatuses := statuses } := by
  unfold release at success
  simp only [returns_bind, returns_read] at success
  obtain ⟨found, _, ⟨-, rfl⟩, success⟩ := success
  cases found with
  | none =>
    rw [returns_pure] at success
    exact ⟨_, _, success.2⟩
  | some =>
    simp only [returns_bind, returns_read] at success
    obtain ⟨_, s₁, saved, held, _, ⟨-, rfl⟩, success⟩ := success
    obtain ⟨t, rfl, -⟩ := saveReservation_returns saved
    rw [returns_ite] at success
    rcases success with ⟨-, success⟩ | ⟨-, success⟩
    · rw [returns_pure] at success
      exact ⟨t, _, success.2⟩
    · simp only [returns_bind, returns_read] at success
      obtain ⟨status, _, ⟨-, rfl⟩, success⟩ := success
      cases status with
      | none =>
        rw [returns_pure] at success
        exact ⟨t, _, success.2⟩
      | some =>
        dsimp only at success
        rw [returns_ite] at success
        rcases success with ⟨-, success⟩ | ⟨-, success⟩
        · obtain ⟨-, statuses, rfl⟩ := ConnectorAvailabilityStateMachine.transition_returns success
          exact ⟨t, statuses, rfl⟩
        · rw [returns_pure] at success
          exact ⟨t, _, success.2⟩

/-! ### Cancelling and failing -/

/-- The bookkeeping columns a service may write beside the state. -/
structure Remarks where
  failureReason : Option String
  cancellationReason : Option String
  aggregateVersion : Nat

def ChargingSession.remarked (q : ChargingSession) (r : Remarks) : ChargingSession :=
  { q with failureReason := r.failureReason, cancellationReason := r.cancellationReason
           aggregateVersion := r.aggregateVersion }

theorem SessionLifecycleService.cancel_returns {reason : String}
    (success : Returns (SessionLifecycleService.cancel env key reason) s u s') :
    ∃ q t remarks reservations statuses, s.sessions.get? key = some q ∧
      q.state.isPhysicallyActive = false ∧ q.startedAt = none ∧
      q.state.canTransitionTo .cancelled = true ∧
      s' = { s with sessions := t, reservations := reservations, connectorStatuses := statuses } ∧
      Indexed.Placed s.sessions t key { q.remarked remarks with state := .cancelled } := by
  unfold cancel at success
  simp only [returns_transaction, returns_bind, returns_throwIf, lockSession_returns] at success
  obtain ⟨q, _, ⟨stored, rfl⟩, _, _, ⟨unstarted, rfl⟩, _, _, saved, _, _, cancelled, released⟩ := success
  obtain ⟨t₁, rfl, updated⟩ := saveSession_returns saved
  have placed := updated.placed stored
  obtain ⟨allowed, t₂, version, rfl, moved⟩ :=
    ChargingSessionStateMachine.transition_returns cancelled placed.get rfl
  obtain ⟨reservations, statuses, rfl⟩ := ConnectorReservationService.release_returns released
  rw [not_or] at unstarted
  refine ⟨q, t₂, ⟨q.failureReason, some reason, version⟩, reservations, statuses, stored,
    by simpa using unstarted.1, by simpa using unstarted.2, allowed, rfl, ?_⟩
  exact placed.trans moved

/-! ### Metering -/

theorem MeterValueService.firstOrCreateReading_returns {row : MeterReading}
    (success : Returns (MeterValueService.firstOrCreateReading row) s u s') :
    ∃ readings, s' = { s with readings := readings } := by
  unfold firstOrCreateReading onReadings at success
  simp only [returns_bind, returns_read, returns_ite] at success
  obtain ⟨_, _, ⟨-, rfl⟩, ⟨-, success⟩ | ⟨-, success⟩⟩ := success
  · rw [returns_pure] at success
    exact ⟨_, success.2⟩
  · simp only [returns_focus, returns_pure] at success
    obtain ⟨_, _, ⟨readings, -, rfl⟩, -, rfl⟩ := success
    exact ⟨readings, rfl⟩

theorem MeterValueService.recordSamples_returns {sessionId : Nat}
    {eventId : String} {receivedAt : Instant} {samples : List Mixed} {index : Nat}
    {latest : Option Instant} {anomalies result : List SessionAnomaly}
    (success : Returns (MeterValueService.recordSamples env sessionId eventId receivedAt samples index
      latest anomalies) s result s') : ∃ readings, s' = { s with readings := readings } := by
  induction samples generalizing index latest anomalies s with
  | nil =>
    rw [recordSamples, returns_pure] at success
    exact ⟨_, success.2⟩
  | cons _ _ ih =>
    unfold recordSamples at success
    rw [returns_ite, returns_ite] at success
    rcases success with ⟨-, success⟩ | ⟨-, ⟨-, success⟩ | ⟨-, success⟩⟩
    · exact ih success
    · exact ih success
    · split at success
      · exact ih success
      · simp only [returns_bind] at success
        obtain ⟨_, _, created, success⟩ := success
        obtain ⟨_, rfl⟩ := firstOrCreateReading_returns created
        obtain ⟨readings, rfl⟩ := ih success
        exact ⟨readings, rfl⟩

theorem MeterValueService.markResets_returns {keys : List Nat}
    (success : Returns (MeterValueService.markResets keys) s u s') :
    ∃ readings, s' = { s with readings := readings } := by
  induction keys generalizing s with
  | nil =>
    rw [markResets, returns_pure] at success
    exact ⟨_, success.2⟩
  | cons _ _ ih =>
    simp only [markResets, onReadings, returns_bind, returns_focus] at success
    obtain ⟨_, _, ⟨_, -, rfl⟩, success⟩ := success
    obtain ⟨readings, rfl⟩ := ih success
    exact ⟨readings, rfl⟩

theorem MeterValueService.record_returns {eventId : String} {samples : List Mixed} {receivedAt : Instant}
    (success : Returns (MeterValueService.record env key eventId samples receivedAt) s u s') :
    ∃ q m t readings, s.sessions.get? key = some q ∧
      s' = { s with sessions := t, readings := readings } ∧
      Indexed.Placed s.sessions t key (applyMeasured m receivedAt q) := by
  unfold record at success
  simp only [returns_transaction, returns_bind, returns_read, returns_lift, lockSession_returns]
    at success
  obtain ⟨q, _, ⟨stored, rfl⟩, _, _, ⟨-, rfl⟩, anomalies, _, recorded, _, _, ⟨-, rfl⟩, _, _, marked,
    _, _, ⟨-, rfl⟩, m, _, ⟨-, rfl⟩, saved⟩ := success
  obtain ⟨_, rfl⟩ := recordSamples_returns recorded
  obtain ⟨readings, rfl⟩ := markResets_returns marked
  obtain ⟨t, rfl, updated⟩ := saveSession_returns saved
  exact ⟨q, m, t, readings, stored, rfl, updated.placed stored⟩

/-! ### Charge detail records -/

namespace ChargeDetailRecordGenerator

variable {c : ChargeDetailRecord} {key cdrKey : Nat} {locked : ChargingSession} {s s' : Store}

theorem ChargeDetailRecord.sameVersion {t : Indexed Nat ChargeDetailRecord ChargeDetailRecord.clash}
    {k k' : Nat} {c' : ChargeDetailRecord} (stored : t.get? k = some c) (stored' : t.get? k' = some c')
    (session : c.sessionId = c'.sessionId) (version : c.version = c'.version) : k = k' := by
  refine t.unique k k' c c' stored stored' ?_
  simp [ChargeDetailRecord.clash, session, version]

theorem latestFinalized_iff (s : Store) (sessionId key : Nat) (c : ChargeDetailRecord) :
    latestFinalized s sessionId = some (key, c) ↔
      s.cdrs.get? key = some c ∧ c.sessionId = sessionId ∧ c.state = .finalized ∧
        ∀ k row, s.cdrs.get? k = some row → row.sessionId = sessionId → row.state = .finalized →
          row.version ≤ c.version := by
  unfold latestFinalized
  constructor
  · intro found
    obtain ⟨member, highest⟩ := latestBy_some found
    rw [Indexed.mem_rowsWhere] at member
    obtain ⟨stored, selected⟩ := member
    simp only [Bool.and_eq_true, decide_eq_true_eq] at selected
    refine ⟨stored, selected.1, selected.2, ?_⟩
    intro k row stored' session finalized
    refine highest (k, row) ?_
    rw [Indexed.mem_rowsWhere]
    exact ⟨stored', by simp [session, finalized]⟩
  · rintro ⟨stored, session, finalized, highest⟩
    have member : (key, c) ∈ s.cdrs.rowsWhere fun _ c => c.sessionId = sessionId && c.state = .finalized := by
      rw [Indexed.mem_rowsWhere]
      exact ⟨stored, by simp [session, finalized]⟩
    obtain ⟨⟨k, last⟩, found⟩ := latestBy_isSome (fun row => row.2.version) member
    obtain ⟨member', highest'⟩ := latestBy_some found
    rw [Indexed.mem_rowsWhere] at member'
    obtain ⟨stored', selected⟩ := member'
    simp only [Bool.and_eq_true, decide_eq_true_eq] at selected
    have version : last.version = c.version :=
      le_antisymm (highest k last stored' selected.1 selected.2) (highest' (key, c) member)
    have same : k = key := ChargeDetailRecord.sameVersion stored' stored
      (selected.1.trans session.symm) version
    subst same
    rw [stored] at stored'
    rw [found, ← Option.some.inj stored']

theorem openCdr_returns (success : Returns (openCdr key locked) s (cdrKey, c) s') :
    ∃ cdrs, s' = { s with cdrs := cdrs } ∧ Indexed.Placed s.cdrs cdrs cdrKey c ∧ c.sessionId = key ∧
      (∀ old, s.cdrs.get? cdrKey = some old → old.sessionId = key) ∧
      ∀ k row, s.cdrs.get? k = some row → row.sessionId = key → k ≠ cdrKey →
        row.version < c.version := by
  have created : ∀ (row : ChargeDetailRecord) (s' : Store), row.sessionId = key →
      (∀ k other, s.cdrs.get? k = some other → other.sessionId = key → other.version < row.version) →
      Returns (do
        let newKey ← onCdrs (Indexed.create "cdr_session_version_unique" row)
        pure (newKey, row)) s (cdrKey, c) s' →
      ∃ cdrs, s' = { s with cdrs := cdrs } ∧ Indexed.Placed s.cdrs cdrs cdrKey c ∧ c.sessionId = key ∧
        (∀ old, s.cdrs.get? cdrKey = some old → old.sessionId = key) ∧
        ∀ k row, s.cdrs.get? k = some row → row.sessionId = key → k ≠ cdrKey →
          row.version < c.version := by
    intro row s' session higher success
    simp only [onCdrs, returns_bind, returns_focus, returns_pure, Prod.mk.injEq] at success
    obtain ⟨newKey, _, ⟨cdrs, created, rfl⟩, ⟨rfl, rfl⟩, rfl⟩ := success
    have created := Indexed.create_returns created
    refine ⟨cdrs, rfl, created.placed, session, ?_, fun k other stored same _ => higher k other stored same⟩
    intro old stored
    rw [created.fresh] at stored
    contradiction
  unfold openCdr at success
  simp only [returns_bind, returns_read] at success
  obtain ⟨latest, s, ⟨found, rfl⟩, success⟩ := success
  cases latest with
  | none =>
    refine created _ _ rfl ?_ success
    intro k other stored session
    have member : (k, other) ∈ s.cdrs.rowsWhere fun _ c => c.sessionId = key := by
      rw [Indexed.mem_rowsWhere]
      exact ⟨stored, by simp [session]⟩
    obtain ⟨last, present⟩ := latestBy_isSome (fun row => row.2.version) member
    rw [latestCdr, present] at found
    contradiction
  | some row =>
    obtain ⟨k₀, c₀⟩ := row
    obtain ⟨member, highest⟩ := latestBy_some found.symm
    rw [Indexed.mem_rowsWhere] at member
    obtain ⟨stored₀, session₀⟩ := member
    have session₀ : c₀.sessionId = key := by simpa using session₀
    have below : ∀ k other, s.cdrs.get? k = some other → other.sessionId = key →
        other.version ≤ c₀.version := by
      intro k other stored session
      refine highest (k, other) ?_
      rw [Indexed.mem_rowsWhere]
      exact ⟨stored, by simp [session]⟩
    dsimp only at success
    rw [returns_ite] at success
    rcases success with ⟨-, success⟩ | ⟨-, success⟩
    · refine created _ _ rfl ?_ success
      intro k other stored session
      have := below k other stored session
      show other.version < c₀.version + 1
      omega
    · simp only [returns_pure, Prod.mk.injEq] at success
      obtain ⟨⟨rfl, rfl⟩, rfl⟩ := success
      refine ⟨s'.cdrs, rfl, Indexed.Placed.self stored₀, session₀, ?_, ?_⟩
      · intro old stored
        rw [stored₀] at stored
        rw [← Option.some.inj stored, session₀]
      · intro k other stored session different
        refine lt_of_le_of_ne (below k other stored session) ?_
        intro version
        exact different (ChargeDetailRecord.sameVersion stored stored₀ (session.trans session₀.symm) version)

/-- The evidence blocks the record: it waits for a review, and so does a finalizing session. -/
structure SentToReview (q q' : ChargingSession) (c : ChargeDetailRecord) : Prop where
  record : c.state = .reviewRequired
  session : ∃ state version, q' = { q with state := state, aggregateVersion := version } ∧
    (q.state = .finalizing → state = .reviewRequired) ∧ (q.state ≠ .finalizing → state = q.state)

/-- The record is finalized and the session completed with the same rating. -/
structure Finalized (env : Environment) (outcome : String) (q q' : ChargingSession)
    (c : ChargeDetailRecord) : Prop where
  ended : q.state = .finalizing ∨ q.state = .reviewRequired ∨ q.state = .completed
  values : ∃ snapshot c₀ version,
    q' = { fillSession snapshot.rating outcome (outcome ≠ "unbillable") q with
      state := .completed, aggregateVersion := version } ∧
    c = { fillCdr env q snapshot (outcome ≠ "unbillable") c₀ with state := .finalized }

theorem blocked_returns {state : ChargeDetailRecordState} {u : Unit}
    (success : Returns (blocked key cdrKey locked state) s u s')
    (session : s.sessions.get? key = some locked) (record : s.cdrs.get? cdrKey = some c)
    (inState : c.state = state) :
    ∃ t cdrs q' c', s' = { s with sessions := t, cdrs := cdrs } ∧ Indexed.Placed s.sessions t key q' ∧
      Indexed.Placed s.cdrs cdrs cdrKey c' ∧ c'.sessionId = c.sessionId ∧ c'.version = c.version ∧
      SentToReview locked q' c' := by
  unfold blocked at success
  simp only [returns_bind, returns_ite] at success
  obtain ⟨_, _, sent, success⟩ := success
  obtain ⟨-, cdrs, rfl, placed⟩ := ChargeDetailRecordStateMachine.transition_returns sent record inState
  rcases success with ⟨finalizing, success⟩ | ⟨other, done⟩
  · obtain ⟨-, t, version, rfl, moved⟩ :=
      ChargingSessionStateMachine.transition_returns success session rfl
    exact ⟨t, cdrs, _, _, rfl, moved, placed, rfl, rfl,
      ⟨rfl, _, version, rfl, fun _ => rfl, fun different => absurd finalizing different⟩⟩
  · rw [returns_pure] at done
    obtain ⟨-, rfl⟩ := done
    refine ⟨s.sessions, cdrs, locked, _, rfl, Indexed.Placed.self session, placed, rfl, rfl, ⟨rfl, ?_⟩⟩
    exact ⟨locked.state, locked.aggregateVersion, rfl, fun same => absurd same other, fun _ => rfl⟩

theorem finalize_returns {env : Environment}
    {state : ChargeDetailRecordState} {flow : EnergyFlowDuration.Flow} {anomalies : List SessionAnomaly}
    {outcome : String} {u : Unit}
    (success : Returns (finalize env key cdrKey locked state flow anomalies outcome) s u s')
    (session : s.sessions.get? key = some locked) (record : s.cdrs.get? cdrKey = some c)
    (inState : c.state = state) :
    ∃ t cdrs q' c', s' = { s with sessions := t, cdrs := cdrs } ∧ Indexed.Placed s.sessions t key q' ∧
      Indexed.Placed s.cdrs cdrs cdrKey c' ∧ c'.sessionId = c.sessionId ∧ c'.version = c.version ∧
      Finalized env outcome locked q' c' := by
  unfold finalize at success
  simp only [returns_bind, returns_lift] at success
  obtain ⟨rating, _, ⟨-, rfl⟩, _, _, fills, _, _, closes, _, _, totals', success⟩ := success
  obtain ⟨cdrs₁, rfl, written⟩ := saveCdr_returns fills
  have filled := written.placed record
  obtain ⟨-, cdrs, rfl, closed⟩ :=
    ChargeDetailRecordStateMachine.transition_returns closes filled.get inState
  obtain ⟨t₁, rfl, summed⟩ := saveSession_returns totals'
  have totals := summed.placed session
  rw [returns_ite] at success
  rcases success with ⟨review, success⟩ | ⟨-, completes⟩
  · rw [returns_bind] at success
    obtain ⟨_, _, reopens, completes⟩ := success
    obtain ⟨-, t₂, _, rfl, reopened⟩ :=
      ChargingSessionStateMachine.transition_returns reopens totals.get rfl
    obtain ⟨-, t, version, rfl, completed⟩ :=
      ChargingSessionStateMachine.transition_returns completes reopened.get rfl
    refine ⟨t, cdrs, _, _, rfl, (totals.trans reopened).trans completed, filled.trans closed, rfl, rfl,
      ⟨Or.inr (Or.inl review), _, c, version, rfl, rfl⟩⟩
  · obtain ⟨allowed, t, version, rfl, completed⟩ :=
      ChargingSessionStateMachine.transition_returns completes totals.get rfl
    refine ⟨t, cdrs, _, _, rfl, totals.trans completed, filled.trans closed, rfl, rfl,
      ⟨?_, _, c, version, rfl, rfl⟩⟩
    generalize locked.state = before at allowed
    cases before <;> simp_all [ChargingSessionState.canTransitionTo, ChargingSessionState.successors]

theorem generate_returns {env : Environment} {approved : Bool} {outcome : String}
    {u : Unit} (success : Returns (generate env key approved outcome) s u s') :
    ∃ q t cdrs q' cdrKey c, s.sessions.get? key = some q ∧
      s' = { s with sessions := t, cdrs := cdrs } ∧ Indexed.Placed s.sessions t key q' ∧
      Indexed.Placed s.cdrs cdrs cdrKey c ∧ c.sessionId = key ∧
      (∀ old, s.cdrs.get? cdrKey = some old → old.sessionId = key) ∧
      (∀ k row, s.cdrs.get? k = some row → row.sessionId = key → k ≠ cdrKey →
        row.version < c.version) ∧
      ((approved = false ∧ SentToReview q q' c) ∨ Finalized env outcome q q' c) := by
  unfold generate at success
  simp only [returns_transaction, returns_bind, returns_read, returns_lift, lockSession_returns]
    at success
  obtain ⟨q, s, ⟨stored, rfl⟩, ⟨cdrKey, c⟩, _, opens, success⟩ := success
  obtain ⟨cdrs₁, rfl, opened, session, old, higher⟩ := openCdr_returns opens
  simp only [returns_ite] at success
  obtain ⟨_, _, begins, _, _, ⟨-, rfl⟩, flow, _, ⟨-, rfl⟩, success⟩ := success
  obtain ⟨-, cdrs₂, rfl, restarted⟩ :=
    ChargeDetailRecordStateMachine.transition_returns begins opened.get rfl
  have upToHere := opened.trans restarted
  rcases success with ⟨⟨-, unapproved⟩, success⟩ | ⟨-, success⟩
  · obtain ⟨t, cdrs, q', c', rfl, placed, record, same, version, sent⟩ :=
      blocked_returns success stored restarted.get rfl
    refine ⟨q, t, cdrs, q', cdrKey, c', stored, rfl, placed, upToHere.trans record,
      same.trans session, old, ?_, Or.inl ⟨unapproved, sent⟩⟩
    intro k row stored' session' different
    rw [version]
    exact higher k row stored' session' different
  · obtain ⟨t, cdrs, q', c', rfl, placed, record, same, version, final⟩ :=
      finalize_returns success stored restarted.get rfl
    refine ⟨q, t, cdrs, q', cdrKey, c', stored, rfl, placed, upToHere.trans record,
      same.trans session, old, ?_, Or.inr final⟩
    intro k row stored' session' different
    rw [version]
    exact higher k row stored' session' different

end ChargeDetailRecordGenerator
end VtsaCsms.Charging
