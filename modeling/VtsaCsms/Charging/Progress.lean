import VtsaCsms.Charging.Effects

/-!
# When a service returns

Saves, transitions and releases throw for two reasons only: a forbidden edge and a unique
index. Here are the rows under which they do not.
-/
namespace VtsaCsms.Charging
open Foundation Foundation.Action Tariffs

/-! ### Saves -/

/-- A row that says the same to the indexes and occupies no connector it did not occupy. -/
structure Quieter (q q' : ChargingSession) : Prop where
  station : q'.chargingStationId = q.chargingStationId
  protocol : q'.protocol = q.protocol
  connector : q'.connectorId = q.connectorId
  transaction : q'.protocolTransactionId = q.protocolTransactionId
  occupies : q'.state.occupiesConnector = true → q.state.occupiesConnector = true

theorem Quieter.weaker {q q' : ChargingSession} (quieter : Quieter q q') (x : ChargingSession) :
    (ChargingSession.clash q' x = true → ChargingSession.clash q x = true) ∧
      (ChargingSession.clash x q' = true → ChargingSession.clash x q = true) := by
  obtain ⟨station, protocol, connector, transaction, occupies⟩ := quieter
  simp only [ChargingSession.clash, station, protocol, connector, transaction, Bool.or_eq_true,
    Bool.and_eq_true]
  constructor
  · rintro (held | ⟨⟨busy, other⟩, same⟩)
    · exact Or.inl held
    · exact Or.inr ⟨⟨occupies busy, other⟩, same⟩
  · rintro (held | ⟨⟨other, busy⟩, same⟩)
    · exact Or.inl held
    · exact Or.inr ⟨⟨other, occupies busy⟩, same⟩

variable {s : Store}

theorem saveSession_succeeds (key : Nat) {f : ChargingSession → ChargingSession}
    (tolerated : ∀ q, s.sessions.get? key = some q → s.sessions.clashes key (f q) = false) :
    ∃ t, Returns (saveSession key f) s () { s with sessions := t } := by
  obtain ⟨t, saved⟩ := Indexed.update_succeeds "charging_sessions" key tolerated
  refine ⟨t, ?_⟩
  unfold saveSession onSessions
  rw [returns_focus]
  exact ⟨t, saved, rfl⟩

theorem saveSession_quieter (key : Nat) {f : ChargingSession → ChargingSession}
    (quieter : ∀ q, s.sessions.get? key = some q → Quieter q (f q)) :
    ∃ t, Returns (saveSession key f) s () { s with sessions := t } :=
  saveSession_succeeds key fun q stored => Indexed.clashes_of_weaker stored (quieter q stored).weaker

theorem saveCommand_succeeds (key : Nat) {f : ChargerCommand → ChargerCommand}
    (same : ∀ c, (f c).idempotencyKey = c.idempotencyKey) :
    ∃ t, Returns (saveCommand key f) s () { s with commands := t } := by
  obtain ⟨t, saved⟩ := Indexed.update_succeeds "charging_command_idempotency_unique" key
    (t := s.commands) (f := f) fun c stored => Indexed.clashes_of_weaker stored fun x => by
      unfold ChargerCommand.clash
      rw [same]
      exact ⟨fun clashes => clashes, fun clashes => clashes⟩
  refine ⟨t, ?_⟩
  unfold saveCommand onCommands
  rw [returns_focus]
  exact ⟨t, saved, rfl⟩

theorem saveReservation_released (key : Nat) {f : ConnectorReservation → ConnectorReservation}
    (released : ∀ r, (f r).releasedAt.isSome = true) :
    ∃ t, Returns (saveReservation key f) s () { s with reservations := t } := by
  obtain ⟨t, saved⟩ := Indexed.update_succeeds "connector_one_open_reservation_unique" key
    (t := s.reservations) (f := f) fun r stored => Indexed.clashes_of_weaker stored fun x => by
      have closed : (f r).releasedAt ≠ none := Option.isSome_iff_ne_none.mp (released r)
      simp [ConnectorReservation.clash, closed]
  refine ⟨t, ?_⟩
  unfold saveReservation onReservations
  rw [returns_focus]
  exact ⟨t, saved, rfl⟩

/-! ### Transitions -/

theorem ChargingSessionStateMachine.transition_succeeds (key : Nat) (current next : ChargingSessionState)
    (allowed : current.canTransitionTo next = true)
    (inState : ∀ q, s.sessions.get? key = some q → q.state = current)
    (occupies : next.occupiesConnector = true → current.occupiesConnector = true) :
    ∃ t, Returns (transition key current next) s () { s with sessions := t } := by
  unfold transition
  simp only [returns_ite, returns_pure, returns_bind, returns_throwIf]
  by_cases same : current = next
  · exact ⟨s.sessions, Or.inl ⟨same, trivial, rfl⟩⟩
  · obtain ⟨t, saved⟩ := saveSession_quieter key (s := s)
      (f := fun q => { q with state := next, aggregateVersion := q.aggregateVersion + 1 })
      fun q stored => ⟨rfl, rfl, rfl, rfl, fun busy => by rw [inState q stored]; exact occupies busy⟩
    exact ⟨t, Or.inr ⟨same, (), s, ⟨by simp [allowed], rfl⟩, saved⟩⟩

theorem ChargerCommandStateMachine.transition_succeeds (env : Environment) (key : Nat)
    (current next : ChargerCommandState) (s : Store) (allowed : current.canTransitionTo next = true) :
    ∃ t, Returns (transition env key current next) s () { s with commands := t } := by
  unfold transition
  simp only [returns_ite, returns_pure, returns_bind, returns_throwIf]
  by_cases same : current = next
  · exact ⟨s.commands, Or.inl ⟨same, trivial, rfl⟩⟩
  · obtain ⟨t, saved⟩ := saveCommand_succeeds key (s := s) (f := fun c => { c with
      state := next
      dispatchedAt := if next = .dispatched then some env.now.toSecond else c.dispatchedAt
      acknowledgedAt :=
        if next = .acknowledged ∨ next = .rejected then some env.now.toSecond else c.acknowledgedAt })
      fun _ => rfl
    exact ⟨t, Or.inr ⟨same, (), s, ⟨by simp [allowed], rfl⟩, saved⟩⟩

theorem ConnectorAvailabilityStateMachine.transition_succeeds (connectorId : String)
    (current next : ConnectorAvailability) (observedAt : Instant) (s : Store)
    (allowed : current.canTransitionTo next = true) :
    ∃ statuses, Returns (transition connectorId current next observedAt) s ()
      { s with connectorStatuses := statuses } := by
  unfold transition saveConnectorStatus
  simp only [returns_ite, returns_write, returns_bind, returns_throwIf]
  by_cases same : current = next
  · exact ⟨_, Or.inl ⟨same, rfl⟩⟩
  · exact ⟨_, Or.inr ⟨same, (), s, ⟨by simp [allowed], rfl⟩, rfl⟩⟩

theorem ConnectorReservationService.release_succeeds (env : Environment) (sessionId : Nat)
    (reason : String) (restore : Bool) (s : Store) :
    ∃ reservations statuses, Returns (release env sessionId reason restore) s ()
      { s with reservations := reservations, connectorStatuses := statuses } := by
  unfold release
  simp only [returns_bind, returns_read]
  cases found : s.reservations.first? fun _ r => r.sessionId = sessionId && r.releasedAt = none with
  | none => exact ⟨s.reservations, s.connectorStatuses, _, _, ⟨rfl, rfl⟩, rfl⟩
  | some row =>
    obtain ⟨t, saved⟩ := saveReservation_released row.1 (s := s)
      (f := fun r => { r with releasedAt := some env.now.toSecond, releaseReason := some reason })
      fun _ => rfl
    by_cases kept : restore = false ∨ (t.exists? fun _ r => r.connectorId = row.2.connectorId &&
        r.releasedAt = none && env.now.toSecond < r.expiresAt) = true
    · refine ⟨t, s.connectorStatuses, _, _, ⟨rfl, rfl⟩, ?_⟩
      simp only [returns_bind, returns_read, returns_ite, returns_pure]
      exact ⟨(), _, saved, _, _, ⟨rfl, rfl⟩, Or.inl ⟨kept, trivial, rfl⟩⟩
    · cases status : s.connectorStatuses.get? row.2.connectorId with
      | none =>
        refine ⟨t, s.connectorStatuses, _, _, ⟨rfl, rfl⟩, ?_⟩
        simp only [returns_bind, returns_read, returns_ite, returns_pure]
        exact ⟨(), _, saved, _, _, ⟨rfl, rfl⟩, Or.inr ⟨kept, _, _, ⟨status.symm, rfl⟩, by simp⟩⟩
      | some current =>
        by_cases reserved : current.status = .reserved
        · obtain ⟨statuses, restored⟩ := ConnectorAvailabilityStateMachine.transition_succeeds
            row.2.connectorId current.status .available env.now { s with reservations := t }
            (show current.status.canTransitionTo .available = true by rw [reserved]; rfl)
          refine ⟨t, statuses, _, _, ⟨rfl, rfl⟩, ?_⟩
          simp only [returns_bind, returns_read, returns_ite, returns_pure]
          refine ⟨(), _, saved, _, _, ⟨rfl, rfl⟩, Or.inr ⟨kept, _, _, ⟨status.symm, rfl⟩, ?_⟩⟩
          show Returns (if current.status = .reserved then _ else _) _ _ _
          rw [if_pos reserved]
          exact restored
        · refine ⟨t, s.connectorStatuses, _, _, ⟨rfl, rfl⟩, ?_⟩
          simp only [returns_bind, returns_read, returns_ite, returns_pure]
          refine ⟨(), _, saved, _, _, ⟨rfl, rfl⟩, Or.inr ⟨kept, _, _, ⟨status.symm, rfl⟩, ?_⟩⟩
          show Returns (if current.status = .reserved then _ else _) _ _ _
          rw [if_neg reserved]
          rfl

/-! ### Records -/

theorem saveCdr_succeeds (key : Nat) {f : ChargeDetailRecord → ChargeDetailRecord}
    (same : ∀ c, (f c).sessionId = c.sessionId ∧ (f c).version = c.version) :
    ∃ t, Returns (saveCdr key f) s () { s with cdrs := t } := by
  obtain ⟨t, saved⟩ := Indexed.update_succeeds "cdr_session_version_unique" key
    (t := s.cdrs) (f := f) fun c stored => Indexed.clashes_of_weaker stored fun x => by
      unfold ChargeDetailRecord.clash
      rw [(same c).1, (same c).2]
      exact ⟨fun clashes => clashes, fun clashes => clashes⟩
  refine ⟨t, ?_⟩
  unfold saveCdr onCdrs
  rw [returns_focus]
  exact ⟨t, saved, rfl⟩

theorem ChargeDetailRecordStateMachine.transition_succeeds (key : Nat)
    (current next : ChargeDetailRecordState) (s : Store) (allowed : current.canTransitionTo next = true) :
    ∃ t, Returns (transition key current next) s () { s with cdrs := t } := by
  unfold transition
  simp only [returns_ite, returns_pure, returns_bind, returns_throwIf]
  by_cases same : current = next
  · exact ⟨s.cdrs, Or.inl ⟨same, trivial, rfl⟩⟩
  · obtain ⟨t, saved⟩ := saveCdr_succeeds key (s := s) (f := fun c => { c with state := next })
      fun _ => ⟨rfl, rfl⟩
    exact ⟨t, Or.inr ⟨same, (), s, ⟨by simp [allowed], rfl⟩, saved⟩⟩

/-- Another session takes up the connector of this one. -/
def Occupied (s : Store) (key : Nat) (q : ChargingSession) : Prop :=
  ∃ k row, k ≠ key ∧ s.sessions.get? k = some row ∧ row.connectorId = q.connectorId ∧
    row.state.occupiesConnector = true

namespace ChargeDetailRecordGenerator

theorem openCdr_succeeds (key : Nat) (locked : ChargingSession) (s : Store) :
    ∃ cdrKey c t, Returns (openCdr key locked) s (cdrKey, c) { s with cdrs := t } ∧
      (c.state = .pending ∨
        (s.cdrs.get? cdrKey = some c ∧ c.state ≠ .finalized ∧ c.state ≠ .superseded)) := by
  have creates : ∀ row : ChargeDetailRecord, row.sessionId = key →
      (∀ k other, s.cdrs.get? k = some other → other.sessionId = key → other.version < row.version) →
      ∃ newKey t, Returns (do
        let newKey ← onCdrs (Indexed.create "cdr_session_version_unique" row)
        pure (newKey, row)) s (newKey, row) { s with cdrs := t } := by
    intro row session higher
    have tolerated : s.cdrs.clashes s.cdrs.nextId row = false := by
      rw [Bool.eq_false_iff, Ne, Indexed.clashes_iff]
      rintro ⟨k, other, stored, -, clash⟩
      simp only [ChargeDetailRecord.clash, Bool.and_eq_true, decide_eq_true_eq] at clash
      have same : other.sessionId = key ∧ other.version = row.version := by
        rcases clash with ⟨a, b⟩ | ⟨a, b⟩
        · exact ⟨a.symm.trans session, b.symm⟩
        · exact ⟨a.trans session, b⟩
      have := higher k other stored same.1
      omega
    obtain ⟨t, created⟩ := Indexed.create_succeeds "cdr_session_version_unique" tolerated
    refine ⟨s.cdrs.nextId, t, ?_⟩
    unfold onCdrs
    simp only [returns_bind, returns_focus, returns_pure]
    exact ⟨_, _, ⟨t, created, rfl⟩, rfl, rfl⟩
  unfold openCdr
  simp only [returns_bind, returns_read]
  cases found : latestCdr s key with
  | none =>
    let row : ChargeDetailRecord :=
      { sessionId := key, version := 1, currency := locked.currency, energyWh := locked.energyWh
        durationSeconds := locked.durationSeconds }
    obtain ⟨newKey, t, created⟩ := creates row rfl (by
      intro k other stored session
      have member : (k, other) ∈ s.cdrs.rowsWhere fun _ c => c.sessionId = key := by
        rw [Indexed.mem_rowsWhere]
        exact ⟨stored, by simp [session]⟩
      obtain ⟨last, present⟩ := latestBy_isSome (fun row => row.2.version) member
      rw [latestCdr, present] at found
      contradiction)
    exact ⟨newKey, row, t, ⟨none, s, ⟨rfl, rfl⟩, created⟩, Or.inl rfl⟩
  | some row =>
    obtain ⟨k₀, c₀⟩ := row
    obtain ⟨member, highest⟩ := latestBy_some found
    rw [Indexed.mem_rowsWhere] at member
    by_cases closed : c₀.state = .finalized ∨ c₀.state = .superseded
    · let row : ChargeDetailRecord :=
        { sessionId := key, version := c₀.version + 1, currency := locked.currency
          energyWh := locked.energyWh, durationSeconds := locked.durationSeconds }
      obtain ⟨newKey, t, created⟩ := creates row rfl (by
        intro k other stored session
        have below : other.version ≤ c₀.version := highest (k, other) (by
          rw [Indexed.mem_rowsWhere]
          exact ⟨stored, by simp [session]⟩)
        show other.version < c₀.version + 1
        omega)
      refine ⟨newKey, row, t, ⟨_, s, ⟨rfl, rfl⟩, ?_⟩, Or.inl rfl⟩
      show Returns (if _ then _ else _) _ _ _
      rw [if_pos closed]
      exact created
    · refine ⟨k₀, c₀, s.cdrs, ⟨_, s, ⟨rfl, rfl⟩, ?_⟩, Or.inr ⟨member.1, ?_, ?_⟩⟩
      · show Returns (if _ then _ else _) _ _ _
        rw [if_neg closed]
        rfl
      · exact fun same => closed (Or.inl same)
      · exact fun same => closed (Or.inr same)

theorem finalize_succeeds (env : Environment) (key cdrKey : Nat) {locked : ChargingSession}
    {flow : EnergyFlowDuration.Flow} (anomalies : List SessionAnomaly) (outcome : String) {s : Store}
    {rating : RatingResult} (stored : s.sessions.get? key = some locked)
    (closing : locked.state.canTransitionTo .completed = true)
    (rated : TariffEngine.rate env.clock locked.tariffSnapshot (ratingInput locked flow) = .ok rating)
    (free : locked.state = .reviewRequired → ¬ Occupied s key locked) :
    ∃ s', Returns (finalize env key cdrKey locked .generating flow anomalies outcome) s () s' := by
  unfold finalize
  simp only [returns_bind, returns_lift]
  obtain ⟨cdrs₁, filled⟩ := saveCdr_succeeds cdrKey (s := s)
    (f := fillCdr env locked (snapshotOf locked flow rating anomalies outcome) (outcome ≠ "unbillable"))
    fun _ => ⟨rfl, rfl⟩
  obtain ⟨cdrs₂, closed⟩ := ChargeDetailRecordStateMachine.transition_succeeds cdrKey
    .generating .finalized { s with cdrs := cdrs₁ } rfl
  obtain ⟨t₁, totals⟩ := saveSession_quieter key (s := { s with cdrs := cdrs₂ })
    (f := fillSession rating outcome (outcome ≠ "unbillable")) fun _ _ => ⟨rfl, rfl, rfl, rfl, id⟩
  obtain ⟨t₁', same, updated⟩ := saveSession_returns totals
  have row := (updated.placed stored).get
  cases same
  by_cases review : locked.state = .reviewRequired
  · have tolerated : ∀ q, t₁.get? key = some q → t₁.clashes key { q with
        state := .finalizing, aggregateVersion := q.aggregateVersion + 1 } = false := by
      intro q found
      rw [row] at found
      cases found
      rw [Bool.eq_false_iff, Ne, Indexed.clashes_iff]
      rintro ⟨k, other, elsewhere, different, clash⟩
      have before : s.sessions.get? k = some other := by
        rw [← elsewhere, (updated.placed stored).other different]
      have unheld : ¬ ChargingSession.clash locked other = true ∧ ¬ ChargingSession.clash other locked = true :=
        ⟨fun clash => different (s.sessions.unique _ _ _ _ stored before clash).symm,
          fun clash => different (s.sessions.unique _ _ _ _ before stored clash)⟩
      apply free review
      refine ⟨k, other, different, before, ?_⟩
      simp only [ChargingSession.clash, fillSession, Bool.or_eq_true, Bool.and_eq_true, decide_eq_true_eq,
        not_or] at clash unheld
      rcases clash with (held | ⟨⟨-, busy⟩, connector⟩) | held | ⟨⟨busy, -⟩, connector⟩
      · exact absurd held unheld.1.1
      · exact ⟨connector.symm, busy⟩
      · exact absurd held unheld.2.1
      · exact ⟨connector, busy⟩
    obtain ⟨t₂, reopened⟩ := saveSession_succeeds key (s := { s with cdrs := cdrs₂, sessions := t₁ })
      (f := fun q => { q with state := .finalizing, aggregateVersion := q.aggregateVersion + 1 }) tolerated
    obtain ⟨_, same, updated₂⟩ := saveSession_returns reopened
    cases same
    obtain ⟨t₃, completed⟩ := ChargingSessionStateMachine.transition_succeeds key
      .finalizing .completed (s := { s with cdrs := cdrs₂, sessions := t₂ }) rfl (by
        intro q found
        rw [(updated₂.placed row).get] at found
        cases found
        rfl) (fun busy => by cases busy)
    refine ⟨{ s with cdrs := cdrs₂, sessions := t₃ }, rating, s, ⟨rated, rfl⟩, (), _, filled, (), _, closed,
      (), _, totals, ?_⟩
    rw [if_pos review, returns_bind, review]
    refine ⟨(), { s with cdrs := cdrs₂, sessions := t₂ }, ?_, completed⟩
    unfold ChargingSessionStateMachine.transition
    rw [if_neg (by decide), returns_bind]
    exact ⟨(), _, (returns_throwIf _ _ _ _ _).mpr ⟨by decide, rfl⟩, reopened⟩
  · obtain ⟨t₃, completed⟩ := ChargingSessionStateMachine.transition_succeeds key
      locked.state .completed (s := { s with cdrs := cdrs₂, sessions := t₁ }) closing (by
        intro q found
        rw [row] at found
        cases found
        rfl) (fun busy => by cases busy)
    refine ⟨{ s with cdrs := cdrs₂, sessions := t₃ }, rating, s, ⟨rated, rfl⟩, (), _, filled, (), _, closed,
      (), _, totals, ?_⟩
    rw [if_neg review]
    exact completed

/-- An approved generation returns where the session's evidence can be measured and rated and
its connector is free. -/
theorem generate_succeeds {env : Environment} {key : Nat} (outcome : String) {s : Store}
    {q : ChargingSession} {flow : EnergyFlowDuration.Flow} {rating : RatingResult}
    (stored : s.sessions.get? key = some q) (closing : q.state.canTransitionTo .completed = true)
    (filed : ∀ k c, s.cdrs.get? k = some c → c.state ≠ .failed)
    (measured : EnergyFlowDuration.measure env s key q = .ok flow)
    (rated : TariffEngine.rate env.clock q.tariffSnapshot (ratingInput q flow) = .ok rating)
    (free : q.state = .reviewRequired → ¬ Occupied s key q) :
    ∃ s', Returns (generate env key true outcome) s () s' := by
  obtain ⟨cdrKey, c, t, opened, state⟩ := openCdr_succeeds key q s
  have begins : begun c.state = .generating ∧ c.state.canTransitionTo .generating = true := by
    rcases state with pending | ⟨known, finalized, superseded⟩
    · rw [pending]
      decide
    · have unfailed := filed cdrKey c known
      generalize c.state = current at finalized superseded unfailed ⊢
      cases current <;> simp_all [begun, ChargeDetailRecordState.canTransitionTo,
        ChargeDetailRecordState.successors]
  obtain ⟨t₂, begun'⟩ := ChargeDetailRecordStateMachine.transition_succeeds cdrKey
    c.state .generating { s with cdrs := t } begins.2
  obtain ⟨s', finalized⟩ := finalize_succeeds env key cdrKey (anomaliesOf q flow) outcome
    (s := { s with cdrs := t₂ }) stored closing rated free
  refine ⟨s', ?_⟩
  unfold generate
  simp only [returns_transaction, returns_bind, returns_read, returns_lift, lockSession_returns]
  refine ⟨q, s, ⟨stored, rfl⟩, (cdrKey, c), _, opened, (), { s with cdrs := t₂ }, ?_, _, _, ⟨rfl, rfl⟩, flow, _,
    ⟨measured, rfl⟩, ?_⟩
  · rw [begins.1]
    exact begun'
  · rw [if_neg (by simp), begins.1]
    exact finalized

end ChargeDetailRecordGenerator
end VtsaCsms.Charging
