import VtsaCsms.Charging.Consumption
import VtsaCsms.Charging.Invariants

/-!
# Events make lifecycle moves

Each handler that returns has made one move at most, and the consumer no other than its
handler's. Measuring a completed session again is the one move that depends on the event.
-/
namespace VtsaCsms.Charging
open Foundation Foundation.Action Assets Tariffs
namespace OcppEventConsumer

/-! ### Rows -/

variable {sourceAt : Instant} {target : ChargingSessionState} {p : Permits} {env : Environment}
  {connector : ConnectorSnapshot} {e : Envelope} {data : Mixed} {s s' : Store} {u : Unit}

theorem measuredFrom_keeps {q q' : ChargingSession}
    (measured : MeasuredFrom sourceAt q q') : q'.identity = q.identity ∧ q'.standing = q.standing := by
  rcases measured with rfl | ⟨m, rfl⟩
  · exact ⟨rfl, rfl⟩
  · exact ⟨rfl, rfl⟩

theorem selected_cases (env : Environment) (s : Store) (connector : ConnectorSnapshot)
    (transactionId : String) (sourceAt : Instant) :
    s.sessions.get? (selected env s connector transactionId sourceAt).1 =
        some (selected env s connector transactionId sourceAt).2 ∨
      (s.sessions.get? (selected env s connector transactionId sourceAt).1 = none ∧
        (selected env s connector transactionId sourceAt).2 =
          reconstructedRow env connector transactionId sourceAt) := by
  unfold selected
  cases held : holder s connector transactionId with
  | some => exact Or.inl (holder_some held).1
  | none =>
    cases awaited : reservedFor s connector sourceAt with
    | some => exact Or.inl (reservedFor_some awaited).1
    | none => exact Or.inr ⟨Indexed.get?_nextId _, rfl⟩

theorem located_cases (env : Environment) (s : Store) (connector : ConnectorSnapshot)
    (transactionId : String) (sourceAt : Instant) :
    holder s connector transactionId = some (located env s connector transactionId sourceAt) ∨
      (s.sessions.get? (located env s connector transactionId sourceAt).1 = none ∧
        (located env s connector transactionId sourceAt).2 =
          reconstructedRow env connector transactionId sourceAt) := by
  unfold located
  cases held : holder s connector transactionId with
  | some => exact Or.inl rfl
  | none => exact Or.inr ⟨Indexed.get?_nextId _, rfl⟩

theorem entered_open {state : ChargingSessionState} (delivering : target.isDelivering = true)
    (allowed : (entered state).canTransitionTo target = true) :
    state.isAwaiting = true ∨ state.isPhysicallyActive = true := by
  cases target <;> first
    | contradiction
    | (cases state <;> first
        | exact Or.inl rfl
        | exact Or.inr rfl
        | contradiction)

theorem updatedTarget_delivering (word : String) : (updatedTarget word).isDelivering = true := by
  unfold updatedTarget
  split
  · rfl
  · split <;> rfl

theorem reached_entered (state : ChargingSessionState) (delivering : target.isDelivering = true) :
    (reached (entered state) target).isDelivering = true ∧
        (state.isAwaiting = true ∨ state.isPhysicallyActive = true) ∨
      reached (entered state) target = state := by
  unfold reached
  by_cases allowed : (entered state).canTransitionTo target = true
  · rw [if_pos allowed]
    exact Or.inl ⟨delivering, entered_open delivering allowed⟩
  · rw [if_neg allowed]
    by_cases requested : state = .requested
    · subst requested
      cases target <;> contradiction
    · exact Or.inr (if_neg requested)

theorem reached_requested (delivering : target.isDelivering = true) :
    (reached (entered .requested) target).isDelivering = true := by
  cases target <;> first
    | contradiction
    | rfl

/-! ### Handlers -/

/-- The transaction a handler measures, where it measures one. -/
def measuredTransaction (env : Environment) (data : Mixed) : Evidence → Option String
  | .meterValues =>
    if (data.get "protocol_transaction_id").isNull = true then none
    else (text env data "protocol_transaction_id").toOption
  | .updated => if samplesOf data = [] then none else (transactionId data).toOption
  | _ => none

def MeasuresCompleted (env : Environment) (s : Store) (connector : ConnectorSnapshot) (data : Mixed)
    (evidence : Evidence) : Prop :=
  ∃ T key q, measuredTransaction env data evidence = some T ∧
    holder s connector T = some (key, q) ∧ q.state = .completed

theorem start_moves
    (success : Returns (start env connector e data sourceAt) s u s') : Moves p s.core s'.core := by
  obtain ⟨T, authorization, t, statuses, reservations, readings, version, q', -, -, allowed, rfl, placed,
    measured⟩ := start_returns success
  obtain ⟨identity, standing⟩ := measuredFrom_keeps measured
  have state : q'.state = .charging := congrArg SessionStanding.state standing
  have transaction : q'.protocolTransactionId = some T :=
    congrArg (fun st => st.evidence.protocolTransactionId) standing
  have startedAt : q'.startedAt.isSome = true := by
    have same := congrArg (fun st => st.evidence.startedAt) standing
    change q'.startedAt = some _ at same
    rw [same]
    rfl
  apply Relation.ReflTransGen.single
  rcases selected_cases env s connector T sourceAt with stored | ⟨absent, -⟩
  · refine .driven ⟨stored, placed, identity⟩ (entered_open rfl allowed) (by rw [state]; rfl)
      (by rw [transaction]; rfl) (Or.inl startedAt)
  · exact .reconstructed absent placed (by rw [state]; rfl) (by rw [transaction]; rfl) startedAt

theorem updated_moves (success : Returns (updated env connector e data sourceAt) s u s')
    (late : MeasuresCompleted env s connector data .updated → p.late) : Moves p s.core s'.core := by
  obtain ⟨T, word, t, readings, version, q', identified, -, rfl, placed, measured, unsampled⟩ :=
    updated_returns success
  have found := located_cases env s connector T sourceAt
  generalize located env s connector T sourceAt = row at found placed measured unsampled
  obtain ⟨key, q⟩ := row
  obtain ⟨identity, standing⟩ := measuredFrom_keeps measured
  have state := congrArg SessionStanding.state standing
  have transaction : q'.protocolTransactionId = some T :=
    congrArg (fun st => st.evidence.protocolTransactionId) standing
  have startedAt := congrArg (fun st => st.evidence.startedAt) standing
  apply Relation.ReflTransGen.single
  rcases found with held | ⟨absent, row⟩
  · obtain ⟨stored, -, -, known⟩ := holder_some held
    have rewritten : Rewritten s.core t key q q' := ⟨stored, placed, identity⟩
    rcases reached_entered q.state (updatedTarget_delivering (mbStrToLower word)) with ⟨delivering, before⟩ | stays
    · refine .driven rewritten before ?_ (by rw [transaction]; rfl) (Or.inr ⟨by rw [known]; rfl, startedAt⟩)
      rw [show q'.state = _ from state]
      exact delivering
    · have same : q'.standing = q.standing := by
        rw [standing]
        unfold ChargingSession.standing ChargingSession.evidence
        simp only [stays, updatedRow, known]
      by_cases none : samplesOf data = []
      · refine .noted rewritten same ?_
        rw [unsampled none]
        rfl
      · refine .measured rewritten same ?_
        intro completed
        refine late ⟨T, _, _, ?_, held, completed⟩
        simp [measuredTransaction, none, identified, Except.toOption]
  · obtain ⟨requested, begun, -⟩ := reconstructedRow_fresh env connector T sourceAt
    rw [← row] at requested begun
    refine .reconstructed absent placed ?_ (by rw [transaction]; rfl) ?_
    · rw [show q'.state = reached (entered q.state) _ from state, requested]
      exact reached_requested (updatedTarget_delivering _)
    · rw [show q'.startedAt = q.startedAt from startedAt, begun]
      rfl

theorem meterValues_moves {receivedAt : Instant}
    (success : Returns (meterValues env connector e data receivedAt) s u s')
    (late : MeasuresCompleted env s connector data .meterValues → p.late) :
    Moves p s.core s'.core := by
  obtain ⟨key, q, m, flags, t, readings, found, stored, rfl, placed⟩ := meterValues_returns success
  apply Relation.ReflTransGen.single
  refine .measured ⟨stored, placed, rfl⟩ rfl ?_
  intro completed
  obtain ⟨-, q₀, stored₀, ⟨-, active⟩ | ⟨named, T, spelled, held⟩⟩ := meteredSession_returns found
  · rw [stored] at stored₀
    cases stored₀
    rw [completed] at active
    simp at active
  · rw [stored] at stored₀
    cases stored₀
    refine late ⟨T, key, q, ?_, held, completed⟩
    simp [measuredTransaction, named, spelled, Except.toOption]

theorem closing_of (env : Environment) (outcome : String) {q q' : ChargingSession}
    {c : ChargeDetailRecord} (generated : (q.state = .finalizing ∧
      ChargeDetailRecordGenerator.SentToReview q q' c) ∨
      ChargeDetailRecordGenerator.Finalized env outcome q q' c) :
    q'.identity = q.identity ∧ q'.evidence = q.evidence ∧ Closing q' c := by
  rcases generated with ⟨finalizing, sent⟩ | final
  · obtain ⟨state, version, rfl, review, -⟩ := sent.session
    exact ⟨rfl, rfl, .review (review finalizing) sent.record⟩
  · obtain ⟨snapshot, c₀, version, rfl, rfl⟩ := final.values
    refine ⟨rfl, rfl, .completed rfl rfl ?_⟩
    intro billed
    have billable : outcome ≠ "unbillable" := by
      intro same
      apply billed
      rw [same]
      rfl
    refine ⟨rfl, rfl, ?_, ?_⟩
    · simp [ChargeDetailRecordGenerator.fillSession, ChargeDetailRecordGenerator.fillCdr, billable]
    · simp [ChargeDetailRecordGenerator.fillSession, ChargeDetailRecordGenerator.fillCdr, billable]

theorem stop_moves
    (success : Returns (stop env connector e data sourceAt) s u s') : Moves p s.core s'.core := by
  obtain ⟨T, key, q, m, version, t, statuses, reservations, readings, cdrs, q', cdrKey, c, -, held, allowed,
    rfl, placed, record, session, own, newest, generated⟩ := stop_returns success
  obtain ⟨identity, evidence, closing⟩ := closing_of env "complete"
    (generated.imp_left fun sent => ⟨rfl, sent⟩)
  apply Relation.ReflTransGen.single
  exact .ended ⟨(holder_some held).1, placed, identity⟩ allowed evidence ⟨record, session, own, newest⟩
    closing

theorem handler_moves {occurredAt : Instant} {evidence : Evidence}
    (success : Returns (evidence.handler env connector e data occurredAt sourceAt) s u s')
    (late : MeasuresCompleted env s connector data evidence → p.late) : Moves p s.core s'.core := by
  cases evidence with
  | start => exact start_moves success
  | stop => exact stop_moves success
  | updated => exact updated_moves success late
  | meterValues => exact meterValues_moves success late
  | status =>
    obtain ⟨_, rfl⟩ := status_returns success
    exact .refl

/-! ### Events -/

/-- A new event that measures the transaction of a completed session. -/
def RemeasuresCompleted (env : Environment) (s : Store) (event : Mixed) : Prop :=
  ∃ e action data, ∃ a : Addressed env e data action, Accepted env event e action ∧
    s.inbound.get? e.eventId = none ∧ e.data = .ok data ∧
    MeasuresCompleted env s a.connector data a.evidence

theorem consume_moves (env : Environment) (event : Mixed) (s : Store)
    (late : RemeasuresCompleted env s event → p.late) :
    Moves p s.core (after (consume env event) s).core := by
  by_cases known : ∃ e action, Accepted env event e action
  · obtain ⟨e, action, accepted⟩ := known
    cases seen : s.inbound.get? e.eventId with
    | some =>
      rw [after, consume_duplicate accepted seen]
    | none =>
      rcases process_cases env e action s with ⟨s', processed⟩ | ⟨exception, thrown⟩
      · rw [after, consume_processed accepted seen processed]
        obtain ⟨received, s₁, -, handled, rfl⟩ := (process_returns _ _ _ _ _ _).mp processed
        obtain ⟨data, current, s₂, read, observed, ⟨-, rfl⟩ | ⟨-, run⟩⟩ :=
          (handle_returns _ _ _ _ _ _).mp handled
        · obtain ⟨_, rfl⟩ := observeConnection_returns observed
          exact .refl
        · obtain ⟨_, rfl⟩ := observeConnection_returns observed
          obtain ⟨a, run⟩ := (dispatch_returns _ _ _ _ _ _ _).mp run
          have moves := handler_moves (p := p) run fun measures =>
            late ⟨e, action, data, a, accepted, seen, read, measures⟩
          exact moves
      · rw [after, consume_thrown accepted seen thrown]
        rcases quarantine_cases env exception seen with
          ⟨refused, same⟩ | ⟨row, same⟩
        · simp only [bind, same]
          exact .refl
        · simp only [bind, same]
          exact .refl
  · rw [after, consume_refused known s]

end OcppEventConsumer
end VtsaCsms.Charging
