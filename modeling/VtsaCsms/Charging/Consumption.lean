import VtsaCsms.Charging.EventEffects

/-!
# Consuming events exactly once

`OcppEventConsumer::consume`: the inbound row that marks an event as seen is written in the
transaction of its handler, and in one of its own where the handler throws. So an event is
marked exactly when it has had its effect or has been set aside.
-/
namespace VtsaCsms.Charging
open Foundation Foundation.Action
namespace OcppEventConsumer

/-! ### Inbound rows -/

variable {env : Environment} {e : Envelope} {row : InboundOcppEvent} {s s' : Store} {action id : String}
  {event : Mixed}

theorem inboundRow_outcome {outcome : InboundOutcome} {processedAt : Option Instant} {code : Option String}
    (stored : inboundRow env e outcome processedAt code = .ok row) :
    row.outcome = outcome ∧ ∀ outcome' processedAt' code', ∃ row',
      inboundRow env e outcome' processedAt' code' = .ok row' ∧ row'.outcome = outcome' := by
  unfold inboundRow at stored ⊢
  cases caused : e.causationId.toText env.floatText with
  | error =>
    rw [caused] at stored
    cases stored
  | ok text =>
    rw [caused] at stored
    simp only [bind, Except.bind] at stored ⊢
    split at stored
    · cases stored
    · rename_i encodable
      cases cast : env.castTime e.occurredAt with
      | none =>
        rw [cast] at stored
        cases stored
      | some occurredAt =>
        rw [cast] at stored
        cases stored
        refine ⟨rfl, fun outcome' processedAt' code' => ?_⟩
        exact ⟨{ eventType := e.eventType, aggregateId := e.aggregateId, payload := e.payload, occurredAt
                 receivedAt := env.now.toSecond, processedAt := processedAt', outcome := outcome'
                 errorCode := code' }, by rw [if_neg encodable]; rfl, rfl⟩

/-- What a handler may write to. -/
def Handled (s s' : Store) : Prop :=
  ∃ sessions reservations connectorStatuses connections readings cdrs,
    s' = { s with
      sessions := sessions, reservations := reservations, connectorStatuses := connectorStatuses
      connections := connections, readings := readings, cdrs := cdrs }

theorem handler_handled {connector : Assets.ConnectorSnapshot}
    {data : Mixed} {occurredAt sourceAt : Instant} {evidence : Evidence} {u : Unit}
    (success : Returns (evidence.handler env connector e data occurredAt sourceAt) s u s') : Handled s s' := by
  cases evidence with
  | start =>
    obtain ⟨_, _, _, _, _, _, _, _, -, -, -, rfl, -⟩ := start_returns success
    exact ⟨_, _, _, s.connections, _, s.cdrs, rfl⟩
  | stop =>
    obtain ⟨_, _, _, _, _, _, _, _, _, _, _, _, _, -, -, -, rfl, -⟩ := stop_returns success
    exact ⟨_, _, _, s.connections, _, _, rfl⟩
  | updated =>
    obtain ⟨_, _, _, _, _, _, -, -, rfl, -⟩ := updated_returns success
    exact ⟨_, s.reservations, s.connectorStatuses, s.connections, _, s.cdrs, rfl⟩
  | meterValues =>
    obtain ⟨_, _, _, _, _, _, -, -, rfl, -⟩ := meterValues_returns success
    exact ⟨_, s.reservations, s.connectorStatuses, s.connections, _, s.cdrs, rfl⟩
  | status =>
    obtain ⟨_, rfl⟩ := status_returns success
    exact ⟨s.sessions, s.reservations, _, s.connections, s.readings, s.cdrs, rfl⟩

/-- No handler touches a command, a token, a review, a customer, a wallet or an inbound row. -/
theorem handle_handled {u : Unit} (success : Returns (handle env e action) s u s') : Handled s s' := by
  obtain ⟨data, current, s₁, -, observed, ⟨-, rfl⟩ | ⟨-, run⟩⟩ := (handle_returns _ _ _ _ _ _).mp success
  · obtain ⟨connections, rfl⟩ := observeConnection_returns observed
    exact ⟨s.sessions, s.reservations, s.connectorStatuses, connections, s.readings, s.cdrs, rfl⟩
  · obtain ⟨a, run⟩ := (dispatch_returns _ _ _ _ _ _ _).mp run
    obtain ⟨connections, rfl⟩ := observeConnection_returns observed
    obtain ⟨_, _, _, _, _, _, rfl⟩ := handler_handled run
    exact ⟨_, _, _, _, _, _, rfl⟩

theorem handle_inbound {u : Unit}
    (success : Returns (handle env e action) s u s') : s'.inbound = s.inbound := by
  obtain ⟨_, _, _, _, _, _, rfl⟩ := handle_handled success
  rfl

/-! ### One call -/

/-- The rows as the handler of a new event finds them. -/
def marked (s : Store) (e : Envelope) (row : InboundOcppEvent) : Store :=
  { s with inbound := s.inbound.put e.eventId row }

/-- The rows once the handler has returned. -/
def closed (env : Environment) (s : Store) (e : Envelope) : Store :=
  { s with inbound := s.inbound.update e.eventId fun r =>
      { r with outcome := .processed, processedAt := some env.now.toSecond } }

theorem process_returns (env : Environment) (e : Envelope) (action : String) (s s' : Store) (u : Unit) :
    Returns (process env e action) s u s' ↔
      ∃ row s₁, inboundRow env e .received none none = .ok row ∧
        Returns (handle env e action) (marked s e row) () s₁ ∧ s' = closed env s₁ e := by
  unfold process putInbound
  simp only [returns_transaction, returns_bind, returns_lift, returns_write]
  constructor
  · rintro ⟨row, _, ⟨built, rfl⟩, _, _, rfl, _, s₁, handled, rfl⟩
    exact ⟨row, s₁, built, handled, rfl⟩
  · rintro ⟨row, s₁, built, handled, rfl⟩
    exact ⟨row, s, ⟨built, rfl⟩, (), _, rfl, (), s₁, handled, rfl⟩

theorem process_cases (env : Environment) (e : Envelope) (action : String) (s : Store) :
    (∃ s', Returns (process env e action) s () s') ∨
      ∃ exception, process env e action s = (.error exception, s) := by
  unfold process
  rcases transaction_cases (do
      let row ← lift (inboundRow env e .received none none)
      putInbound e.eventId row
      handle env e action
      write fun s => { s with inbound := s.inbound.update e.eventId fun r =>
        { r with outcome := .processed, processedAt := some env.now.toSecond } }) s with
    ⟨_, s', body, -⟩ | ⟨exception, -, thrown⟩
  · refine Or.inl ⟨s', ?_⟩
    rw [returns_transaction]
    exact body
  · exact Or.inr ⟨exception, thrown⟩

/-- The envelope of an event that the tenant may consume. -/
structure Accepted (env : Environment) (event : Mixed) (e : Envelope) (action : String) : Prop where
  envelope : validateEnvelope env event = .ok (e, action)
  tenant : (event.get "tenant_id").string? = some env.tenantId

theorem Accepted.eventId
    (accepted : Accepted env event e action) : event.get "event_id" = .string e.eventId := by
  have valid := accepted.envelope
  unfold validateEnvelope at valid
  cases identified : ulidField env event "event_id" with
  | error =>
    rw [identified] at valid
    cases valid
  | ok eventId =>
    have named : event.get "event_id" = .string eventId := by
      unfold ulidField at identified
      split at identified
      · rename_i text same
        split at identified
        · cases identified
          exact same
        · cases identified
      · cases identified
    rw [identified] at valid
    simp only [bind, Except.bind] at valid
    repeat' split at valid
    all_goals first
      | contradiction
      | (cases valid; exact named)

theorem consume_refused (refused : ¬ ∃ e action, Accepted env event e action) (s : Store) :
    (consume env event s).2 = s := by
  unfold consume
  simp only [bind, lift, throwIf]
  cases valid : validateEnvelope env event with
  | error => rfl
  | ok found =>
    obtain ⟨e, action⟩ := found
    by_cases tenant : (event.get "tenant_id").string? = some env.tenantId
    · exact absurd ⟨e, action, valid, tenant⟩ refused
    · simp [tenant, raise]

theorem consume_duplicate (accepted : Accepted env event e action)
    (seen : s.inbound.get? e.eventId = some row) :
    consume env event s = (.ok ⟨row.outcome, true, row.errorCode⟩, s) := by
  unfold consume
  simp [bind, lift, throwIf, Action.read, pure, accepted.envelope, accepted.tenant, seen]

theorem consume_new (accepted : Accepted env event e action) (unseen : s.inbound.get? e.eventId = none) :
    consume env event s =
      tryCatch
        (do
          process env e action
          pure ⟨.processed, false, none⟩)
        (fun exception => do
          quarantine env e exception
          pure ⟨.quarantined, false, some (errorCode exception)⟩) s := by
  unfold consume
  simp [bind, lift, throwIf, Action.read, pure, accepted.envelope, accepted.tenant, unseen]

theorem consume_processed (accepted : Accepted env event e action) (unseen : s.inbound.get? e.eventId = none)
    (processed : Returns (process env e action) s () s') :
    consume env event s = (.ok ⟨.processed, false, none⟩, s') := by
  have run : process env e action s = (.ok (), s') := processed
  rw [consume_new accepted unseen]
  simp [Action.tryCatch, bind, run, pure]

theorem quarantine_run {exception : Throwable} (unseen : s.inbound.get? e.eventId = none)
    (built : inboundRow env e .quarantined (some env.now.toSecond) (some (errorCode exception)) =
      .ok row) : quarantine env e exception s = (.ok (), marked s e row) := by
  have returns : Returns (quarantine env e exception) s () (marked s e row) := by
    unfold quarantine putInbound
    simp only [returns_transaction, returns_bind, returns_read]
    refine ⟨_, s, ⟨rfl, rfl⟩, ?_⟩
    rw [unseen]
    simp only [returns_bind, returns_lift, returns_write]
    exact ⟨row, s, ⟨built, rfl⟩, rfl⟩
  exact returns

theorem quarantine_cases (env : Environment) (exception : Throwable)
    (unseen : s.inbound.get? e.eventId = none) :
    (∃ refused, quarantine env e exception s = (.error refused, s)) ∨
      ∃ row, quarantine env e exception s = (.ok (), marked s e row) := by
  cases built : inboundRow env e .quarantined (some env.now.toSecond) (some (errorCode exception)) with
  | ok row => exact Or.inr ⟨row, quarantine_run unseen built⟩
  | error refused =>
    refine Or.inl ⟨refused, ?_⟩
    simp [quarantine, transaction, bind, Action.read, unseen, lift, built]

theorem consume_thrown (accepted : Accepted env event e action) {exception : Throwable}
    (unseen : s.inbound.get? e.eventId = none) (thrown : process env e action s = (.error exception, s)) :
    consume env event s =
      ((do
          quarantine env e exception
          pure ⟨.quarantined, false, some (errorCode exception)⟩) :
        Charge OcppEventConsumptionResult) s := by
  rw [consume_new accepted unseen]
  simp [Action.tryCatch, bind, thrown]

theorem consume_marks (env : Environment) (event : Mixed) (s : Store) :
    after (consume env event) s = s ∨
      ∃ e action row, Accepted env event e action ∧ s.inbound.get? e.eventId = none ∧
        (after (consume env event) s).inbound.get? e.eventId = some row ∧
        ∀ id, id ≠ e.eventId → (after (consume env event) s).inbound.get? id = s.inbound.get? id := by
  by_cases known : ∃ e action, Accepted env event e action
  · obtain ⟨e, action, accepted⟩ := known
    cases seen : s.inbound.get? e.eventId with
    | some =>
      rw [after, consume_duplicate accepted seen]
      exact Or.inl rfl
    | none =>
      rcases process_cases env e action s with ⟨s', processed⟩ | ⟨exception, thrown⟩
      · rw [after, consume_processed accepted seen processed]
        obtain ⟨received, s₁, -, handled, rfl⟩ := (process_returns _ _ _ _ _ _).mp processed
        have kept := handle_inbound handled
        refine Or.inr ⟨e, action, { received with outcome := .processed
                                                  processedAt := some env.now.toSecond },
          accepted, seen, ?_, ?_⟩
        · simp [closed, kept, marked, Table.get?_put]
        · intro id other
          simp [closed, kept, marked, Table.get?_put, Table.get?_update_of_ne _ _ other, other]
      · rw [after, consume_thrown accepted seen thrown]
        rcases quarantine_cases env exception seen with
          ⟨refused, same⟩ | ⟨row, same⟩
        · simp only [bind, same]
          exact Or.inl trivial
        · refine Or.inr ⟨e, action, row, accepted, seen, ?_, ?_⟩
          · simp [bind, same, pure, marked, Table.get?_put]
          · intro id other
            simp [bind, same, pure, marked, Table.get?_put, other]
  · exact Or.inl (consume_refused known s)

theorem consume_handled (env : Environment) (event : Mixed) (s : Store) :
    ∃ s₁ inbound, Handled s s₁ ∧ after (consume env event) s = { s₁ with inbound := inbound } := by
  have unwritten : Handled s s :=
    ⟨s.sessions, s.reservations, s.connectorStatuses, s.connections, s.readings, s.cdrs, rfl⟩
  by_cases known : ∃ e action, Accepted env event e action
  · obtain ⟨e, action, accepted⟩ := known
    cases seen : s.inbound.get? e.eventId with
    | some =>
      rw [after, consume_duplicate accepted seen]
      exact ⟨s, s.inbound, unwritten, rfl⟩
    | none =>
      rcases process_cases env e action s with ⟨s', processed⟩ | ⟨exception, thrown⟩
      · rw [after, consume_processed accepted seen processed]
        obtain ⟨received, s₁, -, handled, rfl⟩ := (process_returns _ _ _ _ _ _).mp processed
        obtain ⟨sessions, reservations, statuses, connections, readings, cdrs, rfl⟩ := handle_handled handled
        exact ⟨_, _, ⟨sessions, reservations, statuses, connections, readings, cdrs, rfl⟩, rfl⟩
      · rw [after, consume_thrown accepted seen thrown]
        rcases quarantine_cases env exception seen with
          ⟨refused, same⟩ | ⟨row, same⟩
        · simp only [bind, same]
          exact ⟨s, s.inbound, unwritten, rfl⟩
        · simp only [bind, same]
          exact ⟨s, _, unwritten, rfl⟩
  · rw [after, consume_refused known s]
    exact ⟨s, s.inbound, unwritten, rfl⟩

/-! ### Sequences of calls -/

/-- The rows after a sequence of calls, each in an environment of its own. -/
def consumeAll : List (Environment × Mixed) → Store → Store
  | [], s => s
  | (env, event) :: rest, s => consumeAll rest (after (consume env event) s)

theorem consume_keeps_mark (seen : s.inbound.get? id = some row) :
    (after (consume env event) s).inbound.get? id = some row := by
  rcases consume_marks env event s with same | ⟨e, _, _, -, unseen, -, others⟩
  · rw [same, seen]
  · have other : id ≠ e.eventId := by
      intro same
      rw [same, unseen] at seen
      contradiction
    rw [others id other, seen]

theorem consumeAll_keeps_mark {calls : List (Environment × Mixed)} (seen : s.inbound.get? id = some row) :
    (consumeAll calls s).inbound.get? id = some row := by
  induction calls generalizing s with
  | nil => exact seen
  | cons _ _ ih => exact ih (consume_keeps_mark seen)

theorem consume_marked (named : event.get "event_id" = .string id)
    (seen : s.inbound.get? id = some row) : after (consume env event) s = s := by
  rcases consume_marks env event s with same | ⟨e, _, _, accepted, unseen, -⟩
  · exact same
  · have same := named.symm.trans accepted.eventId
    cases same
    rw [seen] at unseen
    contradiction

/-- Every event has its effect at most once and all of it or none; an event whose handler
throws is set aside and changes nothing else; a repeated one is answered from its row. -/
theorem consumption_exactly_once (s : Store) :
    (∀ before env event between env' event',
      event.get "event_id" = event'.get "event_id" →
      after (consume env event) (consumeAll before s) ≠ consumeAll before s →
      after (consume env' event')
          (consumeAll between (after (consume env event) (consumeAll before s))) =
        consumeAll between (after (consume env event) (consumeAll before s))) ∧
    (∀ env event e action received s', Accepted env event e action →
      s.inbound.get? e.eventId = none → inboundRow env e .received none none = .ok received →
      Returns (handle env e action) (marked s e received) () s' →
      consume env event s = (.ok ⟨.processed, false, none⟩, closed env s' e)) ∧
    (∀ env event e action received exception, Accepted env event e action →
      s.inbound.get? e.eventId = none → inboundRow env e .received none none = .ok received →
      (handle env e action (marked s e received)).1 = .error exception →
      ∃ row, row.outcome = .quarantined ∧
        consume env event s =
          (.ok ⟨.quarantined, false, some (errorCode exception)⟩, marked s e row)) ∧
    (∀ env event e action row, Accepted env event e action → s.inbound.get? e.eventId = some row →
      consume env event s = (.ok ⟨row.outcome, true, row.errorCode⟩, s)) := by
  refine ⟨?_, ?_, ?_, ?_⟩
  · intro before env event between env' event' sameId changed
    rcases consume_marks env event (consumeAll before s) with same | ⟨e, _, row, accepted, -, seen, -⟩
    · exact absurd same changed
    · refine consume_marked ?_ (consumeAll_keeps_mark seen)
      rw [← sameId]
      exact accepted.eventId
  · intro env event e action received s' accepted unseen built handled
    refine consume_processed accepted unseen ?_
    exact (process_returns _ _ _ _ _ _).mpr ⟨received, s', built, handled, rfl⟩
  · intro env event e action received exception accepted unseen built thrown
    obtain ⟨row, stored, outcome⟩ := (inboundRow_outcome built).2 .quarantined
      (some env.now.toSecond) (some (errorCode exception))
    have rolledBack : process env e action s = (.error exception, s) := by
      rcases run : handle env e action (marked s e received) with ⟨out, rows⟩
      rw [run] at thrown
      cases thrown
      have body : handle env e action { s with inbound := s.inbound.put e.eventId received } =
          (.error exception, rows) := run
      simp [process, transaction, bind, lift, built, putInbound, write, body]
    refine ⟨row, outcome, ?_⟩
    rw [consume_thrown accepted unseen rolledBack]
    simp [bind, quarantine_run unseen stored, pure]
  · intro env event e action row accepted seen
    exact consume_duplicate accepted seen

end OcppEventConsumer
end VtsaCsms.Charging
