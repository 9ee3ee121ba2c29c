import VtsaCsms.Charging.Progress
import VtsaCsms.Charging.Refinement
import VtsaCsms.Charging.StationPresence
import VtsaCsms.Foundation.Reports

/-!
# Connector status from notifications

A notification older than the connector's row is ignored. One that the transition table
refuses is rolled back and quarantined, and its report is lost. So the row is a register of
time-stamped reports, and whether it ends at the latest of them depends on the edges that
lead to the latest.
-/
namespace VtsaCsms.Charging
open Foundation Foundation.Action Assets OcppEventConsumer

/-- A status notification with its request, what it is decoded to, and what the handler
reads of it. -/
structure Notification where
  env : Environment
  event : Mixed
  e : Envelope
  data : Mixed
  connector : ConnectorSnapshot
  connectionId : String
  at' : Instant
  word : String

namespace Notification

/-- The availability the notification is mapped to. -/
def value (n : Notification) : ConnectorAvailability := reportedAvailability (mbStrToLower n.word)

def sighting (n : Notification) : Sighting where
  env := n.env
  e := n.e
  data := n.data
  action := "status_notification"
  connectionId := n.connectionId
  at' := n.at'

/-- A well formed notification of one connector over one connection of its station, where
Maintenance can record what it reports. -/
structure Valid (stationId connectionId connectorId : String) (n : Notification) : Prop where
  accepted : Accepted n.env n.event n.e "status_notification"
  stored : ∃ row, inboundRow n.env n.e .received none none = .ok row
  decoded : n.e.data = .ok n.data
  seen : n.sighting.Valid stationId
  connection : n.connectionId = connectionId
  numbered : isZero (n.data.get "connector_id") = false
  resolved : OcppEventConsumer.connector n.env n.e n.data = .ok n.connector
  about : n.connector.connectorId = connectorId
  protocol : text n.env n.data "protocol" = .ok n.connector.protocol
  sourced : ∃ sourceAt, sourceTime n.env n.data n.at' = .ok sourceAt
  reported : text n.env n.data "status" = .ok n.word
  recorded : ∀ observation, n.env.observeFault observation = .ok ()

/-- What a connector's row says as a register; a connector without a row is unknown. -/
def shown (stored : Option ConnectorStatus) : Reports.Register ConnectorAvailability Instant :=
  match stored with
  | some row => ⟨row.status, some (row.lastOcppEventAt.getD row.observedAt)⟩
  | none => ⟨.unknown, none⟩

/-- The row does not know yet what is later than the notification. -/
abbrev Outdated (stored : Option ConnectorStatus) (n : Notification) : Prop :=
  Reports.Stale Notification.at' (shown stored) n

/-- A row that says what the register says after the notification. -/
def Noticed (stored : Option ConnectorStatus) (n : Notification) (stored' : Option ConnectorStatus) :
    Prop :=
  shown stored' = Reports.report Notification.at' value ConnectorAvailability.canTransitionTo (shown stored) n ∧
    stored'.isSome = true

/-! ### Setting the status -/

theorem connectorStatusRow_returns (connectorId : String) (observedAt : Instant) (s : Store) :
    ∃ row s', Returns (connectorStatusRow connectorId observedAt) s row s' ∧
      s'.connectorStatuses.get? connectorId = some row ∧
      row = (s.connectorStatuses.get? connectorId).getD
        { status := .unknown, observedAt, staleAfterSeconds := 300 } := by
  unfold connectorStatusRow
  simp only [returns_bind, returns_read]
  cases stored : s.connectorStatuses.get? connectorId with
  | some row =>
    refine ⟨row, s, ⟨some row, s, ⟨rfl, rfl⟩, ?_⟩, stored, rfl⟩
    rfl
  | none =>
    let row : ConnectorStatus := { status := .unknown, observedAt, staleAfterSeconds := 300 }
    let s₁ : Store := { s with connectorStatuses := s.connectorStatuses.put connectorId row }
    refine ⟨row, s₁, ⟨none, s, ⟨rfl, rfl⟩, ?_⟩, ?_, rfl⟩
    · simp only [returns_bind, returns_write, returns_pure]
      exact ⟨(), s₁, rfl, rfl, rfl⟩
    · simp [s₁, Table.get?_put]

theorem transition_row {connectorId : String} (row : ConnectorStatus) {next : ConnectorAvailability}
    {observedAt : Instant} {s s' : Store} {u : Unit} (stored : s.connectorStatuses.get? connectorId = some row)
    (success : Returns (ConnectorAvailabilityStateMachine.transition connectorId row.status next observedAt)
      s u s') :
    s'.connectorStatuses.get? connectorId = some { row with status := next, observedAt } := by
  unfold ConnectorAvailabilityStateMachine.transition saveConnectorStatus at success
  simp only [returns_ite, returns_bind, returns_throwIf, returns_write] at success
  rcases success with ⟨same, rfl⟩ | ⟨-, _, _, ⟨-, rfl⟩, rfl⟩
  · subst same
    simp [stored]
  · simp [stored]

theorem setConnectorStatus_noticed (connectorId : String) (n : Notification) (connectionId word : Option String)
    (s : Store) (admitted : Outdated (s.connectorStatuses.get? connectorId) n ∨
      (shown (s.connectorStatuses.get? connectorId)).value.canTransitionTo n.value = true) :
    ∃ changed s', Returns (setConnectorStatus connectorId n.value true n.at' connectionId word) s changed s' ∧
      Noticed (s.connectorStatuses.get? connectorId) n (s'.connectorStatuses.get? connectorId) := by
  obtain ⟨row, s₁, loaded, stored, known⟩ := connectorStatusRow_returns connectorId n.at' s
  unfold setConnectorStatus
  simp only [returns_bind]
  have since : Outdated (s.connectorStatuses.get? connectorId) n ↔
      n.at' < row.lastOcppEventAt.getD row.observedAt := by
    rw [known]
    unfold Outdated Reports.Stale shown
    cases s.connectorStatuses.get? connectorId <;> simp
  have status : (shown (s.connectorStatuses.get? connectorId)).value = row.status := by
    rw [known]
    unfold shown
    cases s.connectorStatuses.get? connectorId <;> rfl
  by_cases outdated : n.at' < row.lastOcppEventAt.getD row.observedAt
  · refine ⟨false, s₁, ⟨row, s₁, loaded, ?_⟩, ?_, by rw [stored]; rfl⟩
    · rw [if_pos ⟨trivial, outdated⟩]
      rfl
    · rw [Reports.report_stale (since.mpr outdated), stored]
      cases held : s.connectorStatuses.get? connectorId with
      | some =>
        rw [held] at known
        rw [known]
        rfl
      | none =>
        rw [held] at known
        subst known
        simp at outdated
  · have edge : row.status.canTransitionTo n.value = true := by
      rw [← status]
      exact admitted.resolve_left (mt since.mp outdated)
    rw [status] at admitted
    let written : ConnectorStatus :=
      { row with ocppConnectionId := connectionId, lastOcppEventAt := some n.at',
                 reportedStatus := word.filter fun r => r ∈ reportable }
    let s₂ : Store := { s₁ with connectorStatuses := s₁.connectorStatuses.update connectorId fun s => { s with
      ocppConnectionId := connectionId
      lastOcppEventAt := some n.at'
      reportedStatus := word.filter fun r => r ∈ reportable } }
    have stored₂ : s₂.connectorStatuses.get? connectorId = some written := by
      simp [s₂, stored, written]
    obtain ⟨statuses, moved⟩ := ConnectorAvailabilityStateMachine.transition_succeeds connectorId
      row.status n.value n.at' s₂ edge
    have final := transition_row written stored₂ moved
    refine ⟨true, { s₂ with connectorStatuses := statuses }, ⟨row, s₁, loaded, ?_⟩, ?_, ?_⟩
    · rw [if_neg (fun both => outdated both.2)]
      simp only [returns_bind, saveConnectorStatus, returns_write, returns_pure]
      exact ⟨(), s₂, rfl, (), _, moved, trivial, rfl⟩
    · rw [Reports.report_taken (mt since.mp outdated) (by rw [status]; exact edge), final]
      rfl
    · rw [final]
      rfl

theorem setConnectorStatus_refuses (connectorId : String) (n : Notification) (connectionId word : Option String)
    (s : Store) (current : ¬ Outdated (s.connectorStatuses.get? connectorId) n)
    (edge : (shown (s.connectorStatuses.get? connectorId)).value.canTransitionTo n.value = false)
    (changed : Bool) (s' : Store) :
    ¬ Returns (setConnectorStatus connectorId n.value true n.at' connectionId word) s changed s' := by
  intro success
  obtain ⟨row, s₁, loaded, stored, known⟩ := connectorStatusRow_returns connectorId n.at' s
  unfold setConnectorStatus saveConnectorStatus at success
  simp only [returns_bind, returns_ite, returns_write, returns_pure] at success
  obtain ⟨row', s₁', loaded', success⟩ := success
  obtain ⟨rfl, rfl⟩ := loaded.unique loaded'
  rw [known] at success
  rcases success with ⟨⟨-, outdated⟩, -⟩ | ⟨-, _, _, rfl, _, _, moves, -⟩
  · apply current
    unfold Outdated Reports.Stale shown
    cases held : s.connectorStatuses.get? connectorId with
    | some =>
      rw [held] at outdated
      exact ⟨_, rfl, outdated⟩
    | none =>
      rw [held] at outdated
      simp at outdated
  · have allowed := (ConnectorAvailabilityStateMachine.transition_returns moves).1
    unfold shown at edge
    cases held : s.connectorStatuses.get? connectorId with
    | some =>
      rw [held] at edge allowed
      rw [Option.getD_some] at allowed
      rw [allowed] at edge
      contradiction
    | none =>
      rw [held] at edge
      simp only at edge
      revert edge
      cases n.value <;> decide

/-! ### Consuming a notification -/

theorem see_current {g : Sighting} {stored : Option StationConnection} (kind : g.action = "status_notification")
    (current : ∀ row, stored = some row → row.connectionId = g.connectionId ∧ row.connected = true) :
    (StationConnectionProjector.project stored g.connectionId g.action g.at').1 = true ∧
      ∀ row, Sighting.see stored g = some row → row.connectionId = g.connectionId ∧ row.connected = true := by
  have stays : g.action ≠ "charger_disconnected" := by
    rw [kind]
    decide
  have opened : g.action ≠ "charger_connected" := by
    rw [kind]
    decide
  unfold Sighting.see StationConnectionProjector.project
  cases stored with
  | none =>
    refine ⟨rfl, fun row found => ?_⟩
    cases found
    exact ⟨rfl, decide_eq_true stays⟩
  | some old =>
    obtain ⟨same, connected⟩ := current old rfl
    simp only [same, lt_irrefl, ite_false, ite_true]
    by_cases early : g.at' < old.lastEventAt
    · simp only [early, ite_true, opened, decide_false, Bool.and_false, Bool.false_and]
      refine ⟨connected, fun row found => ?_⟩
      cases found
      exact ⟨same, connected⟩
    · simp only [early, ite_false, connected, Bool.not_true, Bool.false_and]
      refine ⟨rfl, fun row found => ?_⟩
      cases found
      exact ⟨rfl, decide_eq_true stays⟩

/-- The station's connection, where it has one, is the given one and is open. -/
def Current (stationId connectionId : String) (s : Store) : Prop :=
  ∀ row, s.connections.get? stationId = some row → row.connectionId = connectionId ∧ row.connected = true

variable {stationId connectionId connectorId : String} {n : Notification}

theorem Valid.handled (valid : n.Valid stationId connectionId connectorId) {s : Store}
    (current : Current stationId connectionId s) :
    ∃ connections, Current stationId connectionId { s with connections := connections } ∧
      ∀ s', Returns (handle n.env n.e "status_notification") s () s' ↔
        Returns (status n.env n.connector n.e n.data n.at') { s with connections := connections } () s' := by
  obtain ⟨s₁, observed, row⟩ := valid.seen.observed s
  have here : ∀ row, s.connections.get? stationId = some row →
      row.connectionId = n.sighting.connectionId ∧ row.connected = true := by
    intro row stored
    rw [show n.sighting.connectionId = connectionId from valid.connection]
    exact current row stored
  obtain ⟨yes, kept⟩ := see_current (g := n.sighting) rfl here
  rw [yes] at observed
  have asked : Returns (observeConnection n.env n.e n.data "status_notification") s true s₁ := by
    unfold observeConnection
    have named := valid.seen.connection
    change (n.data.get "connection_id").string?.filter n.env.isUlid = some n.connectionId at named
    have given : (n.data.get "connection_id").isNull = false := by
      cases field : n.data.get "connection_id" <;> first | rfl | (rw [field] at named; cases named)
    rw [if_pos (Or.inr given)]
    exact observed
  obtain ⟨connections, rfl⟩ := observeConnection_returns asked
  refine ⟨connections, ?_, fun s' => ?_⟩
  · intro row' stored
    rw [← valid.connection]
    exact kept row' (row.symm.trans stored)
  · have goesOn : ¬ skips n.data "status_notification" true := by
      rintro (station | ⟨-, old | zero⟩ | unknown)
      · revert station
        decide
      · cases old
      · rw [valid.numbered] at zero
        cases zero
      · exact unknown (by decide)
    obtain ⟨sourceAt, sourced⟩ := valid.sourced
    rw [handle_returns]
    constructor
    · rintro ⟨data, current', s₂, decoded, observed', ⟨skipped, -⟩ | ⟨-, run⟩⟩
      · rw [valid.decoded] at decoded
        cases decoded
        obtain ⟨rfl, -⟩ := asked.unique observed'
        exact absurd skipped goesOn
      · rw [valid.decoded] at decoded
        cases decoded
        obtain ⟨rfl, rfl⟩ := asked.unique observed'
        obtain ⟨a, run⟩ := (dispatch_returns _ _ _ _ _ _ _).mp run
        have sameConnector := a.resolved.symm.trans valid.resolved
        have sameTime := a.occurred.symm.trans valid.seen.time
        have kind : a.evidence = .status := (Except.ok.inj a.kind).symm
        rw [Except.ok.inj sameConnector, Except.ok.inj sameTime, kind] at run
        exact run
    · intro run
      refine ⟨n.data, true, _, valid.decoded, asked, Or.inr ⟨goesOn, ?_⟩⟩
      exact (dispatch_returns _ _ _ _ _ _ _).mpr
        ⟨⟨n.connector, n.at', sourceAt, .status, valid.resolved, valid.protocol, valid.seen.time, sourced, rfl⟩, run⟩

theorem Valid.status_run (valid : n.Valid stationId connectionId connectorId) (s : Store) :
    ((Outdated (s.connectorStatuses.get? connectorId) n ∨
        (shown (s.connectorStatuses.get? connectorId)).value.canTransitionTo n.value = true) →
      ∃ s', Returns (status n.env n.connector n.e n.data n.at') s () s' ∧
        Noticed (s.connectorStatuses.get? connectorId) n (s'.connectorStatuses.get? connectorId)) ∧
    (¬ Outdated (s.connectorStatuses.get? connectorId) n →
      (shown (s.connectorStatuses.get? connectorId)).value.canTransitionTo n.value = false →
      ∀ s', ¬ Returns (status n.env n.connector n.e n.data n.at') s () s') := by
  have about := valid.about
  subst about
  unfold status
  simp only [returns_bind, returns_lift]
  constructor
  · intro admitted
    obtain ⟨changed, s', set, noticed⟩ := setConnectorStatus_noticed n.connector.connectorId n
      (n.data.get "connection_id").string? (some (mbStrToLower n.word)) s admitted
    refine ⟨s', ⟨n.word, s, ⟨valid.reported, rfl⟩, changed, s', set, ?_⟩, noticed⟩
    cases changed with
    | false =>
      rw [if_pos rfl]
      rfl
    | true =>
      rw [if_neg (by decide), returns_lift]
      exact ⟨valid.recorded _, rfl⟩
  · rintro current edge s' ⟨word, _, ⟨spelled, rfl⟩, changed, s₁, set, -⟩
    rw [valid.reported] at spelled
    cases spelled
    exact setConnectorStatus_refuses n.connector.connectorId n _ _ _ current edge changed s₁ set

theorem Valid.consumed (valid : n.Valid stationId connectionId connectorId) {s : Store}
    (current : Current stationId connectionId s) (unseen : s.inbound.get? n.e.eventId = none) :
    shown (((Step.event n.event).next n.env s).connectorStatuses.get? connectorId) =
        Reports.report Notification.at' value ConnectorAvailability.canTransitionTo
          (shown (s.connectorStatuses.get? connectorId)) n ∧
      (((Step.event n.event).next n.env s).connectorStatuses.get? connectorId).isSome = true ∧
      Current stationId connectionId ((Step.event n.event).next n.env s) ∧
      ∀ id, id ≠ n.e.eventId →
        ((Step.event n.event).next n.env s).inbound.get? id = s.inbound.get? id := by
  have left : (Step.event n.event).next n.env s = after (consume n.env n.event) s := Step.after_discard _ _
  rw [left]
  have others : ∀ id, id ≠ n.e.eventId →
      (after (consume n.env n.event) s).inbound.get? id = s.inbound.get? id := by
    rcases consume_marks n.env n.event s with same | ⟨e, _, _, accepted, -, -, others⟩
    · rw [same]
      exact fun _ _ => rfl
    · have same := accepted.envelope.symm.trans valid.accepted.envelope
      cases same
      exact others
  obtain ⟨row, built⟩ := valid.stored
  have entered' : Current stationId connectionId (marked s n.e row) := current
  obtain ⟨connections, kept, handled⟩ := valid.handled entered'
  obtain ⟨runs, refuses⟩ := valid.status_run { marked s n.e row with connections := connections }
  by_cases admitted : Outdated (s.connectorStatuses.get? connectorId) n ∨
      (shown (s.connectorStatuses.get? connectorId)).value.canTransitionTo n.value = true
  · obtain ⟨s₁, run, noticed⟩ := runs admitted
    have processed : Returns (process n.env n.e "status_notification") s () (closed n.env s₁ n.e) :=
      (process_returns _ _ _ _ _ _).mpr ⟨row, s₁, built, (handled s₁).mpr run, rfl⟩
    rw [after, consume_processed valid.accepted unseen processed] at others ⊢
    refine ⟨noticed.1, noticed.2, ?_, others⟩
    obtain ⟨statuses, rfl⟩ := status_returns run
    exact kept
  · push Not at admitted
    obtain ⟨fresh, edge⟩ := admitted
    have edge := Bool.eq_false_iff.mpr edge
    rcases process_cases n.env n.e "status_notification" s with ⟨s', processed⟩ | ⟨exception, thrown⟩
    · obtain ⟨row', s₁, built', run, -⟩ := (process_returns _ _ _ _ _ _).mp processed
      rw [built] at built'
      cases built'
      exact absurd ((handled s₁).mp run) (refuses fresh edge s₁)
    · have lost : Reports.report Notification.at' value ConnectorAvailability.canTransitionTo _ n = _ :=
        Reports.report_lost edge
      have held : (s.connectorStatuses.get? connectorId).isSome = true := by
        cases stored : s.connectorStatuses.get? connectorId with
        | some => rfl
        | none =>
          rw [stored] at edge
          revert edge
          unfold shown
          cases n.value <;> decide
      rw [after, consume_thrown valid.accepted unseen thrown] at others ⊢
      rw [lost]
      rcases quarantine_cases n.env exception unseen with
        ⟨refused, same⟩ | ⟨row', same⟩
      · simp only [bind, same] at others ⊢
        exact ⟨trivial, held, current, others⟩
      · simp only [bind, same] at others ⊢
        exact ⟨rfl, held, current, others⟩

/-! ### Any order of delivery -/

def deliver (n : Notification) : Environment × Step := (n.env, .event n.event)

theorem deliver_all (order : List Notification) (s : Store)
    (valid : ∀ n ∈ order, n.Valid stationId connectionId connectorId)
    (current : Current stationId connectionId s) (distinct : (order.map fun n => n.e.eventId).Nodup)
    (unseen : ∀ n ∈ order, s.inbound.get? n.e.eventId = none) :
    shown ((Step.run (order.map deliver) s).connectorStatuses.get? connectorId) =
        Reports.reported Notification.at' value ConnectorAvailability.canTransitionTo order
          (shown (s.connectorStatuses.get? connectorId)) ∧
      ((s.connectorStatuses.get? connectorId).isSome = true ∨ order ≠ [] →
        ((Step.run (order.map deliver) s).connectorStatuses.get? connectorId).isSome = true) := by
  induction order generalizing s with
  | nil =>
    refine ⟨rfl, fun known => ?_⟩
    exact known.resolve_right fun none' => none' rfl
  | cons n rest ih =>
    obtain ⟨other, distinct'⟩ := List.nodup_cons.mp distinct
    obtain ⟨reported, known, kept, others⟩ :=
      (valid n (List.mem_cons_self ..)).consumed current (unseen n (List.mem_cons_self ..))
    have tail := ih ((Step.event n.event).next n.env s)
      (fun o member => valid o (List.mem_cons_of_mem _ member)) kept distinct' (by
        intro o member
        have different : o.e.eventId ≠ n.e.eventId := by
          intro same
          exact other (List.mem_map.mpr ⟨o, member, same⟩)
        rw [others _ different]
        exact unseen o (List.mem_cons_of_mem _ member))
    rw [reported] at tail
    exact ⟨tail.1, fun _ => tail.2 (Or.inl known)⟩

/-- The row shows the latest notification after every order of delivery. -/
def Converges (s : Store) (connectorId : String) (events : List Notification) (latest : Notification) : Prop :=
  ∀ order : List Notification, order.Perm events →
    ((Step.run (order.map deliver) s).connectorStatuses.get? connectorId).map ConnectorStatus.status =
      some latest.value

end Notification

namespace Deployment

/-- A report of the first connector's status, `minutes` past ten. -/
def notification (id at' word : String) (minutes : Nat) : Notification where
  env := environment "2.0.1" 1 minutes
  event := statusReport id at' word
  e := ⟨"01JN7F000000000000000000" ++ id, "01JN7F000000000000000000S1",
    "gateway.ocpp.status_notification.received.v1", "2026-03-01T" ++ at' ++ "Z", .null, statusReport id at' word⟩
  data := .array [("charge_point_identity", .string "CP-1"), ("protocol", .string "ocpp2.0.1"),
    ("connection_id", .string "01JN7F000000000000000000W1"), ("evse_id", .int 1), ("connector_id", .int 1),
    ("status", .string word)]
  connector := ConnectorSnapshotQuery.snapshot (connector "2.0.1" 1)
  connectionId := "01JN7F000000000000000000W1"
  at' := minute minutes
  word

def outOfService : List Notification :=
  [notification "E0" "10:00:00" "Unavailable" 0, notification "E1" "10:01:00" "Occupied" 1]

end Deployment

namespace Notification

theorem outOfService_valid : ∀ n ∈ Deployment.outOfService,
    n.Valid "01JN7F000000000000000000S1" "01JN7F000000000000000000W1" "C1" := by
  intro n member
  simp only [Deployment.outOfService, List.mem_cons, List.not_mem_nil, or_false] at member
  rcases member with rfl | rfl <;>
    exact ⟨⟨rfl, rfl⟩, ⟨_, rfl⟩, rfl, ⟨rfl, ⟨"CP-1", "ocpp2.0.1", rfl, rfl, rfl⟩, rfl, rfl⟩, rfl, rfl, rfl,
      rfl, rfl, ⟨_, rfl⟩, rfl, fun _ => rfl⟩

end Notification
end VtsaCsms.Charging
