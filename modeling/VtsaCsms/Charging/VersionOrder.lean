import VtsaCsms.Charging.System
import VtsaCsms.Foundation.Follows

/-!
# The version of a session

No step loses a session or lowers its `aggregate_version`, and none moves a session to another
state without raising it. Everything else of the row, and the payment of its customer, may
change under one version.
-/
namespace VtsaCsms.Charging
open Foundation Foundation.Action Assets Tariffs Billing

/-- A later row of a session: of no lower version, and in another state only with a higher one. -/
structure Succeeds (q q' : ChargingSession) : Prop where
  version : q.aggregateVersion ≤ q'.aggregateVersion
  state : q'.aggregateVersion = q.aggregateVersion → q'.state = q.state

instance : IsPreorder ChargingSession Succeeds where
  refl _ := ⟨Nat.le_refl _, fun _ => rfl⟩
  trans _ _ _ first second :=
    ⟨first.version.trans second.version, fun same => by
      have before := first.version
      have later := second.version
      exact (second.state (by omega)).trans (first.state (by omega))⟩

def Advances (s s' : Store) : Prop := Indexed.RowsFollow Succeeds s.sessions s'.sessions

instance : IsPreorder Store Advances where
  refl s := Std.Refl.refl (r := Indexed.RowsFollow Succeeds) s.sessions
  trans _ _ _ first second := IsTrans.trans (r := Indexed.RowsFollow Succeeds) _ _ _ first second

theorem same_advances {s s' : Store} (same : s'.sessions = s.sessions) : Advances s s' := by
  unfold Advances
  rw [same]
  exact Std.Refl.refl _

/-! ### Saves -/

theorem saveSession_advances {key : Nat} {f : ChargingSession → ChargingSession} (leads : ∀ q, Succeeds q (f q)) :
    Follows Advances (saveSession key f) :=
  (Indexed.update_follows _ key leads).focus fun _ _ follows => follows

theorem saveColumns_advances {key : Nat} {f : ChargingSession → ChargingSession}
    (version : ∀ q, (f q).aggregateVersion = q.aggregateVersion) (state : ∀ q, (f q).state = q.state) :
    Follows Advances (saveSession key f) :=
  saveSession_advances fun q => ⟨Nat.le_of_eq (version q).symm, fun _ => state q⟩

variable {α : Type}

theorem onCommands_advances (m : Action (Indexed Nat ChargerCommand ChargerCommand.clash) Throwable α) :
    Follows Advances (onCommands m) :=
  follows_elsewhere m fun _ _ => same_advances rfl

theorem onReservations_advances
    (m : Action (Indexed Nat ConnectorReservation ConnectorReservation.clash) Throwable α) :
    Follows Advances (onReservations m) :=
  follows_elsewhere m fun _ _ => same_advances rfl

theorem onReadings_advances (m : Action (Indexed Nat MeterReading MeterReading.clash) Throwable α) :
    Follows Advances (onReadings m) :=
  follows_elsewhere m fun _ _ => same_advances rfl

theorem onCdrs_advances (m : Action (Indexed Nat ChargeDetailRecord ChargeDetailRecord.clash) Throwable α) :
    Follows Advances (onCdrs m) :=
  follows_elsewhere m fun _ _ => same_advances rfl

theorem onCustomers_advances
    (m : Action (Indexed Nat CustomerChargingSession CustomerChargingSession.clash) Throwable α) :
    Follows Advances (onCustomers m) :=
  follows_elsewhere m fun _ _ => same_advances rfl

theorem onWallet_advances (m : Action Wallet Throwable α) : Follows Advances (onWallet m) :=
  follows_elsewhere m fun _ _ => same_advances rfl

theorem write_advances {f : Store → Store} (same : ∀ s, (f s).sessions = s.sessions) :
    Follows Advances (write f : Charge Unit) :=
  follows_write fun s => same_advances (same s)

theorem find_advances (f : Store → Option α) (e : Throwable) :
    Follows Advances (read f >>= fun found => (orThrow found e : Charge α)) :=
  .bind (follows_read f) fun found => follows_orThrow found e

theorem lockSession_advances (key : Nat) : Follows Advances (lockSession key) := find_advances _ _

theorem lockCommand_advances (key : Nat) : Follows Advances (lockCommand key) := find_advances _ _

theorem revokeTokens_advances (env : Environment) (p : Nat → AuthorizationToken → Bool) :
    Follows Advances (revokeTokens env p) :=
  write_advances fun _ => rfl

/-! ### State machines -/

theorem ChargingSessionStateMachine.transition_advances (key : Nat) (current next : ChargingSessionState) :
    Follows Advances (ChargingSessionStateMachine.transition key current next) := by
  refine .ite (follows_pure ()) (.bind (follows_throwIf _ _) fun _ => ?_)
  exact saveSession_advances fun q => ⟨Nat.le_succ _, fun same => absurd same (Nat.succ_ne_self _)⟩

theorem ChargerCommandStateMachine.transition_advances (env : Environment) (key : Nat)
    (current next : ChargerCommandState) :
    Follows Advances (ChargerCommandStateMachine.transition env key current next) :=
  .ite (follows_pure ()) (.bind (follows_throwIf _ _) fun _ => onCommands_advances _)

theorem ConnectorAvailabilityStateMachine.transition_advances (connectorId : String)
    (current next : ConnectorAvailability) (observedAt : Instant) :
    Follows Advances (ConnectorAvailabilityStateMachine.transition connectorId current next observedAt) :=
  .ite (write_advances fun _ => rfl)
    (.bind (follows_throwIf _ _) fun _ => write_advances fun _ => rfl)

theorem ChargeDetailRecordStateMachine.transition_advances (key : Nat) (current next : ChargeDetailRecordState) :
    Follows Advances (ChargeDetailRecordStateMachine.transition key current next) :=
  .ite (follows_pure ()) (.bind (follows_throwIf _ _) fun _ => onCdrs_advances _)

theorem ConnectorReservationService.release_advances (env : Environment) (sessionId : Nat) (reason : String)
    (restoreAvailability : Bool) :
    Follows Advances (ConnectorReservationService.release env sessionId reason restoreAvailability) := by
  refine .bind (follows_read _) fun found => ?_
  cases found with
  | none => exact follows_pure ()
  | some =>
    refine .bind (onReservations_advances _) fun _ => .bind (follows_read _) fun held => ?_
    refine .ite (follows_pure ()) (.bind (follows_read _) fun status => ?_)
    cases status with
    | none => exact follows_pure ()
    | some =>
      exact .ite (ConnectorAvailabilityStateMachine.transition_advances _ _ _ _) (follows_pure ())

namespace SessionLifecycleService

theorem cancel_advances (env : Environment) (key : Nat) (reason : String) :
    Follows Advances (cancel env key reason) := by
  refine .transaction (.bind (lockSession_advances key) fun locked => .bind (follows_throwIf _ _) fun _ => ?_)
  refine .bind (saveColumns_advances (fun _ => rfl) fun _ => rfl) fun _ => ?_
  exact .bind (ChargingSessionStateMachine.transition_advances _ _ _) fun _ =>
    ConnectorReservationService.release_advances _ _ _ _

end SessionLifecycleService

/-! ### Recording and finalizing -/

namespace MeterValueService

theorem firstOrCreateReading_advances (row : MeterReading) : Follows Advances (firstOrCreateReading row) := by
  refine .bind (follows_read _) fun known => .ite (follows_pure ()) ?_
  exact .bind (onReadings_advances _) fun _ => follows_pure ()

theorem recordSamples_advances (env : Environment) (sessionId : Nat) (eventId : String) (receivedAt : Instant)
    (samples : List Mixed) (index : Nat) (latest : Option Instant) (anomalies : List SessionAnomaly) :
    Follows Advances (recordSamples env sessionId eventId receivedAt samples index latest anomalies) := by
  induction samples generalizing index latest anomalies with
  | nil => exact follows_pure anomalies
  | cons _ _ ih =>
    unfold recordSamples
    refine .ite (ih _ _ _) (.ite (ih _ _ _) ?_)
    split
    · exact ih _ _ _
    · exact .bind (firstOrCreateReading_advances _) fun _ => ih _ _ _

theorem markResets_advances (keys : List Nat) : Follows Advances (markResets keys) := by
  induction keys with
  | nil => exact follows_pure ()
  | cons _ _ ih => exact .bind (onReadings_advances _) fun _ => ih

theorem record_advances (env : Environment) (key : Nat) (eventId : String) (samples : List Mixed)
    (receivedAt : Instant) : Follows Advances (record env key eventId samples receivedAt) := by
  refine .transaction (.bind (lockSession_advances key) fun locked => .bind (follows_read _) fun latest => ?_)
  refine .bind (recordSamples_advances _ _ _ _ _ _ _ _) fun anomalies => .bind (follows_read _) fun resets => ?_
  refine .bind (markResets_advances resets) fun _ => .bind (follows_read _) fun measured => ?_
  exact .bind (follows_lift measured) fun m => saveColumns_advances (fun _ => rfl) fun _ => rfl

end MeterValueService

namespace ChargeDetailRecordGenerator

theorem openCdr_advances (key : Nat) (locked : ChargingSession) : Follows Advances (openCdr key locked) := by
  refine .bind (follows_read _) fun latest => ?_
  cases latest with
  | none => exact .bind (onCdrs_advances _) fun _ => follows_pure _
  | some => exact .ite (.bind (onCdrs_advances _) fun _ => follows_pure _) (follows_pure _)

theorem blocked_advances (key cdrKey : Nat) (locked : ChargingSession) (state : ChargeDetailRecordState) :
    Follows Advances (blocked key cdrKey locked state) := by
  refine .bind (ChargeDetailRecordStateMachine.transition_advances _ _ _) fun _ => ?_
  exact .ite (ChargingSessionStateMachine.transition_advances _ _ _) (follows_pure ())

theorem finalize_advances (env : Environment) (key cdrKey : Nat) (locked : ChargingSession)
    (state : ChargeDetailRecordState) (flow : EnergyFlowDuration.Flow) (anomalies : List SessionAnomaly)
    (outcome : String) :
    Follows Advances (finalize env key cdrKey locked state flow anomalies outcome) := by
  refine .bind (follows_lift _) fun rating => .bind (onCdrs_advances _) fun _ => ?_
  refine .bind (ChargeDetailRecordStateMachine.transition_advances _ _ _) fun _ => ?_
  refine .bind (saveColumns_advances (fun _ => rfl) fun _ => rfl) fun _ => ?_
  refine .ite ?_ (ChargingSessionStateMachine.transition_advances _ _ _)
  exact .bind (ChargingSessionStateMachine.transition_advances _ _ _) fun _ =>
    ChargingSessionStateMachine.transition_advances _ _ _

theorem generate_advances (env : Environment) (key : Nat) (reviewApproved : Bool) (outcome : String) :
    Follows Advances (generate env key reviewApproved outcome) := by
  refine .transaction (.bind (lockSession_advances key) fun locked => ?_)
  refine .bind (openCdr_advances key locked) fun row => ?_
  refine .bind (ChargeDetailRecordStateMachine.transition_advances _ _ _) fun _ => ?_
  refine .bind (follows_read _) fun measured => .bind (follows_lift measured) fun flow => ?_
  exact .ite (blocked_advances _ _ _ _) (finalize_advances _ _ _ _ _ _ _ _)

end ChargeDetailRecordGenerator

namespace ManualSessionReviewService

theorem openReview_advances (env : Environment) (key : Nat) (reasonCode : String) (notes : Option String) :
    Follows Advances (openReview env key reasonCode notes) := by
  refine .transaction (.bind (lockSession_advances key) fun locked => ?_)
  refine .ite (.bind (ChargingSessionStateMachine.transition_advances _ _ _) fun _ => ?_)
    (.bind (follows_throwIf _ _) fun _ => ?_)
  · exact write_advances fun _ => rfl
  · exact write_advances fun _ => rfl

theorem reviewKey_advances (env : Environment) (key : Nat) : Follows Advances (reviewKey env key) := by
  refine .bind (follows_read _) fun found => ?_
  cases found with
  | some => exact follows_pure _
  | none =>
    exact .bind (follows_read _) fun _ => .bind (write_advances fun _ => rfl) fun _ => follows_pure _

theorem resolve_advances (env : Environment) (key : Nat) (decision notes : String) (adjustments : Adjustments) :
    Follows Advances (resolve env key decision notes adjustments) := by
  refine .bind (follows_throwIf _ _) fun _ => .bind (follows_throwIf _ _) fun _ => ?_
  refine .bind (.transaction ?_) fun _ => ChargeDetailRecordGenerator.generate_advances _ _ _ _
  refine .bind (lockSession_advances key) fun locked => .bind (follows_throwIf _ _) fun _ => ?_
  refine .bind (reviewKey_advances env key) fun review => ?_
  exact .bind (saveColumns_advances (fun _ => rfl) fun _ => rfl) fun _ => write_advances fun _ => rfl

end ManualSessionReviewService

/-! ### Charger events -/

theorem StationConnectionProjector.observe_advances (env : Environment) (e : Envelope) (data : Mixed)
    (action : String) : Follows Advances (StationConnectionProjector.observe env e data action) := by
  refine .bind (follows_lift _) fun identity => .bind (follows_lift _) fun protocol => ?_
  refine .bind (follows_lift _) fun _ => .bind (follows_orThrow _ _) fun connectionId => ?_
  refine .bind (follows_lift _) fun at' => .bind (follows_read _) fun row => ?_
  split
  split
  · exact .bind (write_advances fun _ => rfl) fun _ => follows_pure _
  · exact follows_pure _

theorem ChargingSessionCreator.create_advances (env : Environment) (connector : ConnectorSnapshot)
    (origin : ChargingSessionOrigin) (requestedAt : Instant) (requestedTariffVersionId promotionCode : Option String)
    (requireTariff : Bool) :
    Follows Advances (ChargingSessionCreator.create env connector origin requestedAt requestedTariffVersionId
      promotionCode requireTariff) := by
  refine .bind (follows_throwIf _ _) fun _ => ?_
  exact (Indexed.create_follows _ _).focus fun _ _ follows => follows

namespace OcppEventConsumer

theorem reconstruct_advances (env : Environment) (connector : ConnectorSnapshot) (transactionId : String)
    (sourceAt : Instant) : Follows Advances (reconstruct env connector transactionId sourceAt) := by
  refine .bind (ChargingSessionCreator.create_advances _ _ _ _ _ _ _) fun key => ?_
  exact .bind (saveColumns_advances (fun _ => rfl) fun _ => rfl) fun _ => follows_pure key

theorem sessionForStart_advances (env : Environment) (connector : ConnectorSnapshot) (transactionId : String)
    (sourceAt : Instant) : Follows Advances (sessionForStart env connector transactionId sourceAt) := by
  refine .bind (follows_read _) fun existing => ?_
  cases existing with
  | some => exact follows_pure _
  | none =>
    refine .bind (follows_read _) fun reserved => ?_
    cases reserved with
    | some => exact follows_pure _
    | none => exact reconstruct_advances env connector transactionId sourceAt

theorem findOrReconstruct_advances (env : Environment) (connector : ConnectorSnapshot) (transactionId : String)
    (sourceAt : Instant) : Follows Advances (findOrReconstruct env connector transactionId sourceAt) := by
  refine .bind (follows_read _) fun existing => ?_
  cases existing with
  | some => exact follows_pure _
  | none => exact reconstruct_advances env connector transactionId sourceAt

theorem findSession_advances (connector : ConnectorSnapshot) (transactionId : String) :
    Follows Advances (findSession connector transactionId) :=
  .bind (follows_read _) fun _ => .bind (follows_orThrow _ _) fun _ => follows_pure _

theorem activeSession_advances (connector : ConnectorSnapshot) : Follows Advances (activeSession connector) :=
  .bind (follows_read _) fun _ => .bind (follows_orThrow _ _) fun _ => follows_pure _

theorem setConnectorStatus_advances (connectorId : String) (next : ConnectorAvailability) (notified : Bool)
    (observedAt : Instant) (connectionId reportedStatus : Option String) :
    Follows Advances (setConnectorStatus connectorId next notified observedAt connectionId reportedStatus) := by
  refine .bind (.bind (follows_read _) fun stored => ?_) fun row => .ite (follows_pure _) ?_
  · cases stored with
    | some row => exact follows_pure row
    | none => exact .bind (write_advances fun _ => rfl) fun _ => follows_pure _
  · refine .bind (write_advances fun _ => rfl) fun _ => ?_
    exact .bind (ConnectorAvailabilityStateMachine.transition_advances _ _ _ _) fun _ => follows_pure _

theorem start_advances (env : Environment) (connector : ConnectorSnapshot) (e : Envelope) (data : Mixed)
    (sourceAt : Instant) : Follows Advances (start env connector e data sourceAt) := by
  refine .bind (follows_lift _) fun transactionId => ?_
  refine .bind (sessionForStart_advances env connector transactionId sourceAt) fun key => ?_
  refine .bind (lockSession_advances key) fun session => .bind (follows_lift _) fun authorization => ?_
  refine .bind (saveColumns_advances (fun _ => rfl) fun _ => rfl) fun _ => ?_
  refine .bind (ChargingSessionStateMachine.transition_advances _ _ _) fun _ => ?_
  refine .bind (ChargingSessionStateMachine.transition_advances _ _ _) fun _ => ?_
  refine .bind (ConnectorReservationService.release_advances _ _ _ _) fun _ => ?_
  refine .bind (setConnectorStatus_advances _ _ _ _ _ _) fun _ => ?_
  exact .doIf (MeterValueService.record_advances _ _ _ _ _)

theorem stop_advances (env : Environment) (connector : ConnectorSnapshot) (e : Envelope) (data : Mixed)
    (sourceAt : Instant) : Follows Advances (stop env connector e data sourceAt) := by
  refine .bind (follows_lift _) fun transactionId => ?_
  refine .bind (findSession_advances connector transactionId) fun key => ?_
  refine .bind (lockSession_advances key) fun _ => ?_
  refine .bind (saveColumns_advances (fun _ => rfl) fun _ => rfl) fun _ => ?_
  refine .bind (MeterValueService.record_advances _ _ _ _ _) fun _ => ?_
  refine .bind (lockSession_advances key) fun refreshed => ?_
  refine .bind (ChargingSessionStateMachine.transition_advances _ _ _) fun _ => ?_
  exact .bind (ConnectorReservationService.release_advances _ _ _ _) fun _ =>
    ChargeDetailRecordGenerator.generate_advances _ _ _ _

theorem updated_advances (env : Environment) (connector : ConnectorSnapshot) (e : Envelope) (data : Mixed)
    (sourceAt : Instant) : Follows Advances (updated env connector e data sourceAt) := by
  refine .bind (follows_lift _) fun transactionId => ?_
  refine .bind (findOrReconstruct_advances env connector transactionId sourceAt) fun key => ?_
  refine .bind (lockSession_advances key) fun session => .bind (follows_lift _) fun word => ?_
  refine .bind (ChargingSessionStateMachine.transition_advances _ _ _) fun _ => ?_
  refine .bind (.doIf (ChargingSessionStateMachine.transition_advances _ _ _)) fun _ => ?_
  refine .bind (saveColumns_advances (fun _ => rfl) fun _ => rfl) fun _ => ?_
  exact .doIf (MeterValueService.record_advances _ _ _ _ _)

theorem transactionEvent_advances (env : Environment) (connector : ConnectorSnapshot) (e : Envelope) (data : Mixed)
    (sourceAt : Instant) : Follows Advances (transactionEvent env connector e data sourceAt) := by
  refine .bind (follows_lift _) fun word => .ite (start_advances _ _ _ _ _) (.ite (stop_advances _ _ _ _ _) ?_)
  exact .ite (updated_advances _ _ _ _ _) (follows_raise _)

theorem meterValues_advances (env : Environment) (connector : ConnectorSnapshot) (e : Envelope) (data : Mixed)
    (receivedAt : Instant) : Follows Advances (meterValues env connector e data receivedAt) := by
  refine .bind (.ite (activeSession_advances connector) ?_) fun key => ?_
  · exact .bind (follows_lift _) fun transactionId => findSession_advances connector transactionId
  · refine .bind (lockSession_advances key) fun session => ?_
    refine .bind (MeterValueService.record_advances _ _ _ _ _) fun _ => .doIf ?_
    exact .ite (follows_pure ()) (saveColumns_advances (fun _ => rfl) fun _ => rfl)

theorem status_advances (env : Environment) (connector : ConnectorSnapshot) (e : Envelope) (data : Mixed)
    (sourceAt : Instant) : Follows Advances (status env connector e data sourceAt) := by
  refine .bind (follows_lift _) fun word => .bind (setConnectorStatus_advances _ _ _ _ _ _) fun changed => ?_
  exact .ite (follows_pure ()) (follows_lift _)

theorem dispatch_advances (env : Environment) (e : Envelope) (data : Mixed) (action : String) :
    Follows Advances (dispatch env e data action) := by
  refine .bind (follows_lift _) fun connector => .bind (follows_lift _) fun protocol => ?_
  refine .bind (follows_throwIf _ _) fun _ => .bind (follows_lift _) fun occurredAt => ?_
  refine .bind (follows_lift _) fun sourceAt => .ite (start_advances _ _ _ _ _) ?_
  refine .ite (stop_advances _ _ _ _ _) (.ite (transactionEvent_advances _ _ _ _ _) ?_)
  exact .ite (meterValues_advances _ _ _ _ _) (status_advances _ _ _ _ _)

theorem handle_advances (env : Environment) (e : Envelope) (action : String) :
    Follows Advances (handle env e action) := by
  refine .bind (follows_lift _) fun data => .bind (.ite ?_ (follows_pure true)) fun current => ?_
  · exact StationConnectionProjector.observe_advances _ _ _ _
  · exact .ite (follows_pure ()) (.ite (follows_pure ()) (dispatch_advances _ _ _ _))

theorem process_advances (env : Environment) (e : Envelope) (action : String) :
    Follows Advances (process env e action) := by
  refine .transaction (.bind (follows_lift _) fun row => .bind (write_advances fun _ => rfl) fun _ => ?_)
  exact .bind (handle_advances env e action) fun _ => write_advances fun _ => rfl

theorem quarantine_advances (env : Environment) (e : Envelope) (exception : Throwable) :
    Follows Advances (quarantine env e exception) := by
  refine .transaction (.bind (follows_read _) fun existing => ?_)
  cases existing with
  | some => exact follows_pure ()
  | none => exact .bind (follows_lift _) fun row => write_advances fun _ => rfl

theorem consume_advances (env : Environment) (event : Mixed) : Follows Advances (consume env event) := by
  refine .bind (follows_lift _) fun envelope => .bind (follows_throwIf _ _) fun _ => ?_
  refine .bind (follows_read _) fun existing => ?_
  cases existing with
  | some => exact follows_pure _
  | none =>
    refine .tryCatch (.bind (process_advances _ _ _) fun _ => follows_pure _) fun exception => ?_
    exact .bind (quarantine_advances _ _ _) fun _ => follows_pure _

end OcppEventConsumer

/-! ### Commands -/

namespace RemoteStartService

theorem reserveAndCommand_advances (env : Environment) (connector : ConnectorSnapshot) (status : ConnectorStatus)
    (idempotencyKey : String) (tariffVersionId promotionCode : Option String) (expiresAt : Instant) :
    Follows Advances (reserveAndCommand env connector status idempotencyKey tariffVersionId promotionCode
      expiresAt) := by
  refine .bind (ChargingSessionCreator.create_advances _ _ _ _ _ _ _) fun key => ?_
  refine .bind (saveColumns_advances (fun _ => rfl) fun _ => rfl) fun _ => ?_
  refine .bind (.bind (follows_read _) fun _ => .bind (write_advances fun _ => rfl) fun _ => follows_pure _)
    fun token => ?_
  refine .bind (write_advances fun _ => rfl) fun _ => ?_
  refine .bind (saveColumns_advances (fun _ => rfl) fun _ => rfl) fun _ => ?_
  refine .bind (onReservations_advances _) fun _ => ?_
  refine .bind (ConnectorAvailabilityStateMachine.transition_advances _ _ _ _) fun _ => ?_
  refine .bind (ChargingSessionStateMachine.transition_advances _ _ _) fun _ => ?_
  refine .bind (ChargingSessionStateMachine.transition_advances _ _ _) fun _ => ?_
  refine .bind (ChargingSessionStateMachine.transition_advances _ _ _) fun _ => ?_
  exact .bind (onCommands_advances _) fun _ => follows_pure key

theorem request_advances (env : Environment) (connectorId idempotencyKey : String)
    (tariffVersionId promotionCode : Option String) :
    Follows Advances (request env connectorId idempotencyKey tariffVersionId promotionCode) := by
  refine .bind (follows_lift _) fun _ => .bind (follows_read _) fun existing => ?_
  cases existing with
  | some => exact .bind (follows_throwIf _ _) fun _ => follows_pure _
  | none =>
    refine .bind (follows_orThrow _ _) fun connector => .bind (follows_throwIf _ _) fun _ => ?_
    refine .bind (follows_throwIf _ _) fun _ => .transaction (.bind (follows_read _) fun status => ?_)
    refine .bind (follows_read _) fun ready => .bind (follows_read _) fun occupied => ?_
    cases status with
    | none => exact follows_raise _
    | some => exact .bind (follows_throwIf _ _) fun _ => reserveAndCommand_advances _ _ _ _ _ _ _

end RemoteStartService

namespace RemoteStopService

theorem actorOf_advances (env : Environment) (sessionId : Nat) (onBehalf : Bool) :
    Follows Advances (actorOf env sessionId onBehalf) := by
  refine .bind (follows_read _) fun owner => .ite ?_ (follows_pure _)
  exact .bind (follows_orThrow _ _) fun _ => follows_pure _

theorem request_advances (env : Environment) (sessionId : Nat) (idempotencyKey : String)
    (spendingLimit cancelPendingStart : Bool) :
    Follows Advances (request env sessionId idempotencyKey spendingLimit cancelPendingStart) := by
  refine .bind (follows_read _) fun existing => ?_
  cases existing with
  | some => exact follows_throwIf _ _
  | none =>
    refine .bind (follows_throwIf _ _) fun _ => .transaction (.bind (lockSession_advances _) fun locked => ?_)
    refine .bind (follows_throwIf _ _) fun _ => .bind (follows_throwIf _ _) fun _ => ?_
    refine .bind (follows_orThrow _ _) fun transactionId => .bind (follows_lift _) fun action => ?_
    refine .bind (actorOf_advances _ _ _) fun actorId => .bind (onCommands_advances _) fun _ => ?_
    exact ChargingSessionStateMachine.transition_advances _ _ _

end RemoteStopService

theorem CommandOutcomeService.apply_advances (env : Environment) (command : ChargerCommand) :
    Follows Advances (CommandOutcomeService.apply env command) := by
  refine .bind (lockSession_advances _) fun session => ?_
  split
  · refine .bind (follows_read _) fun prepaid => .ite (follows_pure ()) (.ite ?_ (.ite ?_ (follows_pure ())))
    · exact saveColumns_advances (fun _ => rfl) fun _ => rfl
    · refine .bind (saveColumns_advances (fun _ => rfl) fun _ => rfl) fun _ => ?_
      exact .bind (ChargingSessionStateMachine.transition_advances _ _ _) fun _ =>
        ConnectorReservationService.release_advances _ _ _ _
  · exact .ite (ChargingSessionStateMachine.transition_advances _ _ _) (follows_pure ())

namespace DispatchChargerCommand

theorem begin_advances (env : Environment) (key : Nat) : Follows Advances (begin env key) := by
  refine .transaction (.bind (lockCommand_advances key) fun command => .ite (follows_pure ()) ?_)
  refine .ite (ChargerCommandStateMachine.transition_advances _ _ _ _) ?_
  exact .ite (ChargerCommandStateMachine.transition_advances _ _ _ _) (follows_pure ())

theorem applyTerminal_advances (env : Environment) (key : Nat) : Follows Advances (applyTerminal env key) := by
  refine .transaction (.bind (lockCommand_advances key) fun command => ?_)
  exact .ite (CommandOutcomeService.apply_advances _ _) (follows_pure ())

theorem settle_advances (env : Environment) (key : Nat) (next : ChargerCommandState) :
    Follows Advances (settle env key next) := by
  refine .transaction (.bind (lockCommand_advances key) fun locked => .ite ?_ (follows_pure ()))
  refine .bind (ChargerCommandStateMachine.transition_advances _ _ _ _) fun _ => ?_
  exact .bind (lockCommand_advances key) fun command => CommandOutcomeService.apply_advances _ _

theorem complete_advances (env : Environment) (key : Nat) (answer : Except Throwable GatewayResult) :
    Follows Advances (complete env key answer) :=
  .tryCatch (.bind (follows_lift _) fun _ => settle_advances _ _ _) fun _ => settle_advances _ _ _

end DispatchChargerCommand

namespace ExpireChargingOperations

theorem expireCommand_advances (env : Environment) (key : Nat) : Follows Advances (expireCommand env key) := by
  refine .transaction (.bind (follows_read _) fun found => ?_)
  cases found with
  | none => exact follows_pure ()
  | some =>
    refine .ite (follows_pure ()) (.bind (ChargerCommandStateMachine.transition_advances _ _ _ _) fun _ => ?_)
    exact .bind (lockCommand_advances key) fun refreshed => CommandOutcomeService.apply_advances _ _

theorem expireSession_advances (env : Environment) (key : Nat) : Follows Advances (expireSession env key) := by
  refine .transaction (.bind (follows_read _) fun found => ?_)
  cases found with
  | none => exact follows_pure ()
  | some =>
    refine .ite (follows_pure ()) (.bind (follows_read _) fun waiting => .ite ?_ ?_)
    · exact saveColumns_advances (fun _ => rfl) fun _ => rfl
    · refine .bind (ChargingSessionStateMachine.transition_advances _ _ _) fun _ => ?_
      refine .bind (ConnectorReservationService.release_advances _ _ _ _) fun _ => ?_
      split
      · exact revokeTokens_advances _ _
      · exact follows_pure ()

end ExpireChargingOperations

/-! ### Prepaid charging -/

namespace PrepaidChargingMonitor

theorem settleHold_advances (env : Environment) (key customerKey : Nat) (owner : CustomerChargingSession)
    (spent : Int) (payment : PaymentState) :
    Follows Advances (settleHold env key customerKey owner spent payment) :=
  .bind (onWallet_advances _) fun _ => onCustomers_advances _

theorem requireAction_advances (customerKey : Nat) : Follows Advances (requireAction customerKey) :=
  onCustomers_advances _

theorem cancelConfirmedIdleStart_advances (env : Environment) (key : Nat) (session : ChargingSession) :
    Follows Advances (cancelConfirmedIdleStart env key session) := by
  refine .bind (follows_read _) fun command => ?_
  split
  · refine .bind (follows_read _) fun confirmed => .ite ?_ (follows_pure false)
    refine .bind (revokeTokens_advances _ _) fun _ => ?_
    exact .bind (SessionLifecycleService.cancel_advances _ _ _) fun _ => follows_pure true
  · exact follows_pure false

theorem watchBudget_advances (env : Environment) (key customerKey : Nat) (session : ChargingSession)
    (owner : CustomerChargingSession) (startedAt : Instant) :
    Follows Advances (watchBudget env key customerKey session owner startedAt) := by
  refine .bind (follows_read _) fun isStale => .bind (follows_lift _) fun future => .ite (follows_pure ()) ?_
  refine .bind (follows_read _) fun attempts => .ite (requireAction_advances _) ?_
  exact RemoteStopService.request_advances _ _ _ _ _

theorem stopWithdrawn_advances (env : Environment) (key customerKey : Nat) (session : ChargingSession) :
    Follows Advances (stopWithdrawn env key customerKey session) := by
  refine .bind (follows_read _) fun attempts => .ite (requireAction_advances _) ?_
  exact RemoteStopService.request_advances _ _ _ _ _

theorem capture_advances (env : Environment) (key customerKey : Nat) (session : ChargingSession)
    (owner : CustomerChargingSession) : Follows Advances (capture env key customerKey session owner) := by
  refine .bind (follows_read _) fun cdr => ?_
  split
  · exact settleHold_advances _ _ _ _ _ _
  · exact requireAction_advances _

theorem releaseUnstarted_advances (env : Environment) (key customerKey : Nat) (owner : CustomerChargingSession) :
    Follows Advances (releaseUnstarted env key customerKey owner) := by
  refine .bind (follows_read _) fun command => ?_
  exact .ite (settleHold_advances _ _ _ _ _ _) (requireAction_advances _)

theorem reconcile_advances (env : Environment) (key : Nat) : Follows Advances (reconcile env key) := by
  refine .transaction (.bind (lockSession_advances key) fun session => .bind (follows_read _) fun found => ?_)
  refine .bind (follows_orThrow _ _) fun row => .ite (follows_pure ()) ?_
  refine .bind (cancelConfirmedIdleStart_advances _ _ _) fun cancelled => ?_
  refine .ite (settleHold_advances _ _ _ _ _ _) (.bind (follows_read _) fun alert => ?_)
  refine .bind (.doIf (requireAction_advances _)) fun _ => .ite (capture_advances _ _ _ _ _) ?_
  refine .ite (releaseUnstarted_advances _ _ _ _) (.ite (stopWithdrawn_advances _ _ _ _) ?_)
  split
  · exact .ite (watchBudget_advances _ _ _ _ _ _) (follows_pure ())
  · exact follows_pure ()

end PrepaidChargingMonitor

namespace CustomerCharging

theorem owned_advances (env : Environment) (subject : String) (sessionId : Nat) :
    Follows Advances (owned env subject sessionId) := by
  refine .bind (follows_read _) fun found => .bind (follows_orThrow _ _) fun owner => ?_
  split
  · exact .bind (follows_throwIf _ _) fun _ => lockSession_advances _
  · exact .bind (follows_lift _) fun _ => lockSession_advances _

theorem start_advances (env : Environment) (subject : String) (quoteId : Nat) (connectorId key : String)
    (selectedAccount : Option String) :
    Follows Advances (start env subject quoteId connectorId key selectedAccount) := by
  refine .transaction (.bind (follows_read _) fun existing => ?_)
  cases existing with
  | some =>
    refine .bind (follows_throwIf _ _) fun _ => .bind (owned_advances _ _ _) fun session => ?_
    exact .bind (follows_throwIf _ _) fun _ => follows_pure _
  | none =>
    refine .bind (follows_read _) fun busy => .bind (follows_throwIf _ _) fun _ => ?_
    refine .bind (follows_read _) fun found => .bind (follows_orThrow _ _) fun quote => ?_
    refine .bind (follows_read _) fun checked => .bind (follows_lift _) fun _ => ?_
    refine .bind (RemoteStartService.request_advances _ _ _ _ _) fun sessionId => ?_
    refine .bind (saveColumns_advances (fun _ => rfl) fun _ => rfl) fun _ => ?_
    refine .bind (onWallet_advances _) fun _ => ?_
    exact .bind (onCustomers_advances _) fun _ => follows_pure _

theorem withdraw_advances (env : Environment) (id commandKey : Nat) (command : ChargerCommand)
    (session : ChargingSession) (reason : Option String) :
    Follows Advances (withdraw env id commandKey command session reason) := by
  refine .bind (.doIf (revokeTokens_advances _ _)) fun _ => .ite ?_ (.ite ?_ (follows_pure ()))
  · exact .bind (ChargerCommandStateMachine.transition_advances _ _ _ _) fun _ =>
      SessionLifecycleService.cancel_advances _ _ _
  · exact saveSession_advances fun q => ⟨Nat.le_succ _, fun same => absurd same (Nat.succ_ne_self _)⟩

theorem cancel_advances (env : Environment) (subject : String) (id : Nat) (reason : Option String) :
    Follows Advances (cancel env subject id reason) := by
  refine .transaction (.bind (owned_advances _ _ _) fun first => .ite (follows_pure ()) ?_)
  refine .bind (follows_read _) fun found => .bind (follows_orThrow _ _) fun row => ?_
  refine .bind (lockSession_advances id) fun session => .ite (PrepaidChargingMonitor.reconcile_advances _ _) ?_
  refine .bind (follows_throwIf _ _) fun _ => .bind (withdraw_advances _ _ _ _ _ _) fun _ => ?_
  exact PrepaidChargingMonitor.reconcile_advances _ _

end CustomerCharging

/-! ### Steps and runs -/

theorem Step.perform_advances (env : Environment) (step : Step) : Follows Advances (step.perform env) := by
  cases step with
  | event => exact .bind (OcppEventConsumer.consume_advances _ _) fun _ => follows_pure ()
  | remoteStart => exact .bind (RemoteStartService.request_advances _ _ _ _ _) fun _ => follows_pure ()
  | remoteStop => exact RemoteStopService.request_advances _ _ _ _ _
  | dispatch => exact DispatchChargerCommand.begin_advances _ _
  | applyTerminal => exact DispatchChargerCommand.applyTerminal_advances _ _
  | gatewayAnswer => exact DispatchChargerCommand.complete_advances _ _ _
  | expireCommand => exact ExpireChargingOperations.expireCommand_advances _ _
  | expireSession => exact ExpireChargingOperations.expireSession_advances _ _
  | cancelSession => exact SessionLifecycleService.cancel_advances _ _ _
  | openReview => exact ManualSessionReviewService.openReview_advances _ _ _ _
  | resolveReview => exact ManualSessionReviewService.resolve_advances _ _ _ _ _
  | quote => exact write_advances fun _ => rfl
  | credit => exact onWallet_advances _
  | setLimit => exact onWallet_advances _
  | customerStart => exact .bind (CustomerCharging.start_advances _ _ _ _ _ _) fun _ => follows_pure ()
  | customerCancel => exact CustomerCharging.cancel_advances _ _ _ _
  | reconcile => exact PrepaidChargingMonitor.reconcile_advances _ _

theorem Step.next_advances (env : Environment) (step : Step) (s : Store) : Advances s (step.next env s) :=
  step.perform_advances env s

theorem Step.run_advances (steps : List (Environment × Step)) (s : Store) : Advances s (Step.run steps s) := by
  induction steps generalizing s with
  | nil => exact Std.Refl.refl s
  | cons first _ ih => exact IsTrans.trans _ _ _ (first.2.next_advances first.1 s) (ih _)

end VtsaCsms.Charging
