import VtsaCsms.Charging.Records
import VtsaCsms.Foundation.Rows

/-!
# State machines

What a request reads from outside the charging tables, the saves of model objects, the
four state machines, and the services that move a session or a reservation and nothing
else: `*StateMachine.php`, `ConnectorReservationService.php`, `SessionLifecycleService.php`.
-/
namespace VtsaCsms.Charging
open Foundation Foundation.Action Assets Tariffs

/-- What a status report hands to Maintenance. -/
structure FaultObservation where
  eventId : String
  siteId : String
  connectorId : String
  status : String
  faultCode : Option String
  observedAt : Instant
  protocol : String
  chargePointIdentity : String
  evseNumber : Int
  connectorNumber : Int
  vendorErrorCode : Option String

/-- One request: its clock, its context, the other modules' answers, the third-party
parsers and the configuration. A run may change any of it from step to step. -/
structure Environment where
  now : Instant
  tenantId : String
  actorId : Option String
  register : Register
  tariffVersions : List TariffVersion
  platformFee : PlatformFee
  budgetPolicy : BudgetPolicy
  clock : LocalClock
  isUlid : String → Bool
  parseTime : String → Option Instant
  /-- How the date cast of a model stores a text. -/
  castTime : String → Option Instant
  toFloat : String → Option Double
  floatText : Double → String
  mbStrToUpper : String → String
  sha256 : String → String
  observeFault : FaultObservation → Except Throwable Unit
  /-- `KycEligibility::assertAllowed`, and the account and vehicle checks of a customer. -/
  kycAllowed : Except Throwable Unit
  requireAccount : String → Option String → Except Throwable Unit
  chargeVehicle : String → Option String → String → Except Throwable Unit
  gatewayTimeoutSeconds : Int := 20
  startExpirySeconds : Int := 120
  connectionStaleAfterSeconds : Int := 180
  meterTimeoutSeconds : Int := 60
  stopBufferSeconds : Int := 90

abbrev Charge (α : Type) := Action Store Throwable α

/-! ### Saves -/

def onSessions {α : Type} (m : Action (Indexed Nat ChargingSession ChargingSession.clash) Throwable α) :
    Charge α :=
  focus Store.sessions (fun s t => { s with sessions := t }) m

def onCommands {α : Type} (m : Action (Indexed Nat ChargerCommand ChargerCommand.clash) Throwable α) :
    Charge α :=
  focus Store.commands (fun s t => { s with commands := t }) m

def onReservations {α : Type}
    (m : Action (Indexed Nat ConnectorReservation ConnectorReservation.clash) Throwable α) : Charge α :=
  focus Store.reservations (fun s t => { s with reservations := t }) m

def onReadings {α : Type} (m : Action (Indexed Nat MeterReading MeterReading.clash) Throwable α) :
    Charge α :=
  focus Store.readings (fun s t => { s with readings := t }) m

def onCdrs {α : Type}
    (m : Action (Indexed Nat ChargeDetailRecord ChargeDetailRecord.clash) Throwable α) : Charge α :=
  focus Store.cdrs (fun s t => { s with cdrs := t }) m

def onCustomers {α : Type}
    (m : Action (Indexed Nat CustomerChargingSession CustomerChargingSession.clash) Throwable α) :
    Charge α :=
  focus Store.customers (fun s t => { s with customers := t }) m

def saveSession (key : Nat) (f : ChargingSession → ChargingSession) : Charge Unit :=
  onSessions (Indexed.update "charging_sessions" key f)

def saveCommand (key : Nat) (f : ChargerCommand → ChargerCommand) : Charge Unit :=
  onCommands (Indexed.update "charging_command_idempotency_unique" key f)

def saveReservation (key : Nat) (f : ConnectorReservation → ConnectorReservation) : Charge Unit :=
  onReservations (Indexed.update "connector_one_open_reservation_unique" key f)

def saveCdr (key : Nat) (f : ChargeDetailRecord → ChargeDetailRecord) : Charge Unit :=
  onCdrs (Indexed.update "cdr_session_version_unique" key f)

def saveCustomer (key : Nat) (f : CustomerChargingSession → CustomerChargingSession) : Charge Unit :=
  onCustomers (Indexed.update "charging_customer_sessions" key f)

def saveConnectorStatus (connectorId : String) (f : ConnectorStatus → ConnectorStatus) : Charge Unit :=
  write fun s => { s with connectorStatuses := s.connectorStatuses.update connectorId f }

/-- `whereKey(...)->lockForUpdate()->firstOrFail()`. -/
def lockSession (key : Nat) : Charge ChargingSession := do
  let found ← read fun s => s.sessions.get? key
  orThrow found (.modelNotFound "ChargingSession")

def lockCommand (key : Nat) : Charge ChargerCommand := do
  let found ← read fun s => s.commands.get? key
  orThrow found (.modelNotFound "ChargerCommand")

/-! ### Transitions -/

/-- `current` is the state of the object in hand. -/
def ChargingSessionStateMachine.transition (key : Nat) (current next : ChargingSessionState) :
    Charge Unit :=
  if current = next then pure ()
  else do
    throwIf (current.canTransitionTo next = false) (.domain
      ("Charging session cannot transition from " ++ current.value ++ " to " ++ next.value ++ "."))
    saveSession key fun s => { s with state := next, aggregateVersion := s.aggregateVersion + 1 }

def ChargerCommandStateMachine.transition (env : Environment) (key : Nat)
    (current next : ChargerCommandState) : Charge Unit :=
  if current = next then pure ()
  else do
    throwIf (current.canTransitionTo next = false) (.domain
      ("Charger command cannot transition from " ++ current.value ++ " to " ++ next.value ++ "."))
    saveCommand key fun c => { c with
      state := next
      dispatchedAt := if next = .dispatched then some env.now.toSecond else c.dispatchedAt
      acknowledgedAt :=
        if next = .acknowledged ∨ next = .rejected then some env.now.toSecond else c.acknowledgedAt }

def ConnectorAvailabilityStateMachine.transition (connectorId : String)
    (current next : ConnectorAvailability) (observedAt : Instant) : Charge Unit :=
  if current = next then saveConnectorStatus connectorId fun s => { s with observedAt }
  else do
    throwIf (current.canTransitionTo next = false) (.domain
      ("Connector cannot transition from " ++ current.value ++ " to " ++ next.value ++ "."))
    saveConnectorStatus connectorId fun s => { s with status := next, observedAt }

def ChargeDetailRecordStateMachine.transition (key : Nat) (current next : ChargeDetailRecordState) :
    Charge Unit :=
  if current = next then pure ()
  else do
    throwIf (current.canTransitionTo next = false) (.domain
      ("CDR cannot transition from " ++ current.value ++ " to " ++ next.value ++ "."))
    saveCdr key fun c => { c with state := next }

/-! ### Reservations and the end of an unstarted session -/

def ConnectorReservationService.release (env : Environment) (sessionId : Nat) (reason : String)
    (restoreAvailability : Bool := false) : Charge Unit := do
  let found ← read fun s => s.reservations.first? fun _ r => r.sessionId = sessionId && r.releasedAt = none
  match found with
  | none => pure ()
  | some (key, reservation) =>
    saveReservation key fun r =>
      { r with releasedAt := some env.now.toSecond, releaseReason := some reason }
    let held ← read fun s => s.reservations.exists? fun _ r =>
      r.connectorId = reservation.connectorId && r.releasedAt = none && env.now.toSecond < r.expiresAt
    if restoreAvailability = false ∨ held = true then pure ()
    else do
      let status ← read fun s => s.connectorStatuses.get? reservation.connectorId
      match status with
      | some row =>
        if row.status = .reserved then
          ConnectorAvailabilityStateMachine.transition reservation.connectorId row.status .available
            env.now
        else pure ()
      | none => pure ()

namespace SessionLifecycleService

def cancel (env : Environment) (key : Nat) (reason : String) : Charge Unit :=
  transaction do
    let locked ← lockSession key
    throwIf (locked.state.isPhysicallyActive = true ∨ locked.startedAt ≠ none)
      (.domain "A physically started session cannot be cancelled. Request a stop instead.")
    saveSession key fun s => { s with cancellationReason := some reason }
    ChargingSessionStateMachine.transition key locked.state .cancelled
    ConnectorReservationService.release env key "session_cancelled" true

def fail (env : Environment) (key : Nat) (reason : String) : Charge Unit :=
  transaction do
    let locked ← lockSession key
    throwIf (locked.startedAt ≠ none)
      (.domain "A physically started session requires finalization, not failure.")
    saveSession key fun s => { s with failureReason := some reason }
    ChargingSessionStateMachine.transition key locked.state .failed
    ConnectorReservationService.release env key "session_failed" true

end SessionLifecycleService
end VtsaCsms.Charging
