import VtsaCsms.Charging.OcppEvents

/-!
# Charger commands

`RemoteStartService.php`, `RemoteStopService.php`, `CommandOutcomeService.php`, the job
`DispatchChargerCommand.php` as the transactions it commits around the gateway call, and
the deadlines of `ExpireChargingOperations.php`, one command or session at a time.
-/
namespace VtsaCsms.Charging
open Foundation Foundation.Action Assets Tariffs

/-- `StationConnectionQuery::status`, where it says `online`. -/
def connectionOnline (env : Environment) (connected : Bool) (lastSeen : Instant) : Bool :=
  connected && env.now < lastSeen.addSeconds env.connectionStaleAfterSeconds

/-- The availability a connector snapshot carries. -/
def availability (env : Environment) (store : Store) (c : ConnectorSnapshot) : ConnectorAvailability :=
  match store.connectorStatuses.get? c.connectorId with
  | none => .unknown
  | some status =>
    match store.connections.get? c.stationId with
    | some connection =>
      if connectionOnline env connection.connected connection.lastSeenAt = false then .offline
      else if status.ocppConnectionId ≠ some connection.connectionId then .unknown
      else status.status
    | none =>
      if env.now < status.observedAt.toSecond.addSeconds status.staleAfterSeconds then status.status
      else .unknown

/-- Available, or occupied by nothing more than a plugged-in car. -/
def readyToStart (env : Environment) (store : Store) (c : ConnectorSnapshot) : Bool :=
  availability env store c = .available ||
    (availability env store c = .occupied &&
      ((store.connectorStatuses.get? c.connectorId).bind ConnectorStatus.reportedStatus) =
        some "preparing")

namespace AuthorizationTokenService

def issue (expiresAt : Instant) : Charge Nat := do
  let key ← read fun s => s.tokens.nextId
  let token : AuthorizationToken :=
    { sessionId := none, status := "active", expiresAt := expiresAt.toSecond }
  write fun s => { s with tokens := s.tokens.create token }
  pure key

structure Answer where
  status : String
  expiresAt : Option Instant
  deriving DecidableEq

/-- The row's key stands for the secret it is looked up by; `used_at` is left out. -/
def authorize (env : Environment) (token : Nat) (chargingStationId : String) : Charge Answer := do
  let found ← read fun s => (s.tokens.get? token).filter fun t =>
    t.status = "active" && t.revokedAt = none && env.now.toSecond < t.expiresAt
  match found with
  | none => pure ⟨"Invalid", none⟩
  | some row =>
    let belongsToStation ← read fun s => (row.sessionId.bind s.sessions.get?).any fun session =>
      session.chargingStationId = chargingStationId
    if belongsToStation = false then pure ⟨"Invalid", none⟩
    else pure ⟨"Accepted", some row.expiresAt⟩

end AuthorizationTokenService

/-- `UPDATE … SET status = 'revoked'` on the tokens a condition selects. -/
def revokeTokens (env : Environment) (p : Nat → AuthorizationToken → Bool) : Charge Unit :=
  write fun s => { s with tokens := s.tokens.updateWhere p fun t =>
    { t with status := "revoked", revokedAt := some env.now.toSecond } }

namespace RemoteStartService

def promotionCodeHash (env : Environment) (promotionCode : Option String) : Option String :=
  promotionCode.map fun code => env.sha256 (env.mbStrToUpper code)

def sameIntent (env : Environment) (command : ChargerCommand) (connectorId : String)
    (tariffVersionId promotionCode : Option String) : Bool :=
  command.type = .remoteStart && command.connectorId = connectorId &&
    command.requestedTariffVersionId = tariffVersionId &&
    command.promotionCodeHash = promotionCodeHash env promotionCode

def otherIntent : Throwable :=
  .domain "The idempotency key belongs to a different command intent."

def byIdempotencyKey (store : Store) (idempotencyKey : String) : Option (Nat × ChargerCommand) :=
  store.commands.first? fun _ c => c.idempotencyKey = idempotencyKey

def commandRow (env : Environment) (connector : ConnectorSnapshot) (sessionId : Nat)
    (idempotencyKey : String) (tariffVersionId promotionCode : Option String) (expiresAt : Instant) :
    ChargerCommand where
  sessionId
  chargingStationId := connector.stationId
  connectorId := connector.connectorId
  type := .remoteStart
  ocppAction := if connector.protocol = "ocpp1.6" then "RemoteStartTransaction" else "RequestStartTransaction"
  idempotencyKey
  actorId := env.actorId
  reasonCode := "driver.remote_start"
  expectedSessionState := .starting
  requestedTariffVersionId := tariffVersionId
  promotionCodeHash := promotionCodeHash env promotionCode
  expiresAt := expiresAt.toSecond
  createdAt := env.now.toSecond

/-- The writes of a new remote start: session, token, reservation, connector and command. -/
def reserveAndCommand (env : Environment) (connector : ConnectorSnapshot) (status : ConnectorStatus)
    (idempotencyKey : String) (tariffVersionId promotionCode : Option String) (expiresAt : Instant) :
    Charge Nat := do
  let key ← ChargingSessionCreator.create env connector .remote env.now tariffVersionId promotionCode true
  saveSession key fun s => { s with startDeadlineAt := some expiresAt.toSecond }
  let token ← AuthorizationTokenService.issue expiresAt
  write fun s => { s with tokens := s.tokens.update token fun t => { t with sessionId := some key } }
  saveSession key fun s =>
    { s with authorizationTokenId := some token, authorizationStatus := .approved }
  let reservation : ConnectorReservation :=
    { connectorId := connector.connectorId, sessionId := key, expiresAt := expiresAt.toSecond }
  let _ ← onReservations (Indexed.create "connector_one_open_reservation_unique" reservation)
  ConnectorAvailabilityStateMachine.transition connector.connectorId status.status .reserved env.now
  ChargingSessionStateMachine.transition key .requested .authorizing
  ChargingSessionStateMachine.transition key .authorizing .authorized
  ChargingSessionStateMachine.transition key .authorized .starting
  let _ ← onCommands (Indexed.create "charging_command_idempotency_unique"
    (commandRow env connector key idempotencyKey tariffVersionId promotionCode expiresAt))
  pure key

/-- The session of the command: an earlier one under the same key, or a new one. The checks
repeated under the locks see the same rows, so they stand once. -/
def request (env : Environment) (connectorId idempotencyKey : String)
    (tariffVersionId promotionCode : Option String := none) : Charge Nat := do
  lift env.kycAllowed
  let existing ← read fun s => byIdempotencyKey s idempotencyKey
  match existing with
  | some (_, command) => do
    throwIf (sameIntent env command connectorId tariffVersionId promotionCode = false) otherIntent
    pure command.sessionId
  | none => do
    let connector ← orThrow (ConnectorSnapshotQuery.byId env.register connectorId)
      (.domain "Connector is not active or does not exist.")
    throwIf (connector.protocol ∉ ["ocpp1.6", "ocpp2.0.1"])
      (.domain "The connector protocol is not supported for remote start.")
    throwIf (env.actorId = none) (.domain "Remote start requires an authenticated human actor.")
    let expiresAt := env.now.addSeconds (max 30 env.startExpirySeconds)
    transaction do
      let status ← read fun s => s.connectorStatuses.get? connector.connectorId
      let ready ← read fun s => readyToStart env s connector
      let occupied ← read fun s => s.sessions.exists? fun _ row =>
        row.connectorId = connector.connectorId && !row.state.isTerminal
      match status with
      | some row => do
        throwIf (ready = false ∨ occupied = true)
          (.domain "Connector is not currently available for remote start.")
        reserveAndCommand env connector row idempotencyKey tariffVersionId promotionCode expiresAt
      | none => raise (.domain "Connector is not currently available for remote start.")

end RemoteStartService

namespace RemoteStopService

def stoppable : List ChargingSessionState := [.starting, .charging, .suspendedByEv, .suspendedByEvse]

def sameIntent (command : ChargerCommand) (sessionId : Nat) : Bool :=
  command.type = .remoteStop && command.sessionId = sessionId

/-- The action for a protocol; a 1.6 transaction identifier must be numeric. -/
def stopAction (protocol transactionId : String) : Except Throwable String :=
  if protocol = "ocpp1.6" then
    if ctypeDigit transactionId then .ok "RemoteStopTransaction"
    else .error (.domain "OCPP 1.6 transaction identifiers must be numeric.")
  else .ok "RequestStopTransaction"

/-- Who the command is recorded for: a service that acts for a customer names the customer. -/
def actorOf (env : Environment) (sessionId : Nat) (onBehalf : Bool) : Charge (Option String) := do
  let owner ← read fun s => s.customers.first? fun _ c => c.sessionId = sessionId
  if onBehalf = true then do
    let found ← orThrow owner (.modelNotFound "CustomerChargingSession")
    pure (some found.2.subjectId)
  else pure env.actorId

def request (env : Environment) (sessionId : Nat) (idempotencyKey : String)
    (spendingLimit cancelPendingStart : Bool := false) : Charge Unit := do
  let existing ← read fun s => RemoteStartService.byIdempotencyKey s idempotencyKey
  match existing with
  | some (_, command) =>
    throwIf (sameIntent command sessionId = false) RemoteStartService.otherIntent
  | none => do
    throwIf (env.actorId = none ∧ spendingLimit = false ∧ cancelPendingStart = false)
      (.domain "Remote stop requires an authenticated human actor.")
    let expiresAt := env.now.addSeconds (max 10 (env.gatewayTimeoutSeconds + 5))
    transaction do
      let locked ← lockSession sessionId
      throwIf (cancelPendingStart = true ∧ locked.cancellationReason ≠ some "customer_cancel_requested")
        (.domain "A recorded customer cancellation is required.")
      throwIf (locked.state ∉ stoppable)
        (.domain "The charging session is not in a remotely stoppable state.")
      let transactionId ← orThrow locked.protocolTransactionId
        (.domain "The charger transaction identifier is not yet known.")
      let action ← lift (stopAction locked.protocol transactionId)
      let actorId ← actorOf env sessionId (spendingLimit || cancelPendingStart)
      let command : ChargerCommand :=
        { sessionId, chargingStationId := locked.chargingStationId, connectorId := locked.connectorId
          type := .remoteStop, ocppAction := action, idempotencyKey, actorId
          reasonCode := if cancelPendingStart then "driver.cancel_pending_start"
            else if spendingLimit then "prepaid.spending_limit_or_stale_meter" else "driver.remote_stop"
          expectedSessionState := locked.state
          expiresAt := expiresAt.toSecond, createdAt := env.now.toSecond }
      let _ ← onCommands (Indexed.create "charging_command_idempotency_unique" command)
      ChargingSessionStateMachine.transition sessionId locked.state .stopping

end RemoteStopService

namespace CommandOutcomeService

def hasCustomer (store : Store) (sessionId : Nat) : Bool :=
  store.customers.exists? fun _ c => c.sessionId = sessionId

/-- What a remote start's state means for its session. -/
def applyStart (env : Environment) (command : ChargerCommand) (session : ChargingSession) :
    Charge Unit := do
  let prepaid ← read fun s => hasCustomer s command.sessionId
  if command.state = .acknowledged then pure ()
  else if (command.state = .timedOut ∨ command.state = .deliveryUnknown) ∧ prepaid = true then
    saveSession command.sessionId fun s => { s with failureReason := some "prepaid_start_unconfirmed" }
  else if session.state.isTerminal = false ∧ session.state.isPhysicallyActive = false then do
    saveSession command.sessionId fun s =>
      { s with failureReason := some ("remote_start_" ++ command.state.value) }
    ChargingSessionStateMachine.transition command.sessionId session.state .failed
    ConnectorReservationService.release env command.sessionId "remote_start_command_failed" true
  else pure ()

/-- Only a rejection takes a stopping session back. -/
def applyStop (command : ChargerCommand) (session : ChargingSession) : Charge Unit :=
  if command.state = .rejected ∧ session.state = .stopping ∧
      session.state.canTransitionTo command.expectedSessionState = true then
    ChargingSessionStateMachine.transition command.sessionId session.state command.expectedSessionState
  else pure ()

def apply (env : Environment) (command : ChargerCommand) : Charge Unit := do
  let session ← lockSession command.sessionId
  match command.type with
  | .remoteStart => applyStart env command session
  | .remoteStop => applyStop command session

end CommandOutcomeService

namespace DispatchChargerCommand

/-- `expires_at->isPast()`. -/
def past (env : Environment) (command : ChargerCommand) : Bool := command.expiresAt < env.now

/-- The first transaction of the job. -/
def begin (env : Environment) (key : Nat) : Charge Unit :=
  transaction do
    let command ← lockCommand key
    if command.state.isTerminal = true then pure ()
    else if past env command = true then
      ChargerCommandStateMachine.transition env key command.state .expired
    else if command.state = .requested then
      ChargerCommandStateMachine.transition env key command.state .dispatched
    else pure ()

/-- The job on a command that is terminal by then. Nothing changes a terminal command, so
the object in hand is the row. -/
def applyTerminal (env : Environment) (key : Nat) : Charge Unit :=
  transaction do
    let command ← lockCommand key
    if command.state.isTerminal = true then CommandOutcomeService.apply env command
    else pure ()

inductive GatewayStatus where
  | completed | rejected | timedOut | notConnected | other
  deriving DecidableEq, Repr

structure GatewayResult where
  status : GatewayStatus
  responseStatus : Option String

def protocolOutcome (responseStatus : Option String) : ChargerCommandState :=
  match responseStatus.map mbStrToLower with
  | none => .acknowledged
  | some word => if word = "accepted" ∨ word = "scheduled" then .acknowledged else .rejected

def outcomeOf (result : GatewayResult) : ChargerCommandState :=
  match result.status with
  | .completed => protocolOutcome result.responseStatus
  | .rejected => .rejected
  | .timedOut => .timedOut
  | .notConnected => .deliveryUnknown
  | .other => .deliveryUnknown

/-- The transaction after the gateway answered; the command's error texts are left out. -/
def settle (env : Environment) (key : Nat) (next : ChargerCommandState) : Charge Unit :=
  transaction do
    let locked ← lockCommand key
    if locked.state.isTerminal = false then do
      ChargerCommandStateMachine.transition env key locked.state next
      let command ← lockCommand key
      CommandOutcomeService.apply env command
    else pure ()

/-- The job after the gateway call: an answer, or an exception on the way to one or while
settling it, which is settled as an unknown delivery. -/
def complete (env : Environment) (key : Nat) (answer : Except Throwable GatewayResult) : Charge Unit :=
  tryCatch
    (do
      let result ← lift answer
      settle env key (outcomeOf result))
    (fun _ => settle env key .deliveryUnknown)

end DispatchChargerCommand

namespace ExpireChargingOperations

/-- The pass over one command whose deadline is behind it. -/
def expireCommand (env : Environment) (key : Nat) : Charge Unit :=
  transaction do
    let found ← read fun s => s.commands.get? key
    match found with
    | none => pure ()
    | some command =>
      if command.state.isTerminal = true ∨ env.now < command.expiresAt then pure ()
      else do
        ChargerCommandStateMachine.transition env key command.state
          (if command.state = .requested then .expired else .timedOut)
        let refreshed ← lockCommand key
        CommandOutcomeService.apply env refreshed

/-- A remote start of a customer that was sent and not rejected may still begin. -/
def unconfirmed (store : Store) (sessionId : Nat) : Bool :=
  CommandOutcomeService.hasCustomer store sessionId &&
    store.commands.exists? fun _ c =>
      c.sessionId = sessionId && c.type = .remoteStart && c.dispatchedAt.isSome && c.state ≠ .rejected

/-- The pass over one session that did not start in time; what lists it and what is checked
under its lock see the same row. -/
def expireSession (env : Environment) (key : Nat) : Charge Unit :=
  transaction do
    let found ← read fun s => s.sessions.get? key
    match found with
    | none => pure ()
    | some session =>
      if session.state ∉ [.requested, .authorizing, .authorized, .starting] ∨ session.startedAt ≠ none ∨
          session.startDeadlineAt = none ∨ session.startDeadlineAt.any (fun t => env.now < t) = true then
        pure ()
      else do
        let waiting ← read fun s => unconfirmed s key
        if waiting = true then
          saveSession key fun s => { s with failureReason := some "prepaid_start_unconfirmed" }
        else do
          ChargingSessionStateMachine.transition key session.state .expired
          ConnectorReservationService.release env key "start_deadline_elapsed" true
          match session.authorizationTokenId with
          | some token => revokeTokens env fun k _ => k = token
          | none => pure ()

end ExpireChargingOperations
end VtsaCsms.Charging
