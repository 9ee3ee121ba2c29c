import VtsaCsms.Charging.ChargeDetailRecords

/-!
# OCPP events

`OcppEventConsumer.php` with `StationConnectionProjector.php` and
`ChargingSessionCreator.php`. An event is decoded JSON; its envelope is checked before
anything is written, and everything else only where the handler reads it.
-/
namespace VtsaCsms.Charging
open Foundation Foundation.Action Assets Tariffs

/-- The fields of an event whose envelope is valid. -/
structure Envelope where
  eventId : String
  aggregateId : String
  eventType : String
  occurredAt : String
  causationId : Mixed
  payload : Mixed

namespace Envelope

/-- `$event['data']`; an absent key is an exception of its own. -/
def data (e : Envelope) : Except Throwable Mixed :=
  if e.payload.hasKey "data" = false then .error ⟨.error, "Undefined array key \"data\""⟩
  else if (e.payload.get "data").isArray = false then
    .error (.domain "OCPP event data must be an object.")
  else .ok (e.payload.get "data")

end Envelope

/-- The part of an event type between `gateway.ocpp.` and `.received.v1`. -/
def actionOf (eventType : String) : Option String :=
  let before := "gateway.ocpp.".toList
  let behind := ".received.v1".toList
  let text := eventType.toList
  if before.isPrefixOf text && behind.isSuffixOf (text.drop before.length) then
    some (String.ofList ((text.drop before.length).take
      (text.length - before.length - behind.length)))
  else none

def ulidField (env : Environment) (event : Mixed) (field : String) : Except Throwable String :=
  match event.get field with
  | .string s => if env.isUlid s then .ok s
      else .error (.domain ("OCPP event " ++ field ++ " must be a ULID."))
  | _ => .error (.domain ("OCPP event " ++ field ++ " must be a ULID."))

namespace StationConnectionProjector

def parseAt (env : Environment) (text : String) : Except Throwable Instant :=
  match env.parseTime text with
  | some t => .ok t
  | none => .error (.invalidArgument "Could not parse the time.")

/-- What an observed event makes of the station's row: nothing, or the row to store. The
first component says whether the event belongs to the current connection. -/
def project (row : Option StationConnection) (connectionId action : String) (at' : Instant) :
    Bool × Option StationConnection :=
  let fresh : StationConnection :=
    { connectionId, connected := action ≠ "charger_disconnected", connectedAt := at',
      lastEventAt := at', lastSeenAt := at' }
  match row with
  | none => (true, some fresh)
  | some r =>
    -- a replaced socket may close after its successor is already online
    if connectionId < r.connectionId then (false, none)
    else if connectionId = r.connectionId then
      if at' < r.lastEventAt then
        if r.connected && action = "charger_connected" && at' < r.connectedAt then
          (r.connected, some { r with connectedAt := at' })
        else (r.connected, none)
      else if !r.connected && action ≠ "charger_disconnected" then (false, none)
      else (true, some { fresh with
        connectedAt := r.connectedAt
        lastSeenAt := if action = "charger_disconnected" then r.lastSeenAt else at' })
    else (true, some fresh)

def observe (env : Environment) (e : Envelope) (data : Mixed) (action : String) : Charge Bool := do
  let identity ← lift (((data.get "charge_point_identity").orElse (.string "")).toText env.floatText)
  let protocol ← lift (((data.get "protocol").orElse (.string "")).toText env.floatText)
  lift (GatewayStationQuery.validateAndLock env.register e.aggregateId identity protocol)
  let connectionId ← orThrow ((data.get "connection_id").string?.filter env.isUlid)
    (.domain "OCPP connection ID must be a ULID.")
  let at' ← lift (parseAt env e.occurredAt)
  let row ← read fun s => s.connections.get? e.aggregateId
  let (current, stored) := project row connectionId action at'
  match stored with
  | some r => do
    write fun s => { s with connections := s.connections.put e.aggregateId r }
    pure current
  | none => pure current

end StationConnectionProjector

namespace ChargingSessionCreator

def sessionRow (connector : ConnectorSnapshot) (origin : ChargingSessionOrigin) (requestedAt : Instant)
    (version : Option TariffVersion) (snapshot : TariffSnapshot) : ChargingSession where
  chargingStationId := connector.stationId
  evseId := connector.evseId
  connectorId := connector.connectorId
  connectorMaximumPowerW := connector.maximumPowerW
  chargePointIdentity := connector.chargePointIdentity
  protocol := connector.protocol
  origin
  tariffVersionId := version.map TariffVersion.id
  tariffSnapshot := snapshot
  currency := version.map TariffVersion.currency
  requestedAt := requestedAt.toSecond
  anomalyFlags := if version.isNone then [.tariffMissing] else []

/-- The row of a new session, with the tariff in force at the requested time. -/
def newRow (env : Environment) (connector : ConnectorSnapshot) (origin : ChargingSessionOrigin)
    (requestedAt : Instant) (requestedTariffVersionId promotionCode : Option String := none) :
    ChargingSession :=
  match TariffSelector.select env.tariffVersions connector requestedAt requestedTariffVersionId with
  | none => sessionRow connector origin requestedAt none (TariffSnapshotFactory.missing connector)
  | some v => sessionRow connector origin requestedAt (some v)
      (TariffSnapshotFactory.create env.mbStrToUpper v connector requestedAt promotionCode)

def create (env : Environment) (connector : ConnectorSnapshot) (origin : ChargingSessionOrigin)
    (requestedAt : Instant) (requestedTariffVersionId promotionCode : Option String := none)
    (requireTariff : Bool := false) : Charge Nat := do
  let version := TariffSelector.select env.tariffVersions connector requestedAt requestedTariffVersionId
  throwIf (version = none ∧ requireTariff = true)
    (.domain "No published tariff applies to this connector and start time.")
  onSessions (Indexed.create "charging_sessions"
    (newRow env connector origin requestedAt requestedTariffVersionId promotionCode))

end ChargingSessionCreator

namespace OcppEventConsumer

/-! ### Reading an event -/

/-- `(string) ($data[$key] ?? '')`. -/
def text (env : Environment) (data : Mixed) (key : String) : Except Throwable String :=
  ((data.get key).orElse (.string "")).toText env.floatText

def samplesOf (data : Mixed) : List Mixed := (data.get "samples").values

def connector (env : Environment) (e : Envelope) (data : Mixed) :
    Except Throwable ConnectorSnapshot :=
  let evse := data.get "evse"
  let evseNumber := ((evse.get "id").orElse (data.get "evse_id")).integerOrNull
  let connectorNumber := ((evse.get "connector_id").orElse (data.get "connector_id")).integerOrNull
  match ConnectorSnapshotQuery.forGatewayEvent env.register e.aggregateId evseNumber connectorNumber with
  | some c => .ok c
  | none => .error (.domain "OCPP event cannot be mapped to exactly one active connector.")

def transactionId (data : Mixed) : Except Throwable String :=
  match data.get "protocol_transaction_id" with
  | .int n => .ok (toString n)
  | .string s =>
    if s = "" then
      .error (.domain "OCPP transaction evidence requires a protocol transaction identifier.")
    else .ok s
  | _ => .error (.domain "OCPP transaction evidence requires a protocol transaction identifier.")

def sourceTime (env : Environment) (data : Mixed) (fallback : Instant) : Except Throwable Instant :=
  match data.get "protocol_timestamp" with
  | .string s => StationConnectionProjector.parseAt env s
  | _ => .ok fallback

def authorizationStatusOf (word : String) : AuthorizationStatus :=
  if word = "accepted" then .approved
  else if word ∈ ["blocked", "expired", "invalid", "concurrenttx"] then .denied
  else .unknown

def authorizationStatus (env : Environment) (data : Mixed) : Except Throwable AuthorizationStatus := do
  let word ← text env data "authorization_status"
  pure (authorizationStatusOf (mbStrToLower word))

def clockSkewed (data : Mixed) : Bool := (data.get "clock_skew_detected").isTrue

def eventAnomalies (session : ChargingSession) (data : Mixed) : List SessionAnomaly :=
  (if clockSkewed data then session.anomalyFlags ++ [.clockSkew] else session.anomalyFlags).eraseDups

def finalAnomalies (session : ChargingSession) (data : Mixed) (meterStop : Option Int) :
    List SessionAnomaly :=
  (eventAnomalies session data ++
    (if session.meterStartWh = none then [SessionAnomaly.missingStartMeter] else []) ++
    (if meterStop = none then [SessionAnomaly.missingStopMeter] else [])).eraseDups

def registerValues (samples : List Mixed) : List Int :=
  samples.filterMap fun sample =>
    if (sample.get "unit").string? = some "Wh" ∧
        (sample.get "measurand").string? = some importRegister then
      (sample.get "value").integerOrNull
    else none

/-- The first or the last register reading among the samples. -/
def registerWh (samples : List Mixed) (first : Bool) : Option Int :=
  if first then (registerValues samples).head? else (registerValues samples).getLast?

def meterStart (data : Mixed) : Option Int :=
  (data.get "meter_start_wh").integerOrNull.or (registerWh (samplesOf data) true)

def meterStop (data : Mixed) : Option Int :=
  (data.get "meter_stop_wh").integerOrNull.or (registerWh (samplesOf data) false)

/-! ### Finding the session -/

/-- The session that holds a charger transaction, one at most by the unique index. -/
def holds (connector : ConnectorSnapshot) (transactionId : String) (s : ChargingSession) : Bool :=
  s.chargingStationId = connector.stationId && s.protocol = connector.protocol &&
    s.protocolTransactionId = some transactionId

def holder (store : Store) (connector : ConnectorSnapshot) (transactionId : String) :
    Option (Nat × ChargingSession) :=
  store.sessions.first? fun _ s => holds connector transactionId s

/-- `latest('requested_at')->first()`. -/
def latestRequested (rows : List (Nat × ChargingSession)) : Option (Nat × ChargingSession) :=
  latestBy (fun row => row.2.requestedAt) rows

/-- A requested remote start on the connector that was asked for no later than the source time. -/
def awaitsStart (store : Store) (connectorId : String) (sourceAt : Instant) (key : Nat)
    (s : ChargingSession) : Bool :=
  s.connectorId = connectorId && s.requestedAt ≤ sourceAt.toSecond &&
    s.state ∈ [.requested, .authorizing, .authorized, .starting] &&
    store.commands.exists? fun _ c => c.sessionId = key && c.type = .remoteStart

def reservedFor (store : Store) (connector : ConnectorSnapshot) (sourceAt : Instant) :
    Option (Nat × ChargingSession) :=
  latestRequested (store.sessions.rowsWhere (awaitsStart store connector.connectorId sourceAt))

def reconstruct (env : Environment) (connector : ConnectorSnapshot) (transactionId : String)
    (sourceAt : Instant) : Charge Nat := do
  let key ← ChargingSessionCreator.create env connector .reconstructed sourceAt
  saveSession key fun s => { s with
    protocolTransactionId := some transactionId
    startedAt := some sourceAt.toSecond
    authorizationStatus := .unknown
    anomalyFlags := (s.anomalyFlags ++ [SessionAnomaly.reconstructedAfterReconnect]).eraseDups }
  pure key

def sessionForStart (env : Environment) (connector : ConnectorSnapshot) (transactionId : String)
    (sourceAt : Instant) : Charge Nat := do
  let existing ← read fun s => holder s connector transactionId
  match existing with
  | some (key, _) => pure key
  | none => do
    let reserved ← read fun s => reservedFor s connector sourceAt
    match reserved with
    | some (key, _) => pure key
    | none => reconstruct env connector transactionId sourceAt

def findOrReconstruct (env : Environment) (connector : ConnectorSnapshot) (transactionId : String)
    (sourceAt : Instant) : Charge Nat := do
  let existing ← read fun s => holder s connector transactionId
  match existing with
  | some (key, _) => pure key
  | none => reconstruct env connector transactionId sourceAt

def findSession (connector : ConnectorSnapshot) (transactionId : String) : Charge Nat := do
  let existing ← read fun s => holder s connector transactionId
  let found ← orThrow existing (.domain "No charging session matches the charger transaction.")
  pure found.1

def activeSession (connector : ConnectorSnapshot) : Charge Nat := do
  let active ← read fun s => latestRequested (s.sessions.rowsWhere fun _ row =>
    row.connectorId = connector.connectorId &&
      row.state ∈ [.starting, .charging, .suspendedByEv, .suspendedByEvse, .stopping])
  let found ← orThrow active (.domain "No active charging session accepts this meter value.")
  pure found.1

/-! ### Handling an event -/

def reportable : List String :=
  ["available", "preparing", "charging", "suspendedev", "suspendedevse", "finishing", "reserved",
    "unavailable", "faulted", "occupied"]

/-- `firstOrCreate` of a connector's status row. -/
def connectorStatusRow (connectorId : String) (observedAt : Instant) : Charge ConnectorStatus := do
  let stored ← read fun s => s.connectorStatuses.get? connectorId
  match stored with
  | some row => pure row
  | none => do
    let row : ConnectorStatus := { status := .unknown, observedAt, staleAfterSeconds := 300 }
    write fun s => { s with connectorStatuses := s.connectorStatuses.put connectorId row }
    pure row

/-- A status notification older than the row is ignored; a transaction is not. -/
def setConnectorStatus (connectorId : String) (next : ConnectorAvailability) (notified : Bool)
    (observedAt : Instant) (connectionId reportedStatus : Option String) : Charge Bool := do
  let row ← connectorStatusRow connectorId observedAt
  if notified = true ∧ observedAt < row.lastOcppEventAt.getD row.observedAt then pure false
  else do
    saveConnectorStatus connectorId fun s => { s with
      ocppConnectionId := connectionId
      lastOcppEventAt := some observedAt
      reportedStatus := reportedStatus.filter fun r => r ∈ reportable }
    ConnectorAvailabilityStateMachine.transition connectorId row.status next observedAt
    pure true

def entered (state : ChargingSessionState) : ChargingSessionState :=
  if state = .requested then .starting else state

def startedRow (data : Mixed) (transactionId : String) (authorization : AuthorizationStatus)
    (sourceAt : Instant) (s : ChargingSession) : ChargingSession :=
  { s with
    protocolTransactionId := some transactionId
    startedAt := some (s.startedAt.getD sourceAt.toSecond)
    meterStartWh := meterStart data
    authorizationStatus := authorization
    lastProtocolEventAt := some sourceAt.toSecond
    anomalyFlags := eventAnomalies s data }

def start (env : Environment) (connector : ConnectorSnapshot) (e : Envelope) (data : Mixed)
    (sourceAt : Instant) : Charge Unit := do
  let transactionId ← lift (transactionId data)
  let key ← sessionForStart env connector transactionId sourceAt
  let session ← lockSession key
  let authorization ← lift (authorizationStatus env data)
  saveSession key (startedRow data transactionId authorization sourceAt)
  ChargingSessionStateMachine.transition key session.state (entered session.state)
  ChargingSessionStateMachine.transition key (entered session.state) .charging
  ConnectorReservationService.release env key "transaction_started"
  let _ ← setConnectorStatus connector.connectorId .occupied false sourceAt
    (data.get "connection_id").string? none
  doIf (samplesOf data ≠ []) (MeterValueService.record env key e.eventId (samplesOf data) sourceAt)

def stoppedRow (data : Mixed) (sourceAt : Instant) (s : ChargingSession) : ChargingSession :=
  { s with
    meterStopWh := meterStop data
    stoppedAt := some sourceAt.toSecond
    durationSeconds := (s.startedAt.map fun t => max 0 (Instant.diffInSeconds t sourceAt)).getD 0
    lastProtocolEventAt := some sourceAt.toSecond
    anomalyFlags := finalAnomalies s data (meterStop data) }

def stop (env : Environment) (connector : ConnectorSnapshot) (e : Envelope) (data : Mixed)
    (sourceAt : Instant) : Charge Unit := do
  let transactionId ← lift (transactionId data)
  let key ← findSession connector transactionId
  let _ ← lockSession key
  saveSession key (stoppedRow data sourceAt)
  MeterValueService.record env key e.eventId (samplesOf data) sourceAt
  let refreshed ← lockSession key
  ChargingSessionStateMachine.transition key refreshed.state .finalizing
  ConnectorReservationService.release env key "transaction_ended"
  ChargeDetailRecordGenerator.generate env key

def updatedTarget (word : String) : ChargingSessionState :=
  if word = "suspendedev" then .suspendedByEv
  else if word = "suspendedevse" then .suspendedByEvse
  else .charging

def updatedRow (data : Mixed) (transactionId : String) (sourceAt : Instant) (s : ChargingSession) :
    ChargingSession :=
  { s with
    protocolTransactionId := some transactionId
    lastProtocolEventAt := some sourceAt.toSecond
    anomalyFlags := eventAnomalies s data }

def updated (env : Environment) (connector : ConnectorSnapshot) (e : Envelope) (data : Mixed)
    (sourceAt : Instant) : Charge Unit := do
  let transactionId ← lift (transactionId data)
  let key ← findOrReconstruct env connector transactionId sourceAt
  let session ← lockSession key
  let word ← lift (text env data "charging_state")
  let target := updatedTarget (mbStrToLower word)
  ChargingSessionStateMachine.transition key session.state (entered session.state)
  doIf ((entered session.state).canTransitionTo target = true)
    (ChargingSessionStateMachine.transition key (entered session.state) target)
  saveSession key (updatedRow data transactionId sourceAt)
  doIf (samplesOf data ≠ []) (MeterValueService.record env key e.eventId (samplesOf data) sourceAt)

def transactionEvent (env : Environment) (connector : ConnectorSnapshot) (e : Envelope) (data : Mixed)
    (sourceAt : Instant) : Charge Unit := do
  let word ← lift (text env data "event_type")
  if mbStrToLower word = "started" then start env connector e data sourceAt
  else if mbStrToLower word = "ended" then stop env connector e data sourceAt
  else if mbStrToLower word = "updated" then updated env connector e data sourceAt
  else raise (.domain "Unsupported OCPP 2.0.1 transaction event type.")

/-- The object in hand still has the flags it was loaded with, so a skew flag replaces what
the recording has just added, unless the flag was there already and nothing is dirty. -/
def addClockSkew (key : Nat) (session : ChargingSession) : Charge Unit :=
  let flags := (session.anomalyFlags ++ [SessionAnomaly.clockSkew]).eraseDups
  if flags = session.anomalyFlags then pure ()
  else saveSession key fun s => { s with anomalyFlags := flags }

/-- The session of a meter report: the transaction's, or the one active on the connector. -/
def meteredSession (env : Environment) (connector : ConnectorSnapshot) (data : Mixed) : Charge Nat :=
  if (data.get "protocol_transaction_id").isNull = true then activeSession connector
  else do
    let transactionId ← lift (text env data "protocol_transaction_id")
    findSession connector transactionId

def meterValues (env : Environment) (connector : ConnectorSnapshot) (e : Envelope) (data : Mixed)
    (receivedAt : Instant) : Charge Unit := do
  let key ← meteredSession env connector data
  let session ← lockSession key
  MeterValueService.record env key e.eventId (samplesOf data) receivedAt
  doIf (clockSkewed data = true) (addClockSkew key session)

def reportedAvailability (word : String) : ConnectorAvailability :=
  if word = "available" then .available
  else if word = "reserved" then .reserved
  else if word ∈ ["preparing", "charging", "suspendedev", "suspendedevse", "finishing", "occupied"] then
    .occupied
  else if word = "unavailable" then .unavailable
  else if word = "faulted" then .faulted
  else if word = "offline" then .offline
  else .unknown

def status (env : Environment) (connector : ConnectorSnapshot) (e : Envelope) (data : Mixed)
    (sourceAt : Instant) : Charge Unit := do
  let word ← lift (text env data "status")
  let availability := reportedAvailability (mbStrToLower word)
  let changed ← setConnectorStatus connector.connectorId availability true sourceAt
    (data.get "connection_id").string? (some (mbStrToLower word))
  if changed = false then pure ()
  else
    lift (env.observeFault
      { eventId := e.eventId, siteId := connector.siteId, connectorId := connector.connectorId
        status := availability.value
        faultCode := ((data.get "error_code").orElse (data.get "vendor_error_code")).string?
        observedAt := sourceAt, protocol := connector.protocol
        chargePointIdentity := connector.chargePointIdentity, evseNumber := connector.evseNumber
        connectorNumber := connector.connectorNumber
        vendorErrorCode := (data.get "vendor_error_code").string? })

def stationActions : List String :=
  ["charger_connected", "charger_disconnected", "boot_notification", "heartbeat"]

def connectorActions : List String :=
  ["start_transaction", "stop_transaction", "transaction_event", "meter_values", "status_notification"]

/-- The handler of an action that concerns one connector. -/
def dispatch (env : Environment) (e : Envelope) (data : Mixed) (action : String) : Charge Unit := do
  let connector ← lift (connector env e data)
  let protocol ← lift (text env data "protocol")
  throwIf (connector.protocol ≠ protocol)
    (.domain "OCPP event protocol does not match the enrolled charger profile.")
  let occurredAt ← lift (StationConnectionProjector.parseAt env e.occurredAt)
  let sourceAt ← lift (sourceTime env data occurredAt)
  if action = "start_transaction" then start env connector e data sourceAt
  else if action = "stop_transaction" then stop env connector e data sourceAt
  else if action = "transaction_event" then transactionEvent env connector e data sourceAt
  else if action = "meter_values" then meterValues env connector e data occurredAt
  else status env connector e data occurredAt

/-- Whether the event belongs to the station's current connection; unasked where it has none. -/
def observeConnection (env : Environment) (e : Envelope) (data : Mixed) (action : String) : Charge Bool :=
  if action ∈ stationActions ∨ (data.get "connection_id").isNull = false then
    StationConnectionProjector.observe env e data action
  else pure true

def isZero : Mixed → Bool
  | .int n => n = 0
  | _ => false

def handle (env : Environment) (e : Envelope) (action : String) : Charge Unit := do
  let data ← lift e.data
  let current ← observeConnection env e data action
  if action ∈ stationActions ∨ (action = "status_notification" ∧
      (current = false ∨ isZero (data.get "connector_id") = true)) then pure ()
  else if action ∉ connectorActions then pure ()
  else dispatch env e data action

/-! ### Consuming an event -/

structure OcppEventConsumptionResult where
  outcome : InboundOutcome
  duplicate : Bool
  errorCode : Option String := none
  deriving DecidableEq, Repr

/-- The envelope's fields and the action, or the first complaint about them. -/
def validateEnvelope (env : Environment) (event : Mixed) : Except Throwable (Envelope × String) := do
  let eventId ← ulidField env event "event_id"
  let _ ← ulidField env event "tenant_id"
  let aggregateId ← ulidField env event "aggregate_id"
  let _ ← ulidField env event "correlation_id"
  let unsupported : Throwable := .domain "Unsupported OCPP event contract."
  let supported : Option (String × String) :=
    match event.get "schema_version", event.get "event_type" with
    | .int 1, .string eventType => (actionOf eventType).map fun action => (eventType, action)
    | _, _ => none
  let (eventType, action) ← match supported with
    | some found => .ok found
    | none => .error unsupported
  let occurredAt ← match event.get "occurred_at" with
    | .string s => .ok s
    | _ => .error (.domain "OCPP event timing and causation fields are required.")
  if event.hasKey "causation_id" = false then
    .error (.domain "OCPP event timing and causation fields are required.")
  else pure (⟨eventId, aggregateId, eventType, occurredAt, event.get "causation_id", event⟩, action)

/-- The inbound row as an insert stores it. The payload is encoded, time and causation are
cast by the model, so a row that cannot be stored throws before the handler runs. -/
def inboundRow (env : Environment) (e : Envelope) (outcome : InboundOutcome)
    (processedAt : Option Instant) (errorCode : Option String) : Except Throwable InboundOcppEvent := do
  let _ ← e.causationId.toText env.floatText
  if e.payload.encodes = false then .error ⟨.error, "Inf and NaN cannot be JSON encoded"⟩
  else match env.castTime e.occurredAt with
  | some occurredAt =>
    pure { eventType := e.eventType, aggregateId := e.aggregateId, payload := e.payload, occurredAt
           receivedAt := env.now.toSecond, processedAt, outcome, errorCode }
  | none => .error (.invalidArgument "Could not parse the time.")

def errorCode (exception : Throwable) : String :=
  if exception.type = .domain then "invalid_protocol_evidence" else "consumer_failure"

def putInbound (eventId : String) (row : InboundOcppEvent) : Charge Unit :=
  write fun s => { s with inbound := s.inbound.put eventId row }

/-- The one transaction of a successful consumption. -/
def process (env : Environment) (e : Envelope) (action : String) : Charge Unit :=
  transaction do
    let row ← lift (inboundRow env e .received none none)
    putInbound e.eventId row
    handle env e action
    write fun s => { s with inbound := s.inbound.update e.eventId fun r =>
      { r with outcome := .processed, processedAt := some env.now.toSecond } }

/-- `firstOrCreate` of the quarantined row. -/
def quarantine (env : Environment) (e : Envelope) (exception : Throwable) : Charge Unit :=
  transaction do
    let existing ← read fun s => s.inbound.get? e.eventId
    match existing with
    | some _ => pure ()
    | none => do
      let row ← lift (inboundRow env e .quarantined (some env.now.toSecond) (some (errorCode exception)))
      putInbound e.eventId row

def consume (env : Environment) (event : Mixed) : Charge OcppEventConsumptionResult := do
  let (e, action) ← lift (validateEnvelope env event)
  throwIf ((event.get "tenant_id").string? ≠ some env.tenantId)
    (.domain "OCPP event tenant does not match the established tenant context.")
  let existing ← read fun s => s.inbound.get? e.eventId
  match existing with
  | some row => pure ⟨row.outcome, true, row.errorCode⟩
  | none =>
    tryCatch
      (do
        process env e action
        pure ⟨.processed, false, none⟩)
      (fun exception => do
        quarantine env e exception
        pure ⟨.quarantined, false, some (errorCode exception)⟩)

end OcppEventConsumer
end VtsaCsms.Charging
