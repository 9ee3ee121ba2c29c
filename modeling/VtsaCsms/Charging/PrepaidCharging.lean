import VtsaCsms.Charging.Commands

/-!
# Prepaid charging

`CustomerCharging.php` from an approved quote on, and `PrepaidChargingMonitor.php`, which
stops a session before its budget is spent and settles its hold once. A quote is a stored
row here; pricing it, and the summary sent after a settlement, are left out.
-/
namespace VtsaCsms.Charging
open Foundation Foundation.Action Assets Tariffs Billing

def onWallet {α : Type} (m : Action Wallet Throwable α) : Charge α :=
  focus Store.wallet (fun s w => { s with wallet := w }) m

/-- The customer row of a session, one at most by the unique index. -/
def customerOf (store : Store) (sessionId : Nat) : Option (Nat × CustomerChargingSession) :=
  store.customers.first? fun _ c => c.sessionId = sessionId

def remoteStartOf (store : Store) (sessionId : Nat) : Option (Nat × ChargerCommand) :=
  store.commands.first? fun _ c => c.sessionId = sessionId && c.type = .remoteStart

namespace PrepaidChargingMonitor

def evidenceEvents : List String :=
  ["gateway.ocpp.start_transaction.received.v1", "gateway.ocpp.stop_transaction.received.v1",
    "gateway.ocpp.transaction_event.received.v1", "gateway.ocpp.meter_values.received.v1"]

/-- A session that was withdrawn before anything started. -/
def withdrawnIdle (session : ChargingSession) : Bool :=
  session.cancellationReason = some "customer_cancel_requested" &&
    session.state ∈ [.requested, .authorizing, .authorized, .starting] &&
    session.startedAt = none && session.protocolTransactionId = none &&
    session.meterStartWh = none && session.energyWh = 0

/-- The charger reported an idle connector after every deadline, over its current
connection, and no transaction evidence is left unprocessed. -/
def idleConfirmed (env : Environment) (store : Store) (key : Nat) (session : ChargingSession)
    (deadline : Instant) (command : ChargerCommand) : Bool :=
  let behind := (max command.expiresAt deadline).addSeconds 60
  match store.connectorStatuses.get? session.connectorId,
      store.connections.get? session.chargingStationId with
  | some signal, some connection =>
    behind ≤ env.now && signal.status = .available && signal.reportedStatus = some "available" &&
      signal.ocppConnectionId = some connection.connectionId &&
      (signal.lastOcppEventAt.any fun t =>
        behind < t && t ≤ env.now && connection.connectedAt ≤ t) &&
      connectionOnline env connection.connected connection.lastSeenAt.toSecond &&
      !(store.readings.exists? fun _ r => r.sessionId = key) &&
      !(store.inbound.exists? fun _ e =>
        e.aggregateId = session.chargingStationId && session.requestedAt ≤ e.receivedAt &&
          e.outcome ≠ .processed && e.eventType ∈ evidenceEvents)
  | _, _ => false

def cancelConfirmedIdleStart (env : Environment) (key : Nat) (session : ChargingSession) :
    Charge Bool := do
  let command ← read fun s => remoteStartOf s key
  match session.startDeadlineAt, command with
  | some deadline, some (_, c) => do
    let confirmed ← read fun s => withdrawnIdle session && c.state.isTerminal &&
      idleConfirmed env s key session deadline c
    if confirmed = true then do
      revokeTokens env fun _ t => t.sessionId = some key && t.revokedAt = none
      SessionLifecycleService.cancel env key "customer_cancelled_after_idle_confirmation"
      pure true
    else pure false
  | _, _ => pure false

/-- `where('state', 'finalized')->latest('version')`, as far as it may be captured. -/
def capturable (session : ChargingSession) (budgetMinor : Int) (cdr : ChargeDetailRecord) :
    Option Int :=
  cdr.totalMinor.filter fun total =>
    cdr.currency = some "PHP" && total ≤ budgetMinor && session.finalizationOutcome = some "complete"

def settleHold (env : Environment) (key customerKey : Nat) (owner : CustomerChargingSession)
    (spent : Int) (payment : PaymentState) : Charge Unit := do
  onWallet (PrepaidWallet.settle owner.subjectId "live" (keyText key) spent owner.payerAccountId)
  saveCustomer customerKey fun c =>
    { c with paymentState := payment, settledAt := some env.now.toSecond }

def requireAction (customerKey : Nat) : Charge Unit :=
  saveCustomer customerKey fun c => { c with paymentState := .requiresAction }

def hasDimension (snapshot : TariffSnapshot) (dimension : TariffDimension) : Bool :=
  snapshot.components.any fun c => c.dimension = dimension

/-- The last reading of a measurand, or the start. -/
def lastReading (store : Store) (key : Nat) (measurand unit : String) (startedAt : Instant) : Instant :=
  (((store.readings.rowsWhere fun _ r =>
    r.sessionId = key && r.measurand = measurand && r.unit = unit && r.phase = none).map
      fun row => row.2.sampledAt).max?).getD startedAt

def stale (env : Environment) (store : Store) (key : Nat) (session : ChargingSession)
    (startedAt : Instant) : Bool :=
  (lastReading store key importRegister "Wh" startedAt).addSeconds env.meterTimeoutSeconds < env.now ||
    (hasDimension session.tariffSnapshot .time &&
      (lastReading store key "Power.Active.Import" "W" startedAt).addSeconds env.meterTimeoutSeconds <
        env.now)

/-- What the session would cost by the time a stop took effect. -/
def futureRating (env : Environment) (session : ChargingSession) (startedAt : Instant) :
    Except Throwable RatingResult :=
  TariffEngine.rate env.clock session.tariffSnapshot
    { energyWh := session.energyWh +
        (session.connectorMaximumPowerW * env.stopBufferSeconds + 3599).tdiv 3600
      durationSeconds := session.durationSeconds + env.stopBufferSeconds
      parkingSeconds := session.parkingSeconds
      idleSeconds := session.idleSeconds
      startedAt
      energyFlowSeconds := session.energyFlowSeconds + env.stopBufferSeconds }

/-- A running session: stop it once its meter is stale or its budget within reach. -/
def watchBudget (env : Environment) (key customerKey : Nat) (session : ChargingSession)
    (owner : CustomerChargingSession) (startedAt : Instant) : Charge Unit := do
  let isStale ← read fun s => stale env s key session startedAt
  let future ← lift (futureRating env session startedAt)
  let usagePriced :=
    hasDimension session.tariffSnapshot .energy || hasDimension session.tariffSnapshot .time
  if isStale = false ∧ session.failureReason ≠ some "prepaid_start_unconfirmed" ∧
      (usagePriced = false ∨ future.totalMinor < owner.budgetMinor) then pure ()
  else do
    let attempts ← read fun s => s.commands.count fun _ c =>
      c.sessionId = key && "budget-stop-".toList.isPrefixOf c.idempotencyKey.toList
    let idempotencyKey := "budget-stop-" ++ keyText key ++ "-" ++ keyText attempts
    if 3 ≤ attempts ∨ session.protocolTransactionId = none then requireAction customerKey
    else RemoteStopService.request env key idempotencyKey true

def stopWithdrawn (env : Environment) (key customerKey : Nat) (session : ChargingSession) :
    Charge Unit := do
  let attempts ← read fun s => s.commands.count fun _ c =>
    c.sessionId = key && c.reasonCode = "driver.cancel_pending_start"
  let idempotencyKey := "cancel-start-stop-" ++ keyText key ++ "-" ++ keyText attempts
  if session.protocolTransactionId = none ∨ 3 ≤ attempts then requireAction customerKey
  else RemoteStopService.request env key idempotencyKey false true

/-- The remote start can no longer reach the charger. -/
def definitive (command : ChargerCommand) : Bool :=
  command.state = .rejected || (command.dispatchedAt = none && command.state.isTerminal)

def needsAction (env : Environment) (store : Store) (key : Nat) (session : ChargingSession) : Bool :=
  session.failureReason = some "prepaid_start_unconfirmed" || session.state = .reviewRequired ||
    (session.state = .stopping && store.commands.exists? fun _ c =>
      c.sessionId = key && c.type = .remoteStop &&
        c.createdAt ≤ (env.now.addSeconds (-120)).toSecond)

/-- A completed session: its record is captured once, or the payment needs action. -/
def capture (env : Environment) (key customerKey : Nat) (session : ChargingSession)
    (owner : CustomerChargingSession) : Charge Unit := do
  let cdr ← read fun s => ChargeDetailRecordGenerator.latestFinalized s key
  match cdr.bind fun row => capturable session owner.budgetMinor row.2 with
  | some total => settleHold env key customerKey owner total .captured
  | none => requireAction customerKey

/-- A session that ended before it started. -/
def releaseUnstarted (env : Environment) (key customerKey : Nat) (owner : CustomerChargingSession) :
    Charge Unit := do
  let command ← read fun s => remoteStartOf s key
  if command.any (fun row => definitive row.2) = true then
    settleHold env key customerKey owner 0 .notRequired
  else requireAction customerKey

def reconcile (env : Environment) (key : Nat) : Charge Unit :=
  transaction do
    let session ← lockSession key
    let found ← read fun s => customerOf s key
    let (customerKey, owner) ← orThrow found (.modelNotFound "CustomerChargingSession")
    if owner.settledAt ≠ none then pure ()
    else do
      let cancelled ← cancelConfirmedIdleStart env key session
      if cancelled = true then settleHold env key customerKey owner 0 .notRequired
      else do
        let alert ← read fun s => needsAction env s key session
        doIf (alert = true) (requireAction customerKey)
        if session.state = .completed then capture env key customerKey session owner
        else if session.state ∈ [.failed, .cancelled, .expired] ∧ session.startedAt = none then
          releaseUnstarted env key customerKey owner
        else if session.cancellationReason = some "customer_cancel_requested" ∧
            session.state ∈ RemoteStopService.stoppable then
          stopWithdrawn env key customerKey session
        else
          match session.startedAt with
          | some startedAt =>
            if session.state ∈ [.charging, .suspendedByEv, .suspendedByEvse] then
              watchBudget env key customerKey session owner startedAt
            else pure ()
          | none => pure ()

end PrepaidChargingMonitor

namespace CustomerCharging

/-- `active`: a session of the subject that has not ended or is not settled. -/
def isActive (store : Store) (subject : String) : Bool :=
  store.customers.exists? fun _ c => c.subjectId = subject &&
    ((store.sessions.get? c.sessionId).any fun s => !s.state.isTerminal || c.settledAt = none)

/-- `owned` and `controllable`: the account checks are another module's. -/
def owned (env : Environment) (subject : String) (sessionId : Nat) : Charge ChargingSession := do
  let found ← read fun s => customerOf s sessionId
  let owner ← orThrow found (.modelNotFound "CustomerChargingSession")
  if owner.2.chargingAccountId = none then
    throwIf (owner.2.subjectId ≠ subject) ⟨.error, "404"⟩
  else lift (env.requireAccount subject owner.2.chargingAccountId)
  lockSession sessionId

/-- The fee or the budget policy is no longer the quoted one. -/
def settingsChanged (env : Environment) (quote : ChargingQuote) : Bool :=
  let quoted := quote.tariff.platformFee
  (env.platformFee.id ≠ quoted.bind PlatformFee.id &&
    (env.platformFee.enabled || quoted.any PlatformFee.enabled)) ||
    quote.budgetPolicy.any fun policy => policy ≠ env.budgetPolicy

/-- The checks of a quote against what it was made from. -/
def checkQuote (env : Environment) (store : Store) (subject connectorId : String) (quoteId : Nat)
    (selectedAccount : Option String) (quote : ChargingQuote) : Except Throwable Unit := do
  if selectedAccount ≠ none ∧ quote.chargingAccountId ≠ selectedAccount then
    throw (.domain "The selected account changed. Review a fresh quote.")
  if quote.chargingAccountId ≠ none then env.requireAccount subject quote.chargingAccountId
  match quote.vehicleId with
  | some vehicle => env.chargeVehicle subject quote.chargingAccountId vehicle
  | none => pure ()
  if quote.expiresAt < env.now ∨ quote.connectorId ≠ connectorId ∨
      store.customers.exists? (fun _ c => c.quoteId = quoteId) = true then
    throw (.domain "This quote has expired or was already used. Review a fresh price.")
  let target := ConnectorSnapshotQuery.publicChargeTarget env.register connectorId
  if target.any (readyToStart env store) = false then
    throw (.domain "The connector is not ready to start.")
  match ConnectorSnapshotQuery.byId env.register connectorId with
  | none => throw (.domain "Connector is unavailable.")
  | some connector =>
    let current := TariffSelector.select env.tariffVersions connector env.now
    if current.map TariffVersion.id ≠ some quote.tariffVersionId then
      throw (.domain "The price changed. Review a fresh quote before starting.")
    if settingsChanged env quote = true then
      throw (.domain "Charging settings changed. Review a fresh quote before starting.")

def start (env : Environment) (subject : String) (quoteId : Nat) (connectorId key : String)
    (selectedAccount : Option String := none) : Charge Nat :=
  transaction do
    let hash := env.sha256 key
    let existing ← read fun s =>
      s.customers.first? fun _ c => c.subjectId = subject && c.idempotencyHash = hash
    match existing with
    | some (_, earlier) => do
      throwIf (selectedAccount ≠ none ∧ earlier.chargingAccountId ≠ selectedAccount)
        (.domain "This request belongs to another charging account.")
      let session ← owned env subject earlier.sessionId
      throwIf (earlier.quoteId ≠ quoteId ∨ session.connectorId ≠ connectorId)
        (.domain "This request key belongs to a different charging request.")
      pure earlier.sessionId
    | none => do
      let busy ← read fun s => isActive s subject
      throwIf (busy = true)
        (.domain "Finish your current charging session before starting another.")
      let found ← read fun s => (s.quotes.get? quoteId).filter fun q => q.subjectId = subject
      let quote ← orThrow found (.modelNotFound "ChargingQuote")
      let checked ← read fun s => checkQuote env s subject connectorId quoteId selectedAccount quote
      lift checked
      let sessionId ← RemoteStartService.request env connectorId
        ("mobile-start-" ++ env.sha256 (subject ++ ":" ++ key)) (some quote.tariffVersionId)
      saveSession sessionId fun s => { s with tariffSnapshot := quote.tariff }
      onWallet (PrepaidWallet.reserve subject "live" (keyText sessionId) quote.budgetMinor
        quote.payerAccountId quote.vehicleId)
      let customer : CustomerChargingSession :=
        { subjectId := subject, sessionId, quoteId, idempotencyHash := hash
          budgetMinor := quote.budgetMinor, chargingAccountId := quote.chargingAccountId
          vehicleId := quote.vehicleId, payerAccountId := quote.payerAccountId }
      let _ ← onCustomers (Indexed.create "charging_customer_sessions" customer)
      pure sessionId

/-- Nothing of the start has left the platform. -/
def notDispatched (command : ChargerCommand) (session : ChargingSession) : Bool :=
  command.dispatchedAt = none && command.state = .requested && session.startedAt = none &&
    session.protocolTransactionId = none && !session.state.isPhysicallyActive

def withdraw (env : Environment) (id commandKey : Nat) (command : ChargerCommand)
    (session : ChargingSession) (reason : Option String) : Charge Unit := do
  doIf (session.startedAt = none ∧ session.protocolTransactionId = none)
    (revokeTokens env fun _ t => t.sessionId = some id && t.revokedAt = none)
  if notDispatched command session = true then do
    ChargerCommandStateMachine.transition env commandKey command.state .expired
    SessionLifecycleService.cancel env id (reason.getD "Customer cancelled before dispatch")
  else if session.cancellationReason ≠ some "customer_cancel_requested" then
    saveSession id fun s => { s with
      cancellationReason := some "customer_cancel_requested"
      aggregateVersion := s.aggregateVersion + 1 }
  else pure ()

def cancel (env : Environment) (subject : String) (id : Nat) (reason : Option String) : Charge Unit :=
  transaction do
    let first ← owned env subject id
    if first.state = .cancelled then pure ()
    else do
      let command ← read fun s => remoteStartOf s id
      let (commandKey, command) ← orThrow command (.modelNotFound "ChargerCommand")
      let session ← lockSession id
      if session.state.isTerminal = true then PrepaidChargingMonitor.reconcile env id
      else do
        throwIf (session.state ∈ [.finalizing, .reviewRequired])
          (.domain "This session is already being finalized. Its charger and payment evidence must be checked.")
        withdraw env id commandKey command session reason
        PrepaidChargingMonitor.reconcile env id

end CustomerCharging
end VtsaCsms.Charging
