import VtsaCsms.Billing.PrepaidWallet
import VtsaCsms.Charging.States
import VtsaCsms.Foundation.Indexed
import VtsaCsms.Foundation.Mixed
import VtsaCsms.Tariffs.TariffSelector

/-!
# Charging rows

The tables of the charging migration for one tenant, with their unique indexes, and what a
request reads from outside them. Columns without fractional seconds hold instants cut to
the second. The transition log, the outbox, audit rows and column widths are left out.
-/
namespace VtsaCsms.Charging
open Foundation Foundation.Action Assets Tariffs Billing

structure ChargingSession where
  chargingStationId : String
  evseId : String
  connectorId : String
  connectorMaximumPowerW : Int
  chargePointIdentity : String
  protocol : String
  protocolTransactionId : Option String := none
  origin : ChargingSessionOrigin
  state : ChargingSessionState := .requested
  authorizationStatus : AuthorizationStatus := .pending
  authorizationTokenId : Option Nat := none
  tariffVersionId : Option String
  tariffSnapshot : TariffSnapshot
  currency : Option String
  requestedAt : Instant
  startDeadlineAt : Option Instant := none
  startedAt : Option Instant := none
  stoppedAt : Option Instant := none
  lastProtocolEventAt : Option Instant := none
  meterStartWh : Option Int := none
  meterStopWh : Option Int := none
  energyWh : Int := 0
  durationSeconds : Int := 0
  parkingSeconds : Int := 0
  idleSeconds : Int := 0
  energyFlowSeconds : Int := 0
  energyFlowEvidenceComplete : Bool := false
  estimatedCostMinor : Option Int := none
  finalCostMinor : Option Int := none
  platformFeeMinor : Option Int := none
  platformFeeTaxMinor : Option Int := none
  finalizationOutcome : Option String := none
  failureReason : Option String := none
  cancellationReason : Option String := none
  anomalyFlags : List SessionAnomaly
  aggregateVersion : Nat := 1
  deriving DecidableEq

/-- `charging_session_protocol_tx_unique` and `connector_one_physical_session_unique`. -/
def ChargingSession.clash (s s' : ChargingSession) : Bool :=
  (s.protocolTransactionId.isSome && s.protocolTransactionId = s'.protocolTransactionId &&
    s.chargingStationId = s'.chargingStationId && s.protocol = s'.protocol) ||
  (s.state.occupiesConnector && s'.state.occupiesConnector && s.connectorId = s'.connectorId)

structure ChargerCommand where
  sessionId : Nat
  chargingStationId : String
  connectorId : String
  type : ChargerCommandType
  ocppAction : String
  state : ChargerCommandState := .requested
  idempotencyKey : String
  actorId : Option String
  reasonCode : String
  expectedSessionState : ChargingSessionState
  requestedTariffVersionId : Option String := none
  promotionCodeHash : Option String := none
  expiresAt : Instant
  createdAt : Instant
  dispatchedAt : Option Instant := none
  acknowledgedAt : Option Instant := none
  deriving DecidableEq

def ChargerCommand.clash (c c' : ChargerCommand) : Bool := c.idempotencyKey = c'.idempotencyKey

structure ConnectorReservation where
  connectorId : String
  sessionId : Nat
  expiresAt : Instant
  releasedAt : Option Instant := none
  releaseReason : Option String := none
  deriving DecidableEq

/-- `connector_one_open_reservation_unique`. -/
def ConnectorReservation.clash (r r' : ConnectorReservation) : Bool :=
  r.releasedAt = none && r'.releasedAt = none && r.connectorId = r'.connectorId

structure AuthorizationToken where
  sessionId : Option Nat
  status : String
  expiresAt : Instant
  revokedAt : Option Instant := none
  deriving DecidableEq

structure ConnectorStatus where
  status : ConnectorAvailability
  observedAt : Instant
  ocppConnectionId : Option String := none
  reportedStatus : Option String := none
  lastOcppEventAt : Option Instant := none
  staleAfterSeconds : Int
  deriving DecidableEq

structure StationConnection where
  connectionId : String
  connected : Bool
  connectedAt : Instant
  lastEventAt : Instant
  lastSeenAt : Instant
  deriving DecidableEq

structure MeterReading where
  sessionId : Nat
  eventId : String
  sampleIndex : Nat
  sampledAt : Instant
  receivedAt : Instant
  measurand : String
  unit : String
  value : Int
  phase : Option String
  isOutOfOrder : Bool
  isMeterReset : Bool := false
  deriving DecidableEq

def MeterReading.clash (r r' : MeterReading) : Bool :=
  r.eventId = r'.eventId && r.sampleIndex = r'.sampleIndex

/-- What a finalized record states of its session, besides the identifiers. -/
structure CdrSnapshot where
  protocolTransactionId : Option String
  startedAt : Option Instant
  stoppedAt : Option Instant
  energyWh : Int
  durationSeconds : Int
  energyFlowSeconds : Int
  energyFlowEvidenceComplete : Bool
  parkingSeconds : Int
  idleSeconds : Int
  tariffSnapshot : TariffSnapshot
  rating : RatingResult
  anomalyFlags : List SessionAnomaly
  finalizationOutcome : String
  deriving DecidableEq

structure ChargeDetailRecord where
  sessionId : Nat
  version : Nat
  state : ChargeDetailRecordState := .pending
  snapshot : Option CdrSnapshot := none
  currency : Option String
  energyWh : Int
  durationSeconds : Int
  subtotalMinor : Option Int := none
  discountMinor : Option Int := none
  taxMinor : Option Int := none
  totalMinor : Option Int := none
  generatedAt : Option Instant := none
  finalizedAt : Option Instant := none
  deriving DecidableEq

def ChargeDetailRecord.clash (c c' : ChargeDetailRecord) : Bool :=
  c.sessionId = c'.sessionId && c.version = c'.version

inductive InboundOutcome where
  | received | processed | quarantined
  deriving DecidableEq, Repr

structure InboundOcppEvent where
  eventType : String
  aggregateId : String
  payload : Mixed
  occurredAt : Instant
  receivedAt : Instant
  processedAt : Option Instant := none
  outcome : InboundOutcome
  errorCode : Option String := none

structure ChargingSessionReview where
  sessionId : Nat
  resolved : Bool
  reasonCode : String
  notes : Option String
  openedBy : Option String
  openedAt : Instant
  resolvedAt : Option Instant := none
  decision : Option String := none
  deriving DecidableEq

structure BudgetPolicy where
  minimumMinor : Int
  defaultMinor : Int
  maximumMinor : Int
  presets : List Int
  allowCustomAmount : Bool
  deriving DecidableEq, Repr

structure ChargingQuote where
  subjectId : String
  connectorId : String
  chargingAccountId : Option String
  vehicleId : Option String
  payerAccountId : Option String
  tariffVersionId : String
  budgetMinor : Int
  tariff : TariffSnapshot
  budgetPolicy : Option BudgetPolicy
  expiresAt : Instant
  deriving DecidableEq

inductive PaymentState where
  | authorized | requiresAction | notRequired | captured
  deriving DecidableEq, Repr

structure CustomerChargingSession where
  subjectId : String
  sessionId : Nat
  quoteId : Nat
  idempotencyHash : String
  budgetMinor : Int
  paymentState : PaymentState := .authorized
  settledAt : Option Instant := none
  chargingAccountId : Option String
  vehicleId : Option String
  payerAccountId : Option String
  deriving DecidableEq

def CustomerChargingSession.clash (c c' : CustomerChargingSession) : Bool :=
  c.sessionId = c'.sessionId || c.quoteId = c'.quoteId ||
    (c.subjectId = c'.subjectId && c.idempotencyHash = c'.idempotencyHash)

structure Store where
  sessions : Indexed Nat ChargingSession ChargingSession.clash
  commands : Indexed Nat ChargerCommand ChargerCommand.clash
  reservations : Indexed Nat ConnectorReservation ConnectorReservation.clash
  tokens : Table Nat AuthorizationToken
  connectorStatuses : Table String ConnectorStatus
  connections : Table String StationConnection
  readings : Indexed Nat MeterReading MeterReading.clash
  cdrs : Indexed Nat ChargeDetailRecord ChargeDetailRecord.clash
  inbound : Table String InboundOcppEvent
  reviews : Table Nat ChargingSessionReview
  quotes : Table Nat ChargingQuote
  customers : Indexed Nat CustomerChargingSession CustomerChargingSession.clash
  wallet : Wallet

namespace Store

def empty : Store where
  sessions := Indexed.empty
  commands := Indexed.empty
  reservations := Indexed.empty
  tokens := Table.empty
  connectorStatuses := Table.empty
  connections := Table.empty
  readings := Indexed.empty
  cdrs := Indexed.empty
  inbound := Table.empty
  reviews := Table.empty
  quotes := Table.empty
  customers := Indexed.empty
  wallet := ⟨Table.empty, Table.empty, Table.empty, Table.empty,
    ⟨Table.empty, Table.empty, Table.empty⟩⟩

end Store
end VtsaCsms.Charging
