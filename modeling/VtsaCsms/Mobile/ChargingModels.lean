import VtsaCsms.Charging.States

/-!
# The driver's app

What its charging flow keeps of the platform's answers: `charging_models.dart`,
`app_failure.dart` and the reference of `active_session_store.dart`. What is only displayed
of a charger, a quote or a failure is left out; a session keeps what the platform presents.
-/
namespace VtsaCsms.Mobile
open Foundation
open Charging (ChargingSessionState SessionAnomaly)

inductive ChargingFlowPhase where
  | idle | resolvingCode | reviewing | submittingStart | startPending | startTimedOut | live
  | stopPending | finalizing | paymentProcessing | completed | failed
  deriving DecidableEq, Repr

inductive PaymentState where
  | notRequired | requiresPaymentMethod | authorizationPending | requiresAction | authorized
  | capturePending | captured | failed | refundPending | partiallyRefunded | refunded | unknown
  deriving DecidableEq, Repr

structure Money where
  minorUnits : Int
  currency : String
  deriving DecidableEq, Repr

inductive FailureKind where
  | offline | unauthenticated | forbidden | validation | notFound | rateLimited | timeout | server
  | unknown
  deriving DecidableEq, Repr

structure AppFailure where
  kind : FailureKind
  message : String
  code : Option String := none
  deriving DecidableEq, Repr

structure ChargingSession where
  id : String
  state : ChargingSessionState
  stationId : String
  connectorId : String
  energyWh : Int := 0
  durationSeconds : Int := 0
  energyFlowSeconds : Int := 0
  currentPowerW : Option Int := none
  batteryPercentage : Option Int := none
  batteryReportedAt : Option Instant := none
  estimatedCost : Option Money := none
  finalCost : Option Money := none
  platformFee : Option Money := none
  chargingTotal : Option Money := none
  requestedAt : Instant
  startedAt : Option Instant := none
  stoppedAt : Option Instant := none
  startDeadlineAt : Option Instant := none
  aggregateVersion : Int
  paymentState : PaymentState
  failureReason : Option String := none
  anomalyFlags : List SessionAnomaly := []
  cancellationRequested : Bool := false
  deriving DecidableEq

namespace ChargingSession

def awaitsStart (s : ChargingSession) : Bool :=
  s.state ∈ [.requested, .authorizing, .authorized, .starting]

def canCancelStart (s : ChargingSession) : Bool :=
  !s.cancellationRequested && s.startedAt = none && s.awaitsStart

def isPhysicalActive (s : ChargingSession) : Bool :=
  s.state ∈ [.charging, .suspendedByEv, .suspendedByEvse, .stopping]

def canRequestRemoteStop (s : ChargingSession) : Bool :=
  s.state ∈ [.charging, .suspendedByEv, .suspendedByEvse]

def isTerminal (s : ChargingSession) : Bool :=
  s.state ∈ [.completed, .failed, .cancelled, .expired]

end ChargingSession

inductive ConnectorReadiness where
  | available | occupied | unavailable | faulted | stale
  deriving DecidableEq, Repr

structure ChargeTarget where
  connectorId : String
  readiness : ConnectorReadiness
  deriving DecidableEq

def ChargeTarget.canStart (t : ChargeTarget) : Bool := t.readiness = .available

structure TariffQuote where
  id : String
  expiresAt : Instant
  deriving DecidableEq

structure PaymentMethodSummary where
  id : String
  isDefault : Bool
  deriving DecidableEq

structure ChargePreparation where
  target : ChargeTarget
  quote : TariffQuote
  paymentMethods : List PaymentMethodSummary
  deriving DecidableEq

structure ChargingHistoryPage where
  sessions : List ChargingSession
  nextCursor : Option String

structure ActiveSessionReference where
  ownerId : String
  sessionId : String
  savedAt : Instant
  deriving DecidableEq

/-! ### The stored reference -/

/-- The preferences hold one reference, whoever's it is; they are read and changed in memory, and
the answer of the device to a change comes later. -/
abbrev LocalActiveSessionStore := Option ActiveSessionReference

namespace LocalActiveSessionStore

def read (ownerId : String) (store : LocalActiveSessionStore) : Option ActiveSessionReference :=
  store.filter fun reference => reference.ownerId = ownerId

def clear (ownerId : String) (store : LocalActiveSessionStore) : LocalActiveSessionStore :=
  if (read ownerId store).isSome then none else store

end LocalActiveSessionStore
end VtsaCsms.Mobile
