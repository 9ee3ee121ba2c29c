import VtsaCsms.Foundation.Php

/-!
# Charging states

The enumerations of `Charging/Domain` with their stored texts and transition tables.
-/
namespace VtsaCsms.Charging

inductive ChargingSessionState where
  | requested | authorizing | authorized | starting | charging | suspendedByEv | suspendedByEvse
  | stopping | finalizing | reviewRequired | completed | failed | cancelled | expired
  deriving DecidableEq, Repr

namespace ChargingSessionState

def value : ChargingSessionState → String
  | requested => "requested"
  | authorizing => "authorizing"
  | authorized => "authorized"
  | starting => "starting"
  | charging => "charging"
  | suspendedByEv => "suspended_by_ev"
  | suspendedByEvse => "suspended_by_evse"
  | stopping => "stopping"
  | finalizing => "finalizing"
  | reviewRequired => "review_required"
  | completed => "completed"
  | failed => "failed"
  | cancelled => "cancelled"
  | expired => "expired"

def isTerminal : ChargingSessionState → Bool
  | completed | failed | cancelled | expired => true
  | _ => false

def isPhysicallyActive : ChargingSessionState → Bool
  | charging | suspendedByEv | suspendedByEvse | stopping => true
  | _ => false

/-- The states the partial unique index counts as occupying a connector. -/
def occupiesConnector : ChargingSessionState → Bool
  | charging | suspendedByEv | suspendedByEvse | stopping | finalizing => true
  | _ => false

def successors : ChargingSessionState → List ChargingSessionState
  | requested => [authorizing, starting, cancelled, expired]
  | authorizing => [authorized, starting, failed, cancelled, expired]
  | authorized => [starting, cancelled, expired]
  | starting => [charging, suspendedByEv, suspendedByEvse, stopping, finalizing, failed, cancelled, expired]
  | charging => [suspendedByEv, suspendedByEvse, stopping, finalizing]
  | suspendedByEv => [charging, suspendedByEvse, stopping, finalizing]
  | suspendedByEvse => [charging, suspendedByEv, stopping, finalizing]
  | stopping => [charging, suspendedByEv, suspendedByEvse, finalizing]
  | finalizing => [reviewRequired, completed]
  | reviewRequired => [finalizing, completed]
  | completed | failed | cancelled | expired => []

def canTransitionTo (current next : ChargingSessionState) : Bool :=
  next = current || next ∈ current.successors

end ChargingSessionState

inductive ConnectorAvailability where
  | available | occupied | reserved | unavailable | faulted | offline | unknown
  deriving DecidableEq, Repr

namespace ConnectorAvailability

def value : ConnectorAvailability → String
  | available => "available"
  | occupied => "occupied"
  | reserved => "reserved"
  | unavailable => "unavailable"
  | faulted => "faulted"
  | offline => "offline"
  | unknown => "unknown"

def successors : ConnectorAvailability → List ConnectorAvailability
  | available => [reserved, occupied, unavailable, faulted, offline, unknown]
  | reserved => [available, occupied, unavailable, faulted, offline, unknown]
  | occupied => [available, reserved, unavailable, faulted, offline, unknown]
  | unavailable => [available, reserved, faulted, offline, unknown]
  | faulted => [available, unavailable, offline, unknown]
  | offline => [available, reserved, occupied, unavailable, faulted, unknown]
  | unknown => [available, occupied, reserved, unavailable, faulted, offline, unknown]

def canTransitionTo (current next : ConnectorAvailability) : Bool :=
  next = current || next ∈ current.successors

end ConnectorAvailability

inductive ChargerCommandType where
  | remoteStart | remoteStop
  deriving DecidableEq, Repr

inductive ChargerCommandState where
  | requested | dispatched | acknowledged | rejected | timedOut | deliveryUnknown | expired
  deriving DecidableEq, Repr

namespace ChargerCommandState

def value : ChargerCommandState → String
  | requested => "requested"
  | dispatched => "dispatched"
  | acknowledged => "acknowledged"
  | rejected => "rejected"
  | timedOut => "timed_out"
  | deliveryUnknown => "delivery_unknown"
  | expired => "expired"

def isTerminal : ChargerCommandState → Bool
  | requested | dispatched => false
  | _ => true

def successors : ChargerCommandState → List ChargerCommandState
  | requested => [dispatched, expired, rejected]
  | dispatched => [acknowledged, rejected, timedOut, deliveryUnknown]
  | _ => []

def canTransitionTo (current next : ChargerCommandState) : Bool :=
  next = current || next ∈ current.successors

end ChargerCommandState

inductive ChargeDetailRecordState where
  | pending | generating | reviewRequired | finalized | failed | superseded
  deriving DecidableEq, Repr

namespace ChargeDetailRecordState

def value : ChargeDetailRecordState → String
  | pending => "pending"
  | generating => "generating"
  | reviewRequired => "review_required"
  | finalized => "finalized"
  | failed => "failed"
  | superseded => "superseded"

def successors : ChargeDetailRecordState → List ChargeDetailRecordState
  | pending => [generating, failed]
  | generating => [reviewRequired, finalized, failed]
  | reviewRequired => [generating, finalized, failed]
  | finalized => [superseded]
  | failed | superseded => []

def canTransitionTo (current next : ChargeDetailRecordState) : Bool :=
  next = current || next ∈ current.successors

end ChargeDetailRecordState

inductive AuthorizationStatus where
  | pending | approved | denied | chargerLocal | unknown
  deriving DecidableEq, Repr

inductive ChargingSessionOrigin where
  | remote | charger | reconstructed
  deriving DecidableEq, Repr

/-- The texts an anomaly list may hold besides the enumeration's own. -/
inductive SessionAnomaly where
  | clockSkew | conflictingTransaction | invalidMeterValue | meterReset | missingStartMeter
  | missingStopMeter | outOfOrderMeter | reconstructedAfterReconnect | tariffMissing
  | missingEnergyFlowEvidence
  deriving DecidableEq, Repr

end VtsaCsms.Charging
