import VtsaCsms.Foundation.Php

/-!
# Connector snapshots

`Assets/Application/ConnectorSnapshotQuery.php` and `GatewayStationQuery.php`: what the
charging module may ask of the asset register of its tenant. The availability a snapshot
also carries is Charging's own data and stands there.
-/
namespace VtsaCsms.Assets
open Foundation

structure Site where
  id : String
  operatorId : Option String
  timezone : String
  isPublic : Bool
  isActive : Bool
  lifecycleActive : Bool
  deriving DecidableEq, Repr

structure Station where
  id : String
  site : Site
  chargePointIdentity : String
  qrIdentifier : Option String
  ocppVersion : Option String
  isPublic : Bool
  lifecycleActive : Bool
  deriving DecidableEq, Repr

structure Evse where
  id : String
  station : Station
  evseNumber : Int
  lifecycleActive : Bool
  deriving DecidableEq, Repr

structure Connector where
  id : String
  evse : Evse
  connectorNumber : Int
  qrIdentifier : Option String
  maximumPowerW : Int
  lifecycleActive : Bool
  deriving DecidableEq, Repr

structure Register where
  stations : List Station
  connectors : List Connector
  deriving DecidableEq, Repr

structure ConnectorSnapshot where
  siteId : String
  operatorId : Option String
  stationId : String
  evseId : String
  connectorId : String
  chargePointIdentity : String
  protocol : String
  evseNumber : Int
  connectorNumber : Int
  maximumPowerW : Int
  timezone : String
  deriving DecidableEq, Repr

def protocolOf : Option String → String
  | some "1.6J" => "ocpp1.6"
  | some "2.0.1" => "ocpp2.0.1"
  | _ => "unsupported"

namespace ConnectorSnapshotQuery

def baseQuery (register : Register) : List Connector :=
  register.connectors.filter fun c =>
    c.lifecycleActive && c.evse.lifecycleActive && c.evse.station.lifecycleActive

def snapshot (c : Connector) : ConnectorSnapshot where
  siteId := c.evse.station.site.id
  operatorId := c.evse.station.site.operatorId
  stationId := c.evse.station.id
  evseId := c.evse.id
  connectorId := c.id
  chargePointIdentity := c.evse.station.chargePointIdentity
  protocol := protocolOf c.evse.station.ocppVersion
  evseNumber := c.evse.evseNumber
  connectorNumber := c.connectorNumber
  maximumPowerW := c.maximumPowerW
  timezone := c.evse.station.site.timezone

/-- `count() === 1 ? first() : null` of a query limited to two rows. -/
def single {α : Type} : List α → Option α
  | [a] => some a
  | _ => none

def byId (register : Register) (connectorId : String) : Option ConnectorSnapshot :=
  ((baseQuery register).find? fun c => c.id = connectorId).map snapshot

/-- The active connectors of a station that the given numbers leave. -/
def gatewayCandidates (register : Register) (stationId : String)
    (evseNumber connectorNumber : Option Int) : List Connector :=
  (baseQuery register).filter fun c =>
    c.evse.station.id = stationId &&
      (evseNumber = none || evseNumber = some c.evse.evseNumber) &&
      (connectorNumber = none || connectorNumber = some c.connectorNumber)

def forGatewayEvent (register : Register) (stationId : String)
    (evseNumber connectorNumber : Option Int) : Option ConnectorSnapshot :=
  (single (gatewayCandidates register stationId evseNumber connectorNumber)).map snapshot

/-- The one public connector a code stands for. -/
def publicChargeTarget (register : Register) (code : String) : Option ConnectorSnapshot :=
  (single ((baseQuery register).filter fun c =>
    c.evse.station.isPublic && c.evse.station.site.isPublic && c.evse.station.site.isActive &&
      c.evse.station.site.lifecycleActive &&
      (c.qrIdentifier = some code || c.id = code ||
        c.evse.station.chargePointIdentity = code || c.evse.station.qrIdentifier = some code))).map
    snapshot

end ConnectorSnapshotQuery

namespace GatewayStationQuery

def validateAndLock (register : Register) (stationId identity protocol : String) :
    Except Throwable Unit :=
  let station := register.stations.find? fun s => s.id = stationId && s.lifecycleActive
  match station with
  | some s =>
    if protocolOf s.ocppVersion ≠ "unsupported" ∧ protocolOf s.ocppVersion = protocol ∧
        s.chargePointIdentity = identity then .ok ()
    else .error (.domain "OCPP event does not match an active station in this tenant.")
  | none => .error (.domain "OCPP event does not match an active station in this tenant.")

end GatewayStationQuery
end VtsaCsms.Assets
