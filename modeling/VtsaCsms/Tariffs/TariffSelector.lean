import VtsaCsms.Assets.ConnectorSnapshotQuery
import VtsaCsms.Tariffs.TariffEngine

/-!
# Tariff selection

`Tariffs/Application/TariffSelector.php` and `TariffSnapshotFactory.php`. The versions are
the rows of the tariff tables, each with the tariff's currency and its own ending.
-/
namespace VtsaCsms.Tariffs
open Foundation Assets

structure VersionDiscount where
  discount : TariffDiscount
  code : Option String
  isAutomatic : Bool
  effectiveFrom : Option Instant
  effectiveTo : Option Instant
  deriving DecidableEq, Repr

structure TariffVersion where
  id : String
  version : Int
  published : Bool
  endedAt : Option Instant
  effectiveFrom : Instant
  effectiveTo : Option Instant
  operatorId : Option String
  siteId : Option String
  connectorId : Option String
  currency : String
  timezone : String
  timeBasis : TimeBasis
  taxTreatment : TaxTreatment
  taxRateBasisPoints : Option Int
  minimumFeeMinor : Option Int
  maximumFeeMinor : Option Int
  components : List TariffComponent
  discounts : List VersionDiscount
  deriving DecidableEq, Repr

namespace TariffSelector

def applies (connector : ConnectorSnapshot) (at' : Instant) (v : TariffVersion) : Bool :=
  v.published && (v.endedAt.all fun ended => at' < ended) && v.effectiveFrom ≤ at' &&
    (v.effectiveTo.all fun until' => at' < until') &&
    (v.operatorId = none || v.operatorId = connector.operatorId) &&
    (v.siteId = none || v.siteId = some connector.siteId) &&
    (v.connectorId = none || v.connectorId = some connector.connectorId)

/-- The selector's ordering: connector, site and operator scope, then the latest. -/
def rank (v : TariffVersion) : List Int :=
  [if v.connectorId.isSome then 1 else 0, if v.siteId.isSome then 1 else 0,
    if v.operatorId.isSome then 1 else 0, v.effectiveFrom, v.version]

def best : List TariffVersion → Option TariffVersion
  | [] => none
  | v :: rest =>
    match best rest with
    | none => some v
    | some other => if rank v < rank other then some other else some v

def select (versions : List TariffVersion) (connector : ConnectorSnapshot) (at' : Instant)
    (requestedVersionId : Option String := none) : Option TariffVersion :=
  let applicable := versions.filter (applies connector at'.toSecond)
  match requestedVersionId with
  | some id => applicable.find? fun v => v.id = id
  | none => best applicable

theorem best_mem {versions : List TariffVersion} {v : TariffVersion} (chosen : best versions = some v) :
    v ∈ versions := by
  induction versions with
  | nil => contradiction
  | cons _ rest ih =>
    unfold best at chosen
    cases other : best rest with
    | none =>
      rw [other] at chosen
      cases chosen
      exact List.mem_cons_self
    | some =>
      rw [other] at chosen ih
      dsimp only at chosen
      split at chosen
      · cases chosen
        exact List.mem_cons_of_mem _ (ih rfl)
      · cases chosen
        exact List.mem_cons_self

theorem select_mem {versions : List TariffVersion} {connector : ConnectorSnapshot} {at' : Instant}
    {v : TariffVersion} (chosen : select versions connector at' = some v) : v ∈ versions :=
  (List.mem_filter.mp (best_mem chosen)).1

end TariffSelector

namespace TariffSnapshotFactory

def discountApplies (upper : String → String) (at' : Instant) (promotionCode : Option String)
    (d : VersionDiscount) : Bool :=
  let named := match promotionCode, d.code with
    | some promotion, some code => upper code = upper promotion
    | _, _ => false
  (d.isAutomatic || named) && (d.effectiveFrom.all fun since => since ≤ at') &&
    (d.effectiveTo.all fun until' => at' < until')

def create (upper : String → String) (version : TariffVersion) (connector : ConnectorSnapshot)
    (selectedAt : Instant) (promotionCode : Option String := none) : TariffSnapshot where
  selected := true
  currency := some version.currency
  timezone := version.timezone
  timeBasis := version.timeBasis
  connectorNumber := some connector.connectorNumber
  components := version.components
  discounts := (version.discounts.filter (discountApplies upper selectedAt promotionCode)).map
    VersionDiscount.discount
  taxTreatment := version.taxTreatment
  taxRateBasisPoints := version.taxRateBasisPoints
  minimumFeeMinor := version.minimumFeeMinor
  maximumFeeMinor := version.maximumFeeMinor

def missing (connector : ConnectorSnapshot) : TariffSnapshot where
  selected := false
  currency := none
  timezone := connector.timezone

end TariffSnapshotFactory
end VtsaCsms.Tariffs
