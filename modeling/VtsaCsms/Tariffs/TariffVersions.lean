import VtsaCsms.Foundation.Action
import VtsaCsms.Foundation.Table
import VtsaCsms.Tariffs.TariffSelector

/-!
# Tariff versions

`TariffManagementService.php` and `PortalPricing.php` of `Tariffs/Application`. Instants are
stored as their columns keep them; who published, the outbox and the audit trail are not read
back by any modelled code.
-/
namespace VtsaCsms.Tariffs
open Foundation Foundation.Action Assets

inductive TariffStatus where
  | draft | published | retired
  deriving DecidableEq, Repr

structure Tariff where
  name : String
  currency : String
  status : TariffStatus
  deriving DecidableEq, Repr

structure VersionRow where
  tariffId : Nat
  version : Int
  status : TariffStatus
  effectiveFrom : Instant
  effectiveTo : Option Instant
  taxTreatment : TaxTreatment
  taxRateBasisPoints : Option Int
  minimumFeeMinor : Option Int
  maximumFeeMinor : Option Int
  operatorId : Option String
  siteId : Option String
  connectorId : Option String
  timezone : String
  timeBasis : TimeBasis
  components : List TariffComponent
  discounts : List VersionDiscount
  deriving DecidableEq, Repr

/-- An ending stands under the version it ends: the table has one for each. -/
structure Catalog where
  tariffs : Table Nat Tariff
  versions : Table Nat VersionRow
  endings : Table Nat Instant

/-- What the services ask of other modules. -/
structure ScopeDirectory where
  register : Register
  sites : List String
  operators : List String

structure ComponentData where
  dimension : TariffDimension
  priceMinor : Int
  unitQuantity : Option Int := none
  dayOfWeekMask : Option Nat := none
  startsAtLocal : Option String := none
  endsAtLocal : Option String := none
  priority : Option Int := none
  deriving DecidableEq, Repr

structure DiscountData where
  name : String
  code : Option String := none
  kind : DiscountKind
  value : Int
  isAutomatic : Bool := false
  effectiveFrom : Option Instant := none
  effectiveTo : Option Instant := none
  deriving DecidableEq, Repr

structure VersionData where
  effectiveFrom : Instant
  effectiveTo : Option Instant := none
  taxTreatment : TaxTreatment
  taxRateBasisPoints : Option Int := none
  minimumFeeMinor : Option Int := none
  maximumFeeMinor : Option Int := none
  operatorId : Option String := none
  siteId : Option String := none
  connectorId : Option String := none
  timezone : String
  timeBasis : Option TimeBasis := none
  components : List ComponentData
  discounts : List DiscountData := []
  deriving DecidableEq, Repr

def TariffDimension.defaultUnitQuantity : TariffDimension → Int
  | energy => 1000
  | time | parking | idle => 60
  | session => 1

namespace TariffManagementService

def validateScope (directory : ScopeDirectory) (data : VersionData) : Except Throwable Unit := do
  let connector := data.connectorId.bind (ConnectorSnapshotQuery.byId directory.register)
  if data.connectorId ≠ none ∧ data.siteId ≠ none ∧ connector.map ConnectorSnapshot.siteId ≠ data.siteId then
    throw (.domain "The selected connector does not belong to the selected site.")
  if data.connectorId ≠ none ∧ connector = none then
    throw (.domain "Tariff connector scope does not exist in this tenant.")
  if data.siteId.any (· ∉ directory.sites) then
    throw (.domain "Tariff site scope does not exist in this tenant.")
  if data.operatorId.any (· ∉ directory.operators) then
    throw (.domain "Tariff operator scope does not exist in this tenant.")

/-- The maximum fee is below the minimum. -/
def FeesCrossed (minimum maximum : Option Int) : Bool :=
  match minimum, maximum with
  | some low, some high => high < low
  | _, _ => false

def validateRatingRules (data : VersionData) : Except Throwable Unit := do
  if data.timeBasis.any (· ≠ .energyFlow) then
    throw (.domain "New time tariffs must use metered energy-flow duration.")
  if FeesCrossed data.minimumFeeMinor data.maximumFeeMinor then
    throw (.domain "The maximum fee cannot be lower than the minimum fee.")
  if data.components.any fun c => c.startsAtLocal.isSome ≠ c.endsAtLocal.isSome then
    throw (.domain "Time-of-day tariff components require both start and end times.")
  if data.discounts.any fun d => d.kind = .percentage && 10000 < d.value then
    throw (.domain "Percentage discounts cannot exceed 100 percent.")

/-- The check constraints of the version and component tables. -/
def violatesChecks (data : VersionData) : Bool :=
  data.taxRateBasisPoints.any (10000 < ·) ||
    data.components.any fun c =>
      c.unitQuantity.any (· ≤ 0) || c.dayOfWeekMask.any fun mask => mask < 1 || 127 < mask

def component (data : ComponentData) : TariffComponent :=
  { dimension := data.dimension, priceMinor := data.priceMinor
    unitQuantity := data.unitQuantity.getD data.dimension.defaultUnitQuantity
    dayOfWeekMask := data.dayOfWeekMask.getD 127, startsAtLocal := data.startsAtLocal
    endsAtLocal := data.endsAtLocal, priority := data.priority.getD 0 }

def discount (data : DiscountData) : VersionDiscount :=
  { discount := ⟨data.name, data.kind, data.value⟩, code := data.code.map strToUpper
    isAutomatic := data.isAutomatic, effectiveFrom := data.effectiveFrom, effectiveTo := data.effectiveTo }

/-- `max('version') + 1` of a tariff. -/
def nextVersion (tariffId : Nat) (s : Catalog) : Int :=
  ((s.versions.rowsWhere fun _ v => v.tariffId = tariffId).map fun e => e.2.version).foldr max 0 + 1

def draft (tariffId : Nat) (version : Int) (data : VersionData) : VersionRow :=
  { tariffId, version, status := .draft, effectiveFrom := data.effectiveFrom.toSecond
    effectiveTo := data.effectiveTo.map Instant.toSecond, taxTreatment := data.taxTreatment
    taxRateBasisPoints := data.taxRateBasisPoints, minimumFeeMinor := data.minimumFeeMinor
    maximumFeeMinor := data.maximumFeeMinor, operatorId := data.operatorId, siteId := data.siteId
    connectorId := data.connectorId, timezone := data.timezone
    timeBasis := data.timeBasis.getD .energyFlow, components := data.components.map component
    discounts := data.discounts.map discount }

def addVersion (directory : ScopeDirectory) (tariffId : Nat) (data : VersionData) :
    Action Catalog Throwable Nat := do
  lift (validateScope directory data)
  lift (validateRatingRules data)
  transaction do
    let found ← read fun s => s.tariffs.get? tariffId
    let lockedTariff ← orThrow found (.modelNotFound "Tariff")
    throwIf (lockedTariff.status = .retired) (.domain "A retired tariff cannot receive new versions.")
    throwIf (violatesChecks data) ⟨.query, "tariff_versions"⟩
    let row ← read fun s => draft tariffId (nextVersion tariffId s) data
    let key ← read fun s => s.versions.nextId
    write fun s => { s with versions := s.versions.create row }
    pure key

def sameScope (version other : VersionRow) : Bool :=
  other.operatorId = version.operatorId && other.siteId = version.siteId &&
    other.connectorId = version.connectorId

/-- `'9999-12-31 23:59:59+00'`, where a period without an end is taken to end. -/
def endOfTime : Instant := 253402300799 * 1000000

/-- A published version of the same tariff and scope whose period the query sees to overlap. -/
def overlaps (locked : VersionRow) (s : Catalog) : Bool :=
  s.versions.exists? fun key other =>
    other.tariffId = locked.tariffId && other.status = .published &&
      !((s.endings.get? key).any (· ≤ locked.effectiveFrom)) && sameScope locked other &&
      other.effectiveFrom < locked.effectiveTo.getD endOfTime &&
      other.effectiveTo.all (locked.effectiveFrom < ·)

def publish (tariffId key : Nat) : Action Catalog Throwable Unit :=
  transaction do
    let tariff ← read fun s => s.tariffs.get? tariffId
    let _ ← orThrow tariff (.modelNotFound "Tariff")
    let found ← read fun s => s.versions.get? key
    let locked ← orThrow found (.modelNotFound "TariffVersion")
    throwIf (locked.status ≠ .draft) (.domain "Only draft tariff versions can be published.")
    throwIf (locked.components = []) (.domain "A tariff version requires at least one price component.")
    let overlap ← read (overlaps locked)
    throwIf overlap (.domain "Published effective periods cannot overlap for the same tariff scope.")
    write fun s => { s with
      versions := s.versions.update key fun v => { v with status := .published }
      tariffs := s.tariffs.update locked.tariffId fun t =>
        if t.status = .draft then { t with status := .published } else t }

end TariffManagementService

/-! ### Portal pricing -/

inductive PricingMode where
  | energy | session | time
  deriving DecidableEq, Repr

inductive TimeUnit where
  | minute | hour
  deriving DecidableEq, Repr

structure PricingInput where
  name : Option String := none
  mode : PricingMode
  price : String
  timeUnit : TimeUnit
  connectorId : Option String := none
  siteId : Option String := none
  timezone : String
  taxTreatment : TaxTreatment
  taxRateBasisPoints : Int
  deriving DecidableEq, Repr

namespace PortalPricing

def digits (least most : Nat) (text : List Char) : Bool :=
  text.all Char.isDigit && least ≤ text.length && text.length ≤ most

/-- The minor units of a price of at most six digits and two decimals. -/
def minor (price : String) : Option Int :=
  let whole := price.toList.takeWhile (· ≠ '.')
  match price.toList.dropWhile (· ≠ '.') with
  | [] =>
    if digits 1 6 whole then some (intOfDigits (String.ofList whole) * 100) else none
  | _ :: fraction =>
    if digits 1 6 whole && digits 1 2 fraction then
      some (intOfDigits (String.ofList whole) * 100 +
        intOfDigits (String.ofList (fraction ++ List.replicate (2 - fraction.length) '0')))
    else none

def validate (input : PricingInput) : Except Throwable Int := do
  if input.name.any fun name => name.toList.isEmpty || 160 < name.toList.length then
    throw (.validation "name")
  if input.taxRateBasisPoints < 0 ∨ 10000 < input.taxRateBasisPoints then
    throw (.validation "tax_rate_basis_points")
  match minor input.price with
  | some minor => return minor
  | none => throw (.validation "price")

def dimension : PricingMode → TariffDimension
  | .energy => .energy
  | .session => .session
  | .time => .time

def unitQuantity (input : PricingInput) : Int :=
  match input.mode with
  | .energy => 1000
  | .session => 1
  | .time => match input.timeUnit with
    | .hour => 3600
    | .minute => 60

def versionData (now : Instant) (input : PricingInput) (priceMinor : Int) : VersionData :=
  { effectiveFrom := now, taxTreatment := input.taxTreatment
    taxRateBasisPoints := some input.taxRateBasisPoints, timezone := input.timezone
    timeBasis := some .energyFlow, connectorId := input.connectorId, siteId := input.siteId
    components := [{ dimension := dimension input.mode, priceMinor, unitQuantity := some (unitQuantity input) }] }

/-- Published versions of the scope that nothing has ended. -/
def replaced (tariffId : Nat) (input : PricingInput) (s : Catalog) : List (Nat × VersionRow) :=
  s.versions.rowsWhere fun key v =>
    v.tariffId = tariffId && v.status = .published && v.operatorId = none &&
      v.connectorId = input.connectorId && v.siteId = input.siteId && (s.endings.get? key).isNone

def endVersion (now : Instant) (previous : Nat × VersionRow) : Action Catalog Throwable Unit := do
  throwIf (now < previous.2.effectiveFrom) (.domain (
    "This scope has scheduled pricing. " ++
      "Resolve the scheduled version before publishing an immediate price."))
  let ending ← read fun s => s.endings.get? previous.1
  throwIf (ending ≠ none) (.uniqueConstraint "tariff_version_endings")
  write fun s => { s with endings := s.endings.put previous.1 now.toSecond }

def publish (directory : ScopeDirectory) (now : Instant) (tariffId : Nat) (input : PricingInput) :
    Action Catalog Throwable Unit := do
  let priceMinor ← lift (validate input)
  transaction do
    let found ← read fun s => s.tariffs.get? tariffId
    let _ ← orThrow found (.modelNotFound "Tariff")
    write fun s => { s with
      tariffs := s.tariffs.update tariffId fun t => { t with name := input.name.getD t.name } }
    let versions ← read (replaced tariffId input)
    forEach versions (endVersion now)
    let key ← TariffManagementService.addVersion directory tariffId (versionData now input priceMinor)
    TariffManagementService.publish tariffId key

end PortalPricing
end VtsaCsms.Tariffs
