import Mathlib.Data.Nat.Bitwise
import VtsaCsms.Foundation.Php

/-!
# Tariff engine

`Tariffs/Application/TariffEngine.php` over the snapshot a session carries. Amounts are
minor units; every product and sum is checked against the integer range before it is
made. The snapshot has the types its factory writes.
-/
namespace VtsaCsms.Tariffs
open Foundation

inductive TariffDimension where
  | energy | time | session | parking | idle
  deriving DecidableEq, Repr

def TariffDimension.value : TariffDimension → String
  | energy => "energy"
  | time => "time"
  | session => "session"
  | parking => "parking"
  | idle => "idle"

inductive TaxTreatment where
  | inclusive | exclusive
  deriving DecidableEq, Repr

inductive DiscountKind where
  | percentage | fixed
  deriving DecidableEq, Repr

inductive TimeBasis where
  | elapsed | energyFlow
  deriving DecidableEq, Repr

structure TariffComponent where
  dimension : TariffDimension
  priceMinor : Int
  unitQuantity : Int
  dayOfWeekMask : Nat
  startsAtLocal : Option String
  endsAtLocal : Option String
  priority : Int
  deriving DecidableEq, Repr

structure TariffDiscount where
  name : String
  kind : DiscountKind
  value : Int
  deriving DecidableEq, Repr

structure PlatformFee where
  id : Option String
  enabled : Bool
  amountMinor : Int
  waiverThresholdMinor : Int
  taxRateBasisPoints : Option Int
  beneficiary : Option String
  deriving DecidableEq, Repr

/-- `selected` is `pricing_status = 'selected'`; the missing snapshot prices nothing. -/
structure TariffSnapshot where
  selected : Bool
  currency : Option String
  timezone : String
  timeBasis : TimeBasis := .elapsed
  energyFlowMaxGapSeconds : Int := 60
  connectorNumber : Option Int := none
  components : List TariffComponent := []
  discounts : List TariffDiscount := []
  taxTreatment : TaxTreatment := .inclusive
  taxRateBasisPoints : Option Int := none
  minimumFeeMinor : Option Int := none
  maximumFeeMinor : Option Int := none
  platformFee : Option PlatformFee := none
  deriving DecidableEq, Repr

structure RatingInput where
  energyWh : Int
  durationSeconds : Int
  parkingSeconds : Int
  idleSeconds : Int
  startedAt : Instant
  energyFlowSeconds : Int := 0

structure RatedLine where
  dimension : String
  quantity : Int
  unitQuantity : Int
  priceMinor : Int
  amountMinor : Int
  taxMinor : Option Int := none
  beneficiary : Option String := none
  deriving DecidableEq, Repr

structure DiscountLine where
  name : String
  kind : DiscountKind
  value : Int
  amountMinor : Int
  deriving DecidableEq, Repr

structure RatingResult where
  currency : Option String
  subtotalMinor : Int
  discountMinor : Int
  taxMinor : Int
  totalMinor : Int
  lines : List RatedLine
  discounts : List DiscountLine
  platformFeeMinor : Int := 0
  platformFeeTaxMinor : Int := 0
  deriving DecidableEq, Repr

/-- What `setTimezone` says of an instant: the ISO weekday and the time as `H:i:s`.
The time zone database is outside the repository; an unknown zone throws. -/
structure LocalTime where
  dayOfWeekIso : Nat
  time : String

abbrev LocalClock := String → Instant → Option LocalTime

namespace TariffEngine

def outOfRange : Throwable := .overflow "Tariff calculation exceeds the supported integer range."

def assertNonNegative (input : RatingInput) : Except Throwable Unit :=
  if min input.energyWh (min input.durationSeconds (min input.parkingSeconds
      (min input.idleSeconds input.energyFlowSeconds))) < 0 then
    .error (.invalidArgument "Rating inputs must be non-negative integer measurements.")
  else .ok ()

/-- Rounds halves up. -/
def multiplyAndDivide (left right denominator : Int) : Except Throwable Int :=
  if left < 0 ∨ right < 0 ∨ denominator ≤ 0 then
    .error (.invalidArgument "Tariff quantities and rates must be non-negative.")
  else if right ≠ 0 ∧ phpIntMax / right < left then .error outOfRange
  else
    let product := left * right
    let quotient := product / denominator
    let remainder := product % denominator
    .ok (if (denominator + 1) / 2 ≤ remainder then quotient + 1 else quotient)

def safeAdd (left right : Int) : Except Throwable Int :=
  if phpIntMax - left < right then .error outOfRange else .ok (left + right)

def componentMatches (component : TariffComponent) (at' : LocalTime) : Bool :=
  if component.dayOfWeekMask &&& (1 <<< (at'.dayOfWeekIso - 1)) = 0 then false
  else
    match component.startsAtLocal, component.endsAtLocal with
    | some starts, some ends =>
      if starts < ends then starts ≤ at'.time && at'.time < ends
      else starts ≤ at'.time || at'.time < ends
    | none, none => true
    | _, _ => false

/-- One component per dimension: the first of the highest priority, in the order in which
the dimensions first matched. -/
def selectComponents (at' : LocalTime) (components : List TariffComponent) : List TariffComponent :=
  components.foldl (fun selected component =>
    if componentMatches component at' then
      if selected.any fun c => c.dimension = component.dimension then
        selected.map fun c =>
          if c.dimension = component.dimension ∧ c.priority < component.priority then component else c
      else selected ++ [component]
    else selected) []

def quantity (snapshot : TariffSnapshot) (input : RatingInput) : TariffDimension → Int
  | .energy => input.energyWh
  | .time => match snapshot.timeBasis with
    | .energyFlow => input.energyFlowSeconds
    | .elapsed => input.durationSeconds
  | .parking => input.parkingSeconds
  | .idle => input.idleSeconds
  | .session => 1

/-- The lines of the selected components and their sum. -/
def rateLines (snapshot : TariffSnapshot) (input : RatingInput) :
    List TariffComponent → Int → Except Throwable (Int × List RatedLine)
  | [], subtotal => .ok (subtotal, [])
  | component :: rest, subtotal => do
    let measured := quantity snapshot input component.dimension
    let amount ← multiplyAndDivide component.priceMinor measured component.unitQuantity
    let subtotal ← safeAdd subtotal amount
    let (total, lines) ← rateLines snapshot input rest subtotal
    pure (total, { dimension := component.dimension.value, quantity := measured,
                   unitQuantity := component.unitQuantity, priceMinor := component.priceMinor,
                   amountMinor := amount } :: lines)

/-- Each discount applies to what the earlier ones left. -/
def discounts : List TariffDiscount → Int → Except Throwable (Int × List DiscountLine)
  | [], _ => .ok (0, [])
  | discount :: rest, remaining => do
    let amount ← match discount.kind with
      | .percentage => multiplyAndDivide remaining discount.value 10000
      | .fixed => pure discount.value
    let amount := min remaining amount
    let (total, lines) ← discounts rest (remaining - amount)
    pure (amount + total, { name := discount.name, kind := discount.kind, value := discount.value,
                            amountMinor := amount } :: lines)

def tax (snapshot : TariffSnapshot) (net : Int) : Except Throwable Int :=
  let rate := snapshot.taxRateBasisPoints.getD 0
  match snapshot.taxTreatment with
  | .exclusive => multiplyAndDivide net rate 10000
  | .inclusive => if rate = 0 then .ok 0 else multiplyAndDivide net rate (10000 + rate)

def chargedFee (snapshot : TariffSnapshot) (input : RatingInput) (total : Int) : Option PlatformFee :=
  snapshot.platformFee.filter fun fee =>
    fee.enabled && (0 < input.energyWh || 0 < input.energyFlowSeconds) &&
      fee.waiverThresholdMinor ≤ total

/-- The platform fee on top of a rated charge, its tax contained in it. -/
def addPlatformFee (snapshot : TariffSnapshot) (fee : PlatformFee) (rated : RatingResult) :
    Except Throwable RatingResult := do
  let rate := fee.taxRateBasisPoints.getD 0
  let feeTax ← multiplyAndDivide fee.amountMinor rate (10000 + rate)
  let subtotal ← safeAdd rated.subtotalMinor
    (if snapshot.taxTreatment = .exclusive then fee.amountMinor - feeTax else fee.amountMinor)
  let taxMinor ← safeAdd rated.taxMinor feeTax
  let total ← safeAdd rated.totalMinor fee.amountMinor
  let line : RatedLine :=
    { dimension := "platform_fee", quantity := 1, unitQuantity := 1, priceMinor := fee.amountMinor,
      amountMinor := fee.amountMinor, taxMinor := some feeTax, beneficiary := fee.beneficiary }
  pure { rated with
    subtotalMinor := subtotal, taxMinor, totalMinor := total, lines := rated.lines ++ [line]
    platformFeeMinor := fee.amountMinor, platformFeeTaxMinor := feeTax }

def rate (clock : LocalClock) (snapshot : TariffSnapshot) (input : RatingInput) :
    Except Throwable RatingResult := do
  assertNonNegative input
  if snapshot.selected = false then pure ⟨none, 0, 0, 0, 0, [], [], 0, 0⟩
  else do
    let localStart ← match clock snapshot.timezone input.startedAt with
      | some t => .ok t
      | none => .error (.invalidArgument "Unknown or bad timezone.")
    let (subtotal, lines) ← rateLines snapshot input
      (selectComponents localStart snapshot.components) 0
    let (discountMinor, discountLines) ← discounts snapshot.discounts subtotal
    let net := max 0 (subtotal - discountMinor)
    let taxMinor ← tax snapshot net
    let total ← if snapshot.taxTreatment = .exclusive then safeAdd net taxMinor else .ok net
    let total := (snapshot.minimumFeeMinor.map (max total)).getD total
    let total := (snapshot.maximumFeeMinor.map (min total)).getD total
    let rated : RatingResult :=
      { currency := snapshot.currency, subtotalMinor := subtotal, discountMinor, taxMinor,
        totalMinor := total, lines, discounts := discountLines }
    match chargedFee snapshot input total with
    | none => pure rated
    | some fee => addPlatformFee snapshot fee rated

end TariffEngine
end VtsaCsms.Tariffs
