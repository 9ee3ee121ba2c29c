import Mathlib.Data.List.Sort
import VtsaCsms.Charging.StateMachines

/-!
# Metering

`EnergyFlowDuration.php` and `MeterValueService.php`. Readings are kept as evidence and a
session's energy is recomputed from all of them on every record.
-/
namespace VtsaCsms.Charging
open Foundation Foundation.Action Assets Tariffs

def importRegister : String := "Energy.Active.Import.Register"

/-- `strtolower`. -/
def strToLower (s : String) : String := String.ofList (s.toList.map Char.toLower)

/-- Rows in the order of an instant, ties in order of creation. -/
def orderedBy {ρ : Type} (instant : ρ → Instant) (rows : List ρ) : List ρ :=
  rows.insertionSort fun a b => instant a ≤ instant b

namespace EnergyFlowDuration

structure Flow where
  seconds : Int
  complete : Bool
  deriving DecidableEq

/-- A status report of the measured connector: when, and whether it says `charging`. -/
structure StatusReport where
  occurredAt : Instant
  charging : Bool

/-- Connectors are compared with `===`, so a number given as text matches none. -/
def sameNumber : Mixed → Option Int → Bool
  | .int n, number => number = some n
  | .null, number => number = none
  | _, _ => false

def statusReports (env : Environment) (store : Store) (session : ChargingSession)
    (startedAt : Instant) : Except Throwable (List StatusReport) :=
  let number := session.tariffSnapshot.connectorNumber.or
    ((ConnectorSnapshotQuery.byId env.register session.connectorId).map ConnectorSnapshot.connectorNumber)
  let rows := store.inbound.rowsWhere fun _ e =>
    e.aggregateId = session.chargingStationId &&
      e.eventType = "gateway.ocpp.status_notification.received.v1" && e.outcome = .processed &&
      startedAt ≤ e.occurredAt && e.occurredAt ≤ session.stoppedAt.getD env.now.toSecond &&
      (e.payload.get "data").isArray &&
      sameNumber ((e.payload.get "data").get "connector_id") number
  (orderedBy InboundOcppEvent.occurredAt (rows.map Prod.snd)).mapM fun e => do
    let status ← (((e.payload.get "data").get "status").orElse (.string "")).toText env.floatText
    pure ⟨e.occurredAt, strToLower status = "charging"⟩

/-- The last report at or before an instant is a pause. -/
def pausedAt (reports : List StatusReport) (instant : Instant) : Bool :=
  ((reports.filter fun r => r.occurredAt ≤ instant).getLast?).any fun r => !r.charging

/-- Power readings in order, grouped by instant: the reading, or none if they disagree. -/
def groupByInstant : List MeterReading → List (Instant × Option Int)
  | [] => []
  | reading :: rest =>
    match groupByInstant rest with
    | [] => [(reading.sampledAt, some reading.value)]
    | (instant, value) :: later =>
      if reading.sampledAt = instant then
        (instant, if value = some reading.value then value else none) :: later
      else (reading.sampledAt, some reading.value) :: (instant, value) :: later

/-- Walks the groups with the previous instant and power. -/
def walk (reports : List StatusReport) (gap : Int) :
    List (Instant × Option Int) → Instant → Int → Flow → Instant × Flow
  | [], previousAt, _, flow => (previousAt, flow)
  | (sampledAt, value) :: rest, previousAt, previousPower, flow =>
    let elapsed := Instant.diffInSeconds previousAt sampledAt
    let power := value.getD 0
    let flow :=
      if value = none ∨ gap < elapsed then { flow with complete := false }
      else if !pausedAt reports sampledAt && !pausedAt reports previousAt && 0 < elapsed &&
          0 < previousPower && 0 < power &&
          !(reports.any fun r => !r.charging && previousAt ≤ r.occurredAt && r.occurredAt ≤ sampledAt) then
        { flow with seconds := flow.seconds + elapsed }
      else flow
    walk reports gap rest sampledAt power flow

def measure (env : Environment) (store : Store) (key : Nat) (session : ChargingSession) :
    Except Throwable Flow :=
  match session.startedAt with
  | none => .ok ⟨0, false⟩
  | some startedAt => do
    let gap := session.tariffSnapshot.energyFlowMaxGapSeconds
    let reports ← statusReports env store session startedAt
    let rows := store.readings.rowsWhere fun _ r =>
      r.sessionId = key && r.measurand = "Power.Active.Import" && r.unit = "W" && r.phase = none &&
        startedAt ≤ r.sampledAt && r.sampledAt ≤ session.stoppedAt.getD env.now.toSecond
    let groups := groupByInstant (orderedBy MeterReading.sampledAt (rows.map Prod.snd))
    let (lastAt, flow) := walk reports gap groups startedAt 0 ⟨0, 2 ≤ groups.length⟩
    match session.stoppedAt with
    | some stoppedAt =>
      -- this difference is a double, so a fraction over the gap would count; columns hold none
      pure (if gap < Instant.diffInSeconds lastAt stoppedAt then { flow with complete := false } else flow)
    | none => pure flow

end EnergyFlowDuration

namespace MeterValueService

structure Reading where
  sampledAt : Instant
  measurand : String
  unit : String
  value : Int
  phase : Option String

/-- `integer`. -/
def integer : Mixed → Option Int
  | .int n => some n
  | .string s => if ctypeDigit s then some (intOfDigits s) else none
  | .float (.finite x) => if x.isInt && x ≤ phpIntMax then some x.num else none
  | _ => none

def auxiliaryUnits : Mixed → List String
  | .string "Voltage" => ["V"]
  | .string "Current.Import" | .string "Current.Export" | .string "Current.Offered" => ["A"]
  | .string "Temperature" => ["Celsius", "Fahrenheit", "K"]
  | _ => []

def isAuxiliaryTelemetry (env : Environment) (sample : Mixed) : Bool :=
  let measurand := sample.get "measurand"
  ((sample.get "unit").string?.any fun unit => unit ∈ auxiliaryUnits measurand) &&
    match (sample.get "value").numeric env.toFloat with
    | some (.finite x) => measurand.string? = some "Temperature" || 0 ≤ x
    | _ => false

/-- A state of charge without a phase is a percentage; everything else is an integer. -/
def normalizedValue (env : Environment) (sample : Mixed) : Option (Int × Option String) :=
  let unit := (sample.get "unit").string?
  if (sample.get "measurand").string? = some "SoC" then
    if unit ≠ some "Percent" ∧ unit ≠ some "%" then none
    else if (sample.get "phase").isNull then
      match (sample.get "value").numeric env.toFloat with
      | some (.finite x) => if x < 0 ∨ 100 < x then none else some (roundHalfAway x, some "Percent")
      | _ => none
    else (integer (sample.get "value")).map fun value => (value, unit)
  else (integer (sample.get "value")).map fun value => (value, unit)

def normalize (env : Environment) (sample : Mixed) (receivedAt : Instant) : Option Reading := do
  let (value, unit) ← normalizedValue env sample
  let unit ← unit
  let measurand ← (sample.get "measurand").string?
  if unit ∉ ["Wh", "W", "Percent"] ∨ value < 0 then none
  else if unit = "Percent" ∧ measurand ≠ "SoC" then none
  else
    let sampledAt ← match (sample.get "timestamp").string? with
      | some text => env.parseTime text
      | none => some receivedAt
    pure ⟨sampledAt, measurand, unit, value, (sample.get "phase").string?⟩

/-- `firstOrCreate` on event and sample index. -/
def firstOrCreateReading (row : MeterReading) : Charge Unit := do
  let known ← read fun s => s.readings.exists? fun _ r =>
    r.eventId = row.eventId && r.sampleIndex = row.sampleIndex
  if known = true then pure ()
  else do
    let _ ← onReadings (Indexed.create "charging_meter_event_sample_unique" row)
    pure ()

/-- The sample loop: `latest` is the last billing instant so far, `anomalies` grows. -/
def recordSamples (env : Environment) (sessionId : Nat) (eventId : String) (receivedAt : Instant) :
    List Mixed → Nat → Option Instant → List SessionAnomaly → Charge (List SessionAnomaly)
  | [], _, _, anomalies => pure anomalies
  | sample :: rest, index, latest, anomalies =>
    if sample.isArray = false then
      recordSamples env sessionId eventId receivedAt rest (index + 1) latest
        (anomalies ++ [.invalidMeterValue])
    else if isAuxiliaryTelemetry env sample = true then
      recordSamples env sessionId eventId receivedAt rest (index + 1) latest anomalies
    else
      match normalize env sample receivedAt with
      | none =>
        recordSamples env sessionId eventId receivedAt rest (index + 1) latest
          (anomalies ++ [.invalidMeterValue])
      | some reading => do
        let billing := reading.measurand ≠ "SoC"
        let outOfOrder := billing && latest.any fun last => reading.sampledAt < last
        firstOrCreateReading
          { sessionId, eventId, sampleIndex := index, sampledAt := reading.sampledAt.toSecond
            receivedAt := receivedAt.toSecond, measurand := reading.measurand, unit := reading.unit
            value := reading.value, phase := reading.phase, isOutOfOrder := outOfOrder }
        let next := if billing then some ((latest.map (max reading.sampledAt)).getD reading.sampledAt)
          else latest
        recordSamples env sessionId eventId receivedAt rest (index + 1) next
          (if outOfOrder then anomalies ++ [.outOfOrderMeter] else anomalies)

/-- The register loop: the previous reading, the energy so far and whether a reset was seen. -/
structure Registers where
  previous : Option Int
  energy : Number
  reset : Bool
  resetRows : List Nat
  deriving DecidableEq

def addRegister (r : Registers) (key : Nat) (current : Int) : Registers :=
  match r.previous with
  | none => { r with previous := some current }
  | some previous =>
    if previous ≤ current then
      { r with previous := some current, energy := r.energy.addInt (current - previous) }
    else
      { r with previous := some current, energy := r.energy.addInt current, reset := true,
               resetRows := r.resetRows ++ [key] }

/-- The energy of a session from its import registers: start, readings in order, stop. -/
def registersOf (store : Store) (key : Nat) (session : ChargingSession) : Registers :=
  let rows := store.readings.rowsWhere fun _ r =>
    r.sessionId = key && r.unit = "Wh" && r.measurand = importRegister && r.phase = none
  let walked := (orderedBy (fun row => row.2.sampledAt) rows).foldl
    (fun r row => addRegister r row.1 row.2.value) ⟨session.meterStartWh, .int 0, false, []⟩
  match session.meterStopWh, walked.previous with
  | some stop, some previous =>
    if previous ≤ stop then { walked with energy := walked.energy.addInt (stop - previous) }
    else { walked with energy := walked.energy.addInt stop, reset := true }
  | _, _ => walked

/-- The first register reading becomes the start of a session that has none. -/
def firstRegister (store : Store) (key : Nat) (session : ChargingSession) : Option Int :=
  session.meterStartWh.or
    (((orderedBy (fun row => row.2.sampledAt) (store.readings.rowsWhere fun _ r =>
      r.sessionId = key && r.unit = "Wh" && r.measurand = importRegister && r.phase = none)).head?).map
        fun row => row.2.value)

/-- An energy that left the integers is refused: by the rating's parameter type, or by the
column where nothing is rated. -/
def integerEnergy (startedAt : Option Instant) : Number → Except Throwable Int
  | .int n => .ok n
  | .float _ => .error (if startedAt = none then .bigintOutOfRange
      else ⟨.type, "RatingInput::__construct(): Argument #1 ($energyWh) must be of type int, float given"⟩)

/-- What one record leaves in the session row. -/
structure Measured where
  meterStartWh : Option Int
  energyFlow : EnergyFlowDuration.Flow
  energyWh : Int
  durationSeconds : Int
  anomalyFlags : List SessionAnomaly
  estimatedCostMinor : Option Int
  deriving DecidableEq

/-- The computation after the sample loop; it writes nothing. -/
def remeasure (env : Environment) (store : Store) (key : Nat) (session : ChargingSession)
    (anomalies : List SessionAnomaly) (receivedAt : Instant) : Except Throwable Measured := do
  let registers := registersOf store key session
  let flow ← EnergyFlowDuration.measure env store key session
  let energyWh ← integerEnergy session.startedAt registers.energy
  let durationSeconds :=
    (session.startedAt.map fun startedAt => max 0 (Instant.diffInSeconds startedAt receivedAt)).getD 0
  let anomalyFlags :=
    (if registers.reset then anomalies ++ [SessionAnomaly.meterReset] else anomalies).eraseDups
  let estimated ← match session.startedAt with
    | none => pure session.estimatedCostMinor
    | some startedAt => do
      let rating ← TariffEngine.rate env.clock session.tariffSnapshot
        { energyWh, durationSeconds, parkingSeconds := session.parkingSeconds,
          idleSeconds := session.idleSeconds, startedAt, energyFlowSeconds := flow.seconds }
      pure (some rating.totalMinor)
  pure ⟨firstRegister store key session, flow, energyWh, durationSeconds, anomalyFlags, estimated⟩

def applyMeasured (m : Measured) (receivedAt : Instant) (s : ChargingSession) : ChargingSession :=
  { s with
    meterStartWh := m.meterStartWh
    energyFlowSeconds := m.energyFlow.seconds
    energyFlowEvidenceComplete := m.energyFlow.complete
    energyWh := m.energyWh
    durationSeconds := m.durationSeconds
    anomalyFlags := m.anomalyFlags
    lastProtocolEventAt := some receivedAt.toSecond
    estimatedCostMinor := m.estimatedCostMinor }

def markResets : List Nat → Charge Unit
  | [] => pure ()
  | key :: rest => do
    onReadings (Indexed.update "charging_meter_event_sample_unique" key fun r =>
      { r with isMeterReset := true })
    markResets rest

/-- The last billing instant the session has a reading for. -/
def latestReading (store : Store) (key : Nat) : Option Instant :=
  ((store.readings.rowsWhere fun _ r => r.sessionId = key && r.measurand ≠ "SoC").map
    fun row => row.2.sampledAt).max?

def record (env : Environment) (key : Nat) (eventId : String) (samples : List Mixed)
    (receivedAt : Instant) : Charge Unit :=
  transaction do
    let locked ← lockSession key
    let latest ← read fun s => latestReading s key
    let anomalies ← recordSamples env key eventId receivedAt samples 0 latest locked.anomalyFlags
    let resets ← read fun s => (registersOf s key locked).resetRows
    markResets resets
    let measured ← read fun s => remeasure env s key locked anomalies receivedAt
    let m ← lift measured
    saveSession key (applyMeasured m receivedAt)

end MeterValueService
end VtsaCsms.Charging
