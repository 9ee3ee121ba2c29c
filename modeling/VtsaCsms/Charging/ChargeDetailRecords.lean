import VtsaCsms.Charging.Metering

/-!
# Charge detail records

`ChargeDetailRecordGenerator.php`: the record of an ended session, blocked by unresolved
evidence until a review approves it, and the session's own totals from the same rating.
-/
namespace VtsaCsms.Charging
open Foundation Foundation.Action Tariffs

namespace ChargeDetailRecordGenerator

/-- `latest('version')->first()` of a session's records. -/
def latestCdr (store : Store) (sessionId : Nat) : Option (Nat × ChargeDetailRecord) :=
  latestBy (fun row => row.2.version) (store.cdrs.rowsWhere fun _ c => c.sessionId = sessionId)

/-- `where('state', 'finalized')->latest('version')->first()`. -/
def latestFinalized (store : Store) (sessionId : Nat) : Option (Nat × ChargeDetailRecord) :=
  latestBy (fun row => row.2.version)
    (store.cdrs.rowsWhere fun _ c => c.sessionId = sessionId && c.state = .finalized)

/-- The record to fill: the latest one while it is open, else a new version. -/
def openCdr (key : Nat) (locked : ChargingSession) : Charge (Nat × ChargeDetailRecord) := do
  let latest ← read fun s => latestCdr s key
  match latest with
  | some (cdrKey, cdr) =>
    if cdr.state = .finalized ∨ cdr.state = .superseded then do
      let row : ChargeDetailRecord :=
        { sessionId := key, version := cdr.version + 1, currency := locked.currency
          energyWh := locked.energyWh, durationSeconds := locked.durationSeconds }
      let newKey ← onCdrs (Indexed.create "cdr_session_version_unique" row)
      pure (newKey, row)
    else pure (cdrKey, cdr)
  | none => do
    let row : ChargeDetailRecord :=
      { sessionId := key, version := 1, currency := locked.currency
        energyWh := locked.energyWh, durationSeconds := locked.durationSeconds }
    let newKey ← onCdrs (Indexed.create "cdr_session_version_unique" row)
    pure (newKey, row)

def begun (state : ChargeDetailRecordState) : ChargeDetailRecordState :=
  if state = .pending ∨ state = .reviewRequired then .generating else state

/-- Whether the tariff prices time by sampled energy flow. -/
def flowPriced (snapshot : TariffSnapshot) : Bool :=
  snapshot.timeBasis = .energyFlow && snapshot.components.any fun c => c.dimension = .time

def anomaliesOf (locked : ChargingSession) (flow : EnergyFlowDuration.Flow) : List SessionAnomaly :=
  if flowPriced locked.tariffSnapshot && !flow.complete then
    locked.anomalyFlags ++ [.missingEnergyFlowEvidence]
  else locked.anomalyFlags

def blocks : SessionAnomaly → Bool
  | .missingEnergyFlowEvidence | .tariffMissing | .missingStartMeter | .missingStopMeter
  | .invalidMeterValue | .meterReset | .conflictingTransaction => true
  | _ => false

def ratingInput (locked : ChargingSession) (flow : EnergyFlowDuration.Flow) : RatingInput where
  energyWh := locked.energyWh
  durationSeconds := locked.durationSeconds
  parkingSeconds := locked.parkingSeconds
  idleSeconds := locked.idleSeconds
  startedAt := locked.startedAt.getD locked.requestedAt
  energyFlowSeconds := flow.seconds

def snapshotOf (locked : ChargingSession) (flow : EnergyFlowDuration.Flow) (rating : RatingResult)
    (anomalies : List SessionAnomaly) (outcome : String) : CdrSnapshot where
  protocolTransactionId := locked.protocolTransactionId
  startedAt := locked.startedAt
  stoppedAt := locked.stoppedAt
  energyWh := locked.energyWh
  durationSeconds := locked.durationSeconds
  energyFlowSeconds := flow.seconds
  energyFlowEvidenceComplete := flow.complete
  parkingSeconds := locked.parkingSeconds
  idleSeconds := locked.idleSeconds
  tariffSnapshot := locked.tariffSnapshot
  rating
  anomalyFlags := anomalies
  finalizationOutcome := outcome

def fillCdr (env : Environment) (locked : ChargingSession) (snapshot : CdrSnapshot)
    (billable : Bool) (c : ChargeDetailRecord) : ChargeDetailRecord :=
  let rating := snapshot.rating
  { c with
    snapshot := some snapshot
    currency := rating.currency
    energyWh := locked.energyWh
    durationSeconds := locked.durationSeconds
    subtotalMinor := if billable then some rating.subtotalMinor else none
    discountMinor := if billable then some rating.discountMinor else none
    taxMinor := if billable then some rating.taxMinor else none
    totalMinor := if billable then some rating.totalMinor else none
    generatedAt := some env.now.toSecond
    finalizedAt := some env.now.toSecond }

def fillSession (rating : RatingResult) (outcome : String) (billable : Bool) (s : ChargingSession) :
    ChargingSession :=
  { s with
    finalCostMinor := if billable then some rating.totalMinor else none
    platformFeeMinor := if billable then some rating.platformFeeMinor else none
    platformFeeTaxMinor := if billable then some rating.platformFeeTaxMinor else none
    estimatedCostMinor := if billable then some rating.totalMinor else s.estimatedCostMinor
    finalizationOutcome := some outcome }

/-- Blocking evidence sends the record, and a finalizing session, to review. -/
def blocked (key cdrKey : Nat) (locked : ChargingSession) (state : ChargeDetailRecordState) :
    Charge Unit := do
  ChargeDetailRecordStateMachine.transition cdrKey state .reviewRequired
  if locked.state = .finalizing then
    ChargingSessionStateMachine.transition key locked.state .reviewRequired
  else pure ()

def finalize (env : Environment) (key cdrKey : Nat) (locked : ChargingSession)
    (state : ChargeDetailRecordState) (flow : EnergyFlowDuration.Flow)
    (anomalies : List SessionAnomaly) (outcome : String) : Charge Unit := do
  let rating ← lift (TariffEngine.rate env.clock locked.tariffSnapshot (ratingInput locked flow))
  let billable : Bool := outcome ≠ "unbillable"
  saveCdr cdrKey (fillCdr env locked (snapshotOf locked flow rating anomalies outcome) billable)
  ChargeDetailRecordStateMachine.transition cdrKey state .finalized
  saveSession key (fillSession rating outcome billable)
  if locked.state = .reviewRequired then do
    ChargingSessionStateMachine.transition key locked.state .finalizing
    ChargingSessionStateMachine.transition key .finalizing .completed
  else ChargingSessionStateMachine.transition key locked.state .completed

def generate (env : Environment) (key : Nat) (reviewApproved : Bool := false)
    (outcome : String := "complete") : Charge Unit :=
  transaction do
    let locked ← lockSession key
    let (cdrKey, cdr) ← openCdr key locked
    ChargeDetailRecordStateMachine.transition cdrKey cdr.state (begun cdr.state)
    let measured ← read fun s => EnergyFlowDuration.measure env s key locked
    let flow ← lift measured
    let anomalies := anomaliesOf locked flow
    if anomalies.any blocks = true ∧ reviewApproved = false then
      blocked key cdrKey locked (begun cdr.state)
    else finalize env key cdrKey locked (begun cdr.state) flow anomalies outcome

end ChargeDetailRecordGenerator

/-! ### Manual review -/

namespace ManualSessionReviewService

structure Adjustments where
  energyWh : Option Int := none
  durationSeconds : Option Int := none
  parkingSeconds : Option Int := none
  idleSeconds : Option Int := none

def Adjustments.values (a : Adjustments) : List Int :=
  [a.energyWh, a.durationSeconds, a.parkingSeconds, a.idleSeconds].filterMap id

def Adjustments.applyTo (a : Adjustments) (s : ChargingSession) : ChargingSession :=
  { s with
    energyWh := a.energyWh.getD s.energyWh
    durationSeconds := a.durationSeconds.getD s.durationSeconds
    parkingSeconds := a.parkingSeconds.getD s.parkingSeconds
    idleSeconds := a.idleSeconds.getD s.idleSeconds }

def openReview (env : Environment) (key : Nat) (reasonCode : String) (notes : Option String := none) :
    Charge Unit :=
  transaction do
    let locked ← lockSession key
    if locked.state = .finalizing then
      ChargingSessionStateMachine.transition key locked.state .reviewRequired
    else
      throwIf (locked.state ≠ .reviewRequired)
        (.domain "Only finalizing or review-required sessions can enter manual review.")
    let review : ChargingSessionReview :=
      { sessionId := key, resolved := false, reasonCode, notes, openedBy := env.actorId
        openedAt := env.now.toSecond }
    write fun s => { s with reviews := s.reviews.create review }

/-- `where('status', 'open')->latest('opened_at')->first()`. -/
def latestOpen (store : Store) (key : Nat) : Option (Nat × ChargingSessionReview) :=
  latestBy (fun row => row.2.openedAt)
    (store.reviews.rowsWhere fun _ r => r.sessionId = key && !r.resolved)

def reviewKey (env : Environment) (key : Nat) : Charge Nat := do
  let found ← read fun s => latestOpen s key
  match found with
  | some (reviewKey, _) => pure reviewKey
  | none => do
    let newKey ← read fun s => s.reviews.nextId
    let review : ChargingSessionReview :=
      { sessionId := key, resolved := false, reasonCode := "automatic_anomaly_review", notes := none
        openedBy := none, openedAt := env.now.toSecond }
    write fun s => { s with reviews := s.reviews.create review }
    pure newKey

/-- The review is resolved in one transaction and the record generated in the next. -/
def resolve (env : Environment) (key : Nat) (decision notes : String) (adjustments : Adjustments) :
    Charge Unit := do
  throwIf (decision ∉ ["complete", "estimated", "unbillable"])
    (.domain "Unsupported manual review decision.")
  throwIf (adjustments.values.any (fun v => v < 0) = true)
    (.domain "Manual review adjustments must be non-negative supported measurements.")
  transaction do
    let locked ← lockSession key
    throwIf (locked.state ≠ .reviewRequired) (.domain "The session is not awaiting manual review.")
    let review ← reviewKey env key
    saveSession key adjustments.applyTo
    write fun s => { s with reviews := s.reviews.update review fun r =>
      { r with resolved := true, notes := some notes, resolvedAt := some env.now.toSecond
               decision := some decision } }
  ChargeDetailRecordGenerator.generate env key true decision

end ManualSessionReviewService
end VtsaCsms.Charging
