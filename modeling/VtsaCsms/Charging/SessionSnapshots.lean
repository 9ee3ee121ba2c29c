import Mathlib.Data.Prod.Lex
import VtsaCsms.Charging.VersionOrder

/-!
# What a driver is shown of a session

`CustomerCharging::present`. The names of the target, the attribution and `updated_at` are left
out, and the quote of a customer row is never missing. Of the readings of one second the last is
the one of the highest id.
-/
namespace VtsaCsms.Charging
open Foundation Foundation.Action

def PaymentState.value : PaymentState → String
  | .authorized => "authorized"
  | .requiresAction => "requires_action"
  | .notRequired => "not_required"
  | .captured => "captured"

/-- The fields of the answer. -/
structure PresentedSession where
  id : String
  state : String
  stationId : String
  connectorId : String
  energyWh : Int
  durationSeconds : Int
  energyFlowSeconds : Int
  currentPowerW : Option Int
  batteryPercentage : Option Int
  batteryReportedAt : Option Instant
  currency : Option String
  estimatedCostMinor : Option Int
  finalCostMinor : Option Int
  platformFeeMinor : Option Int
  chargingTotalMinor : Option Int
  requestedAt : Instant
  startedAt : Option Instant
  stoppedAt : Option Instant
  startDeadlineAt : Option Instant
  aggregateVersion : Int
  failureReason : Option String
  anomalyFlags : List SessionAnomaly
  cancellationRequested : Bool
  paymentState : String
  reservedBudgetMinor : Int
  deriving DecidableEq

namespace ChargingSession

def latestReading (store : Store) (key : Nat) (measurand unit : String) : Option MeterReading :=
  ((orderedBy (fun row => row.2.sampledAt) (store.readings.rowsWhere fun _ r =>
    r.sessionId = key && r.measurand = measurand && r.unit = unit && r.phase.isNone)).getLast?).map Prod.snd

def latestPower (store : Store) (key : Nat) : Option MeterReading :=
  latestReading store key "Power.Active.Import" "W"

def latestStateOfCharge (store : Store) (key : Nat) : Option MeterReading :=
  latestReading store key "SoC" "Percent"

end ChargingSession

namespace CustomerCharging

def present (now : Instant) (store : Store) (key : Nat) (session : ChargingSession) :
    Except Throwable PresentedSession :=
  match customerOf store key with
  | none => .error (.domain "This session has no customer ownership record.")
  | some (_, owner) =>
    let power := (ChargingSession.latestPower store key).filter fun power =>
      !(power.sampledAt < now.addSeconds (-60)) && session.stoppedAt.isNone
    let battery := ChargingSession.latestStateOfCharge store key
    .ok
      { id := keyText key
        state := session.state.value
        stationId := session.chargingStationId
        connectorId := session.connectorId
        energyWh := session.energyWh
        durationSeconds := session.durationSeconds
        energyFlowSeconds := session.energyFlowSeconds
        currentPowerW := power.map MeterReading.value
        batteryPercentage := battery.map MeterReading.value
        batteryReportedAt := battery.map MeterReading.sampledAt
        currency := session.currency
        estimatedCostMinor := session.estimatedCostMinor
        finalCostMinor := session.finalCostMinor
        platformFeeMinor := session.platformFeeMinor
        chargingTotalMinor := session.finalCostMinor.map fun final => final - session.platformFeeMinor.getD 0
        requestedAt := session.requestedAt
        startedAt := session.startedAt
        stoppedAt := session.stoppedAt
        startDeadlineAt := session.startDeadlineAt
        aggregateVersion := session.aggregateVersion
        failureReason := session.failureReason
        anomalyFlags := session.anomalyFlags
        cancellationRequested := session.cancellationReason = some "customer_cancel_requested"
        paymentState := owner.paymentState.value
        reservedBudgetMinor := owner.budgetMinor }

theorem present_ok {now : Instant} {store : Store} {key : Nat} {session : ChargingSession}
    {presented : PresentedSession} (success : present now store key session = .ok presented) :
    presented.id = keyText key ∧ presented.state = session.state.value ∧
      presented.aggregateVersion = session.aggregateVersion := by
  unfold present at success
  split at success
  · cases success
  · cases success
    exact ⟨rfl, rfl, rfl⟩

end CustomerCharging

/-! ### A session over a run -/

/-- A moment: the steps made by then, and the clock of the server. -/
abbrev Moment := Nat ×ₗ Instant

/-- A run of the platform, and one of its sessions. -/
structure SessionRun where
  start : Store
  steps : List (Environment × Step)
  key : Nat

namespace SessionRun

def store (run : SessionRun) (m : Moment) : Store := Step.run (run.steps.take (ofLex m).1) run.start

def session (run : SessionRun) (m : Moment) : Option ChargingSession := (run.store m).sessions.get? run.key

/-- The version of the row; there is none before the row. -/
def version (run : SessionRun) (m : Moment) : Nat := (run.session m).elim 0 ChargingSession.aggregateVersion

/-- The answer to a request of the session. -/
def presented (run : SessionRun) (m : Moment) : Except Throwable PresentedSession :=
  match run.session m with
  | none => .error (.modelNotFound "ChargingSession")
  | some session => CustomerCharging.present (ofLex m).2 (run.store m) run.key session

variable {run : SessionRun} {m n : Moment}

theorem store_advances (run : SessionRun) (later : m ≤ n) : Advances (run.store m) (run.store n) := by
  obtain ⟨more, rest⟩ : ∃ more, run.steps.take (ofLex n).1 = run.steps.take (ofLex m).1 ++ more :=
    ⟨_, (List.prefix_iff_eq_append.mp (List.take_prefix_take_left (Prod.Lex.monotone_fst _ _ later))).symm⟩
  unfold store
  rw [rest, Step.run_append]
  exact Step.run_advances more _

theorem session_succeeds (later : m ≤ n) {q : ChargingSession} (stored : run.session m = some q) :
    ∃ q', run.session n = some q' ∧ Succeeds q q' :=
  run.store_advances later run.key q stored

theorem version_rises (run : SessionRun) ⦃m n : Moment⦄ (later : m ≤ n) : run.version m ≤ run.version n := by
  unfold version
  cases stored : run.session m with
  | none => exact Nat.zero_le _
  | some =>
    obtain ⟨q', stored', succeeds⟩ := session_succeeds later stored
    rw [stored']
    exact succeeds.version

theorem presented_ok {presented : PresentedSession} (success : run.presented m = .ok presented) :
    ∃ q, run.session m = some q ∧ presented.id = keyText run.key ∧ presented.state = q.state.value ∧
      presented.aggregateVersion = run.version m := by
  unfold SessionRun.presented at success
  split at success
  · cases success
  · rename_i q stored
    obtain ⟨id, state, version⟩ := CustomerCharging.present_ok success
    refine ⟨q, stored, id, state, version.trans ?_⟩
    unfold SessionRun.version
    rw [stored]
    rfl

end SessionRun
end VtsaCsms.Charging
