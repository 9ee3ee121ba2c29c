import VtsaCsms.Charging.BudgetWatch
import VtsaCsms.Charging.SessionSnapshots
import VtsaCsms.Foundation.Amounts
import VtsaCsms.Foundation.Versioned
import VtsaCsms.Mobile.AppliedSessions
import VtsaCsms.Mobile.SignOut

/-!
# Snapshots in any order

`ChargingSession.fromJson` over what the platform presents, and `_applySession` given the
snapshots of one session in any order: the one shown gives way to none made earlier exactly where
each late one is of a lower version than some before it. The state shown never falls behind.
-/
namespace VtsaCsms.Mobile
open Foundation Foundation.Runs Foundation.Versioned
open Charging (ChargingSessionState PresentedSession SessionRun Moment)

/-! ### Reading a presented session -/

structure FormatException where
  message : String
  deriving DecidableEq, Repr

/-- `_snakeCase` of the name. -/
def PaymentState.snakeName : PaymentState → String
  | .notRequired => "not_required"
  | .requiresPaymentMethod => "requires_payment_method"
  | .authorizationPending => "authorization_pending"
  | .requiresAction => "requires_action"
  | .authorized => "authorized"
  | .capturePending => "capture_pending"
  | .captured => "captured"
  | .failed => "failed"
  | .refundPending => "refund_pending"
  | .partiallyRefunded => "partially_refunded"
  | .refunded => "refunded"
  | .unknown => "unknown"

def PaymentState.values : List PaymentState :=
  [.notRequired, .requiresPaymentMethod, .authorizationPending, .requiresAction, .authorized, .capturePending,
    .captured, .failed, .refundPending, .partiallyRefunded, .refunded, .unknown]

namespace ChargingSession

/-- `ChargingSessionState.values`; the platform's texts are the names in snake case. -/
def states : List ChargingSessionState :=
  [.requested, .authorizing, .authorized, .starting, .charging, .suspendedByEv, .suspendedByEvse, .stopping,
    .finalizing, .reviewRequired, .completed, .failed, .cancelled, .expired]

def sessionState (value : String) : Except FormatException ChargingSessionState :=
  match states.find? fun state => state.value = value with
  | some state => .ok state
  | none => .error ⟨"Unknown session state: " ++ value⟩

def paymentStateOf (value : String) : PaymentState :=
  (PaymentState.values.find? fun state => state.snakeName = value).getD .unknown

theorem sessionState_value (state : ChargingSessionState) : sessionState state.value = .ok state := by
  cases state <;> rfl

variable (toUpperCase : String → String)

def money (json : PresentedSession) (minorUnits : Option Int) : Option Money :=
  minorUnits.bind fun minorUnits => json.currency.map fun currency => ⟨minorUnits, toUpperCase currency⟩

def fromJson (json : PresentedSession) : Except FormatException ChargingSession := do
  let state ← sessionState json.state
  pure
    { id := json.id
      state
      stationId := json.stationId
      connectorId := json.connectorId
      energyWh := json.energyWh
      durationSeconds := json.durationSeconds
      energyFlowSeconds := json.energyFlowSeconds
      currentPowerW := json.currentPowerW
      batteryPercentage := json.batteryPercentage
      batteryReportedAt := json.batteryReportedAt
      estimatedCost := money toUpperCase json json.estimatedCostMinor
      finalCost := money toUpperCase json json.finalCostMinor
      platformFee := money toUpperCase json json.platformFeeMinor
      chargingTotal := money toUpperCase json json.chargingTotalMinor
      requestedAt := json.requestedAt
      startedAt := json.startedAt
      stoppedAt := json.stoppedAt
      startDeadlineAt := json.startDeadlineAt
      aggregateVersion := json.aggregateVersion
      paymentState := paymentStateOf json.paymentState
      failureReason := json.failureReason
      anomalyFlags := json.anomalyFlags
      cancellationRequested := json.cancellationRequested }

theorem fromJson_ok {json : PresentedSession} {s : ChargingSession} (success : fromJson toUpperCase json = .ok s) :
    s.id = json.id ∧ sessionState json.state = .ok s.state ∧ s.aggregateVersion = json.aggregateVersion := by
  unfold fromJson at success
  obtain ⟨state, known, rest⟩ := bind_ok_iff.mp success
  cases rest
  exact ⟨rfl, known, rfl⟩

end ChargingSession

/-! ### The snapshots of a session -/

section Snapshots
variable (toUpperCase : String → String) (run : SessionRun)

/-- What the app makes of the answer; there is no snapshot where the platform refuses one. -/
def snapshotAt (m : Moment) : Option ChargingSession :=
  (run.presented m).toOption.bind fun json => (ChargingSession.fromJson toUpperCase json).toOption

variable {toUpperCase run}

theorem snapshotAt_some {m : Moment} {s : ChargingSession} (made : snapshotAt toUpperCase run m = some s) :
    s.id = keyText run.key ∧ s.aggregateVersion = run.version m ∧
      ∃ q, run.session m = some q ∧ s.state = q.state := by
  unfold snapshotAt at made
  obtain ⟨json, answered, read⟩ := Option.bind_eq_some_iff.mp made
  cases presented : run.presented m with
  | error =>
    rw [presented] at answered
    cases answered
  | ok =>
    rw [presented] at answered
    cases answered
    cases parsed : ChargingSession.fromJson toUpperCase json with
    | error =>
      rw [parsed] at read
      cases read
    | ok =>
      rw [parsed] at read
      cases read
      obtain ⟨q, stored, id, state, version⟩ := SessionRun.presented_ok presented
      obtain ⟨id', known, version'⟩ := ChargingSession.fromJson_ok toUpperCase parsed
      rw [state, ChargingSession.sessionState_value] at known
      exact ⟨id'.trans id, version'.trans version, q, stored, (Except.ok.inj known).symm⟩

end Snapshots

/-! ### Applying them -/

namespace ChargingController

/-- The shown session and the sign-in are as before. -/
structure Aside (c c' : ChargingController) : Prop where
  session : c'.session = c.session
  disposed : c'.disposed = c.disposed
  generation : c'.generation = c.generation
  ownerId : c'.ownerId = c.ownerId
  authenticated : c'.authenticated = c.authenticated

namespace Aside
variable {c c' : ChargingController}

theorem isCurrent (aside : Aside c c') (request : Request) : c'.isCurrent request = c.isCurrent request := by
  unfold ChargingController.isCurrent
  rw [aside.disposed, aside.generation, aside.ownerId]

theorem overtaken (aside : Aside c c') (s : ChargingSession) : c'.overtaken s = c.overtaken s := by
  unfold ChargingController.overtaken
  rw [aside.session]

end Aside

theorem isCurrent_of_surroundings {c c' : ChargingController} (same : c'.toSurroundings = c.toSurroundings)
    (request : Request) : c'.isCurrent request = c.isCurrent request := by
  unfold isCurrent
  rw [same]

end ChargingController

section Screens
open ChargingController
variable (toUpperCase : String → String) (run : SessionRun) (request : Request)

/-- A snapshot that reaches `_applySession`, what goes on after it, and what the app does before:
anything that leaves the shown session and the sign-in. -/
structure Delivery where
  moment : Moment
  snapshot : ChargingSession
  made : snapshotAt toUpperCase run moment = some snapshot
  waiting : AfterApply
  meanwhile : ChargingController → ChargingController
  aside : ∀ c, Aside c (meanwhile c)

/-- The app of a signed-in driver, and the moment at which the shown snapshot of the session was
made, if one is shown. -/
structure Screen where
  app : ChargingController
  made : Option Moment
  current : app.isCurrent request = true
  authenticated : app.authenticated = true
  shows : ∀ m ∈ made, app.session.isSome = true ∧ app.session = snapshotAt toUpperCase run m
  blank : made = none → ∀ s ∈ app.session, s.id ≠ keyText run.key

namespace Screen
variable {toUpperCase run request}

theorem overtaken_eq (screen : Screen toUpperCase run request) (d : Delivery toUpperCase run) :
    screen.app.overtaken d.snapshot = screen.made.any fun n => decide (run.version d.moment < run.version n) := by
  obtain ⟨id, version, -⟩ := snapshotAt_some d.made
  unfold ChargingController.overtaken
  cases made : screen.made with
  | none =>
    cases session : screen.app.session with
    | none => rfl
    | some s =>
      have other : s.id ≠ d.snapshot.id := by
        rw [id]
        exact screen.blank made s session
      simp [other]
  | some n =>
    obtain ⟨there, same⟩ := screen.shows n made
    obtain ⟨s, session⟩ := Option.isSome_iff_exists.mp there
    rw [session] at same
    obtain ⟨id', version', -⟩ := snapshotAt_some same.symm
    simp only [session, Option.any_some, id, id', version, version', decide_true, Bool.true_and, Nat.cast_lt]

def receive (d : Delivery toUpperCase run) (screen : Screen toUpperCase run request) :
    Screen toUpperCase run request where
  app := (applySession d.snapshot request d.waiting (d.meanwhile screen.app)).1
  made := if screen.app.overtaken d.snapshot = true then screen.made else some d.moment
  current := by
    rw [isCurrent_of_surroundings (applySession_surroundings _ _ _ _), (d.aside _).isCurrent]
    exact screen.current
  authenticated := by
    have same := applySession_surroundings d.snapshot request d.waiting (d.meanwhile screen.app)
    exact (congrArg Surroundings.authenticated same).trans ((d.aside _).authenticated.trans screen.authenticated)
  shows := by
    intro m made
    split at made
    · rename_i behind
      rw [applySession_dropped _ (.inr (.inr (((d.aside _).overtaken _).trans behind))),
        (applied_undisturbed _ _).session, (d.aside _).session]
      exact screen.shows m made
    · rename_i fresh
      cases made
      rw [applySession_session _ (((d.aside _).isCurrent _).trans screen.current)
        ((d.aside _).authenticated.trans screen.authenticated)
        (((d.aside _).overtaken _).trans (by simpa using fresh))]
      exact ⟨rfl, d.made.symm⟩
  blank := by
    intro made
    split at made
    · rename_i behind
      rw [applySession_dropped _ (.inr (.inr (((d.aside _).overtaken _).trans behind))),
        (applied_undisturbed _ _).session, (d.aside _).session]
      exact screen.blank made
    · cases made

theorem receive_made (d : Delivery toUpperCase run) (screen : Screen toUpperCase run request) :
    (screen.receive d).made = accept run.version d.moment screen.made := by
  unfold receive
  simp only [screen.overtaken_eq d]
  cases screen.made with
  | none => rfl
  | some => simp [accept]

/-- A delivery moves the screen forward where the snapshot shown before it gives way to none made earlier. -/
def Forwards (d : Delivery toUpperCase run) (screen : Screen toUpperCase run request) : Prop :=
  Forward screen.made (screen.receive d).made

/-- Whatever the order, the snapshot shown gives way to none made earlier exactly when each snapshot
that comes behind one made later is of a lower version than some that came before it. -/
theorem forwards_iff_overtaken (deliveries : List (Delivery toUpperCase run))
    (screen : Screen toUpperCase run request) :
    Met receive Forwards deliveries screen ↔
      Met List.cons (Overtaken run.version) (deliveries.map Delivery.moment) screen.made.toList := by
  have seen : Met receive Forwards deliveries screen ↔ Met (accept run.version)
      (fun m kept => Forward kept (accept run.version m kept)) (deliveries.map Delivery.moment) screen.made :=
    met_map (g := Screen.made) receive_made (fun d screen => by rw [Forwards, receive_made]) deliveries screen
  exact seen.trans (forward_iff_overtaken run.version_rises _ (highest_self _))

/-- Whatever the order, the state shown is that of the last made of the snapshots that came. -/
theorem state_last_made {deliveries : List (Delivery toUpperCase run)} {screen : Screen toUpperCase run request}
    {d : Delivery toUpperCase run} (came : d ∈ deliveries) (last : ∀ d' ∈ deliveries, d'.moment ≤ d.moment)
    (last' : ∀ m ∈ screen.made, m ≤ d.moment) :
    (reached receive deliveries screen).app.session.map ChargingSession.state = some d.snapshot.state := by
  have highest : Highest run.version _ _ :=
    reached_highest (deliveries.map Delivery.moment) (highest_self screen.made)
  rw [← reached_map receive_made deliveries screen] at highest
  have given : d.moment ∈ (deliveries.map Delivery.moment).reverse ++ screen.made.toList :=
    List.mem_append_left _ (List.mem_reverse.mpr (List.mem_map_of_mem came))
  cases made : (reached receive deliveries screen).made with
  | none =>
    rw [highest.blank made] at given
    cases given
  | some m =>
    obtain ⟨there, top⟩ := highest.top m made
    have earlier : m ≤ d.moment := by
      rcases List.mem_append.mp there with before | first
      · obtain ⟨d', came', rfl⟩ := List.mem_map.mp (List.mem_reverse.mp before)
        exact last d' came'
      · exact last' m (Option.mem_toList.mp first)
    obtain ⟨present, same⟩ := (reached receive deliveries screen).shows m made
    obtain ⟨s, session⟩ := Option.isSome_iff_exists.mp present
    rw [session] at same
    obtain ⟨-, -, q, stored, state⟩ := snapshotAt_some same.symm
    obtain ⟨-, -, q', stored', state'⟩ := snapshotAt_some d.made
    obtain ⟨q'', later, succeeds⟩ := SessionRun.session_succeeds earlier stored
    rw [stored'] at later
    cases later
    -- of the highest version and not later than the last made: they are of one version
    have level : q'.aggregateVersion = q.aggregateVersion := by
      have below := top d.moment given
      unfold SessionRun.version at below
      rw [stored, stored'] at below
      exact le_antisymm below succeeds.version
    rw [session, Option.map_some, state, state', succeeds.state level]

end Screen
end Screens

/-! ### Two meter readings -/

namespace MeteredSession
open Charging Charging.Deployment

/-- The charger reports its register twice while the session goes on. -/
def metered : SessionRun where
  start := (quoted 1000).2
  steps := driverStarts ++
    [(watchEnvironment 3, .event (transactionEvent "E2" "Updated" "10:03:00" [register "10:03:00" 200])),
      (watchEnvironment 4, .event (transactionEvent "E3" "Updated" "10:04:00" [register "10:04:00" 300]))]
  key := 0

def first : Moment := toLex (5, minute 3)

def second : Moment := toLex (6, minute 4)

def app : ChargingController where
  ownerId := "driver"
  authenticated := true
  online := true
  now := minute 4

def opened : Screen id metered app.request where
  app
  made := none
  current := by decide
  authenticated := rfl
  shows _ none := by cases none
  blank _ _ none := by cases none

set_option maxRecDepth 20000 in
/-- Both readings are presented under one version, and the answer with the first one comes last. -/
theorem late_reading_replaces :
    ∃ later earlier : Delivery id metered, earlier.moment < later.moment ∧
      later.snapshot.energyWh = 200 ∧ earlier.snapshot.energyWh = 100 ∧
      (reached Screen.receive [later, earlier] opened).app.session = some earlier.snapshot ∧
      ¬ Met Screen.receive Screen.Forwards [later, earlier] opened := by
  have energy : (snapshotAt id metered second).map (fun s => (s.energyWh, s.aggregateVersion)) = some (200, 5) := by
    decide +kernel
  have energy' : (snapshotAt id metered first).map (fun s => (s.energyWh, s.aggregateVersion)) = some (100, 5) := by
    decide +kernel
  obtain ⟨s, made, readings⟩ := Option.map_eq_some_iff.mp energy
  obtain ⟨s', made', readings'⟩ := Option.map_eq_some_iff.mp energy'
  obtain ⟨wh, version⟩ := Prod.mk.inj readings
  obtain ⟨wh', version'⟩ := Prod.mk.inj readings'
  let later : Delivery id metered := ⟨second, s, made, .realtime, id, fun _ => ⟨rfl, rfl, rfl, rfl, rfl⟩⟩
  let earlier : Delivery id metered := ⟨first, s', made', .realtime, id, fun _ => ⟨rfl, rfl, rfl, rfl, rfl⟩⟩
  have before : first < second := by decide
  have level : metered.version first = metered.version second := by
    have same := (snapshotAt_some made).2.1
    have same' := (snapshotAt_some made').2.1
    omega
  have shown : ((opened.receive later).receive earlier).made = some first := by
    rw [Screen.receive_made, Screen.receive_made]
    exact accept_taken (le_of_eq level.symm)
  refine ⟨later, earlier, before, wh, wh', ?_, ?_⟩
  · have shows := ((opened.receive later).receive earlier).shows first shown
    exact shows.2.trans made'
  · rintro ⟨-, back, -⟩
    have forward : Forward (some second) (some first) := by
      have given : (opened.receive later).made = some second := Screen.receive_made later opened
      rwa [Screen.Forwards, given, shown] at back
    exact absurd (forward_some.mp forward) (not_le.mpr before)

/-- Whichever reading comes last, the state shown is that of the second. -/
theorem late_reading_keeps_state :
    ∃ later earlier : Delivery id metered, earlier.moment < later.moment ∧
      (reached Screen.receive [later, earlier] opened).app.session.map ChargingSession.state =
        some later.snapshot.state := by
  have presented : (snapshotAt id metered second).isSome = true ∧ (snapshotAt id metered first).isSome = true := by
    decide +kernel
  obtain ⟨⟨s, made⟩, ⟨s', made'⟩⟩ := presented.imp Option.isSome_iff_exists.mp Option.isSome_iff_exists.mp
  let later : Delivery id metered := ⟨second, s, made, .realtime, id, fun _ => ⟨rfl, rfl, rfl, rfl, rfl⟩⟩
  let earlier : Delivery id metered := ⟨first, s', made', .realtime, id, fun _ => ⟨rfl, rfl, rfl, rfl, rfl⟩⟩
  have before : first < second := by decide
  have last : ∀ d' ∈ [later, earlier], d'.moment ≤ later.moment := by
    intro d' came
    rcases List.mem_pair.mp came with rfl | rfl
    · exact le_rfl
    · exact before.le
  refine ⟨later, earlier, before, Screen.state_last_made (List.mem_cons_self ..) last ?_⟩
  intro m none'
  cases none'

end MeteredSession
end VtsaCsms.Mobile
