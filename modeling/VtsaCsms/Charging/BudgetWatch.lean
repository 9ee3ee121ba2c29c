import VtsaCsms.Charging.PrepaidMoves
import VtsaCsms.Charging.QuoteFloor

/-!
# The budget of a running session

The monitor rates the use a stop could still let through, and lets the session run while that
stays below its budget. What it asks the charger for is bounded: after three stops of its own, or
without a transaction to stop, it leaves the payment to an operator.
-/
namespace VtsaCsms.Charging
open Foundation Foundation.Action Assets Tariffs Tariffs.TariffEngine Billing

/-- No command was written. -/
def Unstopped (s s' : Store) : Prop := s'.commands.table.entries = s.commands.table.entries

theorem Unstopped.get? {s s' : Store} (unstopped : Unstopped s s') (k : Nat) :
    s'.commands.get? k = s.commands.get? k := by
  unfold Indexed.get? Table.get?
  rw [unstopped]

namespace RemoteStopService

theorem request_commands {env : Environment} {sessionId : Nat} {idempotencyKey : String}
    {spendingLimit cancelPendingStart : Bool} {s s' : Store} {u : Unit}
    (fresh : RemoteStartService.byIdempotencyKey s idempotencyKey = none)
    (success : Returns (request env sessionId idempotencyKey spendingLimit cancelPendingStart) s u s') :
    ¬ Unstopped s s' := by
  unfold request onCommands at success
  simp only [returns_bind, returns_read] at success
  obtain ⟨_, s, ⟨rfl, rfl⟩, success⟩ := success
  rw [fresh] at success
  simp only [returns_bind, returns_throwIf, returns_transaction, returns_orThrow, returns_lift,
    returns_focus, lockSession_returns] at success
  obtain ⟨_, _, ⟨-, rfl⟩, q, _, ⟨stored, rfl⟩, _, _, ⟨-, rfl⟩, _, _, ⟨-, rfl⟩, transaction, _, ⟨-, rfl⟩,
    action, _, ⟨-, rfl⟩, actor, _, acting, cmdKey, _, ⟨commands, commanded, rfl⟩, moves⟩ := success
  have same := actorOf_returns acting
  subst same
  obtain ⟨-, t, version, rfl, -⟩ := ChargingSessionStateMachine.transition_returns moves stored rfl
  have command := Indexed.create_returns commanded
  intro unstopped
  have row := unstopped.get? cmdKey
  have before := command.fresh
  have written := command.placed.get
  rw [before] at row
  have both := written.symm.trans row
  contradiction

end RemoteStopService

namespace PrepaidChargingMonitor

def usagePriced (session : ChargingSession) : Bool :=
  hasDimension session.tariffSnapshot .energy || hasDimension session.tariffSnapshot .time

/-- The stops the monitor asked for to keep the budget. -/
def budgetStops (s : Store) (key : Nat) : Nat :=
  s.commands.count fun _ c => c.sessionId = key && "budget-stop-".toList.isPrefixOf c.idempotencyKey.toList

/-- The stops the monitor asked for since the customer withdrew. -/
def withdrawalStops (s : Store) (key : Nat) : Nat :=
  s.commands.count fun _ c => c.sessionId = key && c.reasonCode = "driver.cancel_pending_start"

/-- A running session of a customer whose meter is fresh. -/
structure Examined (env : Environment) (s : Store) (key : Nat) (session : ChargingSession)
    (owner : CustomerChargingSession) (startedAt : Instant) : Prop where
  stored : s.sessions.get? key = some session
  owned : (customerOf s key).map Prod.snd = some owner
  unsettled : owner.settledAt = none
  charging : session.state ∈ [.charging, .suspendedByEv, .suspendedByEvse]
  started : session.startedAt = some startedAt
  fresh : stale env s key session startedAt = false

/-- The charger may still be asked for a stop: its transaction is known, fewer than three stops
were asked for, and the key of the next one is not in use. -/
structure StopLeft (s : Store) (key : Nat) (session : ChargingSession) : Prop where
  transaction : session.protocolTransactionId ≠ none
  budget : session.cancellationReason ≠ some "customer_cancel_requested" → budgetStops s key < 3 ∧
    RemoteStartService.byIdempotencyKey s
      ("budget-stop-" ++ keyText key ++ "-" ++ keyText (budgetStops s key)) = none
  withdrawal : session.cancellationReason = some "customer_cancel_requested" → withdrawalStops s key < 3 ∧
    RemoteStartService.byIdempotencyKey s
      ("cancel-start-stop-" ++ keyText key ++ "-" ++ keyText (withdrawalStops s key)) = none

section Watch
variable {env : Environment} {s s' : Store} {key customerKey : Nat} {session : ChargingSession}
  {owner : CustomerChargingSession} {startedAt : Instant} {u : Unit}

theorem watchBudget_decides (success : Returns (watchBudget env key customerKey session owner startedAt) s u s')
    (unstopped : Unstopped s s') (transaction : session.protocolTransactionId ≠ none)
    (left : budgetStops s key < 3 ∧ RemoteStartService.byIdempotencyKey s
      ("budget-stop-" ++ keyText key ++ "-" ++ keyText (budgetStops s key)) = none) :
    usagePriced session = false ∨
      ∃ future, futureRating env session startedAt = .ok future ∧ future.totalMinor < owner.budgetMinor := by
  unfold watchBudget at success
  simp only [returns_bind, returns_read, returns_lift, returns_ite, returns_pure] at success
  obtain ⟨_, _, ⟨-, rfl⟩, future, s, ⟨rated, rfl⟩, ⟨⟨-, -, quiet⟩, -, -⟩ |
    ⟨-, _, _, ⟨rfl, rfl⟩, ⟨exhausted, -⟩ | ⟨-, stops⟩⟩⟩ := success
  · rcases quiet with unpriced | below
    · exact Or.inl unpriced
    · exact Or.inr ⟨future, rated, below⟩
  · rcases exhausted with many | unknown
    · exact absurd many (Nat.not_le.mpr left.1)
    · exact absurd unknown transaction
  · exact absurd unstopped (RemoteStopService.request_commands left.2 stops)

theorem stopWithdrawn_stops (success : Returns (stopWithdrawn env key customerKey session) s u s')
    (transaction : session.protocolTransactionId ≠ none)
    (left : withdrawalStops s key < 3 ∧ RemoteStartService.byIdempotencyKey s
      ("cancel-start-stop-" ++ keyText key ++ "-" ++ keyText (withdrawalStops s key)) = none) :
    ¬ Unstopped s s' := by
  unfold stopWithdrawn at success
  simp only [returns_bind, returns_read, returns_ite] at success
  obtain ⟨_, s, ⟨rfl, rfl⟩, ⟨exhausted, -⟩ | ⟨-, stops⟩⟩ := success
  · rcases exhausted with unknown | many
    · exact absurd unknown transaction
    · exact absurd many (Nat.not_le.mpr left.1)
  · exact RemoteStopService.request_commands left.2 stops

theorem requireAction_commands (success : Returns (requireAction customerKey) s u s') :
    s'.commands = s.commands ∧ s'.sessions = s.sessions := by
  obtain ⟨t, rfl, -⟩ := saveCustomer_returns success
  exact ⟨rfl, rfl⟩

theorem cancelConfirmedIdleStart_running {cancelled : Bool}
    (success : Returns (cancelConfirmedIdleStart env key session) s cancelled s')
    (started : session.startedAt = some startedAt) : cancelled = false ∧ s' = s := by
  have running : withdrawnIdle session = false := by
    unfold withdrawnIdle
    rw [started]
    simp
  unfold cancelConfirmedIdleStart at success
  simp only [returns_bind, returns_read, running, Bool.false_and] at success
  obtain ⟨command, s, ⟨-, rfl⟩, success⟩ := success
  split at success
  · simp only [returns_bind, returns_read, returns_ite, returns_pure] at success
    obtain ⟨_, s, ⟨rfl, rfl⟩, ⟨impossible, -⟩ | ⟨-, rfl, rfl⟩⟩ := success
    · contradiction
    · exact ⟨rfl, rfl⟩
  · rw [returns_pure] at success
    exact success

theorem examined_decides (examined : Examined env s key session owner startedAt)
    (left : StopLeft s key session) (success : Returns (reconcile env key) s u s')
    (unstopped : Unstopped s s') :
    usagePriced session = false ∨
      ∃ future, futureRating env session startedAt = .ok future ∧ future.totalMinor < owner.budgetMinor := by
  unfold reconcile at success
  simp only [returns_transaction, returns_bind, returns_read, returns_orThrow, lockSession_returns]
    at success
  obtain ⟨session', _, ⟨stored, rfl⟩, _, _, ⟨rfl, rfl⟩, ⟨customerKey, owner'⟩, s, ⟨found, rfl⟩, success⟩ :=
    success
  have sameSession := stored.symm.trans examined.stored
  cases sameSession
  have sameOwner := examined.owned
  rw [found] at sameOwner
  cases sameOwner
  have charging := examined.charging
  simp only [List.mem_cons, List.not_mem_nil, or_false] at charging
  simp only [returns_ite, returns_pure, returns_bind, ne_eq] at success
  rcases success with ⟨settled, -, -⟩ | ⟨-, cancelled, s₁, cancels, success⟩
  · exact absurd examined.unsettled settled
  obtain ⟨rfl, rfl⟩ := cancelConfirmedIdleStart_running cancels examined.started
  rcases success with ⟨impossible, -⟩ | ⟨-, alert, _, ⟨-, rfl⟩, _, s₂, alerts, success⟩
  · contradiction
  have commands : s₂.commands = s₁.commands := by
    rw [returns_doIf] at alerts
    rcases alerts with ⟨-, alerts⟩ | ⟨-, rfl⟩
    · exact (requireAction_commands alerts).1
    · rfl
  have kept : Unstopped s₂ s' := by
    unfold Unstopped at unstopped ⊢
    rw [commands]
    exact unstopped
  have budget : budgetStops s₂ key = budgetStops s₁ key := by
    unfold budgetStops
    rw [commands]
  have withdrawal : withdrawalStops s₂ key = withdrawalStops s₁ key := by
    unfold withdrawalStops
    rw [commands]
  have keys : ∀ idempotencyKey, RemoteStartService.byIdempotencyKey s₂ idempotencyKey =
      RemoteStartService.byIdempotencyKey s₁ idempotencyKey := by
    intro idempotencyKey
    unfold RemoteStartService.byIdempotencyKey
    rw [commands]
  rcases success with ⟨completed, -⟩ | ⟨-, ⟨ended, -⟩ | ⟨-, ⟨withdrawn, stops⟩ | ⟨running, watches⟩⟩⟩
  · rw [completed] at charging
    simp at charging
  · rw [examined.started] at ended
    have never := ended.2
    contradiction
  · have stopped := stopWithdrawn_stops stops left.transaction (by
      rw [withdrawal, keys]
      exact left.withdrawal withdrawn.1)
    exact absurd kept stopped
  · have uncancelled : session.cancellationReason ≠ some "customer_cancel_requested" := by
      intro cancelled
      refine running ⟨cancelled, ?_⟩
      rcases charging with state | state | state <;> rw [state] <;> decide
    rw [examined.started] at watches
    simp only [returns_ite, returns_pure] at watches
    rcases watches with ⟨-, watches⟩ | ⟨elsewhere, -, -⟩
    · exact watchBudget_decides watches kept left.transaction (by
        rw [budget, keys]
        exact left.budget uncancelled)
    · exact absurd examined.charging elsewhere

end Watch

/-- Evidence of a session that a stop within the buffer can end with. -/
structure Reaches (env : Environment) (session : ChargingSession) (later : RatingInput) : Prop where
  valid : later.Valid
  energy : later.energyWh ≤
    session.energyWh + ceilDiv (session.connectorMaximumPowerW * env.stopBufferSeconds) 3600
  duration : later.durationSeconds ≤ session.durationSeconds + env.stopBufferSeconds
  energyFlow : later.energyFlowSeconds ≤ session.energyFlowSeconds + env.stopBufferSeconds

section Priced
variable {env : Environment} {session : ChargingSession} {line : TariffComponent} {later : RatingInput}
  (calendar : Calendar env.clock) (reached : Reaches env session later)
include calendar reached

theorem futureRating_covers (plain : session.tariffSnapshot.Plain line)
    (priced : line.dimension ∈ [.energy, .time, .session]) (startedAt : Instant) :
    Covers RatingResult.Cheaper (rate env.clock session.tariffSnapshot later)
      (futureRating env session startedAt) := by
  have projected : ceilDiv (session.connectorMaximumPowerW * env.stopBufferSeconds) 3600 ≤
      (session.connectorMaximumPowerW * env.stopBufferSeconds + 3599).tdiv 3600 :=
    ceilDiv_le_tdiv (by decide)
  have energy := reached.energy
  have duration := reached.duration
  have flow := reached.energyFlow
  refine rate_covers calendar plain ⟨reached.valid, ?_, ?_⟩
  · simp only [List.mem_cons, List.not_mem_nil, or_false] at priced
    rcases priced with kind | kind | kind
    · rw [kind]
      change later.energyWh ≤ session.energyWh + _
      omega
    · rw [kind]
      unfold quantity
      cases session.tariffSnapshot.timeBasis with
      | elapsed => exact duration
      | energyFlow => exact flow
    · rw [kind]
      exact Int.le_refl 1
  · intro used
    change 0 < session.energyWh + _ ∨ 0 < session.energyFlowSeconds + _
    unfold RatingInput.Used at used
    omega

theorem session_within {quoted : Environment} {budget : Int} (clock : quoted.clock = env.clock)
    (accepted : CustomerCharging.Accepted quoted session.tariffSnapshot line budget)
    (unpriced : usagePriced session = false) :
    ∃ r, rate env.clock session.tariffSnapshot later = .ok r ∧ r.totalMinor ≤ budget := by
  have kind : line.dimension = .session := by
    have priced := accepted.priced
    simp only [List.mem_cons, List.not_mem_nil, or_false] at priced
    unfold usagePriced hasDimension at unpriced
    rw [accepted.plain.components] at unpriced
    rcases priced with energy | time | session
    · simp [energy] at unpriced
    · simp [time] at unpriced
    · exact session
  obtain ⟨minimum, success, within⟩ := accepted.floor
  rw [clock] at success
  have below : later.Below session.tariffSnapshot line.dimension
      (CustomerCharging.floorInput line quoted.now) := by
    refine ⟨reached.valid, ?_, ?_⟩
    · rw [kind]
      exact Int.le_refl 1
    · intro _
      exact Or.inl (by simp [CustomerCharging.floorInput, kind])
  obtain ⟨r, rated, cheaper⟩ := rate_covers calendar accepted.plain below minimum success
  exact ⟨r, rated, Int.le_trans cheaper.total within⟩

end Priced

/-- The evidence is rated within the budget, and a record of that total is captured. -/
def Affordable (env : Environment) (session : ChargingSession) (owner : CustomerChargingSession)
    (later : RatingInput) : Prop :=
  ∃ r, rate env.clock session.tariffSnapshot later = .ok r ∧ r.totalMinor ≤ owner.budgetMinor ∧
    ∀ (final : ChargingSession) (cdr : ChargeDetailRecord), final.finalizationOutcome = some "complete" →
      cdr.currency = some "PHP" → cdr.totalMinor = some r.totalMinor →
        capturable final owner.budgetMinor cdr = some r.totalMinor

theorem affordable_of_total {env : Environment} {session : ChargingSession} {owner : CustomerChargingSession}
    {later : RatingInput}
    (within : ∃ r, rate env.clock session.tariffSnapshot later = .ok r ∧ r.totalMinor ≤ owner.budgetMinor) :
    Affordable env session owner later := by
  obtain ⟨r, rated, total⟩ := within
  refine ⟨r, rated, total, ?_⟩
  intro final cdr outcome currency charged
  unfold capturable
  simp [charged, currency, outcome, total]

/-- Where the monitor examines a session of an accepted quote, may still ask for a stop and asks for
none, whatever a stop within the buffer can end with is within the budget. -/
theorem budget_safe {quoted env : Environment} {q : CustomerCharging.Request} {s₀ s₁ s s' : Store}
    {prepared : PreparedQuote} {quote : ChargingQuote} {key : Nat} {session : ChargingSession}
    {owner : CustomerChargingSession} {startedAt : Instant} (calendar : Calendar env.clock)
    (clock : quoted.clock = env.clock) (accepted : Returns (q.prepare quoted) s₀ prepared s₁)
    (row : s₁.quotes.get? prepared.id = some quote) (tariff : session.tariffSnapshot = quote.tariff)
    (budget : owner.budgetMinor = quote.budgetMinor) (examined : Examined env s key session owner startedAt)
    (left : StopLeft s key session) (success : Returns (reconcile env key) s () s')
    (unstopped : Unstopped s s') :
    ∀ later, Reaches env session later → Affordable env session owner later := by
  intro later reached
  obtain ⟨quote', line, row', -, accepted⟩ := CustomerCharging.prepare_accepts accepted
  rw [row] at row'
  cases row'
  rw [← tariff, ← budget] at accepted
  apply affordable_of_total
  rcases examined_decides examined left success unstopped with unpriced | ⟨future, projected, below⟩
  · exact session_within calendar reached clock accepted unpriced
  · obtain ⟨r, rated, cheaper⟩ :=
      futureRating_covers calendar reached accepted.plain accepted.priced startedAt future projected
    have total := cheaper.total
    exact ⟨r, rated, by omega⟩

end PrepaidChargingMonitor

/-! ### Customers of the deployment -/

namespace Deployment

/-- The station on a Sunday, without a platform fee. -/
def watchEnvironment (now : Nat) : Environment :=
  { environment "2.0.1" 1 now with clock := feeEnvironment.clock }

/-- A driver with this much in the wallet, at an available connector. -/
def arrived (balance : Int) : Store :=
  Step.run [(watchEnvironment 0, .credit "driver" "live" "R1" balance none),
    (watchEnvironment 0, .event (statusReport "E0" "10:00:00" "available"))] Store.empty

def quoted (balance : Int) : Except Throwable PreparedQuote × Store :=
  quoteRequest.prepare (watchEnvironment 1) (arrived balance)

/-- The driver starts with the quote, and the charger reports the transaction. -/
def driverStarts : List (Environment × Step) :=
  [(watchEnvironment 1, .customerStart "driver" 0 "C1" "start" none), (watchEnvironment 1, .dispatch 0),
    (watchEnvironment 1, .gatewayAnswer 0 (.ok ⟨.completed, some "Accepted"⟩)),
    (watchEnvironment 2, .event (transactionEvent "E1" "Started" "10:02:00"
      [("authorization_status", .string "Accepted"), register "10:02:00" 100]))]

def stopRefused (commandId : Nat) : List (Environment × Step) :=
  [(watchEnvironment 2, .reconcile 0), (watchEnvironment 2, .dispatch commandId),
    (watchEnvironment 2, .gatewayAnswer commandId (.ok ⟨.completed, some "Rejected"⟩))]

end Deployment

namespace PrepaidChargingMonitor
open Deployment

def examination (env : Environment) (s : Store) (key : Nat) :
    Option (ChargingSession × CustomerChargingSession × Instant) := do
  let session ← s.sessions.get? key
  let owner ← (customerOf s key).map Prod.snd
  let startedAt ← session.startedAt
  if owner.settledAt = none ∧ session.state ∈ [.charging, .suspendedByEv, .suspendedByEvse] ∧
      stale env s key session startedAt = false then some (session, owner, startedAt)
  else none

theorem examination_some {env : Environment} {s : Store} {key : Nat} {session : ChargingSession}
    {owner : CustomerChargingSession} {startedAt : Instant}
    (found : examination env s key = some (session, owner, startedAt)) :
    Examined env s key session owner startedAt := by
  unfold examination at found
  simp only [Option.bind_eq_bind, Option.bind_eq_some_iff] at found
  obtain ⟨session', stored, owner', owned, startedAt', started, found⟩ := found
  split at found
  · rename_i checks
    cases found
    exact ⟨stored, owned, checks.1, checks.2.1, started, checks.2.2⟩
  · contradiction

/-- The examination of a driver's running session, as the monitor leaves it. -/
def quietly (balance : Int) (s : Store)
    (holds : ChargingSession → CustomerChargingSession → Bool) : Bool :=
  match quoted balance with
  | (.ok prepared, s₁) =>
    (s₁.quotes.get? prepared.id).any fun quote =>
      (examination (watchEnvironment 2) s 0).any fun row =>
        row.1.tariffSnapshot = quote.tariff && row.2.1.budgetMinor = quote.budgetMinor &&
          holds row.1 row.2.1 &&
          (match reconcile (watchEnvironment 2) 0 s with
            | (.ok _, s') => s'.commands.table.entries = s.commands.table.entries
            | (.error _, _) => false)
  | (.error _, _) => false

theorem quietly_holds {balance : Int} {s : Store} {holds : ChargingSession → CustomerChargingSession → Bool}
    (facts : quietly balance s holds = true) :
    ∃ prepared s₁ quote session owner startedAt s',
      Returns (quoteRequest.prepare (watchEnvironment 1)) (arrived balance) prepared s₁ ∧
        s₁.quotes.get? prepared.id = some quote ∧ session.tariffSnapshot = quote.tariff ∧
        owner.budgetMinor = quote.budgetMinor ∧ Examined (watchEnvironment 2) s 0 session owner startedAt ∧
        Returns (reconcile (watchEnvironment 2) 0) s () s' ∧ Unstopped s s' ∧ holds session owner = true := by
  unfold quietly at facts
  split at facts
  · rename_i prepared s₁ accepted
    obtain ⟨quote, row, facts⟩ := (Option.any_eq_true _ _).mp facts
    obtain ⟨⟨session, owner, startedAt⟩, found, facts⟩ := (Option.any_eq_true _ _).mp facts
    simp only [Bool.and_eq_true, decide_eq_true_eq] at facts
    obtain ⟨⟨⟨tariff, budget⟩, held⟩, quiet⟩ := facts
    split at quiet
    · rename_i u s' returned
      have unstopped : Unstopped s s' := by
        unfold Unstopped
        exact of_decide_eq_true quiet
      exact ⟨prepared, s₁, quote, session, owner, startedAt, s', accepted, row, tariff, budget,
        examination_some found, returned, unstopped, held⟩
    · contradiction
  · contradiction

theorem watchEnvironment_calendar (now : Nat) : Calendar (watchEnvironment now).clock :=
  feeEnvironment_calendar

def firstStopLeft (s : Store) (session : ChargingSession) : Bool :=
  session.protocolTransactionId.isSome && session.cancellationReason = none && budgetStops s 0 = 0 &&
    (RemoteStartService.byIdempotencyKey s "budget-stop-0-0").isNone

theorem firstStopLeft_left {s : Store} {session : ChargingSession} (first : firstStopLeft s session = true) :
    StopLeft s 0 session := by
  unfold firstStopLeft at first
  simp only [Bool.and_eq_true, decide_eq_true_eq, Option.isNone_iff_eq_none] at first
  obtain ⟨⟨⟨transaction, uncancelled⟩, none⟩, unused⟩ := first
  refine ⟨Option.isSome_iff_ne_none.mp transaction, ?_, ?_⟩
  · intro _
    rw [none]
    exact ⟨by decide, unused⟩
  · intro cancelled
    rw [uncancelled] at cancelled
    contradiction

set_option maxRecDepth 20000 in
theorem budget_safe_started :
    ∃ session owner, (Step.run driverStarts (quoted 1000).2).sessions.get? 0 = some session ∧
      ∀ later, Reaches (watchEnvironment 2) session later →
        Affordable (watchEnvironment 2) session owner later := by
  have facts : quietly 1000 (Step.run driverStarts (quoted 1000).2)
      (fun session _ => firstStopLeft (Step.run driverStarts (quoted 1000).2) session) = true := by
    decide +kernel
  generalize Step.run driverStarts (quoted 1000).2 = s at facts ⊢
  obtain ⟨prepared, s₁, quote, session, owner, startedAt, s', accepted, row, tariff, budget, examined,
    returned, unstopped, first⟩ := quietly_holds facts
  have clock : (watchEnvironment 1).clock = (watchEnvironment 2).clock := rfl
  exact ⟨session, owner, examined.stored, budget_safe (watchEnvironment_calendar 2) clock accepted row tariff
    budget examined (firstStopLeft_left first) returned unstopped⟩

def thriceRefused : Store :=
  Step.run (driverStarts ++ stopRefused 1 ++ stopRefused 2 ++ stopRefused 3) (quoted 100).2

def lastEvidence : RatingInput where
  energyWh := 175
  durationSeconds := 90
  parkingSeconds := 0
  idleSeconds := 0
  startedAt := minute 2
  energyFlowSeconds := 90

set_option maxRecDepth 20000 in
/-- No fourth stop is asked for, and the session runs past its budget. -/
theorem fourth_stop_not_asked :
    ∃ prepared s₁ quote session owner startedAt s',
      Returns (quoteRequest.prepare (watchEnvironment 1)) (arrived 100) prepared s₁ ∧
        s₁.quotes.get? prepared.id = some quote ∧ session.tariffSnapshot = quote.tariff ∧
        owner.budgetMinor = quote.budgetMinor ∧
        Examined (watchEnvironment 2) thriceRefused 0 session owner startedAt ∧
        Returns (reconcile (watchEnvironment 2) 0) thriceRefused () s' ∧ Unstopped thriceRefused s' ∧
        ¬ ∀ later, Reaches (watchEnvironment 2) session later →
          Affordable (watchEnvironment 2) session owner later := by
  have facts : quietly 100 thriceRefused (fun session owner =>
      session.energyWh = 0 && session.durationSeconds = 0 && session.energyFlowSeconds = 0 &&
        session.connectorMaximumPowerW = 7000 &&
        (rate (watchEnvironment 2).clock session.tariffSnapshot lastEvidence).toOption.any fun r =>
          owner.budgetMinor < r.totalMinor) = true := by decide +kernel
  generalize thriceRefused = s at facts ⊢
  obtain ⟨prepared, s₁, quote, session, owner, startedAt, s', accepted, row, tariff, budget, examined,
    returned, unstopped, above⟩ := quietly_holds facts
  refine ⟨prepared, s₁, quote, session, owner, startedAt, s', accepted, row, tariff, budget, examined,
    returned, unstopped, ?_⟩
  intro safe
  simp only [Bool.and_eq_true, decide_eq_true_eq] at above
  obtain ⟨⟨⟨⟨energy, duration⟩, flow⟩, power⟩, above⟩ := above
  have reached : Reaches (watchEnvironment 2) session lastEvidence := by
    refine ⟨⟨by decide, by decide, by decide, by decide, by decide⟩, ?_, ?_, ?_⟩
    · rw [energy, power]
      decide
    · rw [duration]
      decide
    · rw [flow]
      decide
  obtain ⟨r, rated, within, -⟩ := safe lastEvidence reached
  rw [rated] at above
  have most : owner.budgetMinor < r.totalMinor := of_decide_eq_true above
  omega

end PrepaidChargingMonitor
end VtsaCsms.Charging
