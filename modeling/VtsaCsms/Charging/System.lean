import VtsaCsms.Charging.PrepaidCharging

/-!
# The charging system

Everything that may happen to a tenant's charging rows, one committed step at a time, and
the runs of such steps. The job that dispatches a command is three steps, for anything may
come between its transactions; a step that throws keeps what its own transactions kept.
-/
namespace VtsaCsms.Charging
open Foundation Foundation.Action Billing

/-- Quotes are priced, and wallets credited and limited, by code outside these modules;
here they may change between any two steps. -/
inductive Step where
  | event (event : Mixed)
  | remoteStart (connectorId idempotencyKey : String) (tariffVersionId promotionCode : Option String)
  | remoteStop (sessionId : Nat) (idempotencyKey : String)
  | dispatch (commandId : Nat)
  | applyTerminal (commandId : Nat)
  | gatewayAnswer (commandId : Nat) (answer : Except Throwable DispatchChargerCommand.GatewayResult)
  | expireCommand (commandId : Nat)
  | expireSession (sessionId : Nat)
  | cancelSession (sessionId : Nat) (reason : String)
  | openReview (sessionId : Nat) (reasonCode : String) (notes : Option String)
  | resolveReview (sessionId : Nat) (decision notes : String)
      (adjustments : ManualSessionReviewService.Adjustments)
  | quote (row : ChargingQuote)
  | credit (subject book reference : String) (amount : Int) (accountId : Option String)
  | setLimit (actor accountId type targetId : String) (amount : Option Int)
  | customerStart (subject : String) (quoteId : Nat) (connectorId key : String)
      (selectedAccount : Option String)
  | customerCancel (subject : String) (sessionId : Nat) (reason : Option String)
  | reconcile (sessionId : Nat)

namespace Step

/-- Forget what an action returns. -/
def discard {α : Type} (m : Charge α) : Charge Unit := do
  let _ ← m
  pure ()

def perform (env : Environment) : Step → Charge Unit
  | event e => discard (OcppEventConsumer.consume env e)
  | remoteStart connectorId idempotencyKey tariffVersionId promotionCode =>
    discard (RemoteStartService.request env connectorId idempotencyKey tariffVersionId promotionCode)
  | remoteStop sessionId idempotencyKey => RemoteStopService.request env sessionId idempotencyKey
  | dispatch commandId => DispatchChargerCommand.begin env commandId
  | applyTerminal commandId => DispatchChargerCommand.applyTerminal env commandId
  | gatewayAnswer commandId answer => DispatchChargerCommand.complete env commandId answer
  | expireCommand commandId => ExpireChargingOperations.expireCommand env commandId
  | expireSession sessionId => ExpireChargingOperations.expireSession env sessionId
  | cancelSession sessionId reason => SessionLifecycleService.cancel env sessionId reason
  | openReview sessionId reasonCode notes =>
    ManualSessionReviewService.openReview env sessionId reasonCode notes
  | resolveReview sessionId decision notes adjustments =>
    ManualSessionReviewService.resolve env sessionId decision notes adjustments
  | quote row => write fun s => { s with quotes := s.quotes.create row }
  | credit subject book reference amount accountId =>
    onWallet (PrepaidWallet.credit subject book reference amount accountId)
  | setLimit actor accountId type targetId amount =>
    onWallet (PrepaidWallet.setLimit actor accountId type targetId amount)
  | customerStart subject quoteId connectorId key selectedAccount =>
    discard (CustomerCharging.start env subject quoteId connectorId key selectedAccount)
  | customerCancel subject sessionId reason => CustomerCharging.cancel env subject sessionId reason
  | reconcile sessionId => PrepaidChargingMonitor.reconcile env sessionId

def next (env : Environment) (step : Step) (s : Store) : Store := after (step.perform env) s

def run : List (Environment × Step) → Store → Store
  | [], s => s
  | (env, step) :: rest, s => run rest (step.next env s)

theorem run_append (before later : List (Environment × Step)) (s : Store) :
    run (before ++ later) s = run later (run before s) := by
  induction before generalizing s with
  | nil => rfl
  | cons _ _ ih => exact ih _

/-- A property of the empty store that every step keeps holds after every run. -/
theorem run_invariant {P : Store → Prop} (start : P Store.empty)
    (keeps : ∀ (env : Environment) (step : Step) (s : Store), P s → P (step.next env s))
    (steps : List (Environment × Step)) :
    P (run steps Store.empty) := by
  have general : ∀ s, P s → P (run steps s) := by
    induction steps with
    | nil => exact fun s holds => holds
    | cons first _ ih =>
      intro s holds
      exact ih _ (keeps first.1 first.2 s holds)
  exact general Store.empty start

end Step

/-! ### A deployment of one station -/

namespace Deployment
open Assets Tariffs

/-- The minutes a run takes place in, as the gateway writes them. -/
def minutes : List (String × Nat) :=
  [("10:00:00", 0), ("10:01:00", 1), ("10:02:00", 2), ("10:03:00", 3), ("10:04:00", 4),
    ("10:05:00", 5), ("10:06:00", 6)]

def minute (n : Nat) : Instant := (1772359200 + 60 * n) * 1000000

def timeOf (text : String) : Option Instant :=
  (minutes.find? fun m => "2026-03-01T" ++ m.1 ++ "Z" = text).map fun m => minute m.2

def station (version : String) : Station where
  id := "01JN7F000000000000000000S1"
  site := ⟨"01JN7F000000000000000000T1", none, "UTC", true, true, true⟩
  chargePointIdentity := "CP-1"
  qrIdentifier := none
  ocppVersion := some version
  isPublic := true
  lifecycleActive := true

/-- Connector `number` of the station, on an EVSE of its own. -/
def connector (version : String) (number : Nat) : Connector where
  id := "C" ++ keyText number
  evse := ⟨"E" ++ keyText number, station version, number, true⟩
  connectorNumber := number
  qrIdentifier := none
  maximumPowerW := 7000
  lifecycleActive := true

def tariff : TariffVersion where
  id := "V1"
  version := 1
  published := true
  endedAt := none
  effectiveFrom := 0
  effectiveTo := none
  operatorId := none
  siteId := none
  connectorId := none
  currency := "PHP"
  timezone := "UTC"
  timeBasis := .elapsed
  taxTreatment := .inclusive
  taxRateBasisPoints := none
  minimumFeeMinor := none
  maximumFeeMinor := none
  components := [⟨.energy, 1000, 1000, 127, none, none, 0⟩]
  discounts := []

/-- The station with the first `connectors` of its connectors, `now` minutes past ten on a
Sunday. -/
def environment (version : String) (connectors now : Nat) : Environment where
  now := minute now
  tenantId := "01JN7F000000000000000000N1"
  actorId := some "driver"
  register := ⟨[station version], (List.range connectors).map fun n => connector version (n + 1)⟩
  tariffVersions := [tariff]
  platformFee := ⟨none, false, 500, 10000, none, none⟩
  budgetPolicy := ⟨1, 50000, 100000, [], true⟩
  clock := fun _ t => (minutes.find? fun m => minute m.2 = t).map fun m => ⟨7, m.1⟩
  isUlid := fun s => s.length = 26
  parseTime := timeOf
  castTime := timeOf
  toFloat := fun _ => none
  floatText := fun _ => ""
  mbStrToUpper := fun s => String.ofList (s.toList.map Char.toUpper)
  sha256 := fun s => s
  observeFault := fun _ => .ok ()
  kycAllowed := .ok ()
  requireAccount := fun _ _ => .ok ()
  chargeVehicle := fun _ _ _ => .ok ()

/-- The event a gateway forwards; `id` ends its identifier. -/
def received (id action at' protocol : String) (data : List (String × Mixed)) : Mixed :=
  .array [("event_id", .string ("01JN7F000000000000000000" ++ id)),
    ("event_type", .string ("gateway.ocpp." ++ action ++ ".received.v1")), ("schema_version", .int 1),
    ("occurred_at", .string ("2026-03-01T" ++ at' ++ "Z")),
    ("tenant_id", .string "01JN7F000000000000000000N1"),
    ("aggregate_id", .string "01JN7F000000000000000000S1"),
    ("correlation_id", .string "01JN7F000000000000000000K1"), ("causation_id", .null),
    ("data", .array ([("charge_point_identity", .string "CP-1"), ("protocol", .string protocol),
      ("connection_id", .string "01JN7F000000000000000000W1")] ++ data))]

def statusReport (id at' status : String) : Mixed :=
  received id "status_notification" at' "ocpp2.0.1"
    [("evse_id", .int 1), ("connector_id", .int 1), ("status", .string status)]

def transactionEvent (id kind at' : String) (more : List (String × Mixed)) : Mixed :=
  received id "transaction_event" at' "ocpp2.0.1"
    ([("event_type", .string kind), ("protocol_transaction_id", .string "TX-1"),
      ("evse", .array [("id", .int 1), ("connector_id", .int 1)])] ++ more)

def register (at' : String) (wh : Int) : String × Mixed :=
  ("samples", .array [("0", .array [("timestamp", .string ("2026-03-01T" ++ at' ++ "Z")),
    ("measurand", .string "Energy.Active.Import.Register"), ("unit", .string "Wh"),
    ("value", .int wh)])])

def remotelyStarted : List (Environment × Step) :=
  [(environment "2.0.1" 1 0, .event (statusReport "E0" "10:00:00" "available")),
    (environment "2.0.1" 1 1, .remoteStart "C1" "start-1" none none)]

def charging : List (Environment × Step) :=
  remotelyStarted ++ [(environment "2.0.1" 1 1, .dispatch 0),
    (environment "2.0.1" 1 1, .gatewayAnswer 0 (.ok ⟨.completed, some "Accepted"⟩)),
    (environment "2.0.1" 1 2, .event (transactionEvent "E1" "Started" "10:02:00"
      [("authorization_status", .string "Accepted"), register "10:02:00" 100]))]

end Deployment
end VtsaCsms.Charging
