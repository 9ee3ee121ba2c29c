import VtsaCsms.Charging.PrepaidCharging
import VtsaCsms.Tariffs.RatingOrder

/-!
# Quotes

`CustomerCharging::prepare` and `ChargingBudgets::select`: the price and the budget a customer
approves before a start. The account of the request is Organizations' own. The texts of the
disclosure, and the names it shows, are left out.
-/
namespace VtsaCsms.Charging
open Foundation Foundation.Action Assets Tariffs Billing

/-- The account a session is charged to. -/
structure ChargingAccount where
  id : String
  personal : Bool
  deriving DecidableEq, Repr

/-- Who pays in the customer's place. -/
def ChargingAccount.payer (account : ChargingAccount) : Option String :=
  if account.personal then none else some account.id

/-- `ChargingAccounts::require` on the selected account of a user, or the personal one. -/
abbrev AccountOf := String → Option String → Except Throwable ChargingAccount

namespace ChargingBudgets

def select (policy : BudgetPolicy) (available : Int) (requested : Option Int) : Except Throwable Int :=
  let limit := min available policy.maximumMinor
  let wanted := requested.getD (min limit policy.defaultMinor)
  let budget :=
    if policy.allowCustomAmount = false ∧ requested = none then
      ((policy.presets.filter fun amount => amount ≤ wanted).max?).getD 0
    else wanted
  if budget < policy.minimumMinor ∨ limit < budget ∨
      (policy.allowCustomAmount = false ∧ budget ∉ policy.presets) then
    .error (.domain ("Choose an allowed charging budget within your available balance and account limits. " ++
      "Add money if your balance is below the minimum."))
  else .ok budget

theorem select_within {policy : BudgetPolicy} {available budget : Int} {requested : Option Int}
    (success : select policy available requested = .ok budget) :
    budget ≤ available ∧ budget ≤ policy.maximumMinor := by
  unfold select at success
  dsimp only at success
  generalize (if policy.allowCustomAmount = false ∧ requested = none then _ else _ : Int) = chosen at success
  split at success
  · contradiction
  · cases success
    omega

end ChargingBudgets

structure QuoteLine where
  dimension : String
  priceMinor : Int
  unitQuantity : Int
  description : String
  deriving DecidableEq, Repr

/-- What the customer is shown. -/
structure PreparedQuote where
  id : Nat
  target : ConnectorSnapshot
  tariffVersionId : String
  currency : String
  taxInclusive : Bool
  taxRateBasisPoints : Int
  lines : List QuoteLine
  amountMinor : Int
  budgetPolicy : BudgetPolicy
  availableMinor : Int
  platformFee : PlatformFee
  expiresAt : Instant
  deriving DecidableEq

namespace CustomerCharging

/-- `?? throw`. -/
def required {α : Type} (o : Option α) (e : Throwable) : Except Throwable α :=
  match o with
  | some a => .ok a
  | none => .error e

theorem required_iff {α : Type} {o : Option α} {e : Throwable} {a : α} :
    required o e = .ok a ↔ o = some a := by
  cases o with
  | none => exact ⟨fun success => by contradiction, fun same => by contradiction⟩
  | some => exact ⟨fun success => by cases success; rfl, fun same => by cases same; rfl⟩

/-- The line of a version that prepaid charging can price. -/
def prepaidLine (version : TariffVersion) : Option TariffComponent :=
  match version.components with
  | [line] =>
    if version.discounts = [] ∧ line.dimension ∈ [.energy, .time, .session] ∧ line.dayOfWeekMask = 127 ∧
        line.startsAtLocal = none ∧ line.endsAtLocal = none ∧ version.minimumFeeMinor = none ∧
        version.maximumFeeMinor = none then some line
    else none
  | _ => none

def describe (line : TariffComponent) : String :=
  match line.dimension with
  | .energy => "Per " ++ if line.unitQuantity = 1000 then "kWh" else toString line.unitQuantity ++ " Wh"
  | .session => "Once per session"
  | .time => "Per " ++ toString line.unitQuantity ++ " seconds of metered energy flow"
  | other => other.value ++ " / " ++ toString line.unitQuantity ++ " seconds"

def quoteLine (line : TariffComponent) : QuoteLine :=
  ⟨line.dimension.value, line.priceMinor, line.unitQuantity, describe line⟩

def floorInput (line : TariffComponent) (at' : Instant) : RatingInput where
  energyWh := if line.dimension = .session then 1 else 0
  durationSeconds := 0
  parkingSeconds := 0
  idleSeconds := 0
  startedAt := at'

def quotedSnapshot (env : Environment) (version : TariffVersion) (connector : ConnectorSnapshot) :
    TariffSnapshot :=
  { TariffSnapshotFactory.create env.mbStrToUpper version connector env.now with
    platformFee := some env.platformFee }

def checkVehicle (env : Environment) (subject accountId : String) (vehicleId : Option String) :
    Except Throwable Unit :=
  match vehicleId with
  | some vehicle => env.chargeVehicle subject (some accountId) vehicle
  | none => .ok ()

/-- The connector a code stands for, and the line it is priced by now. -/
structure Offer where
  target : ConnectorSnapshot
  connector : ConnectorSnapshot
  version : TariffVersion
  line : TariffComponent

def offer (env : Environment) (code : String) (pricingVersion : Nat) : Except Throwable Offer := do
  let target ← required (ConnectorSnapshotQuery.publicChargeTarget env.register code)
    (.domain "Use the code for one public, active connector.")
  let connector ← required (ConnectorSnapshotQuery.byId env.register target.connectorId)
    (.domain "Connector is unavailable.")
  let version ← required (TariffSelector.select env.tariffVersions connector env.now)
    (.domain "This connector has no published price.")
  if version.currency ≠ "PHP" then .error (.domain "The prepaid wallet supports PHP charging only.")
  else do
    let line ← required (prepaidLine version) (.domain ("Mobile prepaid charging currently requires one " ++
      "all-day energy, session or energy-flow time price without discounts or extra fees."))
    if env.platformFee.enabled = true ∧ pricingVersion < 2 then
      .error (.domain "Update the app to review the platform fee before starting a new session.")
    else .ok ⟨target, connector, version, line⟩

/-- The budget that is chosen, checked against the floor of the quote. -/
def affordable (env : Environment) (snapshot : TariffSnapshot) (line : TariffComponent) (available : Int)
    (requestedBudget : Option Int) : Except Throwable Int := do
  let budget ← ChargingBudgets.select env.budgetPolicy available requestedBudget
  if budget ≤ 0 then
    .error (.domain ("The selected wallet has no available charging budget. Ask its owner to fund it or " ++
      "review your spending limit."))
  else do
    let minimum ← TariffEngine.rate env.clock snapshot (floorInput line env.now)
    if budget < minimum.totalMinor then
      .error (.domain "Your available charging budget is below the session fee.")
    else .ok budget

/-- `quote_seconds` of the configuration. -/
def quoteSeconds : Int := 120

def quoteRow (env : Environment) (subject : String) (vehicleId : Option String) (account : ChargingAccount)
    (offered : Offer) (budget : Int) : ChargingQuote where
  subjectId := subject
  connectorId := offered.connector.connectorId
  chargingAccountId := some account.id
  vehicleId
  payerAccountId := account.payer
  tariffVersionId := offered.version.id
  budgetMinor := budget
  tariff := quotedSnapshot env offered.version offered.connector
  budgetPolicy := some env.budgetPolicy
  expiresAt := (env.now.addSeconds quoteSeconds).toSecond

def prepare (env : Environment) (accounts : AccountOf) (subject code : String)
    (accountId vehicleId : Option String := none) (requestedBudget : Option Int := none)
    (pricingVersion : Nat := 1) : Charge PreparedQuote := do
  let account ← lift (accounts subject accountId)
  let payer := account.payer
  throwIf (payer ≠ none ∧ vehicleId = none)
    (.domain "Select an assigned account vehicle before charging.")
  lift (checkVehicle env subject account.id vehicleId)
  let offered ← lift (offer env code pricingVersion)
  let snapshot := quotedSnapshot env offered.version offered.connector
  let available ← read fun s => PrepaidWallet.sessionCap s.wallet payer subject vehicleId
    (PrepaidWallet.summary s.wallet subject "live" payer).availableMinor
  let budget ← lift (affordable env snapshot offered.line available requestedBudget)
  let row := quoteRow env subject vehicleId account offered budget
  let id ← read fun s => s.quotes.nextId
  write fun s => { s with quotes := s.quotes.create row }
  pure { id, target := offered.target, tariffVersionId := offered.version.id, currency := "PHP"
         taxInclusive := offered.version.taxTreatment = .inclusive
         taxRateBasisPoints := offered.version.taxRateBasisPoints.getD 0
         lines := offered.version.components.map quoteLine, amountMinor := budget
         budgetPolicy := env.budgetPolicy, availableMinor := min available env.budgetPolicy.maximumMinor
         platformFee := env.platformFee, expiresAt := row.expiresAt }

/-! ### What an accepted quote states -/

theorem prepaidLine_plain {version : TariffVersion} {line : TariffComponent}
    (accepted : prepaidLine version = some line) (env : Environment) (connector : ConnectorSnapshot) :
    (quotedSnapshot env version connector).Plain line ∧ line.dimension ∈ [.energy, .time, .session] := by
  unfold prepaidLine at accepted
  split at accepted
  · rename_i only components
    split at accepted
    · rename_i simple
      obtain ⟨discounts, priced, everyDay, starts, ends, minimum, maximum⟩ := simple
      cases accepted
      refine ⟨⟨rfl, components, ?_, minimum, maximum, everyDay, starts, ends⟩, priced⟩
      unfold quotedSnapshot TariffSnapshotFactory.create
      rw [discounts]
      rfl
    · contradiction
  · contradiction

/-- The tariff and the budget of a quote, and the floor it was checked at. -/
structure Accepted (env : Environment) (tariff : TariffSnapshot) (line : TariffComponent) (budget : Int) :
    Prop where
  plain : tariff.Plain line
  priced : line.dimension ∈ [.energy, .time, .session]
  fee : tariff.platformFee = some env.platformFee
  version : ∃ v ∈ env.tariffVersions, line ∈ v.components
  positive : 0 < budget
  within : budget ≤ env.budgetPolicy.maximumMinor
  floor : ∃ minimum, TariffEngine.rate env.clock tariff (floorInput line env.now) = .ok minimum ∧
    minimum.totalMinor ≤ budget

variable {env : Environment}

theorem affordable_iff {snapshot : TariffSnapshot} {line : TariffComponent}
    {available budget : Int} {requestedBudget : Option Int} :
    affordable env snapshot line available requestedBudget = .ok budget ↔
      ChargingBudgets.select env.budgetPolicy available requestedBudget = .ok budget ∧ 0 < budget ∧
        ∃ minimum, TariffEngine.rate env.clock snapshot (floorInput line env.now) = .ok minimum ∧
          minimum.totalMinor ≤ budget := by
  unfold affordable
  rw [bind_ok_iff]
  constructor
  · rintro ⟨chosen, selected, success⟩
    split at success
    · contradiction
    · rename_i positive
      obtain ⟨minimum, floor, covered⟩ := bind_ok_iff.mp success
      split at covered
      · contradiction
      · rename_i below
        cases covered
        exact ⟨selected, Int.not_le.mp positive, minimum, floor, Int.not_lt.mp below⟩
  · rintro ⟨selected, positive, minimum, floor, covered⟩
    refine ⟨budget, selected, ?_⟩
    rw [if_neg (Int.not_le.mpr positive), bind_ok_iff]
    exact ⟨minimum, floor, if_neg (Int.not_lt.mpr covered)⟩

theorem offer_line {code : String} {pricingVersion : Nat} {offered : Offer}
    (success : offer env code pricingVersion = .ok offered) :
    offered.version ∈ env.tariffVersions ∧ prepaidLine offered.version = some offered.line := by
  unfold offer at success
  simp only [bind_ok_iff, required_iff] at success
  obtain ⟨target, -, connector, -, version, published, success⟩ := success
  split at success
  · contradiction
  · simp only [bind_ok_iff, required_iff] at success
    obtain ⟨line, simple, success⟩ := success
    split at success
    · contradiction
    · cases success
      exact ⟨TariffSelector.select_mem published, simple⟩

theorem prepare_accepts {accounts : AccountOf} {subject code : String}
    {accountId vehicleId : Option String} {requestedBudget : Option Int} {pricingVersion : Nat}
    {s s' : Store} {prepared : PreparedQuote}
    (success : Returns (prepare env accounts subject code accountId vehicleId requestedBudget pricingVersion)
      s prepared s') :
    ∃ quote line, s'.quotes.get? prepared.id = some quote ∧ quote.budgetMinor = prepared.amountMinor ∧
      Accepted env quote.tariff line quote.budgetMinor := by
  unfold prepare at success
  simp only [returns_bind, returns_throwIf, returns_read, returns_lift, returns_write, returns_pure] at success
  obtain ⟨account, _, -, _, _, -, _, _, -, offered, _, ⟨offers, -⟩, available, _, -, budget, _, ⟨afford, -⟩,
    id, _, ⟨rfl, rfl⟩, _, t, written, rfl, rfl⟩ := success
  obtain ⟨published, simple⟩ := offer_line offers
  obtain ⟨plain, priced⟩ := prepaidLine_plain simple env offered.connector
  obtain ⟨chosen, positive, floor⟩ := affordable_iff.mp afford
  have inVersion : offered.line ∈ offered.version.components := by
    have listed : offered.version.components = [offered.line] := plain.components
    rw [listed]
    exact List.mem_singleton_self _
  have accepted : Accepted env (quotedSnapshot env offered.version offered.connector) offered.line budget :=
    ⟨plain, priced, rfl, ⟨offered.version, published, inVersion⟩, positive,
      (ChargingBudgets.select_within chosen).2, floor⟩
  rw [written]
  exact ⟨quoteRow env subject vehicleId account offered budget, offered.line, Table.get?_create_self _ _, rfl,
    accepted⟩

end CustomerCharging
end VtsaCsms.Charging
