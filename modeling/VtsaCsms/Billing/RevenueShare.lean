import Mathlib.Algebra.Order.Group.Unbundled.Abs
import VtsaCsms.Billing.Invoices

/-!
# Revenue share

`Billing/Application/RevenueShareService.php`: an invoice's total is divided between the
platform, the operator and the site host, and posted from the gross revenue account.
-/
namespace VtsaCsms.Billing
open Foundation Foundation.Action DoubleEntryLedger

structure RevenueShareRule where
  tenantId : String
  operatorOrganizationId : String
  siteHostOrganizationId : Option String
  platformBasisPoints : Int
  operatorBasisPoints : Int
  siteHostBasisPoints : Int
  deriving DecidableEq, Repr

/-- What each party gets. -/
@[ext] structure Shares where
  platform : Int
  operator : Int
  siteHost : Int
  deriving DecidableEq, Repr

namespace RevenueShareService

def platformFee (invoice : LoadedInvoice) : Int :=
  (invoice.lines.map fun charge => (charge.bind RatedCharge.platformFeeMinor).getD 0).sum

/-- `intdiv($charging * $basisPoints, 10000)`: a product beyond 64 bits is a double, which
`intdiv` does not take. -/
def proportion (charging basisPoints : Int) : Except Throwable Int :=
  if phpIntMin ≤ charging * basisPoints ∧ charging * basisPoints ≤ phpIntMax then
    .ok ((charging * basisPoints).tdiv 10000)
  else .error ⟨.type, "intdiv(): Argument #1 ($num1) must be of type int, float given"⟩

def shares (invoice : LoadedInvoice) (rule : RevenueShareRule) : Except Throwable Shares := do
  if rule.platformBasisPoints + rule.operatorBasisPoints + rule.siteHostBasisPoints ≠ 10000 then
    throw (.invalidArgument "Revenue share basis points must total 10,000.")
  let total := invoice.totalMinor
  let fee := platformFee invoice
  if fee < 0 ∨ total < fee then
    throw (.invalidArgument "Platform fee evidence is outside the invoice total.")
  let charging := total - fee
  let platform ← proportion charging rule.platformBasisPoints
  let operator ← proportion charging rule.operatorBasisPoints
  return ⟨fee + platform, operator, total - (fee + platform) - operator⟩

/-- A part of nothing is not posted. -/
def credited (amount : Int) (code name type currency ownerType ownerId : String) :
    Action Ledger Throwable (List LedgerPosting) :=
  if 0 < amount then do
    let account ← account code name type currency (some ownerType) (some ownerId)
    pure [{ account, creditMinor := amount }]
  else pure []

def operatorCode (rule : RevenueShareRule) : String := "2100-OPERATOR-" ++ rule.operatorOrganizationId

def siteHostCode (organization : String) : String := "2200-SITE-HOST-" ++ organization

def siteHostCredited (amount : Int) (organization : Option String) (currency : String) :
    Action Ledger Throwable (List LedgerPosting) :=
  match organization with
  | some id =>
    credited amount (siteHostCode id) "Site-host revenue payable" "liability" currency "organization" id
  | none => do
    throwIf (0 < amount) (.invalidArgument "A site-host allocation requires a site-host organization.")
    pure []

def idempotencyKey (invoiceId ruleId : Nat) : String :=
  "revenue-share-" ++ keyText invoiceId ++ "-" ++ keyText ruleId

def allocate (invoiceId : Nat) (invoice : LoadedInvoice) (ruleId : Nat) (rule : RevenueShareRule) :
    Action Ledger Throwable Unit := do
  let parts ← lift (shares invoice rule)
  let gross ← account "4000-CHARGING-GROSS" "Gross charging revenue" "revenue" invoice.currency
  let platform ← credited parts.platform "4100-PLATFORM-FEE" "Platform fee revenue" "revenue"
    invoice.currency "platform" rule.tenantId
  let operator ← credited parts.operator (operatorCode rule) "Operator revenue payable" "liability"
    invoice.currency "organization" rule.operatorOrganizationId
  let siteHost ← siteHostCredited parts.siteHost rule.siteHostOrganizationId invoice.currency
  let _ ← post "invoice" (keyText invoiceId) "revenue_share_allocated" invoice.currency
    (idempotencyKey invoiceId ruleId)
    ({ account := gross, debitMinor := invoice.totalMinor } :: (platform ++ operator ++ siteHost))

/-! ### What each party gets -/

def charging (invoice : LoadedInvoice) : Int := invoice.totalMinor - platformFee invoice

end RevenueShareService

open RevenueShareService

/-- An invoice total of a bigint column and fee evidence within it. -/
structure LoadedInvoice.Accepted (invoice : LoadedInvoice) : Prop where
  positive : 0 < invoice.totalMinor
  stored : invoice.totalMinor ≤ phpIntMax
  fee : 0 ≤ platformFee invoice ∧ platformFee invoice ≤ invoice.totalMinor

/-- Only a party without a share may lack an organization. -/
structure RevenueShareRule.Accepted (rule : RevenueShareRule) : Prop where
  platform : 0 ≤ rule.platformBasisPoints
  operator : 0 ≤ rule.operatorBasisPoints
  siteHost : 0 ≤ rule.siteHostBasisPoints
  total : rule.platformBasisPoints + rule.operatorBasisPoints + rule.siteHostBasisPoints = 10000
  hosted : rule.siteHostBasisPoints ≠ 0 → rule.siteHostOrganizationId ≠ none

/-- The parties with a share. -/
def RevenueShareRule.parties (rule : RevenueShareRule) : Int :=
  (if 0 < rule.platformBasisPoints then 1 else 0) + (if 0 < rule.operatorBasisPoints then 1 else 0) +
    (if 0 < rule.siteHostBasisPoints then 1 else 0)

/-- A part is less than the number of parties away from `basisPoints` of the charging amount. -/
def Proportional (invoice : LoadedInvoice) (rule : RevenueShareRule) (part basisPoints : Int) : Prop :=
  |10000 * part - charging invoice * basisPoints| < 10000 * rule.parties

structure FairShares (invoice : LoadedInvoice) (rule : RevenueShareRule) (parts : Shares) : Prop where
  total : parts.platform + parts.operator + parts.siteHost = invoice.totalMinor
  platform : Proportional invoice rule (parts.platform - platformFee invoice) rule.platformBasisPoints
  operator : Proportional invoice rule parts.operator rule.operatorBasisPoints
  siteHost : Proportional invoice rule parts.siteHost rule.siteHostBasisPoints
  noPlatform : rule.platformBasisPoints = 0 → parts.platform = platformFee invoice
  noOperator : rule.operatorBasisPoints = 0 → parts.operator = 0
  noSiteHost : rule.siteHostBasisPoints = 0 → parts.siteHost = 0

namespace RevenueShareService

/-- The products of the division stay within 64 bits. -/
def Fits (invoice : LoadedInvoice) (rule : RevenueShareRule) : Prop :=
  charging invoice * rule.platformBasisPoints ≤ phpIntMax ∧
    charging invoice * rule.operatorBasisPoints ≤ phpIntMax
  deriving Decidable

/-- The remainder of the division is nothing or goes to a site host with a share. -/
def RemainderOwned (invoice : LoadedInvoice) (rule : RevenueShareRule) : Prop :=
  rule.siteHostBasisPoints ≠ 0 ∨ charging invoice * rule.platformBasisPoints % 10000 = 0
  deriving Decidable

/-- The parts as the service divides them. -/
def division (invoice : LoadedInvoice) (rule : RevenueShareRule) : Shares :=
  let platform := platformFee invoice + charging invoice * rule.platformBasisPoints / 10000
  let operator := charging invoice * rule.operatorBasisPoints / 10000
  ⟨platform, operator, invoice.totalMinor - platform - operator⟩

section Division
variable {invoice : LoadedInvoice} {rule : RevenueShareRule} (invoiced : invoice.Accepted)
  (ruled : rule.Accepted)
include invoiced ruled

theorem products : 0 ≤ charging invoice * rule.platformBasisPoints ∧
    0 ≤ charging invoice * rule.operatorBasisPoints ∧
    0 ≤ charging invoice * rule.siteHostBasisPoints ∧
    charging invoice * rule.platformBasisPoints + charging invoice * rule.operatorBasisPoints +
      charging invoice * rule.siteHostBasisPoints = 10000 * charging invoice := by
  have nonneg : 0 ≤ charging invoice := by
    unfold charging
    have := invoiced.fee
    omega
  refine ⟨Int.mul_nonneg nonneg ruled.platform, Int.mul_nonneg nonneg ruled.operator,
    Int.mul_nonneg nonneg ruled.siteHost, ?_⟩
  rw [← Int.mul_add, ← Int.mul_add, ruled.total, Int.mul_comm]

theorem shares_ok_iff (parts : Shares) :
    shares invoice rule = .ok parts ↔ Fits invoice rule ∧ parts = division invoice rule := by
  obtain ⟨platform, operator, siteHost, sum⟩ := products invoiced ruled
  have low : phpIntMin ≤ 0 := by decide
  have total := ruled.total
  have fee := invoiced.fee
  unfold shares
  rw [if_neg (by omega), if_neg (by omega)]
  show (proportion (charging invoice) rule.platformBasisPoints >>= fun platform =>
    proportion (charging invoice) rule.operatorBasisPoints >>= fun operator => _) = _ ↔ _
  unfold Fits proportion
  by_cases first : charging invoice * rule.platformBasisPoints ≤ phpIntMax
  · rw [if_pos ⟨by omega, first⟩]
    by_cases second : charging invoice * rule.operatorBasisPoints ≤ phpIntMax
    · rw [if_pos ⟨by omega, second⟩]
      simp only [bind, Except.bind, pure, Except.pure, Except.ok.injEq, first, second, and_self, true_and]
      rw [Int.tdiv_eq_ediv_of_nonneg platform, Int.tdiv_eq_ediv_of_nonneg operator, eq_comm]
      rfl
    · rw [if_neg fun both => second both.2]
      simp [bind, Except.bind, second]
  · rw [if_neg fun both => first both.2]
    simp [bind, Except.bind, first]

theorem division_nonneg : 0 ≤ (division invoice rule).platform ∧ 0 ≤ (division invoice rule).operator ∧
    0 ≤ (division invoice rule).siteHost ∧
    (division invoice rule).platform + (division invoice rule).operator + (division invoice rule).siteHost =
      invoice.totalMinor := by
  obtain ⟨platform, operator, siteHost, sum⟩ := products invoiced ruled
  have fee := invoiced.fee
  unfold division
  unfold charging at *
  simp only
  omega

theorem division_fair_iff : FairShares invoice rule (division invoice rule) ↔ RemainderOwned invoice rule := by
  obtain ⟨platform, operator, siteHost, sum⟩ := products invoiced ruled
  have total := (division_nonneg invoiced ruled).2.2.2
  have fee := invoiced.fee
  have bps := ruled.total
  have zero : ∀ b, b = 0 → charging invoice * b = 0 := by
    rintro b rfl
    exact Int.mul_zero _
  have p₀ := zero rule.platformBasisPoints
  have o₀ := zero rule.operatorBasisPoints
  have h₀ := zero rule.siteHostBasisPoints
  have pos := ruled.platform
  have oos := ruled.operator
  have hos := ruled.siteHost
  have host : (division invoice rule).siteHost = charging invoice -
      charging invoice * rule.platformBasisPoints / 10000 -
        charging invoice * rule.operatorBasisPoints / 10000 := by
    unfold division charging
    simp only
    omega
  unfold RemainderOwned
  constructor
  · intro fair
    by_contra unowned
    push Not at unowned
    have none' := fair.noSiteHost unowned.1
    have h := h₀ unowned.1
    omega
  · intro owned
    refine ⟨total, ?_, ?_, ?_, ?_, ?_, ?_⟩
    · unfold Proportional RevenueShareRule.parties division
      simp only
      rw [abs_lt]
      split <;> split <;> split <;> constructor <;> omega
    · unfold Proportional RevenueShareRule.parties division
      simp only
      rw [abs_lt]
      split <;> split <;> split <;> constructor <;> omega
    · unfold Proportional RevenueShareRule.parties
      rw [host, abs_lt]
      split <;> split <;> split <;> constructor <;> omega
    · intro none'
      have p := p₀ none'
      unfold division
      simp only
      omega
    · intro none'
      have o := o₀ none'
      unfold division
      simp only
      omega
    · intro none'
      have h := h₀ none'
      rw [host]
      omega

end Division

end RevenueShareService
end VtsaCsms.Billing
