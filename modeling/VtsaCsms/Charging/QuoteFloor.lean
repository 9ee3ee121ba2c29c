import VtsaCsms.Charging.Quotes
import VtsaCsms.Charging.System

/-!
# The floor of a quote

An accepted quote is checked against the rating of no use at all, or of one session. The first
unit of energy or time is rated with its own price, and with the platform fee.
-/
namespace VtsaCsms.Charging
open Foundation Foundation.Action Assets Tariffs Tariffs.TariffEngine Billing

/-- What the columns and checks of the tariff, fee and budget tables promise. -/
structure Environment.Stored (env : Environment) : Prop where
  price : ∀ v ∈ env.tariffVersions, ∀ line ∈ v.components, line.priceMinor ≤ phpIntMax
  fee : 0 ≤ env.platformFee.amountMinor ∧ env.platformFee.amountMinor ≤ 100000000
  feeTax : 0 ≤ env.platformFee.taxRateBasisPoints.getD 0 ∧ env.platformFee.taxRateBasisPoints.getD 0 ≤ 10000
  budget : env.budgetPolicy.maximumMinor ≤ phpIntMax

namespace CustomerCharging

/-- The least use that is billed: 1 Wh, a second of energy flow, one session. -/
def smallestUse (dimension : TariffDimension) (startedAt : Instant) : RatingInput :=
  match dimension with
  | .time => { energyWh := 0, durationSeconds := 1, parkingSeconds := 0, idleSeconds := 0, startedAt
               energyFlowSeconds := 1 }
  | _ => { energyWh := 1, durationSeconds := 0, parkingSeconds := 0, idleSeconds := 0, startedAt }

def feeOn (snapshot : TariffSnapshot) (total : Int) : Int :=
  match snapshot.platformFee with
  | some fee => if fee.enabled = true ∧ fee.waiverThresholdMinor ≤ total then fee.amountMinor else 0
  | none => 0

def firstUnit (line : TariffComponent) : Int := halfUp line.priceMinor line.unitQuantity

/-- The first unit, with its tax and the platform fee, is within the budget. -/
structure FirstUnitCovered (snapshot : TariffSnapshot) (line : TariffComponent) (budget : Int) : Prop where
  product : firstUnit line * snapshot.taxRateBasisPoints.getD 0 ≤ phpIntMax
  total : chargeOf snapshot (firstUnit line) + feeOn snapshot (chargeOf snapshot (firstUnit line)) ≤ budget

section Floor
variable {env : Environment} {snapshot : TariffSnapshot} {line : TariffComponent} {budget : Int}
  (calendar : Calendar env.clock) (accepted : Accepted env snapshot line budget)
include calendar accepted

theorem zone_known (startedAt : Instant) : ∃ now, env.clock snapshot.timezone startedAt = some now := by
  obtain ⟨minimum, success, -⟩ := accepted.floor
  cases now : env.clock snapshot.timezone env.now with
  | some => exact calendar.known _ _ startedAt _ now
  | none =>
    unfold rate at success
    simp only [accepted.plain.selected, floorInput, now, bind_ok_iff, Bool.true_eq_false, if_false] at success
    obtain ⟨_, _, _, unknown, _⟩ := success
    contradiction

theorem session_covered (session : line.dimension = .session) (startedAt : Instant) :
    ∃ r, rate env.clock snapshot (smallestUse line.dimension startedAt) = .ok r ∧ r.totalMinor ≤ budget := by
  obtain ⟨minimum, success, within⟩ := accepted.floor
  have below : (smallestUse line.dimension startedAt).Below snapshot line.dimension
      (floorInput line env.now) := by
    rw [session]
    have valid : (smallestUse .session startedAt).Valid := by constructor <;> simp [smallestUse]
    refine ⟨valid, Int.le_refl 1, ?_⟩
    intro _
    exact Or.inl (by simp [floorInput, session])
  obtain ⟨r, rated, cheaper⟩ := rate_covers calendar accepted.plain below minimum success
  exact ⟨r, rated, Int.le_trans cheaper.total within⟩

theorem floor_rateable (usage : line.dimension ≠ .session) : Rateable snapshot line 0 := by
  obtain ⟨minimum, success, -⟩ := accepted.floor
  obtain ⟨now, known⟩ := zone_known calendar accepted env.now
  rw [rate_plain calendar accepted.plain (floorInput line env.now) known] at success
  obtain ⟨_, -, rest⟩ := bind_ok_iff.mp success
  obtain ⟨rated, first, -⟩ := bind_ok_iff.mp rest
  have nothing : quantity snapshot (floorInput line env.now) line.dimension = 0 := by
    have priced := accepted.priced
    simp only [List.mem_cons, List.not_mem_nil, or_false] at priced
    rcases priced with energy | time | session
    · rw [energy]
      simp [quantity, floorInput, energy]
    · rw [time]
      unfold quantity floorInput
      cases snapshot.timeBasis <;> rfl
    · exact absurd session usage
  rw [nothing] at first
  exact (rateLine_iff.mp first).1

theorem rate_first (usage : line.dimension ≠ .session) (startedAt : Instant) :
    rate env.clock snapshot (smallestUse line.dimension startedAt) = (do
      let rated ← rateLine snapshot line 1
      withPlatformFee snapshot (smallestUse line.dimension startedAt) rated) := by
  obtain ⟨now, known⟩ := zone_known calendar accepted startedAt
  have start : (smallestUse line.dimension startedAt).startedAt = startedAt := by
    unfold smallestUse
    cases line.dimension <;> rfl
  rw [rate_plain calendar accepted.plain (smallestUse line.dimension startedAt) (by rw [start]; exact known)]
  have priced := accepted.priced
  simp only [List.mem_cons, List.not_mem_nil, or_false] at priced
  have unit : quantity snapshot (smallestUse line.dimension startedAt) line.dimension = 1 := by
    rcases priced with energy | time | session
    · rw [energy]
      rfl
    · rw [time]
      unfold quantity smallestUse
      cases snapshot.timeBasis <;> rfl
    · exact absurd session usage
  have valid : assertNonNegative (smallestUse line.dimension startedAt) = .ok () := by
    unfold smallestUse
    cases line.dimension <;> rfl
  rw [unit, valid]
  rfl

end Floor

theorem chargedFee_smallest (snapshot : TariffSnapshot) (dimension : TariffDimension) (startedAt : Instant)
    (total : Int) (fee : PlatformFee) :
    chargedFee snapshot (smallestUse dimension startedAt) total = some fee ↔
      snapshot.platformFee = some fee ∧ fee.enabled = true ∧ fee.waiverThresholdMinor ≤ total := by
  have used : (decide (0 < (smallestUse dimension startedAt).energyWh) ||
      decide (0 < (smallestUse dimension startedAt).energyFlowSeconds)) = true := by
    unfold smallestUse
    cases dimension <;> rfl
  unfold chargedFee
  rw [Option.filter_eq_some_iff, used]
  simp

section Usage
variable {env : Environment} {snapshot : TariffSnapshot} {line : TariffComponent} {budget : Int}

theorem first_total {startedAt : Instant} {r : RatingResult}
    (success : withPlatformFee snapshot (smallestUse line.dimension startedAt) (lineRating snapshot line 1) =
      .ok r) :
    r.totalMinor = chargeOf snapshot (firstUnit line) + feeOn snapshot (chargeOf snapshot (firstUnit line)) := by
  have net : (lineRating snapshot line 1).totalMinor = chargeOf snapshot (firstUnit line) := by
    unfold lineRating firstUnit
    rw [Int.mul_one]
  unfold withPlatformFee at success
  rw [net] at success
  cases charged : chargedFee snapshot (smallestUse line.dimension startedAt)
      (chargeOf snapshot (firstUnit line)) with
  | some fee =>
    rw [charged] at success
    obtain ⟨present, enabled, reached⟩ := (chargedFee_smallest _ _ _ _ _).mp charged
    rw [addPlatformFee_total success, net]
    simp [feeOn, present, enabled, reached]
  | none =>
    rw [charged] at success
    cases success
    have free : feeOn snapshot (chargeOf snapshot (firstUnit line)) = 0 := by
      unfold feeOn
      cases present : snapshot.platformFee with
      | none => rfl
      | some =>
        dsimp only
        rw [if_neg]
        intro ⟨enabled, reached⟩
        have charged' := (chargedFee_smallest _ line.dimension startedAt _ _).mpr ⟨present, enabled, reached⟩
        rw [charged] at charged'
        contradiction
    rw [net, free, Int.add_zero]

theorem feeOn_nonneg (stored : env.Stored) (fee : snapshot.platformFee = some env.platformFee) (total : Int) :
    0 ≤ feeOn snapshot total := by
  unfold feeOn
  rw [fee]
  dsimp only
  split
  · exact stored.fee.1
  · exact Int.le_refl 0

theorem first_unit_rateable (stored : env.Stored) (accepted : Accepted env snapshot line budget)
    (able : Rateable snapshot line 0) (covered : FirstUnitCovered snapshot line budget) :
    Rateable snapshot line 1 := by
  obtain ⟨v, published, listed⟩ := accepted.version
  have price := stored.price v published line listed
  have fee := feeOn_nonneg stored accepted.fee (chargeOf snapshot (firstUnit line))
  have total := covered.total
  have within := Int.le_trans accepted.within stored.budget
  refine ⟨able.price, by decide, able.unit, able.rate, ?_, ?_, ?_⟩
  · rw [Int.mul_one]
    exact price
  · rw [Int.mul_one]
    exact covered.product
  · rw [Int.mul_one]
    change chargeOf snapshot (firstUnit line) ≤ phpIntMax
    omega

theorem first_unit_iff (calendar : Calendar env.clock) (stored : env.Stored)
    (accepted : Accepted env snapshot line budget) (usage : line.dimension ≠ .session) (startedAt : Instant) :
    (∃ r, rate env.clock snapshot (smallestUse line.dimension startedAt) = .ok r ∧ r.totalMinor ≤ budget) ↔
      FirstUnitCovered snapshot line budget := by
  have able := floor_rateable calendar accepted usage
  rw [rate_first calendar accepted usage startedAt]
  constructor
  · rintro ⟨r, success, within⟩
    obtain ⟨rated, line', fee⟩ := bind_ok_iff.mp success
    obtain ⟨able', rfl⟩ := rateLine_iff.mp line'
    have product := able'.taxed
    rw [Int.mul_one] at product
    rw [first_total fee] at within
    exact ⟨product, within⟩
  · intro covered
    have able' := first_unit_rateable stored accepted able covered
    have net : 0 ≤ firstUnit line := halfUp_nonneg able.unit able.price
    obtain ⟨taxed, part, least⟩ := taxOn_within snapshot able.rate net
    have total : (lineRating snapshot line 1).totalMinor = chargeOf snapshot (firstUnit line) := by
      unfold lineRating firstUnit
      rw [Int.mul_one]
    have charge : ∃ r, withPlatformFee snapshot (smallestUse line.dimension startedAt)
        (lineRating snapshot line 1) = .ok r := by
      unfold withPlatformFee
      cases charged : chargedFee snapshot (smallestUse line.dimension startedAt)
          (lineRating snapshot line 1).totalMinor with
      | none => exact ⟨_, rfl⟩
      | some fee =>
        obtain ⟨present, enabled, reached⟩ := (chargedFee_smallest _ _ _ _ _).mp charged
        have same := accepted.fee
        rw [present] at same
        cases same
        rw [total] at reached
        have within := Int.le_trans covered.total (Int.le_trans accepted.within stored.budget)
        simp only [feeOn, present, enabled, reached, and_self, if_true] at within
        refine addPlatformFee_returns snapshot stored.fee.1 stored.feeTax.1 ?_ ?_ ?_ ?_
        · have most := Int.mul_le_mul stored.fee.2 stored.feeTax.2 stored.feeTax.1 (by decide)
          exact Int.le_trans most (by decide)
        · rw [total]
          simpa [lineRating, firstUnit] using least
        · rw [total]
          simpa [lineRating, firstUnit] using part
        · rw [total]
          exact within
    obtain ⟨r, success⟩ := charge
    refine ⟨r, bind_ok_iff.mpr ⟨_, rateLine_iff.mpr ⟨able', rfl⟩, success⟩, ?_⟩
    rw [first_total success]
    exact covered.total

end Usage

/-- Who prepares a quote, and for which code. -/
structure Request where
  accounts : AccountOf
  subject : String
  code : String
  accountId : Option String := none
  vehicleId : Option String := none
  requestedBudget : Option Int := none
  pricingVersion : Nat := 1

def Request.prepare (q : Request) (env : Environment) : Charge PreparedQuote :=
  CustomerCharging.prepare env q.accounts q.subject q.code q.accountId q.vehicleId q.requestedBudget
    q.pricingVersion

/-- The smallest use of an accepted quote is rated within its budget if and only if the quote is
priced per session, or its first unit with the platform fee is covered. -/
theorem smallest_use_covered_iff {env : Environment} (calendar : Calendar env.clock) (stored : env.Stored)
    {q : Request} {s s' : Store} {prepared : PreparedQuote} (success : Returns (q.prepare env) s prepared s')
    (startedAt : Instant) :
    ∃ quote line, s'.quotes.get? prepared.id = some quote ∧ quote.tariff.components = [line] ∧
      ((∃ r, rate env.clock quote.tariff (smallestUse line.dimension startedAt) = .ok r ∧
          r.totalMinor ≤ quote.budgetMinor) ↔
        line.dimension = .session ∨ FirstUnitCovered quote.tariff line quote.budgetMinor) := by
  obtain ⟨quote, line, row, -, accepted⟩ := prepare_accepts success
  refine ⟨quote, line, row, accepted.plain.components, ?_⟩
  by_cases session : line.dimension = .session
  · have covered := session_covered calendar accepted session startedAt
    exact ⟨fun _ => Or.inl session, fun _ => covered⟩
  · have iff := first_unit_iff calendar stored accepted session startedAt
    constructor
    · intro within
      exact Or.inr (iff.mp within)
    · rintro (priced | covered)
      · exact absurd priced session
      · exact iff.mpr covered

end CustomerCharging

/-! ### Quotes of the deployment -/

namespace Deployment

/-- A platform fee of 500 on every use, and the local times of the whole Sunday. -/
def feeEnvironment : Environment :=
  { environment "2.0.1" 1 0 with
    platformFee := ⟨some "F1", true, 500, 0, some 0, some "Platform"⟩
    clock := fun _ t =>
      some ⟨7, ((minutes.find? fun m => minute m.2 = t).map Prod.fst).getD "12:00:00"⟩ }

theorem feeEnvironment_calendar : Calendar feeEnvironment.clock where
  known := fun _ _ _ _ _ => ⟨_, rfl⟩
  weekday := fun _ _ now known => by
    cases known
    change 1 ≤ 7 ∧ 7 ≤ 7
    decide

theorem feeEnvironment_stored : feeEnvironment.Stored where
  price := by decide
  fee := by decide
  feeTax := by decide
  budget := by decide

def quoteRequest : CustomerCharging.Request where
  accounts := fun subject _ => .ok ⟨subject, true⟩
  subject := "driver"
  code := "C1"
  pricingVersion := 2

def funded : Store := Step.run [(feeEnvironment, .credit "driver" "live" "R1" 100 none)] Store.empty

end Deployment

namespace CustomerCharging
open Deployment

set_option maxRecDepth 20000 in
theorem smallest_use_covered_iff_funded :
    ∃ prepared s', Returns (quoteRequest.prepare feeEnvironment) funded prepared s' ∧
      ∃ quote line, s'.quotes.get? prepared.id = some quote ∧ quote.tariff.components = [line] ∧
        ((∃ r, rate feeEnvironment.clock quote.tariff (smallestUse line.dimension (minute 2)) = .ok r ∧
            r.totalMinor ≤ quote.budgetMinor) ↔
          line.dimension = .session ∨ FirstUnitCovered quote.tariff line quote.budgetMinor) := by
  have accepted : (quoteRequest.prepare feeEnvironment funded).1.toBool = true := by decide +kernel
  rcases run : quoteRequest.prepare feeEnvironment funded with ⟨_ | prepared, s'⟩
  · rw [run] at accepted
    contradiction
  · exact ⟨prepared, s', run, smallest_use_covered_iff feeEnvironment_calendar feeEnvironment_stored run _⟩

set_option maxRecDepth 20000 in
/-- The quote reserves 100, and its first watt hour costs 501. -/
theorem first_unit_above_budget :
    ∃ prepared s', Returns (quoteRequest.prepare feeEnvironment) funded prepared s' ∧
      ∃ quote line, s'.quotes.get? prepared.id = some quote ∧ quote.tariff.components = [line] ∧
        ¬ ∃ r, rate feeEnvironment.clock quote.tariff (smallestUse line.dimension (minute 2)) = .ok r ∧
          r.totalMinor ≤ quote.budgetMinor := by
  have facts : ((quoteRequest.prepare feeEnvironment funded).1.toOption.any fun prepared =>
      ((quoteRequest.prepare feeEnvironment funded).2.quotes.get? prepared.id).any fun quote =>
        quote.tariff.components.length = 1 && quote.tariff.components.all fun line =>
          (rate feeEnvironment.clock quote.tariff (smallestUse line.dimension (minute 2))).toOption.any fun r =>
            quote.budgetMinor < r.totalMinor) = true := by decide +kernel
  rcases run : quoteRequest.prepare feeEnvironment funded with ⟨_ | prepared, s'⟩
  · rw [run] at facts
    exact absurd facts Bool.false_ne_true
  · rw [run] at facts
    obtain ⟨quote, stored, facts⟩ := (Option.any_eq_true _ (s'.quotes.get? prepared.id)).mp facts
    obtain ⟨single, above⟩ := Bool.and_eq_true_iff.mp facts
    obtain ⟨line, listed⟩ := List.length_eq_one_iff.mp (of_decide_eq_true single)
    refine ⟨prepared, s', run, quote, line, stored, listed, ?_⟩
    rintro ⟨r, rated, within⟩
    have dear := List.all_eq_true.mp above line (by rw [listed]; exact List.mem_singleton_self line)
    rw [rated] at dear
    have most : quote.budgetMinor < r.totalMinor := of_decide_eq_true dear
    omega

end CustomerCharging
end VtsaCsms.Charging
