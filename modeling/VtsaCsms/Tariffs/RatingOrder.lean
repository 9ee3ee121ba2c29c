import Mathlib.Tactic.IntervalCases
import VtsaCsms.Foundation.Amounts
import VtsaCsms.Tariffs.TariffEngine

/-!
# The order of ratings

A tariff of one all-day line, without discounts and fee limits, rates more use at no less: in
the rounded amount, in its tax and across the threshold of the platform fee.
-/
namespace VtsaCsms.Tariffs
open Foundation

/-- The time zone database: a zone is known or not, and a local time has an ISO weekday. -/
structure Calendar (clock : LocalClock) : Prop where
  known : ∀ zone t t' now, clock zone t = some now → ∃ later, clock zone t' = some later
  weekday : ∀ zone t now, clock zone t = some now → 1 ≤ now.dayOfWeekIso ∧ now.dayOfWeekIso ≤ 7

/-- One line that applies at every hour, and nothing that bends its amount. -/
structure TariffSnapshot.Plain (snapshot : TariffSnapshot) (line : TariffComponent) : Prop where
  selected : snapshot.selected = true
  components : snapshot.components = [line]
  discounts : snapshot.discounts = []
  minimum : snapshot.minimumFeeMinor = none
  maximum : snapshot.maximumFeeMinor = none
  everyDay : line.dayOfWeekMask = 127
  starts : line.startsAtLocal = none
  ends : line.endsAtLocal = none

/-- Measurements the engine takes. -/
structure RatingInput.Valid (input : RatingInput) : Prop where
  energy : 0 ≤ input.energyWh
  duration : 0 ≤ input.durationSeconds
  parking : 0 ≤ input.parkingSeconds
  idle : 0 ≤ input.idleSeconds
  energyFlow : 0 ≤ input.energyFlowSeconds

/-- Any use of the connector, as the platform fee sees it. -/
def RatingInput.Used (input : RatingInput) : Prop := 0 < input.energyWh ∨ 0 < input.energyFlowSeconds

/-- The first use is measured at no more by the priced dimension, and is a use only if the other is. -/
structure RatingInput.Below (snapshot : TariffSnapshot) (dimension : TariffDimension)
    (later input : RatingInput) : Prop where
  valid : later.Valid
  measured : TariffEngine.quantity snapshot later dimension ≤ TariffEngine.quantity snapshot input dimension
  used : later.Used → input.Used

/-- No amount of the first result exceeds the other's. -/
structure RatingResult.Cheaper (r r' : RatingResult) : Prop where
  subtotal : r.subtotalMinor ≤ r'.subtotalMinor
  tax : r.taxMinor ≤ r'.taxMinor
  total : r.totalMinor ≤ r'.totalMinor

namespace TariffEngine

/-! ### Products and sums -/

theorem multiplyAndDivide_iff (left right denominator amount : Int) :
    multiplyAndDivide left right denominator = .ok amount ↔
      0 ≤ left ∧ 0 ≤ right ∧ 0 < denominator ∧ left * right ≤ phpIntMax ∧
        amount = halfUp (left * right) denominator := by
  unfold multiplyAndDivide
  by_cases negative : left < 0 ∨ right < 0 ∨ denominator ≤ 0
  · rw [if_pos negative]
    constructor
    · intro success
      contradiction
    · intro ⟨_, _, _, _, _⟩
      omega
  · rw [if_neg negative]
    -- the quotient is compared, since the product might leave the integers
    have range : (right ≠ 0 ∧ phpIntMax / right < left) ↔ ¬ left * right ≤ phpIntMax := by
      rcases Int.lt_or_eq_of_le (show 0 ≤ right by omega) with positive | zero
      · have fits := @Int.le_ediv_iff_mul_le left phpIntMax right positive
        rw [← fits]
        omega
      · rw [← zero, Int.mul_zero]
        simp [phpIntMax]
    by_cases wide : right ≠ 0 ∧ phpIntMax / right < left
    · rw [if_pos wide]
      constructor
      · intro success
        contradiction
      · intro ⟨_, _, _, fits, _⟩
        exact absurd fits (range.mp wide)
    · rw [if_neg wide]
      have fits : left * right ≤ phpIntMax := by
        by_contra unfit
        exact wide (range.mpr unfit)
      change Except.ok (halfUp (left * right) denominator) = Except.ok amount ↔ _
      rw [Except.ok.injEq]
      constructor
      · intro same
        exact ⟨by omega, by omega, by omega, fits, same.symm⟩
      · intro ⟨_, _, _, _, same⟩
        exact same.symm

theorem safeAdd_iff (left right sum : Int) :
    safeAdd left right = .ok sum ↔ left + right ≤ phpIntMax ∧ sum = left + right := by
  unfold safeAdd
  by_cases wide : phpIntMax - left < right
  · rw [if_pos wide]
    constructor
    · intro success
      contradiction
    · intro ⟨range, _⟩
      omega
  · rw [if_neg wide, Except.ok.injEq]
    constructor
    · intro same
      exact ⟨by omega, same.symm⟩
    · intro ⟨_, same⟩
      exact same.symm

theorem multiplyAndDivide_covers {left left' right right' : Int} (denominator : Int)
    (lower : 0 ≤ left' ∧ left' ≤ left) (lower' : 0 ≤ right' ∧ right' ≤ right) :
    Covers (fun a' a => 0 ≤ a' ∧ a' ≤ a) (multiplyAndDivide left' right' denominator)
      (multiplyAndDivide left right denominator) := by
  intro amount success
  obtain ⟨_, nonneg, positive, range, rfl⟩ := (multiplyAndDivide_iff _ _ _ _).mp success
  have less : left' * right' ≤ left * right := Int.mul_le_mul lower.2 lower'.2 lower'.1 (by omega)
  have product : 0 ≤ left' * right' := Int.mul_nonneg lower.1 lower'.1
  exact ⟨_, (multiplyAndDivide_iff _ _ _ _).mpr ⟨lower.1, lower'.1, positive, by omega, rfl⟩,
    halfUp_nonneg positive product, halfUp_mono positive less⟩

theorem safeAdd_covers {left left' right right' : Int} (less : left' ≤ left) (less' : right' ≤ right) :
    Covers (· ≤ ·) (safeAdd left' right') (safeAdd left right) := by
  intro sum success
  obtain ⟨range, rfl⟩ := (safeAdd_iff _ _ _).mp success
  exact ⟨_, (safeAdd_iff _ _ _).mpr ⟨by omega, rfl⟩, by omega⟩

def taxOn (snapshot : TariffSnapshot) (net : Int) : Int :=
  let rate := snapshot.taxRateBasisPoints.getD 0
  match snapshot.taxTreatment with
  | .exclusive => halfUp (net * rate) 10000
  | .inclusive => halfUp (net * rate) (10000 + rate)

variable {net net' : Int} {rated : RatingResult} {fee : PlatformFee}

theorem tax_iff (snapshot : TariffSnapshot) (nonneg : 0 ≤ net) (amount : Int) :
    tax snapshot net = .ok amount ↔
      0 ≤ snapshot.taxRateBasisPoints.getD 0 ∧ net * snapshot.taxRateBasisPoints.getD 0 ≤ phpIntMax ∧
        amount = taxOn snapshot net := by
  unfold tax taxOn
  generalize snapshot.taxRateBasisPoints.getD 0 = rate
  cases snapshot.taxTreatment with
  | exclusive =>
    dsimp only
    rw [multiplyAndDivide_iff]
    constructor
    · intro ⟨_, low, _, range, same⟩
      exact ⟨low, range, same⟩
    · intro ⟨low, range, same⟩
      exact ⟨nonneg, low, by omega, range, same⟩
  | inclusive =>
    dsimp only
    by_cases free : rate = 0
    · have untaxed : halfUp (net * 0) (10000 + 0) = 0 := by
        rw [Int.mul_zero]
        rfl
      rw [if_pos free, free, untaxed, Except.ok.injEq, Int.mul_zero]
      constructor
      · intro same
        exact ⟨Int.le_refl 0, by decide, same.symm⟩
      · intro ⟨_, _, same⟩
        exact same.symm
    · rw [if_neg free, multiplyAndDivide_iff]
      constructor
      · intro ⟨_, low, _, range, same⟩
        exact ⟨low, range, same⟩
      · intro ⟨low, range, same⟩
        exact ⟨nonneg, low, by omega, range, same⟩

theorem taxOn_mono (snapshot : TariffSnapshot) (rate : 0 ≤ snapshot.taxRateBasisPoints.getD 0)
    (less : net' ≤ net) : taxOn snapshot net' ≤ taxOn snapshot net := by
  have product := Int.mul_le_mul_of_nonneg_right less rate
  unfold taxOn
  cases snapshot.taxTreatment with
  | exclusive => exact halfUp_mono (by omega) product
  | inclusive => exact halfUp_mono (by omega) product

theorem tax_covers (snapshot : TariffSnapshot) (lower : 0 ≤ net' ∧ net' ≤ net) :
    Covers (· ≤ ·) (tax snapshot net') (tax snapshot net) := by
  intro amount success
  obtain ⟨rate, range, rfl⟩ := (tax_iff snapshot (by omega) amount).mp success
  have product := Int.mul_le_mul_of_nonneg_right lower.2 rate
  exact ⟨_, (tax_iff snapshot lower.1 _).mpr ⟨rate, by omega, rfl⟩, taxOn_mono snapshot rate lower.2⟩

/-! ### A line, its tax and the platform fee -/

def withTax (snapshot : TariffSnapshot) (net taxMinor : Int) : Except Throwable Int :=
  if snapshot.taxTreatment = .exclusive then safeAdd net taxMinor else .ok net

/-- What is rated before the platform fee. -/
def rateLine (snapshot : TariffSnapshot) (line : TariffComponent) (measured : Int) :
    Except Throwable RatingResult := do
  let amount ← multiplyAndDivide line.priceMinor measured line.unitQuantity
  let subtotal ← safeAdd 0 amount
  let net := max 0 (subtotal - 0)
  let taxMinor ← tax snapshot net
  let total ← withTax snapshot net taxMinor
  pure { currency := snapshot.currency, subtotalMinor := subtotal, discountMinor := 0, taxMinor
         totalMinor := total
         lines := [{ dimension := line.dimension.value, quantity := measured
                     unitQuantity := line.unitQuantity, priceMinor := line.priceMinor
                     amountMinor := amount }]
         discounts := [] }

/-- The platform fee, where one is charged. -/
def withPlatformFee (snapshot : TariffSnapshot) (input : RatingInput) (rated : RatingResult) :
    Except Throwable RatingResult :=
  match chargedFee snapshot input rated.totalMinor with
  | none => .ok rated
  | some fee => addPlatformFee snapshot fee rated

/-- The total of a net amount. -/
def chargeOf (snapshot : TariffSnapshot) (net : Int) : Int :=
  if snapshot.taxTreatment = .exclusive then net + taxOn snapshot net else net

theorem taxOn_within (snapshot : TariffSnapshot) (rate : 0 ≤ snapshot.taxRateBasisPoints.getD 0)
    (nonneg : 0 ≤ net) :
    0 ≤ taxOn snapshot net ∧ taxOn snapshot net ≤ chargeOf snapshot net ∧ net ≤ chargeOf snapshot net := by
  have product := Int.mul_nonneg nonneg rate
  unfold chargeOf taxOn
  cases snapshot.taxTreatment with
  | exclusive =>
    have taxed : 0 ≤ halfUp (net * snapshot.taxRateBasisPoints.getD 0) 10000 := halfUp_nonneg (by omega) product
    simp only [if_true]
    omega
  | inclusive =>
    have taxed : 0 ≤ halfUp (net * snapshot.taxRateBasisPoints.getD 0)
        (10000 + snapshot.taxRateBasisPoints.getD 0) := halfUp_nonneg (by omega) product
    have part : halfUp (net * snapshot.taxRateBasisPoints.getD 0)
        (10000 + snapshot.taxRateBasisPoints.getD 0) ≤ net :=
      halfUp_le (by omega) (Int.mul_le_mul_of_nonneg_left (by omega) nonneg)
    simp only [reduceCtorEq, if_false]
    omega

/-- The rating of a line before the platform fee. -/
def lineRating (snapshot : TariffSnapshot) (line : TariffComponent) (measured : Int) : RatingResult :=
  let net := halfUp (line.priceMinor * measured) line.unitQuantity
  { currency := snapshot.currency, subtotalMinor := net, discountMinor := 0, taxMinor := taxOn snapshot net
    totalMinor := chargeOf snapshot net
    lines := [{ dimension := line.dimension.value, quantity := measured
                unitQuantity := line.unitQuantity, priceMinor := line.priceMinor, amountMinor := net }]
    discounts := [] }

/-- What the engine checks of a line. -/
structure Rateable (snapshot : TariffSnapshot) (line : TariffComponent) (measured : Int) : Prop where
  price : 0 ≤ line.priceMinor
  use : 0 ≤ measured
  unit : 0 < line.unitQuantity
  rate : 0 ≤ snapshot.taxRateBasisPoints.getD 0
  amount : line.priceMinor * measured ≤ phpIntMax
  taxed : halfUp (line.priceMinor * measured) line.unitQuantity * snapshot.taxRateBasisPoints.getD 0 ≤ phpIntMax
  total : chargeOf snapshot (halfUp (line.priceMinor * measured) line.unitQuantity) ≤ phpIntMax

theorem rateLine_iff {snapshot : TariffSnapshot} {line : TariffComponent} {measured : Int} :
    rateLine snapshot line measured = .ok rated ↔
      Rateable snapshot line measured ∧ rated = lineRating snapshot line measured := by
  have total : ∀ net taxMinor sum, withTax snapshot net taxMinor = .ok sum ↔
      (snapshot.taxTreatment = .exclusive → net + taxMinor ≤ phpIntMax) ∧
        sum = if snapshot.taxTreatment = .exclusive then net + taxMinor else net := by
    intro net taxMinor sum
    unfold withTax
    by_cases exclusive : snapshot.taxTreatment = .exclusive
    · simp only [exclusive, if_true, safeAdd_iff, true_implies]
    · simp only [exclusive, if_false, Except.ok.injEq, false_implies, true_and]
      exact eq_comm
  unfold rateLine
  simp only [bind_ok_iff, multiplyAndDivide_iff, safeAdd_iff, total, Int.zero_add, Int.sub_zero]
  constructor
  · rintro ⟨_, ⟨price, use, unit, amount, rfl⟩, _, ⟨range, rfl⟩, taxMinor, taxed, _, ⟨sum, rfl⟩, same⟩
    have net : 0 ≤ halfUp (line.priceMinor * measured) line.unitQuantity :=
      halfUp_nonneg unit (Int.mul_nonneg price use)
    rw [Int.max_eq_right net] at taxed sum same
    obtain ⟨rate, product, rfl⟩ := (tax_iff snapshot net _).mp taxed
    cases same
    refine ⟨⟨price, use, unit, rate, amount, product, ?_⟩, rfl⟩
    unfold chargeOf
    split
    · rename_i exclusive
      exact sum exclusive
    · exact range
  · rintro ⟨able, rfl⟩
    have net : 0 ≤ halfUp (line.priceMinor * measured) line.unitQuantity :=
      halfUp_nonneg able.unit (Int.mul_nonneg able.price able.use)
    have within := (taxOn_within snapshot able.rate net).2.2
    have range := able.total
    refine ⟨_, ⟨able.price, able.use, able.unit, able.amount, rfl⟩, _, ⟨by omega, rfl⟩, ?_⟩
    rw [Int.max_eq_right net]
    refine ⟨_, (tax_iff snapshot net _).mpr ⟨able.rate, able.taxed, rfl⟩, _, ⟨?_, rfl⟩, rfl⟩
    intro exclusive
    unfold chargeOf at range
    rw [if_pos exclusive] at range
    exact range

theorem withTax_covers (snapshot : TariffSnapshot) {taxMinor tax' : Int} (less : net' ≤ net)
    (lessTax : tax' ≤ taxMinor) : Covers (· ≤ ·) (withTax snapshot net' tax') (withTax snapshot net taxMinor) := by
  unfold withTax
  split
  · exact safeAdd_covers less lessTax
  · exact Covers.ok less

theorem rateLine_covers (snapshot : TariffSnapshot) (line : TariffComponent) {measured measured' : Int}
    (lower : 0 ≤ measured' ∧ measured' ≤ measured) :
    Covers RatingResult.Cheaper (rateLine snapshot line measured') (rateLine snapshot line measured) := by
  unfold rateLine
  by_cases priced : 0 ≤ line.priceMinor
  · refine Covers.bind (multiplyAndDivide_covers _ ⟨priced, Int.le_refl _⟩ lower) ?_
    intro amount' amount _ _ ⟨_, lessAmount⟩
    refine Covers.bind (safeAdd_covers (Int.le_refl 0) lessAmount) ?_
    intro subtotal' subtotal _ _ lessSubtotal
    have net : 0 ≤ max 0 (subtotal' - 0) ∧ max 0 (subtotal' - 0) ≤ max 0 (subtotal - 0) := by omega
    refine Covers.bind (tax_covers snapshot net) ?_
    intro tax' tax _ _ lessTax
    refine Covers.bind (withTax_covers snapshot net.2 lessTax) ?_
    intro total' total _ _ lessTotal
    exact Covers.ok ⟨lessSubtotal, lessTax, lessTotal⟩
  · intro rated success
    have refused : ∀ amount, multiplyAndDivide line.priceMinor measured line.unitQuantity ≠ .ok amount :=
      fun amount accepted => priced ((multiplyAndDivide_iff _ _ _ _).mp accepted).1
    cases first : multiplyAndDivide line.priceMinor measured line.unitQuantity with
    | error =>
      rw [first] at success
      contradiction
    | ok amount => exact absurd first (refused amount)

theorem addPlatformFee_covers (snapshot : TariffSnapshot) (fee : PlatformFee) {rated' : RatingResult}
    (cheaper : rated'.Cheaper rated) :
    Covers RatingResult.Cheaper (addPlatformFee snapshot fee rated') (addPlatformFee snapshot fee rated) := by
  unfold addPlatformFee
  have sameTax : Covers (fun a' a => a' = a)
      (multiplyAndDivide fee.amountMinor (fee.taxRateBasisPoints.getD 0) (10000 + fee.taxRateBasisPoints.getD 0))
      (multiplyAndDivide fee.amountMinor (fee.taxRateBasisPoints.getD 0)
        (10000 + fee.taxRateBasisPoints.getD 0)) := fun a success => ⟨a, success, rfl⟩
  refine Covers.bind sameTax ?_
  rintro feeTax _ _ _ rfl
  refine Covers.bind (safeAdd_covers cheaper.subtotal (Int.le_refl _)) ?_
  intro subtotal' subtotal _ _ lessSubtotal
  refine Covers.bind (safeAdd_covers cheaper.tax (Int.le_refl _)) ?_
  intro tax' tax _ _ lessTax
  refine Covers.bind (safeAdd_covers cheaper.total (Int.le_refl _)) ?_
  intro total' total _ _ lessTotal
  exact Covers.ok ⟨lessSubtotal, lessTax, lessTotal⟩

theorem addPlatformFee_total {snapshot : TariffSnapshot} {result : RatingResult}
    (success : addPlatformFee snapshot fee rated = .ok result) :
    result.totalMinor = rated.totalMinor + fee.amountMinor := by
  unfold addPlatformFee at success
  simp only [bind_ok_iff, safeAdd_iff] at success
  obtain ⟨_, _, _, ⟨-, rfl⟩, _, ⟨-, rfl⟩, _, ⟨-, rfl⟩, same⟩ := success
  cases same
  rfl

theorem addPlatformFee_returns (snapshot : TariffSnapshot)
    (amount : 0 ≤ fee.amountMinor) (rate : 0 ≤ fee.taxRateBasisPoints.getD 0)
    (product : fee.amountMinor * fee.taxRateBasisPoints.getD 0 ≤ phpIntMax)
    (subtotal : rated.subtotalMinor ≤ rated.totalMinor) (tax : rated.taxMinor ≤ rated.totalMinor)
    (total : rated.totalMinor + fee.amountMinor ≤ phpIntMax) :
    ∃ result, addPlatformFee snapshot fee rated = .ok result := by
  have taxed : 0 ≤ halfUp (fee.amountMinor * fee.taxRateBasisPoints.getD 0)
      (10000 + fee.taxRateBasisPoints.getD 0) := halfUp_nonneg (by omega) (Int.mul_nonneg amount rate)
  have part : halfUp (fee.amountMinor * fee.taxRateBasisPoints.getD 0)
      (10000 + fee.taxRateBasisPoints.getD 0) ≤ fee.amountMinor :=
    halfUp_le (by omega) (Int.mul_le_mul_of_nonneg_left (by omega) amount)
  unfold addPlatformFee
  simp only [bind_ok_iff, multiplyAndDivide_iff, safeAdd_iff]
  refine ⟨_, _, ⟨amount, rate, by omega, product, rfl⟩, _, ⟨?_, rfl⟩, _, ⟨by omega, rfl⟩, _, ⟨total, rfl⟩, rfl⟩
  split <;> omega

theorem addPlatformFee_raises {snapshot : TariffSnapshot} {result : RatingResult}
    (success : addPlatformFee snapshot fee rated = .ok result) : rated.Cheaper result := by
  unfold addPlatformFee at success
  simp only [bind_ok_iff, multiplyAndDivide_iff, safeAdd_iff] at success
  obtain ⟨feeTax, ⟨amount, rate, positive, -, rounded⟩, subtotal, ⟨-, rfl⟩, taxMinor, ⟨-, rfl⟩, total,
    ⟨-, rfl⟩, same⟩ := success
  cases same
  have taxed : 0 ≤ feeTax := by
    rw [rounded]
    exact halfUp_nonneg positive (Int.mul_nonneg amount rate)
  have least : feeTax ≤ fee.amountMinor := by
    rw [rounded]
    refine halfUp_le positive (Int.mul_le_mul_of_nonneg_left ?_ amount)
    omega
  refine ⟨?_, ?_, ?_⟩
  · dsimp only
    split <;> omega
  · dsimp only
    omega
  · dsimp only
    omega

theorem withPlatformFee_covers (snapshot : TariffSnapshot) {later input : RatingInput}
    (used : later.Used → input.Used) {rated' : RatingResult} (cheaper : rated'.Cheaper rated) :
    Covers RatingResult.Cheaper (withPlatformFee snapshot later rated')
      (withPlatformFee snapshot input rated) := by
  unfold withPlatformFee
  cases charged' : chargedFee snapshot later rated'.totalMinor with
  | some fee =>
    have charged : chargedFee snapshot input rated.totalMinor = some fee := by
      unfold chargedFee at charged' ⊢
      rw [Option.filter_eq_some_iff] at charged' ⊢
      refine ⟨charged'.1, ?_⟩
      have conditions := charged'.2
      simp only [Bool.and_eq_true, Bool.or_eq_true, decide_eq_true_eq] at conditions ⊢
      have total := cheaper.total
      exact ⟨⟨conditions.1.1, used conditions.1.2⟩, Int.le_trans conditions.2 total⟩
    rw [charged]
    exact addPlatformFee_covers snapshot fee cheaper
  | none =>
    cases chargedFee snapshot input rated.totalMinor with
    | none => exact Covers.ok cheaper
    | some =>
      intro result success
      have raised := addPlatformFee_raises success
      exact ⟨rated', rfl, Int.le_trans cheaper.subtotal raised.subtotal,
        Int.le_trans cheaper.tax raised.tax, Int.le_trans cheaper.total raised.total⟩

/-! ### The rating of a plain tariff -/

theorem quantity_nonneg (snapshot : TariffSnapshot) {input : RatingInput} (valid : input.Valid)
    (dimension : TariffDimension) : 0 ≤ quantity snapshot input dimension := by
  cases dimension with
  | energy => exact valid.energy
  | time =>
    unfold quantity
    cases snapshot.timeBasis with
    | elapsed => exact valid.duration
    | energyFlow => exact valid.energyFlow
  | session => exact Int.zero_le_ofNat 1
  | parking => exact valid.parking
  | idle => exact valid.idle

theorem matches_always {line : TariffComponent} {now : LocalTime} (everyDay : line.dayOfWeekMask = 127)
    (starts : line.startsAtLocal = none) (ends : line.endsAtLocal = none)
    (weekday : 1 ≤ now.dayOfWeekIso ∧ now.dayOfWeekIso ≤ 7) : componentMatches line now = true := by
  unfold componentMatches
  rw [everyDay, starts, ends]
  obtain ⟨first, last⟩ := weekday
  generalize now.dayOfWeekIso = day at first last ⊢
  interval_cases day <;> rfl

section Plain
variable {clock : LocalClock} (calendar : Calendar clock) {snapshot : TariffSnapshot}
  {line : TariffComponent} (plain : snapshot.Plain line)
include calendar plain

theorem rate_plain (input : RatingInput) {now : LocalTime}
    (known : clock snapshot.timezone input.startedAt = some now) :
    rate clock snapshot input = (do
      assertNonNegative input
      let rated ← rateLine snapshot line (quantity snapshot input line.dimension)
      withPlatformFee snapshot input rated) := by
  have selected : selectComponents now [line] = [line] := by
    simp [selectComponents, matches_always plain.everyDay plain.starts plain.ends
      (calendar.weekday _ _ _ known)]
  unfold rate
  cases valid : assertNonNegative input with
  | error => rfl
  | ok =>
    simp only [plain.selected, plain.components, plain.discounts, plain.minimum, plain.maximum, known,
      bind, Except.bind, selected, rateLines, discounts, rateLine, withTax, Option.map_none, Option.getD_none,
      Bool.true_eq_false, if_false]
    cases multiplyAndDivide line.priceMinor (quantity snapshot input line.dimension) line.unitQuantity with
    | error => rfl
    | ok amount =>
      cases subtotal : safeAdd 0 amount with
      | error => simp only [subtotal]
      | ok sum =>
        simp only [subtotal, pure, Except.pure]
        cases tax snapshot (max 0 (sum - 0)) with
        | error => rfl
        | ok taxMinor =>
          dsimp only
          split
          · cases safeAdd (max 0 (sum - 0)) taxMinor with
            | error => rfl
            | ok => rfl
          · rfl

theorem rate_covers {later input : RatingInput} (below : later.Below snapshot line.dimension input) :
    Covers RatingResult.Cheaper (rate clock snapshot later) (rate clock snapshot input) := by
  cases now : clock snapshot.timezone input.startedAt with
  | none =>
    intro result success
    unfold rate at success
    simp only [plain.selected, now, bind_ok_iff, Bool.true_eq_false, if_false] at success
    obtain ⟨_, _, _, unknown, _⟩ := success
    contradiction
  | some =>
    obtain ⟨local'', known⟩ := calendar.known _ _ later.startedAt _ now
    rw [rate_plain calendar plain input now, rate_plain calendar plain later known]
    have valid : Covers (fun _ _ => True) (assertNonNegative later) (assertNonNegative input) := by
      intro _ _
      refine ⟨(), ?_, trivial⟩
      obtain ⟨energy, duration, parking, idle, flow⟩ := below.valid
      unfold assertNonNegative
      rw [if_neg (by omega)]
    refine Covers.bind valid ?_
    intro _ _ _ _ _
    have measured := quantity_nonneg snapshot below.valid line.dimension
    refine Covers.bind (rateLine_covers snapshot line ⟨measured, below.measured⟩) ?_
    intro rated' rated _ _ cheaper
    exact withPlatformFee_covers snapshot below.used cheaper

end Plain

end TariffEngine
end VtsaCsms.Tariffs
