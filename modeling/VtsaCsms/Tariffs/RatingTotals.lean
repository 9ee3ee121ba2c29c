import Mathlib.Algebra.Order.BigOperators.Group.List
import VtsaCsms.Tariffs.RatingOrder

/-!
# What a rating adds up to

A rating that does not throw is a closed form of its snapshot and measurements, over integers
without bound. Its total never falls with the use. The fee limits bend the total alone, so the other
amounts add up to the charge before them.
-/
namespace VtsaCsms.Tariffs
open Foundation
/-- Every measurement of the first use, which starts at the same time, is at most that of the second. -/
structure RatingInput.AtMost (later input : RatingInput) : Prop where
  energy : later.energyWh ≤ input.energyWh
  duration : later.durationSeconds ≤ input.durationSeconds
  parking : later.parkingSeconds ≤ input.parkingSeconds
  idle : later.idleSeconds ≤ input.idleSeconds
  energyFlow : later.energyFlowSeconds ≤ input.energyFlowSeconds
  start : later.startedAt = input.startedAt

namespace TariffEngine

/-! ### The closed form -/

def lineAmount (snapshot : TariffSnapshot) (input : RatingInput) (component : TariffComponent) : Int :=
  halfUp (component.priceMinor * quantity snapshot input component.dimension) component.unitQuantity

def ratedLine (snapshot : TariffSnapshot) (input : RatingInput) (component : TariffComponent) : RatedLine :=
  { dimension := component.dimension.value, quantity := quantity snapshot input component.dimension
    unitQuantity := component.unitQuantity, priceMinor := component.priceMinor
    amountMinor := lineAmount snapshot input component }

def subtotalOf (snapshot : TariffSnapshot) (input : RatingInput) (components : List TariffComponent) : Int :=
  (components.map (lineAmount snapshot input)).sum

def discountOf (discount : TariffDiscount) (remaining : Int) : Int :=
  min remaining (match discount.kind with
    | .percentage => halfUp (remaining * discount.value) 10000
    | .fixed => discount.value)

def discounted : List TariffDiscount → Int → Int
  | [], remaining => remaining
  | discount :: rest, remaining => discounted rest (remaining - discountOf discount remaining)

def discountLines : List TariffDiscount → Int → List DiscountLine
  | [], _ => []
  | discount :: rest, remaining =>
    { name := discount.name, kind := discount.kind, value := discount.value
      amountMinor := discountOf discount remaining } ::
      discountLines rest (remaining - discountOf discount remaining)

def limited (snapshot : TariffSnapshot) (total : Int) : Int :=
  let total := (snapshot.minimumFeeMinor.map (max total)).getD total
  (snapshot.maximumFeeMinor.map (min total)).getD total

/-- The net amount of the selected components after all discounts. -/
def netOf (snapshot : TariffSnapshot) (input : RatingInput) (components : List TariffComponent) : Int :=
  max 0 (discounted snapshot.discounts (subtotalOf snapshot input components))

def usageRating (snapshot : TariffSnapshot) (input : RatingInput) (components : List TariffComponent) :
    RatingResult :=
  let subtotal := subtotalOf snapshot input components
  let net := netOf snapshot input components
  { currency := snapshot.currency, subtotalMinor := subtotal
    discountMinor := subtotal - discounted snapshot.discounts subtotal
    taxMinor := taxOn snapshot net, totalMinor := limited snapshot (chargeOf snapshot net)
    lines := components.map (ratedLine snapshot input)
    discounts := discountLines snapshot.discounts subtotal }

/-- The tax contained in a platform fee. -/
def feeTaxOf (fee : PlatformFee) : Int :=
  halfUp (fee.amountMinor * fee.taxRateBasisPoints.getD 0) (10000 + fee.taxRateBasisPoints.getD 0)

def withFee (snapshot : TariffSnapshot) (fee : PlatformFee) (rated : RatingResult) : RatingResult :=
  { rated with
    subtotalMinor := rated.subtotalMinor +
      (if snapshot.taxTreatment = .exclusive then fee.amountMinor - feeTaxOf fee else fee.amountMinor)
    taxMinor := rated.taxMinor + feeTaxOf fee
    totalMinor := rated.totalMinor + fee.amountMinor
    lines := rated.lines ++
      [{ dimension := "platform_fee", quantity := 1, unitQuantity := 1, priceMinor := fee.amountMinor
         amountMinor := fee.amountMinor, taxMinor := some (feeTaxOf fee), beneficiary := fee.beneficiary }]
    platformFeeMinor := fee.amountMinor, platformFeeTaxMinor := feeTaxOf fee }

/-- The whole calculation over integers without bound. -/
def exactRating (snapshot : TariffSnapshot) (input : RatingInput) (components : List TariffComponent) :
    RatingResult :=
  let rated := usageRating snapshot input components
  match chargedFee snapshot input rated.totalMinor with
  | none => rated
  | some fee => withFee snapshot fee rated

/-! ### What the guards let through -/

/-- A component whose amount is an integer in range. -/
structure RatedComponent (snapshot : TariffSnapshot) (input : RatingInput) (component : TariffComponent) : Prop where
  price : 0 ≤ component.priceMinor
  measured : 0 ≤ quantity snapshot input component.dimension
  unit : 0 < component.unitQuantity

variable {snapshot : TariffSnapshot} {input later : RatingInput} {components : List TariffComponent}

theorem RatedComponent.amount_nonneg {component : TariffComponent}
    (rated : RatedComponent snapshot input component) : 0 ≤ lineAmount snapshot input component :=
  halfUp_nonneg rated.unit (Int.mul_nonneg rated.price rated.measured)

theorem rateLines_ok {start total : Int} {lines : List RatedLine}
    (success : rateLines snapshot input components start = .ok (total, lines)) :
    (∀ c ∈ components, RatedComponent snapshot input c) ∧ total = start + subtotalOf snapshot input components ∧
      lines = components.map (ratedLine snapshot input) := by
  induction components generalizing start lines with
  | nil =>
    cases success
    exact ⟨by simp, by simp [subtotalOf], rfl⟩
  | cons component _ ih =>
    simp only [rateLines, bind_ok_iff, multiplyAndDivide_iff, safeAdd_iff] at success
    obtain ⟨amount, ⟨price, measured, unit, -, rfl⟩, _, ⟨-, rfl⟩, ⟨_, _⟩, rest, same⟩ := success
    cases same
    obtain ⟨each, sum, later⟩ := ih rest
    refine ⟨List.forall_mem_cons.mpr ⟨⟨price, measured, unit⟩, each⟩, ?_, ?_⟩
    · rw [sum]
      simp only [subtotalOf, List.map_cons, List.sum_cons, lineAmount]
      omega
    · rw [later]
      rfl

theorem subtotalOf_nonneg (each : ∀ c ∈ components, RatedComponent snapshot input c) :
    0 ≤ subtotalOf snapshot input components := by
  refine List.sum_nonneg fun amount member => ?_
  obtain ⟨c, there, rfl⟩ := List.mem_map.mp member
  exact (each c there).amount_nonneg

/-- A discount of a percentage is not negative. -/
def TariffDiscountValid (discount : TariffDiscount) : Prop := discount.kind = .percentage → 0 ≤ discount.value

theorem discountOf_le (discount : TariffDiscount) (remaining : Int) : discountOf discount remaining ≤ remaining :=
  min_le_left _ _

theorem discounts_ok {remaining total : Int} {given : List TariffDiscount} {lines : List DiscountLine}
    (success : discounts given remaining = .ok (total, lines)) :
    (∀ d ∈ given, TariffDiscountValid d) ∧ total = remaining - discounted given remaining ∧
      lines = discountLines given remaining := by
  induction given generalizing remaining total lines with
  | nil =>
    cases success
    exact ⟨by simp, by simp [discounted], rfl⟩
  | cons discount rest ih =>
    obtain ⟨amount, taken, success⟩ : ∃ amount,
        (TariffDiscountValid discount ∧ min remaining amount = discountOf discount remaining) ∧ (do
          let later ← discounts rest (remaining - min remaining amount)
          pure (min remaining amount + later.1, { name := discount.name, kind := discount.kind, value := discount.value
                                                  amountMinor := min remaining amount } :: later.2)) =
          Except.ok (total, lines) := by
      unfold discounts at success
      unfold TariffDiscountValid discountOf
      cases kind : discount.kind with
      | percentage =>
        rw [kind] at success
        obtain ⟨amount, first, success⟩ := bind_ok_iff.mp success
        obtain ⟨-, value, -, -, rfl⟩ := (multiplyAndDivide_iff _ _ _ _).mp first
        exact ⟨_, ⟨fun _ => value, rfl⟩, success⟩
      | fixed =>
        rw [kind] at success
        exact ⟨discount.value, ⟨fun none => (by cases none), rfl⟩, success⟩
    rw [bind_ok_iff] at success
    obtain ⟨⟨_, _⟩, later, same⟩ := success
    cases same
    rw [taken.2] at later ⊢
    obtain ⟨each, sum, lines⟩ := ih later
    refine ⟨List.forall_mem_cons.mpr ⟨taken.1, each⟩, ?_, ?_⟩
    · rw [sum, discounted]
      omega
    · rw [lines]
      rfl

theorem discounted_nonneg (given : List TariffDiscount) {remaining : Int} (nonneg : 0 ≤ remaining) :
    0 ≤ discounted given remaining := by
  induction given generalizing remaining with
  | nil => exact nonneg
  | cons discount _ ih => exact ih (Int.sub_nonneg_of_le (discountOf_le discount remaining))

theorem addPlatformFee_ok {fee : PlatformFee} {rated result : RatingResult}
    (success : addPlatformFee snapshot fee rated = .ok result) :
    0 ≤ fee.amountMinor ∧ 0 ≤ fee.taxRateBasisPoints.getD 0 ∧ result = withFee snapshot fee rated := by
  unfold addPlatformFee at success
  simp only [bind_ok_iff, multiplyAndDivide_iff, safeAdd_iff] at success
  obtain ⟨_, ⟨amount, rate, -, -, rfl⟩, _, ⟨-, rfl⟩, _, ⟨-, rfl⟩, _, ⟨-, rfl⟩, same⟩ := success
  cases same
  exact ⟨amount, rate, rfl⟩

/-- What a rating that does not throw has checked. -/
structure Rated (snapshot : TariffSnapshot) (input : RatingInput) (components : List TariffComponent) : Prop where
  each : ∀ c ∈ components, RatedComponent snapshot input c
  discounts : ∀ d ∈ snapshot.discounts, TariffDiscountValid d
  rate : 0 ≤ snapshot.taxRateBasisPoints.getD 0
  fee : ∀ fee, chargedFee snapshot input (usageRating snapshot input components).totalMinor = some fee →
    0 ≤ fee.amountMinor ∧ 0 ≤ fee.taxRateBasisPoints.getD 0

theorem rate_exact {clock : LocalClock} {result : RatingResult} (selected : snapshot.selected = true)
    (success : rate clock snapshot input = .ok result) :
    ∃ localStart, clock snapshot.timezone input.startedAt = some localStart ∧
      Rated snapshot input (selectComponents localStart snapshot.components) ∧
      result = exactRating snapshot input (selectComponents localStart snapshot.components) := by
  unfold rate at success
  simp only [selected, Bool.true_eq_false, if_false] at success
  obtain ⟨-, -, success⟩ := bind_ok_iff.mp success
  cases known : clock snapshot.timezone input.startedAt with
  | none =>
    rw [known] at success
    cases success
  | some localStart =>
  rw [known] at success
  refine ⟨localStart, rfl, ?_⟩
  obtain ⟨_, ⟨⟩, success⟩ := bind_ok_iff.mp success
  generalize selectComponents localStart snapshot.components = components at success ⊢
  obtain ⟨⟨subtotal, lines⟩, rated, success⟩ := bind_ok_iff.mp success
  obtain ⟨⟨discountMinor, discountLines'⟩, left, success⟩ := bind_ok_iff.mp success
  obtain ⟨each, subtotalIs, rfl⟩ := rateLines_ok rated
  obtain ⟨given, discountIs, rfl⟩ := discounts_ok left
  rw [Int.zero_add] at subtotalIs
  subst subtotalIs discountIs
  have net : max 0 (subtotalOf snapshot input components - (subtotalOf snapshot input components -
      discounted snapshot.discounts (subtotalOf snapshot input components))) = netOf snapshot input components := by
    rw [Int.sub_sub_self, netOf]
  dsimp only at success
  rw [net] at success
  obtain ⟨taxMinor, taxed, success⟩ := bind_ok_iff.mp success
  obtain ⟨rate, -, rfl⟩ := (tax_iff snapshot (le_max_left _ _) _).mp taxed
  -- the charge with or without the tax on top
  have charged : (match chargedFee snapshot input (usageRating snapshot input components).totalMinor with
      | none => pure (usageRating snapshot input components)
      | some fee => addPlatformFee snapshot fee (usageRating snapshot input components)) =
        Except.ok result := by
    unfold usageRating chargeOf limited
    dsimp only
    split at success
    · rename_i exclusive
      obtain ⟨_, sum, success⟩ := bind_ok_iff.mp success
      obtain ⟨-, rfl⟩ := (safeAdd_iff _ _ _).mp sum
      rw [if_pos exclusive]
      exact success
    · rename_i inclusive
      rw [if_neg inclusive]
      exact success
  unfold exactRating
  dsimp only
  cases paid : chargedFee snapshot input (usageRating snapshot input components).totalMinor with
  | none =>
    rw [paid] at charged
    cases charged
    exact ⟨⟨each, given, rate, fun fee some' => by simp [paid] at some'⟩, rfl⟩
  | some fee =>
    rw [paid] at charged
    obtain ⟨amount, feeRate, rfl⟩ := addPlatformFee_ok charged
    refine ⟨⟨each, given, rate, fun fee' same => ?_⟩, rfl⟩
    cases paid.symm.trans same
    exact ⟨amount, feeRate⟩

/-! ### More use costs no less -/

theorem discountOf_mono {discount : TariffDiscount} {remaining remaining' : Int} (valid : TariffDiscountValid discount)
    (nonneg : 0 ≤ remaining) (less : remaining ≤ remaining') :
    remaining - discountOf discount remaining ≤ remaining' - discountOf discount remaining' := by
  unfold discountOf
  cases kind : discount.kind with
  | fixed =>
    dsimp only
    omega
  | percentage =>
    have value := valid kind
    dsimp only
    by_cases whole : 10000 ≤ discount.value
    · -- all of it is taken
      have all : remaining ≤ halfUp (remaining * discount.value) 10000 := by
        have product := halfUp_mono (by decide : (0 : Int) < 10000) (Int.mul_le_mul_of_nonneg_left whole nonneg)
        rwa [halfUp_mul (by decide)] at product
      omega
    · have grows : remaining' * discount.value ≤ remaining * discount.value + (remaining' - remaining) * 10000 := by
        have part := Int.mul_le_mul_of_nonneg_left (Int.le_of_lt (not_le.mp whole)) (Int.sub_nonneg_of_le less)
        rw [Int.sub_mul] at part
        omega
      have steps := halfUp_mono (by decide : (0 : Int) < 10000) grows
      rw [halfUp_add_mul (by decide)] at steps
      omega

theorem discounted_mono {given : List TariffDiscount} (valid : ∀ d ∈ given, TariffDiscountValid d)
    {remaining remaining' : Int} (nonneg : 0 ≤ remaining) (less : remaining ≤ remaining') :
    discounted given remaining ≤ discounted given remaining' := by
  induction given generalizing remaining remaining' with
  | nil => exact less
  | cons discount _ ih =>
    obtain ⟨first, rest⟩ := List.forall_mem_cons.mp valid
    exact ih rest (Int.sub_nonneg_of_le (discountOf_le _ _)) (discountOf_mono first nonneg less)

theorem limited_mono (snapshot : TariffSnapshot) {total total' : Int} (less : total ≤ total') :
    limited snapshot total ≤ limited snapshot total' := by
  unfold limited
  cases snapshot.minimumFeeMinor <;> cases snapshot.maximumFeeMinor <;>
    simp only [Option.map_none, Option.map_some, Option.getD_none, Option.getD_some] <;> omega

theorem chargeOf_mono (rate : 0 ≤ snapshot.taxRateBasisPoints.getD 0) {net net' : Int} (less : net ≤ net') :
    chargeOf snapshot net ≤ chargeOf snapshot net' := by
  have taxed := taxOn_mono snapshot rate less
  unfold chargeOf
  split <;> omega

theorem quantity_mono (atMost : later.AtMost input) (dimension : TariffDimension) :
    quantity snapshot later dimension ≤ quantity snapshot input dimension := by
  cases dimension with
  | energy => exact atMost.energy
  | time =>
    unfold quantity
    cases snapshot.timeBasis with
    | elapsed => exact atMost.duration
    | energyFlow => exact atMost.energyFlow
  | session => exact le_refl _
  | parking => exact atMost.parking
  | idle => exact atMost.idle

theorem subtotalOf_mono (atMost : later.AtMost input) (each : ∀ c ∈ components, RatedComponent snapshot later c) :
    subtotalOf snapshot later components ≤ subtotalOf snapshot input components := by
  refine List.sum_le_sum fun c member => ?_
  have rated := each c member
  exact halfUp_mono rated.unit (Int.mul_le_mul_of_nonneg_left (quantity_mono atMost c.dimension) rated.price)

theorem usageRating_mono (rated : Rated snapshot later components) (atMost : later.AtMost input) :
    (usageRating snapshot later components).totalMinor ≤ (usageRating snapshot input components).totalMinor := by
  have subtotal := discounted_mono rated.discounts (subtotalOf_nonneg rated.each) (subtotalOf_mono atMost rated.each)
  exact limited_mono snapshot (chargeOf_mono rated.rate (max_le_max_left 0 subtotal))

theorem chargedFee_mono {fee : PlatformFee} {total total' : Int} (atMost : later.AtMost input) (less : total ≤ total')
    (charged : chargedFee snapshot later total = some fee) : chargedFee snapshot input total' = some fee := by
  unfold chargedFee at charged ⊢
  rw [Option.filter_eq_some_iff] at charged ⊢
  obtain ⟨there, conditions⟩ := charged
  have energy := atMost.energy
  have flow := atMost.energyFlow
  simp only [Bool.and_eq_true, Bool.or_eq_true, decide_eq_true_eq] at conditions ⊢
  exact ⟨there, ⟨conditions.1.1, conditions.1.2.imp (lt_of_lt_of_le · energy) (lt_of_lt_of_le · flow)⟩,
    conditions.2.trans less⟩

theorem exactRating_mono (rated : Rated snapshot later components) (rated' : Rated snapshot input components)
    (atMost : later.AtMost input) :
    (exactRating snapshot later components).totalMinor ≤ (exactRating snapshot input components).totalMinor := by
  have less := usageRating_mono rated atMost
  unfold exactRating
  dsimp only
  cases paid : chargedFee snapshot later (usageRating snapshot later components).totalMinor with
  | some fee =>
    rw [chargedFee_mono atMost less paid]
    exact Int.add_le_add_right less _
  | none =>
    cases paid' : chargedFee snapshot input (usageRating snapshot input components).totalMinor with
    | none => exact less
    | some fee => exact less.trans (Int.le_add_of_nonneg_right (rated'.fee fee paid').1)

/-- Rating more use costs no less. -/
theorem rate_mono {clock : LocalClock} {result result' : RatingResult} (selected : snapshot.selected = true)
    (atMost : later.AtMost input) (success : rate clock snapshot later = .ok result)
    (success' : rate clock snapshot input = .ok result') : result.totalMinor ≤ result'.totalMinor := by
  obtain ⟨localStart, known, rated, rfl⟩ := rate_exact selected success
  obtain ⟨localStart', known', rated', rfl⟩ := rate_exact selected success'
  rw [atMost.start, known'] at known
  cases known
  exact exactRating_mono rated rated' atMost

/-- A kilowatt-hour at 100 with half of it off and a platform fee from 60 on. -/
def discountedTariff : TariffSnapshot where
  selected := true
  currency := some "PHP"
  timezone := "UTC"
  components := [⟨.energy, 100, 1000, 127, none, none, 0⟩]
  discounts := [⟨"Half", .percentage, 5000⟩]
  taxRateBasisPoints := some 1200
  platformFee := some ⟨none, true, 5, 60, some 1200, none⟩

def energyUse (energyWh : Int) : RatingInput := ⟨energyWh, 0, 0, 0, 0, 0⟩

def utc : LocalClock := fun _ _ => some ⟨1, "00:00:00"⟩

theorem rate_mono_discounted : ∃ result result', rate utc discountedTariff (energyUse 1000) = .ok result ∧
    rate utc discountedTariff (energyUse 2000) = .ok result' ∧ result.totalMinor ≤ result'.totalMinor := by
  obtain ⟨result, success⟩ : ∃ result, rate utc discountedTariff (energyUse 1000) = .ok result := ⟨_, rfl⟩
  obtain ⟨result', success'⟩ : ∃ result', rate utc discountedTariff (energyUse 2000) = .ok result' := ⟨_, rfl⟩
  have atMost : (energyUse 1000).AtMost (energyUse 2000) := by constructor <;> decide
  exact ⟨result, result', success, success', rate_mono rfl atMost success success'⟩

/-! ### The parts and the whole -/

/-- The subtotal, the discount and the tax add up to an amount, and the tax is a part of it. -/
structure AddsUp (snapshot : TariffSnapshot) (result : RatingResult) (amount : Int) : Prop where
  sum : amount = if snapshot.taxTreatment = .exclusive then
    result.subtotalMinor - result.discountMinor + result.taxMinor else result.subtotalMinor - result.discountMinor
  tax : 0 ≤ result.taxMinor ∧ result.taxMinor ≤ amount

theorem usageRating_addsUp (rated : Rated snapshot input components) :
    AddsUp snapshot (usageRating snapshot input components) (chargeOf snapshot (netOf snapshot input components)) := by
  have left : netOf snapshot input components =
      discounted snapshot.discounts (subtotalOf snapshot input components) :=
    max_eq_right (discounted_nonneg _ (subtotalOf_nonneg rated.each))
  have within := taxOn_within snapshot rated.rate (le_max_left 0 (discounted snapshot.discounts
    (subtotalOf snapshot input components)))
  refine ⟨?_, within.1, within.2.1⟩
  unfold chargeOf usageRating
  dsimp only
  rw [Int.sub_sub_self, left]

theorem withFee_addsUp {fee : PlatformFee} {rated : RatingResult} {amount : Int} (addsUp : AddsUp snapshot rated amount)
    (nonneg : 0 ≤ fee.amountMinor) (rate : 0 ≤ fee.taxRateBasisPoints.getD 0) :
    AddsUp snapshot (withFee snapshot fee rated) (amount + fee.amountMinor) := by
  have positive : 0 < 10000 + fee.taxRateBasisPoints.getD 0 := by omega
  have taxed : 0 ≤ feeTaxOf fee := halfUp_nonneg positive (Int.mul_nonneg nonneg rate)
  have part : feeTaxOf fee ≤ fee.amountMinor :=
    halfUp_le positive (Int.mul_le_mul_of_nonneg_left (by omega) nonneg)
  obtain ⟨sum, low, high⟩ := addsUp
  refine ⟨?_, Int.add_nonneg low taxed, Int.add_le_add high part⟩
  rw [sum]
  unfold withFee
  dsimp only
  split <;> omega

/-- The parts of a rating add up to its charge before the fee limits, with the platform fee on top; the
total is the same with the limited charge. -/
theorem rate_addsUp {clock : LocalClock} {result : RatingResult} (selected : snapshot.selected = true)
    (success : rate clock snapshot input = .ok result) :
    ∃ charge, AddsUp snapshot result (charge + result.platformFeeMinor) ∧
      result.totalMinor = limited snapshot charge + result.platformFeeMinor := by
  obtain ⟨localStart, -, rated, rfl⟩ := rate_exact selected success
  generalize selectComponents localStart snapshot.components = components at rated ⊢
  have addsUp := usageRating_addsUp rated
  unfold exactRating
  dsimp only
  cases paid : chargedFee snapshot input (usageRating snapshot input components).totalMinor with
  | none => exact ⟨_, by rwa [show (usageRating snapshot input components).platformFeeMinor = 0 from rfl, Int.add_zero],
      (Int.add_zero _).symm⟩
  | some fee =>
    obtain ⟨nonneg, rate⟩ := rated.fee fee paid
    exact ⟨_, withFee_addsUp addsUp nonneg rate, rfl⟩

theorem rate_addsUp_discounted : ∃ result, rate utc discountedTariff (energyUse 2000) = .ok result ∧
    ∃ charge, AddsUp discountedTariff result (charge + result.platformFeeMinor) ∧
      result.totalMinor = limited discountedTariff charge + result.platformFeeMinor := by
  obtain ⟨result, success⟩ : ∃ result, rate utc discountedTariff (energyUse 2000) = .ok result := ⟨_, rfl⟩
  exact ⟨result, success, rate_addsUp rfl success⟩

/-- A charge of 100 that may not exceed 40. -/
theorem capped_disagrees : ¬ ∀ (clock : LocalClock) (snapshot : TariffSnapshot) (input : RatingInput) result,
    snapshot.selected = true → rate clock snapshot input = .ok result → AddsUp snapshot result result.totalMinor := by
  intro always
  have capped := always utc { discountedTariff with discounts := [], platformFee := none, maximumFeeMinor := some 40 }
    (energyUse 1000) _ rfl rfl
  exact absurd capped.sum (by decide)

end TariffEngine
end VtsaCsms.Tariffs
