import VtsaCsms.Tariffs.RatingTotals

/-!
# Exact or refused

`TariffEngine.php` on the integers of the machine. A sum that leaves them is a double, which no
parameter or result of type `int` takes. Every sum is guarded but one: the rounding adds one to a
denominator that may be the largest integer.
-/
namespace VtsaCsms.Tariffs
open Foundation
namespace TariffEngine

/-! ### The engine on 64 bits -/

/-- An integer, or a double where one is not taken. -/
def strictInt (argument : String) (n : Int) : Except Throwable Int :=
  if phpIntMin ≤ n ∧ n ≤ phpIntMax then .ok n else .error ⟨.type, argument ++ " must be of type int, float given"⟩

def multiplyAndDivide64 (left right denominator : Int) : Except Throwable Int := do
  let denominator ← strictInt "multiplyAndDivide(): Argument #3 ($denominator)" denominator
  if left < 0 ∨ right < 0 ∨ denominator ≤ 0 then
    .error (.invalidArgument "Tariff quantities and rates must be non-negative.")
  else if right ≠ 0 ∧ phpIntMax / right < left then .error outOfRange
  else do
    let half ← strictInt "intdiv(): Argument #1 ($num1)" (denominator + 1)
    let quotient := left * right / denominator
    strictInt "multiplyAndDivide(): Return value"
      (if half / 2 ≤ left * right % denominator then quotient + 1 else quotient)

def safeAdd64 (left right : Int) : Except Throwable Int :=
  if phpIntMax - left < right then .error outOfRange
  else strictInt "safeAdd(): Return value" (left + right)

def rateLines64 (snapshot : TariffSnapshot) (input : RatingInput) :
    List TariffComponent → Int → Except Throwable (Int × List RatedLine)
  | [], subtotal => .ok (subtotal, [])
  | component :: rest, subtotal => do
    let measured := quantity snapshot input component.dimension
    let amount ← multiplyAndDivide64 component.priceMinor measured component.unitQuantity
    let subtotal ← safeAdd64 subtotal amount
    let (total, lines) ← rateLines64 snapshot input rest subtotal
    pure (total, { dimension := component.dimension.value, quantity := measured
                   unitQuantity := component.unitQuantity, priceMinor := component.priceMinor
                   amountMinor := amount } :: lines)

/-- `$remaining` is an argument of the next percentage, `$totalDiscount` of the result. -/
def discounts64 : List TariffDiscount → Int → Int → Except Throwable (Int × List DiscountLine)
  | [], _, totalDiscount => .ok (totalDiscount, [])
  | discount :: rest, remaining, totalDiscount => do
    let amount ← match discount.kind with
      | .percentage => multiplyAndDivide64 remaining discount.value 10000
      | .fixed => pure discount.value
    let amount := min remaining amount
    let remaining ← strictInt "multiplyAndDivide(): Argument #1 ($left)" (remaining - amount)
    let totalDiscount ← strictInt "RatingResult::__construct(): Argument #3 ($discountMinor)" (totalDiscount + amount)
    let (total, lines) ← discounts64 rest remaining totalDiscount
    pure (total, { name := discount.name, kind := discount.kind, value := discount.value
                   amountMinor := amount } :: lines)

def tax64 (snapshot : TariffSnapshot) (net : Int) : Except Throwable Int :=
  let rate := snapshot.taxRateBasisPoints.getD 0
  match snapshot.taxTreatment with
  | .exclusive => multiplyAndDivide64 net rate 10000
  | .inclusive => if rate = 0 then .ok 0 else multiplyAndDivide64 net rate (10000 + rate)

def addPlatformFee64 (snapshot : TariffSnapshot) (fee : PlatformFee) (rated : RatingResult) :
    Except Throwable RatingResult := do
  let rate := fee.taxRateBasisPoints.getD 0
  let feeTax ← multiplyAndDivide64 fee.amountMinor rate (10000 + rate)
  let subtotal ← safeAdd64 rated.subtotalMinor
    (if snapshot.taxTreatment = .exclusive then fee.amountMinor - feeTax else fee.amountMinor)
  let taxMinor ← safeAdd64 rated.taxMinor feeTax
  let total ← safeAdd64 rated.totalMinor fee.amountMinor
  let line : RatedLine :=
    { dimension := "platform_fee", quantity := 1, unitQuantity := 1, priceMinor := fee.amountMinor
      amountMinor := fee.amountMinor, taxMinor := some feeTax, beneficiary := fee.beneficiary }
  pure { rated with
    subtotalMinor := subtotal, taxMinor, totalMinor := total, lines := rated.lines ++ [line]
    platformFeeMinor := fee.amountMinor, platformFeeTaxMinor := feeTax }

/-- The rating of the components that apply. -/
def rateSelected64 (snapshot : TariffSnapshot) (input : RatingInput) (components : List TariffComponent) :
    Except Throwable RatingResult := do
  let (subtotal, lines) ← rateLines64 snapshot input components 0
  let (discountMinor, discountLines) ← discounts64 snapshot.discounts subtotal 0
  let left ← strictInt "multiplyAndDivide(): Argument #1 ($left)" (subtotal - discountMinor)
  let net := max 0 left
  let taxMinor ← tax64 snapshot net
  let total ← if snapshot.taxTreatment = .exclusive then safeAdd64 net taxMinor else .ok net
  let total := (snapshot.minimumFeeMinor.map (max total)).getD total
  let total := (snapshot.maximumFeeMinor.map (min total)).getD total
  let rated : RatingResult :=
    { currency := snapshot.currency, subtotalMinor := subtotal, discountMinor, taxMinor
      totalMinor := total, lines, discounts := discountLines }
  match chargedFee snapshot input total with
  | none => pure rated
  | some fee => addPlatformFee64 snapshot fee rated

def rate64 (clock : LocalClock) (snapshot : TariffSnapshot) (input : RatingInput) :
    Except Throwable RatingResult := do
  assertNonNegative input
  if snapshot.selected = false then pure ⟨none, 0, 0, 0, 0, [], [], 0, 0⟩
  else match clock snapshot.timezone input.startedAt with
    | some localStart => rateSelected64 snapshot input (selectComponents localStart snapshot.components)
    | none => .error (.invalidArgument "Unknown or bad timezone.")

/-! ### What is claimed -/

/-- The result of the calculation over integers without bound. -/
def exactResult (clock : LocalClock) (snapshot : TariffSnapshot) (input : RatingInput) : Option RatingResult :=
  if snapshot.selected = false then some ⟨none, 0, 0, 0, 0, [], [], 0, 0⟩
  else (clock snapshot.timezone input.startedAt).map fun localStart =>
    exactRating snapshot input (selectComponents localStart snapshot.components)

/-- The exact result, with a discount that is part of the subtotal, or one of two refusals. -/
def ExactOrRefused (clock : LocalClock) (snapshot : TariffSnapshot) (input : RatingInput) : Prop :=
  match rate64 clock snapshot input with
  | .ok result => exactResult clock snapshot input = some result ∧ 0 ≤ result.discountMinor ∧
      result.discountMinor ≤ result.subtotalMinor
  | .error e => e.type = .overflow ∨ e.type = .invalidArgument

/-- What the requests that set prices, rates and fees admit, and the columns they are stored in. -/
structure Written (snapshot : TariffSnapshot) : Prop where
  prices : ∀ c ∈ snapshot.components, 0 ≤ c.priceMinor ∧ 0 < c.unitQuantity ∧ c.unitQuantity ≤ phpIntMax
  discounts : ∀ d ∈ snapshot.discounts, 0 ≤ d.value
  rate : 0 ≤ snapshot.taxRateBasisPoints.getD 0 ∧ snapshot.taxRateBasisPoints.getD 0 ≤ 10000
  minimum : ∀ n, snapshot.minimumFeeMinor = some n → 0 ≤ n
  maximum : ∀ n, snapshot.maximumFeeMinor = some n → 0 ≤ n
  fee : ∀ fee, snapshot.platformFee = some fee → 0 ≤ fee.amountMinor ∧ 0 ≤ fee.taxRateBasisPoints.getD 0 ∧
    fee.taxRateBasisPoints.getD 0 ≤ 10000

/-- A component with the largest unit is reached, and its product is an integer. -/
def Stumbles (snapshot : TariffSnapshot) (input : RatingInput) (components : List TariffComponent) (start : Int) : Prop :=
  ∃ before component after rated, components = before ++ component :: after ∧
    rateLines snapshot input before start = .ok rated ∧ component.unitQuantity = phpIntMax ∧
      component.priceMinor * quantity snapshot input component.dimension ≤ phpIntMax

/-- A rating that comes to such a component. -/
def StumblesAt (clock : LocalClock) (snapshot : TariffSnapshot) (input : RatingInput) : Prop :=
  assertNonNegative input = .ok () ∧ snapshot.selected = true ∧ ∃ localStart,
    clock snapshot.timezone input.startedAt = some localStart ∧
      Stumbles snapshot input (selectComponents localStart snapshot.components) 0

/-! ### Where the integers suffice -/

theorem strictInt_ok {argument : String} {n : Int} (range : phpIntMin ≤ n ∧ n ≤ phpIntMax) :
    strictInt argument n = .ok n := if_pos range

theorem ok_bind {α β : Type} (a : α) (f : α → Except Throwable β) : (Except.ok a >>= f) = f a := rfl

theorem multiplyAndDivide64_eq {left right denominator : Int} (low : phpIntMin ≤ denominator)
    (range : denominator < phpIntMax) :
    multiplyAndDivide64 left right denominator = multiplyAndDivide left right denominator := by
  have spec := multiplyAndDivide_iff left right denominator (halfUp (left * right) denominator)
  unfold multiplyAndDivide64
  unfold multiplyAndDivide at spec ⊢
  rw [strictInt_ok ⟨low, range.le⟩, ok_bind]
  by_cases negative : left < 0 ∨ right < 0 ∨ denominator ≤ 0
  · rw [if_pos negative, if_pos negative]
  · by_cases wide : right ≠ 0 ∧ phpIntMax / right < left
    · rw [if_neg negative, if_neg negative, if_pos wide, if_pos wide]
    · rw [if_neg negative, if_neg wide] at spec ⊢
      obtain ⟨nonneg, nonneg', positive, fits, -⟩ := spec.mp rfl
      have product : 0 ≤ left * right := Int.mul_nonneg nonneg nonneg'
      have largest : left * right ≤ phpIntMax * denominator :=
        fits.trans (le_mul_of_one_le_right (by decide) positive)
      rw [if_neg negative, if_neg wide, strictInt_ok ⟨by unfold phpIntMin; omega, range⟩, ok_bind]
      exact strictInt_ok ⟨le_trans (by decide) (halfUp_nonneg positive product), halfUp_le positive largest⟩

theorem multiplyAndDivide64_max (left right : Int) :
    multiplyAndDivide64 left right phpIntMax = (multiplyAndDivide left right phpIntMax).bind fun _ =>
      .error ⟨.type, "intdiv(): Argument #1 ($num1) must be of type int, float given"⟩ := by
  unfold multiplyAndDivide64 multiplyAndDivide
  rw [strictInt_ok (by decide), ok_bind]
  split
  · rfl
  · split <;> rfl

theorem safeAdd64_eq {left right : Int} (nonneg : 0 ≤ left) (nonneg' : 0 ≤ right) :
    safeAdd64 left right = safeAdd left right := by
  unfold safeAdd64 safeAdd
  split
  · rfl
  · exact strictInt_ok ⟨le_trans (by decide) (Int.add_nonneg nonneg nonneg'), by omega⟩

variable {snapshot : TariffSnapshot} {input : RatingInput} {component : TariffComponent}
  {components : List TariffComponent} {start : Int}

theorem stumbles_cons : Stumbles snapshot input (component :: components) start ↔
    (component.unitQuantity = phpIntMax ∧
        component.priceMinor * quantity snapshot input component.dimension ≤ phpIntMax) ∨
      ∃ amount sum, multiplyAndDivide component.priceMinor (quantity snapshot input component.dimension)
          component.unitQuantity = .ok amount ∧ safeAdd start amount = .ok sum ∧
        Stumbles snapshot input components sum := by
  constructor
  · rintro ⟨before, largest, after, rated, split, run, unit, product⟩
    cases before with
    | nil =>
      cases split
      exact Or.inl ⟨unit, product⟩
    | cons =>
      cases split
      obtain ⟨amount, first, run⟩ := bind_ok_iff.mp run
      obtain ⟨sum, added, run⟩ := bind_ok_iff.mp run
      obtain ⟨later, run, -⟩ := bind_ok_iff.mp run
      exact Or.inr ⟨amount, sum, first, added, _, _, _, later, rfl, run, unit, product⟩
  · rintro (⟨unit, product⟩ | ⟨amount, sum, first, added, before, largest, after, rated, rfl, run, rest⟩)
    · exact ⟨[], component, components, _, rfl, rfl, unit, product⟩
    · obtain ⟨total, lines⟩ := rated
      have run' : ∃ rated, rateLines snapshot input (component :: before) start = .ok rated := by
        simp only [rateLines, bind_ok_iff]
        exact ⟨_, amount, first, sum, added, _, run, rfl⟩
      obtain ⟨rated, run'⟩ := run'
      exact ⟨component :: before, largest, after, rated, rfl, run', rest⟩

theorem multiplyAndDivide_nonneg {left right denominator amount : Int}
    (success : multiplyAndDivide left right denominator = .ok amount) : 0 ≤ amount := by
  obtain ⟨nonneg, nonneg', positive, -, rfl⟩ := (multiplyAndDivide_iff _ _ _ _).mp success
  exact halfUp_nonneg positive (Int.mul_nonneg nonneg nonneg')

/-- The components are rated as over integers without bound, or one of them is refused for its unit. -/
theorem rateLines64_cases (priced : ∀ c ∈ components, 0 ≤ c.priceMinor ∧ 0 < c.unitQuantity ∧ c.unitQuantity ≤ phpIntMax)
    (measured : ∀ dimension, 0 ≤ quantity snapshot input dimension) (nonneg : 0 ≤ start) :
    (Stumbles snapshot input components start ∧
        ∃ message, rateLines64 snapshot input components start = .error ⟨.type, message⟩) ∨
      (¬ Stumbles snapshot input components start ∧
        rateLines64 snapshot input components start = rateLines snapshot input components start) := by
  induction components generalizing start with
  | nil =>
    refine Or.inr ⟨?_, rfl⟩
    rintro ⟨before, largest, after, -, split, -⟩
    cases before <;> cases split
  | cons component components ih =>
    obtain ⟨⟨price, unit, fits⟩, priced⟩ := List.forall_mem_cons.mp priced
    rw [stumbles_cons, rateLines64, rateLines]
    dsimp only
    cases amount : multiplyAndDivide component.priceMinor (quantity snapshot input component.dimension)
        component.unitQuantity with
    | error e =>
      refine Or.inr ⟨?_, ?_⟩
      · rintro (⟨_, product⟩ | ⟨_, _, success, -⟩)
        · have success := (multiplyAndDivide_iff _ _ _ _).mpr ⟨price, measured _, unit, product, rfl⟩
          cases amount.symm.trans success
        · cases success
      · rcases Int.lt_or_eq_of_le fits with less | largest
        · rw [multiplyAndDivide64_eq (le_trans (by decide) unit.le) less, amount]
          rfl
        · rw [largest] at amount ⊢
          rw [multiplyAndDivide64_max, amount]
          rfl
    | ok amount' =>
      have product := ((multiplyAndDivide_iff _ _ _ _).mp amount).2.2.2.1
      rcases Int.lt_or_eq_of_le fits with less | largest
      · rw [multiplyAndDivide64_eq (le_trans (by decide) unit.le) less, amount, ok_bind, ok_bind,
          safeAdd64_eq nonneg (multiplyAndDivide_nonneg amount)]
        cases sum : safeAdd start amount' with
        | error e =>
          refine Or.inr ⟨?_, rfl⟩
          rintro (⟨largest, -⟩ | ⟨_, _, ⟨⟩, added, -⟩)
          · omega
          · cases sum.symm.trans added
        | ok sum' =>
          have later : 0 ≤ sum' := by
            rw [((safeAdd_iff _ _ _).mp sum).2]
            exact Int.add_nonneg nonneg (multiplyAndDivide_nonneg amount)
          rw [ok_bind, ok_bind]
          rcases ih priced later with ⟨stumbles, message, refused⟩ | ⟨passes, same⟩
          · exact Or.inl ⟨Or.inr ⟨_, _, rfl, sum, stumbles⟩, message, by rw [refused]; rfl⟩
          · refine Or.inr ⟨?_, by rw [same]⟩
            rintro (⟨largest, -⟩ | ⟨_, _, ⟨⟩, added, stumbles⟩)
            · omega
            · cases sum.symm.trans added
              exact passes stumbles
      · rw [largest] at amount ⊢
        rw [multiplyAndDivide64_max, amount]
        exact Or.inl ⟨Or.inl ⟨rfl, largest ▸ product⟩, _, rfl⟩

theorem rateLines_nonneg {total : Int} {lines : List RatedLine} (nonneg : 0 ≤ start)
    (success : rateLines snapshot input components start = .ok (total, lines)) : 0 ≤ total := by
  obtain ⟨each, rfl, -⟩ := rateLines_ok success
  exact Int.add_nonneg nonneg (subtotalOf_nonneg each)

theorem rateLines_range {total : Int} {lines : List RatedLine} (fits : start ≤ phpIntMax)
    (success : rateLines snapshot input components start = .ok (total, lines)) : total ≤ phpIntMax := by
  induction components generalizing start lines with
  | nil =>
    cases success
    exact fits
  | cons component components ih =>
    obtain ⟨amount, -, success⟩ := bind_ok_iff.mp success
    obtain ⟨sum, added, success⟩ := bind_ok_iff.mp success
    obtain ⟨⟨total, lines⟩, later, same⟩ := bind_ok_iff.mp success
    cases same
    obtain ⟨range, rfl⟩ := (safeAdd_iff _ _ _).mp added
    exact ih range later

theorem discountOf_nonneg {discount : TariffDiscount} {remaining : Int} (value : 0 ≤ discount.value)
    (nonneg : 0 ≤ remaining) : 0 ≤ discountOf discount remaining := by
  refine le_min nonneg ?_
  cases discount.kind with
  | percentage => exact halfUp_nonneg (by decide) (Int.mul_nonneg nonneg value)
  | fixed => exact value

theorem discounted_le {given : List TariffDiscount} (valid : ∀ d ∈ given, 0 ≤ d.value) {remaining : Int}
    (nonneg : 0 ≤ remaining) : discounted given remaining ≤ remaining := by
  induction given generalizing remaining with
  | nil => exact le_refl _
  | cons discount _ ih =>
    obtain ⟨value, valid⟩ := List.forall_mem_cons.mp valid
    have less := ih valid (Int.sub_nonneg_of_le (discountOf_le discount remaining))
    have taken := discountOf_nonneg value nonneg
    rw [discounted]
    omega

theorem discounts64_eq {given : List TariffDiscount} (valid : ∀ d ∈ given, 0 ≤ d.value) {remaining taken : Int}
    (nonneg : 0 ≤ remaining) (nonneg' : 0 ≤ taken) (fits : taken + remaining ≤ phpIntMax) :
    discounts64 given remaining taken = (discounts given remaining).map fun r => (taken + r.1, r.2) := by
  induction given generalizing remaining taken with
  | nil => simp [discounts64, discounts, Except.map]
  | cons discount given ih =>
    obtain ⟨value, valid⟩ := List.forall_mem_cons.mp valid
    have rest : ∀ kind amount, 0 ≤ amount → (do
        let amount := min remaining amount
        let remaining ← strictInt "multiplyAndDivide(): Argument #1 ($left)" (remaining - amount)
        let totalDiscount ← strictInt "RatingResult::__construct(): Argument #3 ($discountMinor)" (taken + amount)
        let (total, lines) ← discounts64 given remaining totalDiscount
        pure (total, { name := discount.name, kind, value := discount.value
                       amountMinor := amount } :: lines)) =
        (do
          let (total, lines) ← discounts given (remaining - min remaining amount)
          pure (min remaining amount + total,
            { name := discount.name, kind, value := discount.value
              amountMinor := min remaining amount } :: lines) : Except Throwable _).map fun r => (taken + r.1, r.2) := by
      intro kind amount positive
      have bound : 0 ≤ min remaining amount ∧ min remaining amount ≤ remaining := ⟨le_min nonneg positive, min_le_left _ _⟩
      generalize min remaining amount = amount at bound ⊢
      have floor : phpIntMin ≤ 0 := by decide
      dsimp only
      rw [strictInt_ok ⟨by omega, by omega⟩, ok_bind, strictInt_ok ⟨by omega, by omega⟩, ok_bind,
        ih valid (by omega) (by omega) (by omega)]
      cases discounts given (remaining - amount) with
      | error => rfl
      | ok => simp [Except.map, bind, Except.bind, pure, Except.pure, Int.add_assoc]
    rw [discounts64, discounts]
    cases discount.kind with
    | fixed => exact rest .fixed _ value
    | percentage =>
      dsimp only
      rw [multiplyAndDivide64_eq (by decide) (by decide)]
      cases amount : multiplyAndDivide remaining discount.value 10000 with
      | error => rfl
      | ok amount' => exact rest .percentage amount' (multiplyAndDivide_nonneg amount)

theorem tax64_eq (rate : 0 ≤ snapshot.taxRateBasisPoints.getD 0 ∧ snapshot.taxRateBasisPoints.getD 0 ≤ 10000) (net : Int) :
    tax64 snapshot net = tax snapshot net := by
  obtain ⟨low, high⟩ := rate
  have floor : phpIntMin ≤ 0 := by decide
  have fits : 20000 < phpIntMax := by decide
  unfold tax64 tax
  cases snapshot.taxTreatment with
  | exclusive => exact multiplyAndDivide64_eq (by omega) (by omega)
  | inclusive =>
    dsimp only
    rw [multiplyAndDivide64_eq (by omega) (by omega)]

/-- What a rating has before the platform fee. -/
structure Amounts (rated : RatingResult) : Prop where
  subtotal : 0 ≤ rated.subtotalMinor
  taxMinor : 0 ≤ rated.taxMinor
  total : 0 ≤ rated.totalMinor

theorem addPlatformFee64_eq {fee : PlatformFee} {rated : RatingResult} (amount : 0 ≤ fee.amountMinor)
    (rate : 0 ≤ fee.taxRateBasisPoints.getD 0 ∧ fee.taxRateBasisPoints.getD 0 ≤ 10000) (amounts : Amounts rated) :
    addPlatformFee64 snapshot fee rated = addPlatformFee snapshot fee rated := by
  obtain ⟨low, high⟩ := rate
  have floor : phpIntMin ≤ 0 := by decide
  have fits : 20000 < phpIntMax := by decide
  unfold addPlatformFee64 addPlatformFee
  dsimp only
  rw [multiplyAndDivide64_eq (by omega) (by omega)]
  cases contained : multiplyAndDivide fee.amountMinor (fee.taxRateBasisPoints.getD 0)
      (10000 + fee.taxRateBasisPoints.getD 0) with
  | error => rfl
  | ok feeTax =>
    have nonneg := multiplyAndDivide_nonneg contained
    have part : feeTax ≤ fee.amountMinor := by
      obtain ⟨-, -, positive, -, rfl⟩ := (multiplyAndDivide_iff _ _ _ _).mp contained
      exact halfUp_le positive (Int.mul_le_mul_of_nonneg_left (by omega) amount)
    have rest : 0 ≤ (if snapshot.taxTreatment = .exclusive then fee.amountMinor - feeTax else fee.amountMinor) := by
      split <;> omega
    rw [ok_bind, ok_bind, safeAdd64_eq amounts.subtotal rest, safeAdd64_eq amounts.taxMinor nonneg,
      safeAdd64_eq amounts.total amount]

/-! ### What is refused -/

/-- Where the computation throws, it is for an overflow or an argument. -/
def Refused {α : Type} (m : Except Throwable α) : Prop :=
  ∀ e, m = .error e → e.type = .overflow ∨ e.type = .invalidArgument

namespace Refused
variable {α β : Type}

theorem ok (a : α) : Refused (.ok a) := fun _ none => by cases none

theorem overflow (message : String) : Refused (.error (.overflow message) : Except Throwable α) := by
  rintro _ ⟨⟩
  exact Or.inl rfl

theorem invalidArgument (message : String) : Refused (.error (.invalidArgument message) : Except Throwable α) := by
  rintro _ ⟨⟩
  exact Or.inr rfl

theorem bind {m : Except Throwable α} {f : α → Except Throwable β} (first : Refused m)
    (rest : ∀ a, m = .ok a → Refused (f a)) : Refused (m >>= f) := by
  cases m with
  | error e =>
    rintro _ ⟨⟩
    exact first e rfl
  | ok a => exact rest a rfl

end Refused

theorem multiplyAndDivide_refused (left right denominator : Int) : Refused (multiplyAndDivide left right denominator) := by
  unfold multiplyAndDivide
  split
  · exact .invalidArgument _
  · split
    · exact .overflow _
    · exact .ok _

theorem safeAdd_refused (left right : Int) : Refused (safeAdd left right) := by
  unfold safeAdd
  split
  · exact .overflow _
  · exact .ok _

theorem rateLines_refused : Refused (rateLines snapshot input components start) := by
  induction components generalizing start with
  | nil => exact .ok _
  | cons component components ih =>
    exact (multiplyAndDivide_refused _ _ _).bind fun _ _ =>
      (safeAdd_refused _ _).bind fun _ _ => ih.bind fun _ _ => .ok _

theorem discounts_refused (given : List TariffDiscount) (remaining : Int) : Refused (discounts given remaining) := by
  induction given generalizing remaining with
  | nil => exact .ok _
  | cons discount given ih =>
    rw [discounts]
    cases discount.kind with
    | fixed => exact (ih _).bind fun _ _ => .ok _
    | percentage => exact (multiplyAndDivide_refused _ _ _).bind fun _ _ => (ih _).bind fun _ _ => .ok _

theorem tax_refused (snapshot : TariffSnapshot) (net : Int) : Refused (tax snapshot net) := by
  unfold tax
  cases snapshot.taxTreatment with
  | exclusive => exact multiplyAndDivide_refused _ _ _
  | inclusive =>
    dsimp only
    split
    · exact .ok _
    · exact multiplyAndDivide_refused _ _ _

theorem addPlatformFee_refused (snapshot : TariffSnapshot) (fee : PlatformFee) (rated : RatingResult) :
    Refused (addPlatformFee snapshot fee rated) :=
  (multiplyAndDivide_refused _ _ _).bind fun _ _ => (safeAdd_refused _ _).bind fun _ _ =>
    (safeAdd_refused _ _).bind fun _ _ => (safeAdd_refused _ _).bind fun _ _ => .ok _

theorem rate_refused (clock : LocalClock) (snapshot : TariffSnapshot) (input : RatingInput) :
    Refused (rate clock snapshot input) := by
  have valid : Refused (assertNonNegative input) := by
    unfold assertNonNegative
    split
    · exact .invalidArgument _
    · exact .ok _
  refine valid.bind fun _ _ => ?_
  split
  · exact .ok _
  · cases clock snapshot.timezone input.startedAt with
    | none => exact .invalidArgument _
    | some localStart =>
      refine rateLines_refused.bind fun _ _ => (discounts_refused _ _).bind fun _ _ =>
        (tax_refused _ _).bind fun net _ => ?_
      have charged : ∀ total rated, Refused (match chargedFee snapshot input total with
          | none => pure rated
          | some fee => addPlatformFee snapshot fee rated) := by
        intro total rated
        split
        · exact .ok _
        · exact addPlatformFee_refused _ _ _
      dsimp only
      split
      · exact (safeAdd_refused _ _).bind fun _ _ => charged _ _
      · exact charged _ _

/-! ### When a rating is exact or refused -/

theorem mem_selectComponents {localStart : LocalTime} {given : List TariffComponent}
    (selected : component ∈ selectComponents localStart given) : component ∈ given := by
  revert component
  refine List.foldlRecOn (motive := fun chosen => ∀ {c}, c ∈ chosen → c ∈ given) given _ (by simp) ?_
  intro chosen there component here c member
  split at member
  · split at member
    · obtain ⟨old, there', rfl⟩ := List.mem_map.mp member
      split
      · exact here
      · exact there there'
    · rcases List.mem_append.mp member with member | member
      · exact there member
      · exact List.mem_singleton.mp member ▸ here
  · exact there member

theorem assertNonNegative_iff : assertNonNegative input = .ok () ↔ input.Valid := by
  unfold assertNonNegative
  constructor
  · intro success
    split at success
    · cases success
    · constructor <;> omega
  · rintro ⟨_, _, _, _, _⟩
    rw [if_neg (by omega)]

theorem limited_nonneg (written : Written snapshot) {total : Int} (nonneg : 0 ≤ total) : 0 ≤ limited snapshot total := by
  obtain ⟨-, -, -, low, high, -⟩ := written
  unfold limited
  cases minimum : snapshot.minimumFeeMinor with
  | none =>
    cases maximum : snapshot.maximumFeeMinor with
    | none => exact nonneg
    | some n => exact le_min nonneg (high n maximum)
  | some n =>
    have raised : 0 ≤ max total n := nonneg.trans (le_max_left _ _)
    cases maximum : snapshot.maximumFeeMinor with
    | none => exact raised
    | some n => exact le_min raised (high n maximum)

theorem feeAdded_eq (written : Written snapshot) (total : Int) {rated : RatingResult} (amounts : Amounts rated) :
    (match chargedFee snapshot input total with
      | none => pure rated
      | some fee => addPlatformFee64 snapshot fee rated) =
    (match chargedFee snapshot input total with
      | none => pure rated
      | some fee => addPlatformFee snapshot fee rated) := by
  cases paid : chargedFee snapshot input total with
  | none => rfl
  | some fee =>
    obtain ⟨amount, feeRate⟩ := written.fee fee (Option.eq_some_of_filter_eq_some paid)
    exact addPlatformFee64_eq amount feeRate amounts

theorem rateSelected64_cases {clock : LocalClock} {localStart : LocalTime} (written : Written snapshot)
    (valid : input.Valid) (selected : snapshot.selected = true)
    (known : clock snapshot.timezone input.startedAt = some localStart) :
    (Stumbles snapshot input (selectComponents localStart snapshot.components) 0 ∧ ∃ message,
        rateSelected64 snapshot input (selectComponents localStart snapshot.components) = .error ⟨.type, message⟩) ∨
      (¬ Stumbles snapshot input (selectComponents localStart snapshot.components) 0 ∧
        rateSelected64 snapshot input (selectComponents localStart snapshot.components) = rate clock snapshot input) := by
  have priced : ∀ c ∈ selectComponents localStart snapshot.components, 0 ≤ c.priceMinor ∧ 0 < c.unitQuantity ∧
      c.unitQuantity ≤ phpIntMax := fun c member => written.prices c (mem_selectComponents member)
  rcases rateLines64_cases priced (quantity_nonneg snapshot valid) (le_refl 0) with
    ⟨stumbles, message, refused⟩ | ⟨passes, same⟩
  · refine Or.inl ⟨stumbles, message, ?_⟩
    unfold rateSelected64
    rw [refused]
    rfl
  · refine Or.inr ⟨passes, ?_⟩
    unfold rateSelected64 rate
    rw [same, assertNonNegative_iff.mpr valid, known]
    simp only [selected, Bool.true_eq_false, if_false, ok_bind]
    cases rated : rateLines snapshot input (selectComponents localStart snapshot.components) 0 with
    | error => rfl
    | ok r =>
      obtain ⟨subtotal, lines⟩ := r
      have nonneg := rateLines_nonneg (le_refl 0) rated
      have range := rateLines_range (by decide) rated
      rw [ok_bind, ok_bind, discounts64_eq written.discounts nonneg (le_refl 0) (by omega)]
      cases left : discounts snapshot.discounts subtotal with
      | error => rfl
      | ok r =>
        obtain ⟨discountMinor, discountLines⟩ := r
        obtain ⟨-, rfl, rfl⟩ := discounts_ok left
        have kept := discounted_nonneg snapshot.discounts nonneg
        have taken := discounted_le written.discounts nonneg
        have floor : phpIntMin ≤ 0 := by decide
        simp only [Except.map, Int.zero_add]
        rw [ok_bind, ok_bind]
        dsimp only
        rw [strictInt_ok ⟨by omega, by omega⟩, ok_bind, tax64_eq written.rate]
        generalize subtotal - discounted snapshot.discounts subtotal = discountMinor
        have leftNonneg : 0 ≤ max 0 (subtotal - discountMinor) := le_max_left _ _
        generalize max 0 (subtotal - discountMinor) = net at leftNonneg ⊢
        cases taxed : tax snapshot net with
        | error => rfl
        | ok taxMinor =>
          obtain ⟨rate, -, rfl⟩ := (tax_iff snapshot leftNonneg _).mp taxed
          have taxNonneg := (taxOn_within snapshot rate leftNonneg).1
          rw [ok_bind, ok_bind]
          split
          · rw [safeAdd64_eq leftNonneg taxNonneg]
            cases sum : safeAdd net (taxOn snapshot net) with
            | error => rfl
            | ok total =>
              obtain ⟨-, rfl⟩ := (safeAdd_iff _ _ _).mp sum
              exact feeAdded_eq written _ ⟨nonneg, taxNonneg,
                limited_nonneg written (Int.add_nonneg leftNonneg taxNonneg)⟩
          · exact feeAdded_eq written _ ⟨nonneg, taxNonneg, limited_nonneg written leftNonneg⟩

theorem exactRating_discount (written : Written snapshot) (rated : Rated snapshot input components) :
    0 ≤ (exactRating snapshot input components).discountMinor ∧
      (exactRating snapshot input components).discountMinor ≤ (exactRating snapshot input components).subtotalMinor := by
  have nonneg := subtotalOf_nonneg rated.each
  have kept := discounted_nonneg snapshot.discounts nonneg
  have taken := discounted_le written.discounts nonneg
  have usage : 0 ≤ (usageRating snapshot input components).discountMinor ∧
      (usageRating snapshot input components).discountMinor ≤ (usageRating snapshot input components).subtotalMinor := by
    unfold usageRating
    dsimp only
    omega
  unfold exactRating
  dsimp only
  cases paid : chargedFee snapshot input (usageRating snapshot input components).totalMinor with
  | none => exact usage
  | some fee =>
    obtain ⟨amount, rate⟩ := rated.fee fee paid
    have part : feeTaxOf fee ≤ fee.amountMinor :=
      halfUp_le (by omega) (Int.mul_le_mul_of_nonneg_left (by omega) amount)
    refine ⟨usage.1, usage.2.trans ?_⟩
    unfold withFee
    dsimp only
    split <;> omega

theorem rate_exactOrRefused {clock : LocalClock} (written : Written snapshot)
    (same : rate64 clock snapshot input = rate clock snapshot input) : ExactOrRefused clock snapshot input := by
  unfold ExactOrRefused
  rw [same]
  cases success : rate clock snapshot input with
  | error e => exact rate_refused clock snapshot input e success
  | ok result =>
    dsimp only
    unfold exactResult
    cases selected : snapshot.selected with
    | true =>
      obtain ⟨localStart, known, rated, rfl⟩ := rate_exact selected success
      rw [known]
      exact ⟨rfl, exactRating_discount written rated⟩
    | false =>
      unfold rate at success
      simp only [selected, if_true] at success
      obtain ⟨-, -, ⟨⟩⟩ := bind_ok_iff.mp success
      exact ⟨rfl, le_refl 0, le_refl 0⟩

/-- On the integers of the machine a rating is exact or refused where it does not come to a component with
the largest unit whose product is an integer. -/
theorem rate64_exact_iff {clock : LocalClock} (written : Written snapshot) :
    ExactOrRefused clock snapshot input ↔ ¬ StumblesAt clock snapshot input := by
  by_cases valid : input.Valid
  · have unrefused := assertNonNegative_iff.mpr valid
    cases selected : snapshot.selected with
    | false =>
      have same : rate64 clock snapshot input = rate clock snapshot input := by
        unfold rate64 rate
        simp only [selected, if_true]
      refine iff_of_true (rate_exactOrRefused written same) ?_
      rintro ⟨-, priced, -⟩
      simp [selected] at priced
    | true =>
      cases known : clock snapshot.timezone input.startedAt with
      | none =>
        have same : rate64 clock snapshot input = rate clock snapshot input := by
          unfold rate64 rate
          simp only [known]
          rfl
        refine iff_of_true (rate_exactOrRefused written same) ?_
        rintro ⟨-, -, _, zone, -⟩
        simp [known] at zone
      | some localStart =>
        have rated : rate64 clock snapshot input =
            rateSelected64 snapshot input (selectComponents localStart snapshot.components) := by
          unfold rate64
          simp only [unrefused, selected, known, Bool.true_eq_false, if_false, ok_bind]
        rcases rateSelected64_cases written valid selected known with ⟨stumbles, message, refused⟩ | ⟨passes, same⟩
        · refine iff_of_false ?_ (not_not.mpr ⟨unrefused, selected, localStart, known, stumbles⟩)
          unfold ExactOrRefused
          rw [rated, refused]
          rintro (none | none) <;> cases none
        · refine iff_of_true (rate_exactOrRefused written (rated.trans same)) ?_
          rintro ⟨-, -, _, zone, stumbles⟩
          cases known.symm.trans zone
          exact passes stumbles
  · have refused : assertNonNegative input = .error (.invalidArgument
        "Rating inputs must be non-negative integer measurements.") := by
      have checked := mt assertNonNegative_iff.mp valid
      unfold assertNonNegative at checked ⊢
      split at checked
      · rw [if_pos (by assumption)]
      · exact absurd rfl checked
    have same : rate64 clock snapshot input = rate clock snapshot input := by
      unfold rate64 rate
      rw [refused]
      rfl
    refine iff_of_true (rate_exactOrRefused written same) ?_
    rintro ⟨unrefused, -⟩
    exact valid (assertNonNegative_iff.mp unrefused)

theorem rate64_exact_discounted : ExactOrRefused utc discountedTariff (energyUse 2000) ↔
    ¬ StumblesAt utc discountedTariff (energyUse 2000) :=
  rate64_exact_iff (by constructor <;> simp [discountedTariff, phpIntMax])

/-- One minor unit for the largest quantity of energy. -/
theorem largest_unit_stumbles : ¬ ∀ (clock : LocalClock) (snapshot : TariffSnapshot) (input : RatingInput),
    Written snapshot → ExactOrRefused clock snapshot input := by
  intro always
  have exact := always utc { discountedTariff with components := [⟨.energy, 1, phpIntMax, 127, none, none, 0⟩] }
    (energyUse 1000) (by constructor <;> simp [discountedTariff, phpIntMax])
  rcases exact with none | none <;> cases none

end TariffEngine
end VtsaCsms.Tariffs
