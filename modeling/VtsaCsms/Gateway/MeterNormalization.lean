import VtsaCsms.Foundation.Doubles
import VtsaCsms.Foundation.Json

/-!
# Meter values

`normalize_v16_meter_values` and `normalize_v201_meter_values` of `normalization.py` on any JSON list, with the decimal
numbers of Python in its default context of 28 places. An exception that no `except` names ends the whole call, and a
value that is infinite or not a number is no JSON: exactly which samples lead to either.
-/
namespace VtsaCsms.Gateway.Normalization
open Foundation

inductive Raised where
  | invalidOperation | overflow | overflowError | typeError | valueError | attributeError
  deriving DecidableEq, Repr

/-- What the `except` clauses name; `decimal.Overflow` and `OverflowError` are not among it. -/
def Raised.isNamed : Raised → Bool
  | invalidOperation | typeError | valueError => true
  | overflow | overflowError | attributeError => false

/-- A decimal number by its value. -/
inductive Decimal where
  | finite (value : Rat)
  | infinite (negative : Bool)
  | nan
  | snan
  deriving DecidableEq

/-- The value of a sample as it is returned. -/
inductive Returned where
  | int (n : Int)
  | float (x : Double)
  | nan
  | text (s : String)
  deriving DecidableEq

/-- A string, or a finite number. -/
def Returned.Valid : Returned → Prop
  | int _ => True
  | float (.finite _) => True
  | float (.infinite _) => False
  | nan => False
  | text _ => True

/-- What Python brings: the white space that `Decimal` and that `int` strip, the decimal digits of all scripts, and the
texts of floats, of lists and dictionaries, and of decimals. -/
structure Python where
  isSpace : Char → Bool
  isIntSpace : Char → Bool
  decimalDigit : Char → Option Nat
  floatText : Double → String
  repr : Json → String
  decimalText : Decimal → String

variable (python : Python)

/-! ### Values -/

/-- `str(value)`. -/
def str : Json → String
  | .null => "None"
  | .bool true => "True"
  | .bool false => "False"
  | .int n => toString n
  | .float q => python.floatText (Double.ofRat q)
  | .string s => s
  | value => python.repr value

def truthy : Json → Bool
  | .null => false
  | .bool b => b
  | .int n => decide (n ≠ 0)
  | .float q => decide (Double.ofRat q ≠ .finite 0)
  | .string s => decide (s ≠ "")
  | .list items => !items.isEmpty
  | .object members => !members.isEmpty

/-- `value or other`. -/
def orElse (value other : Json) : Json := if truthy value then value else other

/-- A member of a dictionary; of two under one key `json.loads` keeps the last. -/
def member? (members : List (String × Json)) (key : String) : Option Json := members.reverse.lookup key

/-- `dict.get(key)`. -/
def get (members : List (String × Json)) (key : String) : Json := (member? members key).getD .null

/-- What a `for` goes over: the items of a list, the keys of a dictionary, the characters of a string. -/
def iterate : Json → Except Raised (List Json)
  | .list items => .ok items
  | .object members => .ok (members.map fun member => .string member.1)
  | .string s => .ok (s.toList.map fun c => .string (String.singleton c))
  | _ => .error .typeError

/-- A stripped text with the digits of other scripts as ASCII; what is no digit there is no part of a number either. -/
def asciiOf (isSpace : Char → Bool) (s : String) : List Char :=
  let stripped := ((s.toList.dropWhile isSpace).reverse.dropWhile isSpace).reverse
  stripped.map fun c =>
    if c.toNat < 128 then c else ((python.decimalDigit c).map Nat.digitChar).getD ' '

def signOf : List Char → Bool × List Char
  | '-' :: rest => (true, rest)
  | '+' :: rest => (false, rest)
  | characters => (false, characters)

def digitsValue (digits : List Char) : Nat := digits.foldl (fun n c => 10 * n + (c.toNat - '0'.toNat)) 0

def signed (negative : Bool) (n : Nat) : Int := if negative then -n else n

/-- `int(text)`: digits, in groups by single underscores, 4300 at most. -/
def intOfText (s : String) : Except Raised Int :=
  let (negative, characters) := signOf (asciiOf python python.isIntSpace s)
  let groups := characters.splitOn '_'
  if groups.all (fun digits => !digits.isEmpty && digits.all Char.isDigit) ∧ groups.flatten.length ≤ 4300 then
    .ok (signed negative (digitsValue groups.flatten))
  else .error .valueError

/-- `int(multiplier)`. -/
def intOf : Json → Except Raised Int
  | .bool b => .ok (if b then 1 else 0)
  | .int n => .ok n
  | .float q =>
    match Double.ofRat q with
    | .finite x => .ok (if x < 0 then ⌈x⌉ else ⌊x⌋)
    | .infinite _ => .error .overflowError
  | .string s => intOfText python s
  | _ => .error .typeError

/-! ### Decimals -/

namespace Decimal

/-- The exponent after the `e`. -/
def exponentOf (characters : List Char) : Option Int :=
  let (negative, digits) := signOf characters
  if digits ≠ [] ∧ digits.all Char.isDigit then some (signed negative (digitsValue digits)) else none

/-- Digits with at most one point; no number is kept whose exponents are beyond those of the library. -/
def numberOf (negative : Bool) (characters : List Char) : Option Decimal :=
  let mantissa := characters.takeWhile (· ≠ 'e')
  let whole := mantissa.takeWhile (· ≠ '.')
  let fraction := (mantissa.dropWhile (· ≠ '.')).drop 1
  let digits := whole ++ fraction
  let written := match characters.dropWhile (· ≠ 'e') with
    | [] => some 0
    | _ :: rest => exponentOf rest
  written.bind fun exponent =>
    let coefficient := digitsValue digits
    let last := exponent - fraction.length
    let first := last + (Nat.repr coefficient).length - 1
    if digits ≠ [] ∧ digits.all Char.isDigit ∧ first ≤ 999999999999999999 ∧ -1999999999999999997 ≤ last then
      some (.finite (signed negative coefficient * 10 ^ last))
    else none

/-- `Decimal(text)`; `none` is an `InvalidOperation`. -/
def ofText (s : String) : Option Decimal :=
  let (negative, characters) :=
    signOf (((asciiOf python python.isSpace s).filter (· ≠ '_')).map Char.toLower)
  match characters with
  | ['i', 'n', 'f'] | ['i', 'n', 'f', 'i', 'n', 'i', 't', 'y'] => some (.infinite negative)
  | 'n' :: 'a' :: 'n' :: payload => if payload.all Char.isDigit then some nan else none
  | 's' :: 'n' :: 'a' :: 'n' :: payload => if payload.all Char.isDigit then some snan else none
  | _ => numberOf negative characters

/-- A result in the default context: 28 places, exponents up to 999999; an overflow is trapped, an underflow is not. -/
def inContext (q : Rat) : Except Raised Decimal :=
  let rounded := toPlaces 10 28 (-1000026) |q|
  if 10 ^ 1000000 ≤ rounded then .error .overflow else .ok (finite (if q < 0 then -rounded else rounded))

/-- `self * other`. -/
def mul : Decimal → Decimal → Except Raised Decimal
  | snan, _ => .error .invalidOperation
  | _, snan => .error .invalidOperation
  | nan, _ => .ok nan
  | _, nan => .ok nan
  | infinite a, infinite b => .ok (infinite (a != b))
  | infinite a, finite q => if q = 0 then .error .invalidOperation else .ok (infinite (a != decide (q < 0)))
  | finite q, infinite b => if q = 0 then .error .invalidOperation else .ok (infinite (decide (q < 0) != b))
  | finite p, finite q => inContext (p * q)

/-- The value of `Decimal(10) ** n` that does not overflow; what is below all places is zero. -/
def tenTo (n : Int) : Rat := if n < -1000026 then 0 else 10 ^ n

/-- `Decimal(10) ** n`. -/
def powerOfTen (n : Int) : Except Raised Decimal :=
  if 999999 < n then .error .overflow else .ok (finite (tenTo n))

/-- `_integer_if_exact`. -/
def integerIfExact : Decimal → Except Raised Returned
  | finite q => .ok (if q = roundHalfEven q then .int (roundHalfEven q) else .float (Double.ofRat q))
  | infinite _ => .error .overflowError
  | nan => .ok .nan
  | snan => .error .invalidOperation

/-- `float(numeric)`. -/
def toFloat : Decimal → Except Raised Returned
  | finite q => .ok (.float (Double.ofRat q))
  | infinite negative => .ok (.float (.infinite negative))
  | nan => .ok .nan
  | snan => .error .valueError

end Decimal

/-! ### `_normalize_sample` -/

structure Sample where
  timestamp : Json
  measurand : Json
  value : Returned
  unit : Json
  context : Json
  phase : Json

/-- The value that a sample is normalized with: as it came, or scaled. -/
inductive Given where
  | json (value : Json)
  | decimal (value : Decimal)

/-- `Decimal(str(value))`; a decimal is read as it is written. -/
def numericOf : Given → Except Raised Decimal
  | .json value =>
    match Decimal.ofText python (str python value) with
    | some numeric => .ok numeric
    | none => .error .invalidOperation
  | .decimal value => .ok value

def textOf : Given → String
  | .json value => str python value
  | .decimal value => python.decimalText value

def isUnit (unit : Json) (name : String) : Bool :=
  match unit with
  | .string s => decide (s = name)
  | _ => false

/-- The value and the unit that it is normalized to. -/
def convert (unit : Json) (numeric : Decimal) : Except Raised (Returned × Json) :=
  if isUnit unit "kWh" then
    (numeric.mul (.finite 1000)).bind fun scaled => scaled.integerIfExact.map fun value => (value, .string "Wh")
  else if isUnit unit "Wh" then numeric.integerIfExact.map fun value => (value, unit)
  else if isUnit unit "kW" then
    (numeric.mul (.finite 1000)).bind fun scaled => scaled.integerIfExact.map fun value => (value, .string "W")
  else if isUnit unit "W" then numeric.integerIfExact.map fun value => (value, unit)
  else numeric.toFloat.map fun value => (value, unit)

def normalizeSample (value : Given) (unit measurand timestamp context phase : Json) : Except Raised Sample :=
  match (numericOf python value).bind (convert unit) with
  | .ok (normalizedValue, normalizedUnit) =>
    .ok { timestamp, measurand, value := normalizedValue, unit := normalizedUnit, context, phase }
  | .error raised =>
    if raised.isNamed then .ok { timestamp, measurand, value := .text (textOf python value), unit, context, phase }
    else .error raised

/-! ### The two protocols -/

/-- A loop that appends what every item gives, up to the first exception. -/
def appendAll {α β : Type} (step : α → Except Raised (List β)) : List α → Except Raised (List β)
  | [] => .ok []
  | item :: rest => (step item).bind fun samples => (appendAll step rest).map (samples ++ ·)

/-- Only dictionaries are looked at. -/
def forDict {β : Type} (step : List (String × Json) → Except Raised (List β)) : Json → Except Raised (List β)
  | .object members => step members
  | _ => .ok []

/-- The two loops, by what a sample of a meter value with a timestamp is normalized to. -/
def normalizeMeterValues (sample : Json → List (String × Json) → Except Raised Sample) (values : List Json) :
    Except Raised (List Sample) :=
  appendAll (forDict fun meterValue =>
    (iterate ((member? meterValue "sampled_value").getD (.list []))).bind
      (appendAll (forDict fun sampled => (sample (get meterValue "timestamp") sampled).map ([·])))) values

def defaultUnit (sampled : List (String × Json)) : Json :=
  .string (if isUnit (get sampled "measurand") "SoC" then "Percent" else "Wh")

def measurandOf (sampled : List (String × Json)) : Json :=
  orElse (get sampled "measurand") (.string "Energy.Active.Import.Register")

def unitOf (sampled members : List (String × Json)) : Json := orElse (get members "unit") (defaultUnit sampled)

def sampleV16 (timestamp : Json) (sampled : List (String × Json)) : Except Raised Sample :=
  normalizeSample python (.json (get sampled "value")) (unitOf sampled sampled) (measurandOf sampled) timestamp
    (get sampled "context") (get sampled "phase")

def normalizeV16MeterValues : List Json → Except Raised (List Sample) := normalizeMeterValues (sampleV16 python)

/-- `Decimal(str(value)) * (Decimal(10) ** int(multiplier))`. -/
def scaledBy (value multiplier : Json) : Except Raised Decimal :=
  (numericOf python (.json value)).bind fun numeric =>
    (intOf python multiplier).bind fun exponent => (Decimal.powerOfTen exponent).bind numeric.mul

def multiplierOf (unitMeasure : List (String × Json)) : Json := orElse (get unitMeasure "multiplier") (.int 0)

/-- The scaled value, or the value as it came where an exception is caught. -/
def normalizeScaled (value unit measurand timestamp context phase : Json) (scaled : Except Raised Decimal) :
    Except Raised Sample :=
  match scaled with
  | .ok scaledValue => normalizeSample python (.decimal scaledValue) unit measurand timestamp context phase
  | .error raised =>
    if raised.isNamed then normalizeSample python (.json value) unit measurand timestamp context phase
    else .error raised

def sampleV201 (timestamp : Json) (sampled : List (String × Json)) : Except Raised Sample :=
  match orElse (get sampled "unit_of_measure") (.object []) with
  | .object unitMeasure =>
    normalizeScaled python (get sampled "value") (unitOf sampled unitMeasure) (measurandOf sampled) timestamp
      (get sampled "context") (get sampled "phase")
      (scaledBy python (get sampled "value") (multiplierOf unitMeasure))
  | _ => .error .attributeError

def normalizeV201MeterValues : List Json → Except Raised (List Sample) := normalizeMeterValues (sampleV201 python)

/-! ### Sound samples -/

/-- From here on a number is infinite as a double. -/
def tooLarge : Rat := 2 ^ 1024 - 2 ^ 970

/-- From here on 28 places are rounded up to that power of ten. -/
def near (k : Int) : Rat := 10 ^ k - 10 ^ (k - 28) / 2

def isKilo (unit : Json) : Bool := isUnit unit "kWh" || isUnit unit "kW"

def isBase (unit : Json) : Bool := isUnit unit "Wh" || isUnit unit "W"

/-- A number that can be converted from a unit; what signals is kept as text. -/
def Convertible (unit : Json) : Decimal → Prop
  | .finite q =>
    if isKilo unit then |q * 1000| < near 1000000
    else if isBase unit then (∃ n : Int, q = n) ∨ |q| < tooLarge
    else |q| < tooLarge
  | .infinite _ => False
  | .nan => False
  | .snan => True

/-- A number that can be converted once it is rounded to 28 places. -/
def ScaledConvertible (unit : Json) (q : Rat) : Prop :=
  if isKilo unit then |q| < near 999997
  else if isBase unit then |q| < near 1000000
  else |q| ≤ 17976931348623158079372897145 * 10 ^ 280

def SoundV16 (sampled : List (String × Json)) : Prop :=
  ∀ numeric, Decimal.ofText python (str python (get sampled "value")) = some numeric →
    Convertible (unitOf sampled sampled) numeric

/-- A number times the power of ten that `int(multiplier)` tells, or as it is where that is no integer. -/
def SoundScale (unit : Json) (exponent : Except Raised Int) : Decimal → Prop
  | .finite q =>
    match exponent with
    | .ok n => n ≤ 999999 ∧ ScaledConvertible unit (q * Decimal.tenTo n)
    | .error raised => raised.isNamed = true ∧ Convertible unit (.finite q)
  | .infinite _ => False
  | .nan => False
  | .snan =>
    match exponent with
    | .ok n => n ≤ 999999
    | .error raised => raised.isNamed = true

def SoundV201 (sampled : List (String × Json)) : Prop :=
  ∃ unitMeasure, orElse (get sampled "unit_of_measure") (.object []) = .object unitMeasure ∧
    ∀ numeric, Decimal.ofText python (str python (get sampled "value")) = some numeric →
      SoundScale (unitOf sampled unitMeasure) (intOf python (multiplierOf unitMeasure)) numeric

/-- A meter value whose sampled values can be gone over, all dictionaries among them sound. -/
def SoundMeterValue (sound : List (String × Json) → Prop) : Json → Prop
  | .object meterValue => ∃ items, iterate ((member? meterValue "sampled_value").getD (.list [])) = .ok items ∧
      ∀ sampled, .object sampled ∈ items → sound sampled
  | _ => True

/-! ### Rounding -/

theorem roundHalfEven_int (n : Int) : roundHalfEven n = n := by
  unfold roundHalfEven
  simp

theorem eq_roundHalfEven_iff (q : Rat) : q = roundHalfEven q ↔ ∃ n : Int, q = n := by
  constructor
  · exact fun same => ⟨_, same⟩
  · rintro ⟨n, rfl⟩
    rw [roundHalfEven_int]

theorem abs_inContext (q : Rat) :
    abs (if q < 0 then -toPlaces 10 28 (-1000026) |q| else toPlaces 10 28 (-1000026) |q|) =
      toPlaces 10 28 (-1000026) |q| := by
  have nonneg := @toPlaces_nonneg 10 28 (-1000026) |q| (by decide) (abs_nonneg q)
  split
  · rw [abs_neg, abs_of_nonneg nonneg]
  · exact abs_of_nonneg nonneg

theorem near_le (k : Int) : near k ≤ (10 : Rat) ^ k :=
  sub_le_self _ (div_nonneg (zpow_nonneg (by norm_num) _) (by norm_num))

theorem near_add_three (k : Int) : near (k + 3) = near k * 1000 := by
  have shift : k + 3 - 28 = (k - 28) + 3 := by omega
  have thousand : (10 : Rat) ^ (3 : Int) = 1000 := by norm_num
  unfold near
  rw [shift, zpow_add₀ (by norm_num), zpow_add₀ (by norm_num), thousand, sub_mul, div_mul_eq_mul_div]

theorem near_iff {k : Int} (positive : 0 < k) (a : Rat) :
    (10 : Rat) ^ k ≤ toPlaces 10 28 (-1000026) a ↔ near k ≤ a := by
  have bound := @power_le_toPlaces 10 28 (-1000026) a (by decide) (by decide) (by decide) k positive (by omega)
  rw [Nat.cast_ofNat] at bound
  exact bound

theorem inContext_cases (q : Rat) :
    (near 1000000 ≤ |q| ∧ Decimal.inContext q = .error .overflow) ∨
      (|q| < near 1000000 ∧ ∃ p, Decimal.inContext q = .ok (.finite p) ∧ |p| = toPlaces 10 28 (-1000026) |q|) := by
  have bound := near_iff (k := 1000000) (by decide) |q|
  have power : (10 : Rat) ^ (1000000 : Int) = 10 ^ 1000000 := zpow_natCast 10 1000000
  rw [power] at bound
  unfold Decimal.inContext
  simp only
  split
  · rename_i overflows
    exact Or.inl ⟨bound.mp overflows, rfl⟩
  · rename_i fits
    exact Or.inr ⟨not_le.mp fun large => fits (bound.mpr large), _, rfl, abs_inContext q⟩

theorem tooLarge_le {k : Int} (large : 309 ≤ k) : tooLarge ≤ (10 : Rat) ^ k :=
  calc tooLarge
    _ ≤ (10 : Rat) ^ 309 := by decide +kernel
    _ = (10 : Rat) ^ (309 : Int) := (zpow_natCast 10 309).symm
    _ ≤ (10 : Rat) ^ k := zpow_le_zpow_right₀ (by norm_num) large

/-- Twenty-eight places are as large as that only where the number is in the upper half of the last place before. -/
theorem tooLarge_le_toPlaces (a : Rat) :
    tooLarge ≤ toPlaces 10 28 (-1000026) a ↔ 17976931348623158079372897145 * 10 ^ 280 < a := by
  rcases lt_trichotomy (Int.log 10 a) 308 with small | last | large
  · have rounded := @toPlaces_le_power 10 28 (-1000026) a (by decide) 308 (by omega) (by decide)
    have less := @lt_power 10 a (by decide) 308 (by omega)
    rw [Nat.cast_ofNat, show (308 : Int) = (308 : Nat) from rfl, zpow_natCast] at rounded less
    have bound : (10 : Rat) ^ 308 < tooLarge := by decide +kernel
    have bound' : (10 : Rat) ^ 308 < 17976931348623158079372897145 * 10 ^ 280 := by decide +kernel
    exact ⟨fun near => absurd (near.trans rounded) (not_le.mpr bound),
      fun above => absurd (above.trans less) (not_lt.mpr bound'.le)⟩
  · have isPlace : lastPlace 10 28 (-1000026) a = 10 ^ 281 := by
      rw [lastPlace, last, Nat.cast_ofNat]
      exact zpow_natCast 10 281
    have positive : (0 : Rat) < 10 ^ 281 := by positivity
    rw [toPlaces, isPlace]
    calc tooLarge ≤ roundHalfEven (a / 10 ^ 281) * 10 ^ 281
      _ ↔ 1797693134862315807937289715 ≤ roundHalfEven (a / 10 ^ 281) := by
        constructor
        · intro large
          by_contra less
          have upper : (roundHalfEven (a / 10 ^ 281) : Rat) ≤ 1797693134862315807937289714 := by
            exact_mod_cast (by omega : roundHalfEven (a / 10 ^ 281) ≤ 1797693134862315807937289714)
          have product := mul_le_mul_of_nonneg_right upper positive.le
          have bound : (1797693134862315807937289714 : Rat) * 10 ^ 281 < tooLarge := by decide +kernel
          exact absurd (large.trans product) (not_le.mpr bound)
        · intro least
          have lower : (1797693134862315807937289715 : Rat) ≤ roundHalfEven (a / 10 ^ 281) := by exact_mod_cast least
          have bound : tooLarge ≤ (1797693134862315807937289715 : Rat) * 10 ^ 281 := by decide +kernel
          exact bound.trans (mul_le_mul_of_nonneg_right lower positive.le)
      _ ↔ ((1797693134862315807937289715 : Int) : Rat) - 1 / 2 < a / 10 ^ 281 := le_roundHalfEven_odd (by decide)
      _ ↔ 17976931348623158079372897145 * 10 ^ 280 < a := by
        have middle : (((1797693134862315807937289715 : Int) : Rat) - 1 / 2) * 10 ^ 281 =
            17976931348623158079372897145 * 10 ^ 280 := by decide +kernel
        rw [lt_div_iff₀ positive, middle]
  · have some : 0 < a := by
      by_contra least
      rw [Int.log_of_right_le_zero _ (not_lt.mp least)] at large
      omega
    have above := @power_le 10 a (by decide) 309 some (by omega)
    rw [Nat.cast_ofNat] at above
    have rounded := (near_iff (by decide : (0 : Int) < 309) a).mpr ((near_le 309).trans above)
    have power : (10 : Rat) ^ (309 : Int) = 10 ^ 309 := zpow_natCast 10 309
    have bound : (17976931348623158079372897145 : Rat) * 10 ^ 280 < 10 ^ 309 := by decide +kernel
    rw [power] at above
    exact ⟨fun _ => bound.trans_le above, fun _ => (tooLarge_le (le_refl 309)).trans rounded⟩

theorem int_or_small {p a : Rat} (places : |p| = toPlaces 10 28 (-1000026) a) :
    (∃ n : Int, p = n) ∨ |p| < tooLarge := by
  rcases le_or_gt 28 (Int.log 10 a + 1) with whole | fraction
  · have isPlace : lastPlace 10 28 (-1000026) a = ((10 ^ (Int.log 10 a + 1 - 28).toNat : Int) : Rat) := by
      rw [lastPlace, max_eq_left (by omega), Nat.cast_ofNat]
      push_cast
      rw [← zpow_natCast]
      congr 1
      omega
    rw [toPlaces, isPlace, ← Int.cast_mul] at places
    rcases abs_choice p with same | opposite
    · exact Or.inl ⟨_, same.symm.trans places⟩
    · have whole := places.symm.trans opposite
      exact Or.inl ⟨_, (neg_eq_iff_eq_neg.mp whole.symm).trans (Int.cast_neg _).symm⟩
  · right
    have rounded := @toPlaces_le_power 10 28 (-1000026) a (by decide) 28 (by omega) (by decide)
    have power : ((10 : Nat) : Rat) ^ (28 : Int) = 10 ^ 28 := zpow_natCast 10 28
    have bound : (10 : Rat) ^ 28 < tooLarge := by decide +kernel
    rw [places]
    exact (rounded.trans_eq power).trans_lt bound

theorem thousand_iff {p a : Rat} (places : |p| = toPlaces 10 28 (-1000026) a) :
    near 1000000 ≤ |p * 1000| ↔ near 999997 ≤ a := by
  have thousand : |p * 1000| = toPlaces 10 28 (-1000026) a * 1000 := by
    rw [abs_mul, places, abs_of_pos (by norm_num : (0 : Rat) < 1000)]
  rw [thousand, show (1000000 : Int) = 999997 + 3 from rfl, near_add_three,
    mul_le_mul_iff_of_pos_right (by norm_num : (0 : Rat) < 1000), ← near_iff (by decide) a]
  constructor
  · intro reached
    have whole :=
      @power_le_of_near 10 28 (-1000026) a (by decide) (by decide) (by decide) 999997 (by decide) (by decide)
    rw [Nat.cast_ofNat] at whole
    exact whole reached
  · exact fun reached => (near_le 999997).trans reached

/-! ### One sample -/

variable {python}

/-- The sample is given, with a string or a finite number. -/
def Gives (sample : Except Raised Sample) : Prop := ∃ s, sample = .ok s ∧ s.value.Valid

/-- A conversion that gives a finite number, or raises what is caught. -/
def Settled : Except Raised (Returned × Json) → Prop
  | .ok (value, _) => value.Valid
  | .error raised => raised.isNamed = true

theorem gives_normalizeSample {value : Given} {unit measurand timestamp context phase : Json} :
    Gives (normalizeSample python value unit measurand timestamp context phase) ↔
      Settled ((numericOf python value).bind (convert unit)) := by
  unfold normalizeSample
  cases (numericOf python value).bind (convert unit) with
  | ok converted =>
    constructor
    · rintro ⟨sample, same, valid⟩
      cases same
      exact valid
    · exact fun valid => ⟨_, rfl, valid⟩
  | error raised =>
    cases named : raised.isNamed with
    | true => exact ⟨fun _ => named, fun _ => ⟨_, if_pos named, trivial⟩⟩
    | false =>
      constructor
      · rintro ⟨sample, same, -⟩
        simp only [named] at same
        cases same
      · intro settled
        rw [Settled, named] at settled
        cases settled

theorem valid_float_iff (q : Rat) : (Returned.float (Double.ofRat q)).Valid ↔ |q| < tooLarge := by
  have bound := Double.ofRat_infinite_iff q
  rw [← not_le, tooLarge, ← bound]
  cases Double.ofRat q with
  | finite x => exact ⟨fun _ ⟨_, isInfinite⟩ => (by cases isInfinite), fun _ => trivial⟩
  | infinite negative => exact ⟨fun valid => valid.elim, fun finite => absurd ⟨negative, rfl⟩ finite⟩

theorem settled_integerIfExact (unit : Json) (numeric : Decimal) :
    Settled (numeric.integerIfExact.map fun value => (value, unit)) ↔
      match numeric with
      | .finite q => (∃ n : Int, q = n) ∨ |q| < tooLarge
      | .infinite _ => False
      | .nan => False
      | .snan => True := by
  cases numeric with
  | finite q =>
    change Settled ((Decimal.finite q).integerIfExact.map fun value => (value, unit)) ↔
      (∃ n : Int, q = n) ∨ |q| < tooLarge
    rw [Decimal.integerIfExact, ← eq_roundHalfEven_iff]
    by_cases whole : q = roundHalfEven q
    · rw [if_pos whole]
      exact ⟨fun _ => Or.inl whole, fun _ => trivial⟩
    · rw [if_neg whole]
      exact (valid_float_iff q).trans ⟨Or.inr, fun either => either.resolve_left whole⟩
  | infinite => exact ⟨fun settled => (by cases settled), fun impossible => impossible.elim⟩
  | nan => exact Iff.rfl
  | snan => exact ⟨fun _ => trivial, fun _ => rfl⟩

theorem settled_thousand (unit : Json) (numeric : Decimal) :
    Settled ((numeric.mul (.finite 1000)).bind fun scaled => scaled.integerIfExact.map fun value => (value, unit)) ↔
      match numeric with
      | .finite q => |q * 1000| < near 1000000
      | .infinite _ => False
      | .nan => False
      | .snan => True := by
  cases numeric with
  | finite q =>
    rw [Decimal.mul]
    rcases inContext_cases (q * 1000) with ⟨large, raised⟩ | ⟨fits, p, isP, places⟩
    · rw [raised]
      exact ⟨fun settled => (by cases settled), fun less => absurd large (not_le.mpr less)⟩
    · rw [isP]
      exact ⟨fun _ => fits, fun _ => (settled_integerIfExact unit (.finite p)).mpr (int_or_small places)⟩
  | infinite negative => exact ⟨fun settled => (by cases settled), fun impossible => impossible.elim⟩
  | nan => exact ⟨fun settled => settled.elim, fun impossible => impossible.elim⟩
  | snan => exact ⟨fun _ => trivial, fun _ => rfl⟩

theorem settled_toFloat (unit : Json) (numeric : Decimal) :
    Settled (numeric.toFloat.map fun value => (value, unit)) ↔
      match numeric with
      | .finite q => |q| < tooLarge
      | .infinite _ => False
      | .nan => False
      | .snan => True := by
  cases numeric with
  | finite q => exact valid_float_iff q
  | infinite => exact Iff.rfl
  | nan => exact Iff.rfl
  | snan => exact ⟨fun _ => trivial, fun _ => rfl⟩

theorem convert_cases (unit : Json) (numeric : Decimal) :
    (isKilo unit = true ∧ ∃ base, convert unit numeric =
        (numeric.mul (.finite 1000)).bind fun scaled => scaled.integerIfExact.map fun value => (value, base)) ∨
      (isKilo unit = false ∧ isBase unit = true ∧
        convert unit numeric = numeric.integerIfExact.map fun value => (value, unit)) ∨
      (isKilo unit = false ∧ isBase unit = false ∧
        convert unit numeric = numeric.toFloat.map fun value => (value, unit)) := by
  have named : ∀ {name : String}, isUnit unit name = true → unit = .string name := by
    intro name same
    unfold isUnit at same
    split at same
    · rw [of_decide_eq_true same]
    · cases same
  unfold convert
  cases kWh : isUnit unit "kWh" with
  | true => exact Or.inl ⟨by rw [isKilo, kWh]; rfl, _, rfl⟩
  | false =>
    cases Wh : isUnit unit "Wh" with
    | true =>
      rw [named Wh]
      exact Or.inr (Or.inl ⟨by decide, by decide, rfl⟩)
    | false =>
      cases kW : isUnit unit "kW" with
      | true => exact Or.inl ⟨by rw [isKilo, kW, Bool.or_true], _, rfl⟩
      | false =>
        have notKilo : isKilo unit = false := by rw [isKilo, kWh, kW]; rfl
        cases W : isUnit unit "W" with
        | true => exact Or.inr (Or.inl ⟨notKilo, by rw [isBase, W, Bool.or_true], rfl⟩)
        | false => exact Or.inr (Or.inr ⟨notKilo, by rw [isBase, Wh, W]; rfl, rfl⟩)

theorem settled_convert (unit : Json) (numeric : Decimal) :
    Settled (convert unit numeric) ↔ Convertible unit numeric := by
  rcases convert_cases unit numeric with ⟨kilo, base, same⟩ | ⟨kilo, base, same⟩ | ⟨kilo, base, same⟩ <;> rw [same]
  · rw [settled_thousand]
    cases numeric <;> simp only [Convertible, if_pos kilo]
  · rw [settled_integerIfExact]
    cases numeric <;> simp only [Convertible, kilo, if_pos base, Bool.false_eq_true, if_false]
  · rw [settled_toFloat]
    cases numeric <;> simp only [Convertible, kilo, base, Bool.false_eq_true, if_false]

theorem settled_json (value unit : Json) : Settled ((numericOf python (.json value)).bind (convert unit)) ↔
    ∀ numeric, Decimal.ofText python (str python value) = some numeric → Convertible unit numeric := by
  unfold numericOf
  simp only
  cases Decimal.ofText python (str python value) with
  | none => exact ⟨fun _ numeric found => (by cases found), fun _ => rfl⟩
  | some numeric =>
    constructor
    · intro settled other found
      cases found
      exact (settled_convert unit numeric).mp settled
    · exact fun convertible => (settled_convert unit numeric).mpr (convertible numeric rfl)

theorem sampleV16_gives (timestamp : Json) (sampled : List (String × Json)) :
    Gives (sampleV16 python timestamp sampled) ↔ SoundV16 python sampled := by
  rw [sampleV16, gives_normalizeSample, settled_json]
  rfl

theorem settled_inContext (unit : Json) {p q : Rat} (places : |p| = toPlaces 10 28 (-1000026) |q|)
    (fits : |q| < near 1000000) : Settled (convert unit (.finite p)) ↔ ScaledConvertible unit q := by
  rw [settled_convert, Convertible, ScaledConvertible]
  split
  · rw [← not_le, ← not_le, thousand_iff places]
  · split
    · exact ⟨fun _ => fits, fun _ => int_or_small places⟩
    · rw [← not_lt, ← tooLarge_le_toPlaces, ← places, not_le]

theorem fits_of_scaledConvertible {unit : Json} {q : Rat} (sound : ScaledConvertible unit q) : |q| < near 1000000 := by
  by_contra large
  have reached := (near_iff (by decide) |q|).mpr (not_lt.mp large)
  unfold ScaledConvertible at sound
  split at sound
  · have lower : (10 : Rat) ^ (999997 : Int) ≤ 10 ^ (1000000 : Int) := zpow_le_zpow_right₀ (by norm_num) (by decide)
    exact absurd ((near_iff (by decide) |q|).mp (lower.trans reached)) (not_le.mpr sound)
  · split at sound
    · exact large sound
    · have above := (tooLarge_le_toPlaces |q|).mp ((tooLarge_le (by decide)).trans reached)
      exact absurd above (not_lt.mpr sound)

section
variable {value unit measurand timestamp context phase : Json} {numeric : Decimal}
  (read : Decimal.ofText python (str python value) = some numeric)
include read

theorem gives_of_error (raised : Raised) :
    Gives (normalizeScaled python value unit measurand timestamp context phase (.error raised)) ↔
      raised.isNamed = true ∧ Convertible unit numeric := by
  unfold normalizeScaled
  simp only
  split
  · rename_i named
    rw [gives_normalizeSample, settled_json]
    constructor
    · exact fun convertible => ⟨named, convertible numeric read⟩
    · rintro ⟨-, convertible⟩ other found
      rw [read] at found
      cases found
      exact convertible
  · rename_i named
    exact ⟨fun ⟨_, same, _⟩ => (by cases same), fun sound => absurd sound.1 named⟩

theorem gives_of_exponent (exponent : Except Raised Int) :
    Gives (normalizeScaled python value unit measurand timestamp context phase
      (exponent.bind fun n => (Decimal.powerOfTen n).bind numeric.mul)) ↔ SoundScale unit exponent numeric := by
  have given : ∀ d : Decimal, Gives (normalizeScaled python value unit measurand timestamp context phase (.ok d)) ↔
      Settled (convert unit d) := fun d => gives_normalizeSample
  cases exponent with
  | error raised =>
    refine (gives_of_error read raised).trans ?_
    cases numeric <;> simp [SoundScale, Convertible]
  | ok n =>
    change Gives (normalizeScaled python value unit measurand timestamp context phase
      ((Decimal.powerOfTen n).bind numeric.mul)) ↔ _
    unfold Decimal.powerOfTen
    split
    · rename_i large
      refine (gives_of_error read .overflow).trans ⟨fun sound => (by cases sound.1), fun sound => ?_⟩
      cases numeric with
      | finite q => exact absurd sound.1 (not_le.mpr large)
      | snan => exact absurd sound (not_le.mpr large)
      | _ => exact sound.elim
    · rename_i small
      have least : n ≤ 999999 := not_lt.mp small
      change Gives (normalizeScaled python value unit measurand timestamp context phase
        (numeric.mul (.finite (Decimal.tenTo n)))) ↔ _
      cases numeric with
      | finite q =>
        rw [Decimal.mul, SoundScale]
        rcases inContext_cases (q * Decimal.tenTo n) with ⟨large, raised⟩ | ⟨fits, p, isP, places⟩
        · rw [raised]
          refine (gives_of_error read .overflow).trans ⟨fun sound => (by cases sound.1), fun sound => ?_⟩
          exact absurd (fits_of_scaledConvertible sound.2) (not_lt.mpr large)
        · rw [isP, given, settled_inContext unit places fits]
          exact ⟨fun sound => ⟨least, sound⟩, fun sound => sound.2⟩
      | infinite negative =>
        rw [Decimal.mul, SoundScale]
        split
        · exact (gives_of_error read .invalidOperation).trans ⟨fun sound => sound.2, fun sound => sound.elim⟩
        · rw [given, settled_convert]
          exact Iff.rfl
      | nan => exact (given .nan).trans (settled_convert unit .nan)
      | snan =>
        exact (gives_of_error read .invalidOperation).trans ⟨fun _ => least, fun _ => ⟨rfl, trivial⟩⟩

end

theorem sampleV201_gives (timestamp : Json) (sampled : List (String × Json)) :
    Gives (sampleV201 python timestamp sampled) ↔ SoundV201 python sampled := by
  have raises : ∀ raised : Raised, ¬ Gives (.error raised) := by
    rintro raised ⟨sample, same, -⟩
    cases same
  unfold sampleV201 SoundV201
  cases orElse (get sampled "unit_of_measure") (.object []) with
  | object unitMeasure =>
    simp only [Json.object.injEq, exists_eq_left']
    unfold scaledBy numericOf
    simp only
    cases read : Decimal.ofText python (str python (get sampled "value")) with
    | none =>
      rw [Except.bind, normalizeScaled]
      simp only [Raised.isNamed, if_true]
      rw [gives_normalizeSample, settled_json, read]
      exact ⟨fun _ numeric found => (by cases found), fun _ numeric found => (by cases found)⟩
    | some numeric =>
      refine (gives_of_exponent read _).trans ⟨fun sound other found => ?_, fun sound => sound numeric rfl⟩
      cases found
      exact sound
  | _ => exact ⟨fun gives => absurd gives (raises _), fun ⟨_, same, _⟩ => (by cases same)⟩

/-! ### Every list -/

theorem appendAll_iff {α β : Type} {P : β → Prop} {step : α → Except Raised (List β)} (items : List α) :
    (∃ made, appendAll step items = .ok made ∧ ∀ x ∈ made, P x) ↔
      ∀ item ∈ items, ∃ made, step item = .ok made ∧ ∀ x ∈ made, P x := by
  induction items with
  | nil => exact ⟨fun _ item member => (by cases member), fun _ => ⟨[], rfl, fun x member => (by cases member)⟩⟩
  | cons item rest ih =>
    rw [List.forall_mem_cons, ← ih, appendAll]
    cases step item with
    | error raised => exact ⟨fun ⟨_, same, _⟩ => (by cases same), fun ⟨⟨_, same, _⟩, _⟩ => (by cases same)⟩
    | ok first =>
      change (∃ made, (appendAll step rest).map (first ++ ·) = .ok made ∧ ∀ x ∈ made, P x) ↔ _
      cases appendAll step rest with
      | error raised => exact ⟨fun ⟨_, same, _⟩ => (by cases same), fun ⟨_, _, same, _⟩ => (by cases same)⟩
      | ok later =>
        constructor
        · rintro ⟨made, same, all⟩
          cases same
          exact ⟨⟨first, rfl, fun x member => all x (List.mem_append_left _ member)⟩,
            ⟨later, rfl, fun x member => all x (List.mem_append_right _ member)⟩⟩
        · rintro ⟨⟨_, same, all⟩, ⟨_, same', all'⟩⟩
          cases same
          cases same'
          exact ⟨_, rfl, fun x member => (List.mem_append.mp member).elim (all x) (all' x)⟩

theorem forDict_iff {β : Type} {P : β → Prop} {step : List (String × Json) → Except Raised (List β)} (json : Json) :
    (∃ made, forDict step json = .ok made ∧ ∀ x ∈ made, P x) ↔
      ∀ members, json = .object members → ∃ made, step members = .ok made ∧ ∀ x ∈ made, P x := by
  cases json with
  | object members => exact ⟨fun made _ same => (by cases same; exact made), fun all => all members rfl⟩
  | _ => exact ⟨fun _ _ same => (by cases same), fun _ => ⟨[], rfl, fun x member => (by cases member)⟩⟩

theorem gives_single (sample : Except Raised Sample) :
    (∃ made, sample.map ([·]) = .ok made ∧ ∀ s ∈ made, s.value.Valid) ↔ Gives sample := by
  cases sample with
  | error raised => exact ⟨fun ⟨_, same, _⟩ => (by cases same), fun ⟨_, same, _⟩ => (by cases same)⟩
  | ok s =>
    constructor
    · rintro ⟨made, same, all⟩
      cases same
      exact ⟨s, rfl, all s List.mem_cons_self⟩
    · rintro ⟨_, same, valid⟩
      cases same
      exact ⟨[s], rfl, fun x member => by rwa [List.mem_singleton.mp member]⟩

theorem normalizeMeterValues_iff {sample : Json → List (String × Json) → Except Raised Sample}
    {sound : List (String × Json) → Prop}
    (gives : ∀ timestamp sampled, Gives (sample timestamp sampled) ↔ sound sampled)
    (values : List Json) :
    (∃ samples, normalizeMeterValues sample values = .ok samples ∧ ∀ s ∈ samples, s.value.Valid) ↔
      ∀ value ∈ values, SoundMeterValue sound value := by
  refine (appendAll_iff values).trans (forall₂_congr fun value _ => (forDict_iff value).trans ?_)
  cases value with
  | object meterValue =>
    have inner : ∀ items : List Json, (∃ made, appendAll (forDict fun sampled =>
        (sample (get meterValue "timestamp") sampled).map ([·])) items = .ok made ∧ ∀ s ∈ made, s.value.Valid) ↔
        ∀ sampled, .object sampled ∈ items → sound sampled := by
      intro items
      refine (appendAll_iff items).trans ⟨fun all sampled member => ?_, fun all item member => ?_⟩
      · exact (gives _ _).mp ((gives_single _).mp ((forDict_iff _).mp (all _ member) sampled rfl))
      · refine (forDict_iff item).mpr fun sampled same => (gives_single _).mpr ((gives _ _).mpr (all sampled ?_))
        rwa [← same]
    simp only [Json.object.injEq, forall_eq', SoundMeterValue]
    cases iterate ((member? meterValue "sampled_value").getD (.list [])) with
    | error raised => exact ⟨fun ⟨_, same, _⟩ => (by cases same), fun ⟨_, same, _⟩ => (by cases same)⟩
    | ok items =>
      refine (inner items).trans ⟨fun all => ⟨items, rfl, all⟩, fun ⟨_, same, all⟩ => ?_⟩
      cases same
      exact all
  | _ => exact ⟨fun _ => trivial, fun _ _ same => (by cases same)⟩

/-- ASCII only. -/
def asciiPython : Python where
  isSpace := fun c => decide (c = ' ')
  isIntSpace := fun c => decide (c = ' ')
  decimalDigit := fun c => if c.isDigit then some (c.toNat - '0'.toNat) else none
  floatText := fun _ => "0.0"
  repr := fun _ => "[]"
  decimalText := fun _ => "NaN"

def readingOf (value : String) : List Json :=
  [.object [("timestamp", .string "2026-07-22T01:00:00Z"),
    ("sampled_value", .list [.object [("value", .string value), ("unit", .string "Wh")]])]]

end VtsaCsms.Gateway.Normalization
