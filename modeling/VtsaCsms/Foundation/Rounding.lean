import Mathlib.Data.Int.Log
import Mathlib.Data.Rat.Floor
import Mathlib.Tactic.Linarith

/-!
# Rounding to a number of places

Numbers of `precision` digits in a base, the last of them no lower than a lowest place; to the nearest, of two the even
one. What rounds up to a power of the base is what is at most half a last place below it.
-/
namespace VtsaCsms.Foundation

/-- The nearest integer; of two, the even one. -/
def roundHalfEven (x : Rat) : Int :=
  let below := ⌊x⌋
  if x - below > 1 / 2 ∨ x - below = 1 / 2 ∧ below % 2 = 1 then below + 1 else below

theorem le_roundHalfEven {n : Int} {x : Rat} (even : n % 2 = 0) : n ≤ roundHalfEven x ↔ n - 1 / 2 ≤ x := by
  have below := Int.floor_le x
  have above := Int.lt_floor_add_one x
  unfold roundHalfEven
  simp only
  split
  · rename_i up
    have half : 1 / 2 ≤ x - ⌊x⌋ := up.elim le_of_lt fun tie => le_of_eq tie.1.symm
    constructor
    · intro least
      have : (n : Rat) ≤ ⌊x⌋ + 1 := by exact_mod_cast least
      linarith
    · intro near
      by_contra less
      have : (⌊x⌋ : Rat) + 2 ≤ n := by exact_mod_cast (by omega : ⌊x⌋ + 2 ≤ n)
      linarith
  · rename_i down
    rw [not_or, not_lt] at down
    constructor
    · intro least
      have : (n : Rat) ≤ ⌊x⌋ := by exact_mod_cast least
      linarith
    · intro near
      by_contra less
      have next : (⌊x⌋ : Rat) + 1 ≤ n := by exact_mod_cast (by omega : ⌊x⌋ + 1 ≤ n)
      have tie : x - ⌊x⌋ = 1 / 2 := by linarith
      have same : (n : Rat) = ⌊x⌋ + 1 := by linarith
      have : n = ⌊x⌋ + 1 := by exact_mod_cast same
      exact down.2 ⟨tie, by omega⟩

theorem le_roundHalfEven_odd {n : Int} {x : Rat} (odd : n % 2 = 1) : n ≤ roundHalfEven x ↔ n - 1 / 2 < x := by
  have below := Int.floor_le x
  have above := Int.lt_floor_add_one x
  unfold roundHalfEven
  simp only
  split
  · rename_i up
    constructor
    · intro least
      rcases up with half | ⟨tie, isOdd⟩
      · have : (n : Rat) ≤ ⌊x⌋ + 1 := by exact_mod_cast least
        linarith
      · have : (n : Rat) ≤ ⌊x⌋ := by exact_mod_cast (by omega : n ≤ ⌊x⌋)
        linarith
    · intro near
      by_contra less
      have : (⌊x⌋ : Rat) + 2 ≤ n := by exact_mod_cast (by omega : ⌊x⌋ + 2 ≤ n)
      linarith
  · rename_i down
    rw [not_or, not_lt] at down
    constructor
    · intro least
      have : (n : Rat) ≤ ⌊x⌋ := by exact_mod_cast least
      linarith
    · intro near
      by_contra less
      have next : (⌊x⌋ : Rat) + 1 ≤ n := by exact_mod_cast (by omega : ⌊x⌋ + 1 ≤ n)
      linarith [down.1]

theorem roundHalfEven_le {n : Int} {x : Rat} (least : x ≤ n) : roundHalfEven x ≤ n := by
  have below := Int.floor_le x
  unfold roundHalfEven
  simp only
  split
  · rename_i up
    have half : 1 / 2 ≤ x - ⌊x⌋ := up.elim le_of_lt fun tie => le_of_eq tie.1.symm
    have : (⌊x⌋ : Rat) < n := by linarith
    have : ⌊x⌋ < n := by exact_mod_cast this
    omega
  · have : (⌊x⌋ : Rat) ≤ n := by linarith
    exact_mod_cast this

/-! ### Places -/

section
variable (base precision : Nat) (lowest : Int)

/-- The value of the last place of a number of that magnitude. -/
def lastPlace (magnitude : Rat) : Rat := base ^ max (Int.log base magnitude + 1 - precision) lowest

def toPlaces (magnitude : Rat) : Rat :=
  roundHalfEven (magnitude / lastPlace base precision lowest magnitude) * lastPlace base precision lowest magnitude

end

variable {base precision : Nat} {lowest : Int} {a : Rat}

section
variable (big : 1 < base)
include big

theorem lastPlace_pos (precision : Nat) (lowest : Int) (a : Rat) : 0 < lastPlace base precision lowest a :=
  zpow_pos (by exact_mod_cast (by omega : 0 < base)) _

/-- Down from a power that is not below the last place, by how many places. -/
theorem power_places (a : Rat) {k : Int} (places : max (Int.log base a + 1 - precision) lowest ≤ k) :
    ∃ n : Nat, k = max (Int.log base a + 1 - precision) lowest + n ∧
      (base : Rat) ^ k = ((base ^ n : Int) : Rat) * lastPlace base precision lowest a := by
  have some : (base : Rat) ≠ 0 := by exact_mod_cast (by omega : base ≠ 0)
  refine ⟨(k - max (Int.log base a + 1 - precision) lowest).toNat, by omega, ?_⟩
  rw [lastPlace]
  push_cast
  rw [← zpow_natCast, ← zpow_add₀ some]
  congr 1
  omega

theorem toPlaces_nonneg (nonneg : 0 ≤ a) : 0 ≤ toPlaces base precision lowest a := by
  have place := lastPlace_pos big precision lowest a
  have least : 0 ≤ roundHalfEven (a / lastPlace base precision lowest a) := by
    rw [le_roundHalfEven (by decide)]
    have := div_nonneg nonneg place.le
    push_cast
    linarith
  exact mul_nonneg (by exact_mod_cast least) place.le

theorem lt_power {k : Int} (below : Int.log base a + 1 ≤ k) : a < (base : Rat) ^ k :=
  lt_of_lt_of_le (Int.lt_zpow_succ_log_self big a) (zpow_le_zpow_right₀ (by exact_mod_cast big.le) below)

theorem power_le {k : Int} (positive : 0 < a) (above : k ≤ Int.log base a) : (base : Rat) ^ k ≤ a :=
  le_trans (zpow_le_zpow_right₀ (by exact_mod_cast big.le) above) (Int.zpow_log_le_self big positive)

theorem toPlaces_le_power {k : Int} (below : Int.log base a + 1 ≤ k) (low : lowest ≤ k) :
    toPlaces base precision lowest a ≤ (base : Rat) ^ k := by
  have place := lastPlace_pos big precision lowest a
  obtain ⟨n, -, power⟩ := power_places big a (by omega : max (Int.log base a + 1 - precision) lowest ≤ k)
  rw [power, toPlaces]
  refine mul_le_mul_of_nonneg_right (Int.cast_le.mpr (roundHalfEven_le ?_)) place.le
  rw [div_le_iff₀ place, ← power]
  exact (lt_power big below).le

end

theorem even_pow (even : base % 2 = 0) {n : Nat} (positive : 0 < n) : (base ^ n : Int) % 2 = 0 := by
  have divides : (2 : Int) ∣ base := by exact_mod_cast Nat.dvd_of_mod_eq_zero even
  exact Int.emod_eq_zero_of_dvd (dvd_pow divides (by omega))

theorem two_mul_power_le (big : 1 < base) (k : Int) : 2 * (base : Rat) ^ (k - 1) ≤ (base : Rat) ^ k := by
  have two : (2 : Rat) ≤ base := by exact_mod_cast (by omega : 2 ≤ base)
  have split : (base : Rat) ^ k = base * (base : Rat) ^ (k - 1) := by
    rw [← zpow_one_add₀ (by linarith : (base : Rat) ≠ 0)]
    congr 1
    omega
  rw [split]
  exact mul_le_mul_of_nonneg_right two (zpow_nonneg (by linarith) _)

theorem power_le_toPlaces (big : 1 < base) (even : base % 2 = 0) (several : 1 < precision) {k : Int} (positive : 0 < k)
    (low : lowest ≤ k - precision) :
    (base : Rat) ^ k ≤ toPlaces base precision lowest a ↔
      (base : Rat) ^ k - (base : Rat) ^ (k - precision) / 2 ≤ a := by
  have place := lastPlace_pos big precision lowest a
  have two : (2 : Rat) ≤ base := by exact_mod_cast (by omega : 2 ≤ base)
  have one : (1 : Rat) ≤ base := by linarith
  rcases le_or_gt (Int.log base a + 1) k with below | above
  · obtain ⟨n, isN, power⟩ := power_places big a (by omega : max (Int.log base a + 1 - precision) lowest ≤ k)
    have reached : (base : Rat) ^ k ≤ toPlaces base precision lowest a ↔
        (base : Rat) ^ k - lastPlace base precision lowest a / 2 ≤ a := by
      rw [power, toPlaces, mul_le_mul_iff_of_pos_right place, Int.cast_le, le_roundHalfEven (even_pow even (by omega)),
        le_div_iff₀ place]
      constructor <;> intro near <;> linarith
    rw [reached]
    rcases eq_or_lt_of_le below with last | smaller
    · have isPlace : lastPlace base precision lowest a = (base : Rat) ^ (k - precision) := by
        rw [lastPlace, last, max_eq_left low]
      rw [isPlace]
    · -- a whole place of the base is left, and neither side holds
      have less : a < (base : Rat) ^ (k - 1) := lt_power big (by omega)
      have next := two_mul_power_le big k
      have placeSmall : lastPlace base precision lowest a ≤ (base : Rat) ^ (k - 1) :=
        zpow_le_zpow_right₀ one (by omega)
      have lastSmall : (base : Rat) ^ (k - precision) ≤ (base : Rat) ^ (k - 1) := zpow_le_zpow_right₀ one (by omega)
      constructor <;> intro near <;> linarith
  · have some : 0 < a := by
      by_contra least
      rw [Int.log_of_right_le_zero _ (not_lt.mp least)] at above
      omega
    obtain ⟨n, isN, power⟩ :=
      power_places big a (by omega : max (Int.log base a + 1 - precision) lowest ≤ Int.log base a)
    have whole := power_le big some (le_refl (Int.log base a))
    have rounded : (base ^ n : Int) ≤ roundHalfEven (a / lastPlace base precision lowest a) := by
      have quotient : ((base ^ n : Int) : Rat) ≤ a / lastPlace base precision lowest a := by
        rw [le_div_iff₀ place, ← power]
        exact whole
      rw [le_roundHalfEven (even_pow even (by omega))]
      linarith
    have reached : (base : Rat) ^ k ≤ toPlaces base precision lowest a :=
      calc (base : Rat) ^ k
        _ ≤ (base : Rat) ^ Int.log base a := zpow_le_zpow_right₀ one (by omega)
        _ = ((base ^ n : Int) : Rat) * lastPlace base precision lowest a := power
        _ ≤ toPlaces base precision lowest a := mul_le_mul_of_nonneg_right (Int.cast_le.mpr rounded) place.le
    have half : 0 ≤ (base : Rat) ^ (k - precision) := zpow_nonneg (by linarith) _
    exact ⟨fun _ => by linarith [power_le big some (by omega : k ≤ Int.log base a)], fun _ => reached⟩

theorem power_le_of_near (big : 1 < base) (even : base % 2 = 0) (several : 1 < precision) {k : Int} (positive : 0 < k)
    (low : lowest ≤ k - precision)
    (near : (base : Rat) ^ k - (base : Rat) ^ (k - precision) / 2 ≤ toPlaces base precision lowest a) :
    (base : Rat) ^ k ≤ toPlaces base precision lowest a := by
  by_contra less
  have place := lastPlace_pos big precision lowest a
  have one : (1 : Rat) ≤ base := by exact_mod_cast big.le
  have half : 0 < (base : Rat) ^ (k - precision) := zpow_pos (by linarith) _
  have below : Int.log base a + 1 ≤ k := by
    by_contra above
    have some : 0 < a := by
      by_contra least
      rw [Int.log_of_right_le_zero _ (not_lt.mp least)] at above
      omega
    rw [power_le_toPlaces big even several positive low] at less
    linarith [power_le big some (by omega : k ≤ Int.log base a)]
  rcases eq_or_lt_of_le below with last | smaller
  · have isPlace : lastPlace base precision lowest a = (base : Rat) ^ (k - precision) := by
      rw [lastPlace, last, max_eq_left low]
    obtain ⟨n, -, power⟩ := power_places big a (by omega : max (Int.log base a + 1 - precision) lowest ≤ k)
    rw [toPlaces, isPlace] at near less
    rw [isPlace] at power place
    rw [power, mul_le_mul_iff_of_pos_right place, Int.cast_le, not_le] at less
    have whole : (roundHalfEven (a / (base : Rat) ^ (k - precision)) : Rat) ≤ ((base ^ n : Int) : Rat) - 1 := by
      exact_mod_cast (by omega : roundHalfEven (a / (base : Rat) ^ (k - precision)) ≤ base ^ n - 1)
    have product := mul_le_mul_of_nonneg_right whole half.le
    linarith
  · have upper := @toPlaces_le_power base precision lowest a big (k - 1) (by omega) (by omega)
    have next := two_mul_power_le big k
    have lastSmall : (base : Rat) ^ (k - precision) ≤ (base : Rat) ^ (k - 1) := zpow_le_zpow_right₀ one (by omega)
    linarith

end VtsaCsms.Foundation
